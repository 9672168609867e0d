-- Properties of characters with several values: the versions of Unicode in which code points
-- became characters, and what characters do at the boundaries of characters, words and
-- sentences, after Unicode 16.
import EntityStore.Unicode.Binary
import EntityStore.Unicode.CodeSet
import EntityStore.Unicode.Script

namespace EntityStore.Unicode

/-- The version of each code point. What is no character has no version. -/
def ages : Partition := .ofRuns [
  "1f6V1_1 4V3_0 1eV1_1 8V3_0 1V3_2 1V4_0 12V3_0 3V4_0 bV4_1 eV5_0 59V1_1 5V3_0 2V4_0 2fV1_1",
  "1V3_0 aV1_1 5V3_0 11V4_0 46V1_1 9V3_0 1V3_2 8V4_0 5V4_1 3V4_0 2V1_1 1V3_0 dV3_2 4V5_1",
  "2V1_1 2V5_1 2NA 1V1_1 3V5_0 1V1_1 1V7_0 4NA 7V1_1 1NA 1V1_1 1NA 14V1_1 1NA 2cV1_1 1V5_1",
  "7V1_1 1V3_0 2V3_2 1V1_1 1V3_0 1V1_1 1V3_0 1V1_1 1V3_0 1V1_1 1V3_0 12V1_1 2V3_1 1V3_2 5V4_0",
  "4V4_1 1V3_0 cV1_1 1V3_0 42V1_1 1V3_0 cV1_1 1V3_0 29V1_1 1V5_1 2V3_0 2V3_2 4V3_0 35V1_1",
  "2V3_2 2V1_1 2V3_2 2V1_1 2V3_2 1V5_0 1cV1_1 2V3_0 8V1_1 2V4_1 2V1_1 6V5_0 10V3_2 4V5_0",
  "10V5_1 2V5_2 2V6_0 8V7_0 1NA 26V1_1 2NA 7V1_1 1V11_0 27V1_1 1V11_0 1V1_1 1V3_0 2NA 2V7_0",
  "1V6_1 1NA 11V2_0 1V4_1 dV2_0 aV1_1 1V5_0 9V1_1 1V2_0 3V4_1 8NA 1bV1_1 4NA 1V11_0 5V1_1 bNA",
  "4V4_0 1V6_1 1V7_0 5V5_1 1V4_1 1V1_1 9V4_0 5V5_1 1V1_1 1V6_3 1V14_0 1V4_1 1V1_1 1V6_0",
  "1aV1_1 5V5_1 13V1_1 3V3_0 3V4_0 6V4_1 1V6_0 eV1_1 2V3_2 48V1_1 2V3_0 5V1_1 1V3_0 fV1_1",
  "1V3_0 1eV1_1 2V4_0 aV1_1 5V3_0 1V4_0 eV3_0 1NA 1eV3_0 3V4_0 1bV3_0 2NA 3V4_0 1eV4_1 12V5_1",
  "31V3_0 1V3_2 eNA 3bV5_0 2NA 3V11_0 2eV5_2 2NA fV5_2 1NA 1cV6_0 2NA 1V6_0 1NA bV10_0 5NA",
  "1fV14_0 1NA 2V14_0 5NA 1V16_0 8V14_0 1V6_1 1V7_0 bV6_1 6V7_0 2V8_0 1V14_0 8V9_0 aV13_0",
  "bV14_0 1V11_0 fV9_0 1V8_0 1bV6_1 1V7_0 1V5_2 3V1_1 1V4_0 35V1_1 2V6_0 12V1_1 1V5_2 1V6_0",
  "5V1_1 1V5_2 2V6_0 19V1_1 2V5_1 5V6_0 1V7_0 2V5_2 2V5_0 1V4_1 2V5_0 1V7_0 3V1_1 1NA 8V1_1",
  "2NA 2V1_1 2NA 16V1_1 1NA 7V1_1 1NA 1V1_1 3NA 4V1_1 2NA 1V1_1 1V4_0 7V1_1 2NA 2V1_1 2NA",
  "3V1_1 1V4_1 8NA 1V1_1 4NA 2V1_1 1NA 5V1_1 2NA 15V1_1 1V5_2 2V10_0 1V11_0 2NA 1V4_0 1V1_1",
  "1V4_0 1NA 6V1_1 4NA 2V1_1 2NA 16V1_1 1NA 7V1_1 1NA 2V1_1 1NA 2V1_1 1NA 2V1_1 2NA 1V1_1 1NA",
  "5V1_1 4NA 2V1_1 2NA 3V1_1 3NA 1V5_1 7NA 4V1_1 1NA 1V1_1 7NA fV1_1 1V5_1 1V11_0 aNA 3V1_1",
  "1NA 7V1_1 1V4_0 1V1_1 1NA 3V1_1 1NA 16V1_1 1NA 7V1_1 1NA 2V1_1 1NA 5V1_1 2NA aV1_1 1NA",
  "3V1_1 1NA 3V1_1 2NA 1V1_1 fNA 1V1_1 3V4_0 2NA aV1_1 1V6_1 1V4_0 7NA 1V8_0 6V10_0 1NA 3V1_1",
  "1NA 8V1_1 2NA 2V1_1 2NA 16V1_1 1NA 7V1_1 1NA 2V1_1 1NA 1V4_0 4V1_1 2NA 8V1_1 1V5_1 2NA",
  "2V1_1 2NA 3V1_1 7NA 1V13_0 2V1_1 4NA 2V1_1 1NA 3V1_1 2V5_1 2NA bV1_1 1V4_0 6V6_0 aNA 2V1_1",
  "1NA 6V1_1 3NA 3V1_1 1NA 4V1_1 3NA 2V1_1 1NA 1V1_1 1NA 2V1_1 3NA 2V1_1 3NA 3V1_1 3NA 8V1_1",
  "1V4_1 3V1_1 4NA 5V1_1 3NA 3V1_1 1NA 4V1_1 2NA 1V5_1 6NA 1V1_1 eNA 1V4_1 cV1_1 8V4_0 5NA",
  "1V7_0 3V1_1 1V11_0 8V1_1 1NA 3V1_1 1NA 17V1_1 1NA aV1_1 1V7_0 5V1_1 2NA 1V14_0 1V5_1 7V1_1",
  "1NA 3V1_1 1NA 4V1_1 7NA 2V1_1 1NA 2V5_1 1V8_0 2NA 1V14_0 2NA 2V1_1 2V5_1 2NA aV1_1 7NA",
  "1V12_0 8V5_1 1V9_0 1V7_0 2V1_1 1V11_0 8V1_1 1NA 3V1_1 1NA 17V1_1 1NA aV1_1 1NA 5V1_1 2NA",
  "2V4_0 7V1_1 1NA 3V1_1 1NA 4V1_1 7NA 2V1_1 6NA 1V14_0 1V1_1 1NA 2V1_1 2V5_0 2NA aV1_1 1NA",
  "2V5_0 1V15_0 cNA 1V10_0 1V7_0 2V1_1 1V13_0 8V1_1 1NA 3V1_1 1NA 17V1_1 1V6_0 10V1_1 1V6_0",
  "2V10_0 1V5_1 6V1_1 1V5_1 1NA 3V1_1 1NA 4V1_1 1V6_0 1V9_0 4NA 3V9_0 1V1_1 7V9_0 1V8_0 2V1_1",
  "2V5_1 2NA aV1_1 6V5_1 3V9_0 7V5_1 1NA 1V13_0 2V3_0 1NA 12V3_0 3NA 18V3_0 1NA 9V3_0 1NA",
  "1V3_0 2NA 7V3_0 3NA 1V3_0 4NA 6V3_0 1NA 1V3_0 1NA 8V3_0 6NA aV7_0 2NA 3V3_0 cNA 3aV1_1 4NA",
  "1dV1_1 25NA 2V1_1 1NA 1V1_1 1NA 1V12_0 2V1_1 1V12_0 1V1_1 1NA 1V12_0 1V1_1 6V12_0 4V1_1",
  "1V12_0 7V1_1 1V12_0 3V1_1 1NA 1V1_1 1NA 1V1_1 2V12_0 2V1_1 1V12_0 dV1_1 1V12_0 3V1_1 2NA",
  "5V1_1 1NA 1V1_1 1NA 6V1_1 1V15_0 1NA aV1_1 2NA 2V1_1 2V6_1 20NA 48V2_0 1NA 21V2_0 1V3_0",
  "2V5_1 4NA 1bV2_0 4V6_0 6V2_0 1V3_0 1V2_0 1NA 15V2_0 3V3_0 7V2_0 1V3_0 1V2_0 3V3_0 1NA",
  "fV3_0 1NA 1V5_1 1V3_0 2V4_1 3V5_1 4V5_2 2V6_0 25NA 22V3_0 1V5_1 5V3_0 1V5_1 2V3_0 1V5_1",
  "7V3_0 3V5_1 4V3_0 6V5_1 1aV3_0 40V5_1 4V5_2 2V5_1 26V1_1 1NA 1V6_1 5NA 1V6_1 2NA 27V1_1",
  "2V3_2 2V4_1 1V1_1 1V4_1 3V6_1 5aV1_1 5V5_2 44V1_1 5V5_2 52V1_1 6V5_2 7V3_0 1V4_1 3fV3_0",
  "1V4_1 1V3_0 1NA 4V3_0 2NA 7V3_0 1NA 1V3_0 1NA 4V3_0 2NA 27V3_0 1V4_1 1V3_0 1NA 4V3_0 2NA",
  "1fV3_0 1V4_1 1V3_0 1NA 4V3_0 2NA 7V3_0 1NA 1V3_0 1NA 4V3_0 2NA 7V3_0 1V4_1 7V3_0 1NA",
  "17V3_0 1V4_1 1fV3_0 1V4_1 1V3_0 1NA 4V3_0 2NA 7V3_0 1V4_1 27V3_0 1V4_1 13V3_0 2NA 2V6_0",
  "2V4_1 1cV3_0 3NA 1aV4_1 6NA 55V3_0 1V8_0 2NA 6V8_0 2NA 1V5_2 276V3_0 9V5_2 1dV3_0 3NA",
  "51V3_0 8V7_0 7NA dV3_2 1V14_0 7V3_2 1V14_0 9NA 1V14_0 17V3_2 9NA 14V3_2 cNA dV3_2 1NA",
  "3V3_2 1NA 2V3_2 cNA 5dV3_0 1V4_0 2NA aV3_0 6NA aV4_0 6NA fV3_0 1V14_0 aV3_0 6NA 58V3_0",
  "1V11_0 7NA 2aV3_0 1V5_1 5NA 46V5_2 aNA 1dV4_0 2V7_0 1NA cV4_0 4NA cV4_0 4NA 1V4_0 3NA",
  "2aV4_0 2NA 5V4_0 bNA 2aV4_1 2V5_2 4NA 1aV4_1 6NA aV4_1 1V5_2 3NA 2V4_1 20V4_0 1cV4_1 2NA",
  "2V4_1 3fV5_2 1NA 1dV5_2 2NA bV5_2 6NA aV5_2 6NA eV5_2 2NA fV7_0 2V13_0 eV14_0 31NA 4cV5_0",
  "1V14_0 1NA 2V16_0 2dV5_0 2V14_0 1V16_0 2bV5_1 3V6_1 cV5_1 6V6_1 34V6_0 8NA 4V6_0 38V5_1",
  "3NA fV5_1 3NA 33V5_1 9V9_0 2V16_0 5NA 2bV11_0 2NA 3V11_0 8V6_1 8NA 23V5_2 4V6_1 1V10_0",
  "2V7_0 1V12_0 5NA 6cV4_0 58V4_1 7V5_0 1cV5_1 fV7_0 4V10_0 1V14_0 1V9_0 1V6_0 1V5_2 2V5_0",
  "9bV1_1 1V2_0 4V5_1 5aV1_1 6V5_1 16V1_1 2NA 6V1_1 2NA 26V1_1 2NA 6V1_1 2NA 8V1_1 1NA 1V1_1",
  "1NA 1V1_1 1NA 1V1_1 1NA 1fV1_1 2NA 35V1_1 1NA fV1_1 1NA eV1_1 2NA 6V1_1 1NA 13V1_1 2NA",
  "3V1_1 1NA 9V1_1 1NA 2fV1_1 1V3_0 17V1_1 1V3_2 6V3_0 5V3_2 2V4_0 2V4_1 1V3_2 7V4_1 5V3_2",
  "1V5_1 1NA 4V6_3 7V1_1 1V3_2 2NA 1bV1_1 1NA 5V4_1 8V6_0 3NA bV1_1 1V2_0 1V2_1 3V3_0 2V3_2",
  "4V4_1 3V5_2 1V6_0 1V6_2 3V7_0 1V8_0 1V10_0 1V14_0 fNA 12V1_1 2V3_0 7V3_2 1V4_1 4V5_0 1V5_1",
  "fNA 39V1_1 2V3_0 1V4_0 1V4_1 fV3_2 1V4_1 2V5_0 1V5_1 3V5_2 30V1_1 1V3_0 1V5_0 4V5_1 1V5_2",
  "2V8_0 4NA 5bV1_1 9V3_0 cV3_2 f2V1_1 eV3_2 1V1_1 1V3_0 79V1_1 1V3_0 1V3_2 1eV3_0 34V3_2",
  "2V4_0 bV4_1 cV5_0 1V5_2 bV6_0 7V7_0 4V9_0 1V10_0 25V1_1 2V3_0 3V16_0 16NA bV1_1 15NA",
  "8bV1_1 14V3_2 1V4_0 96V1_1 aV3_2 50V1_1 8V3_0 8V3_2 14V1_1 2V4_0 2V3_2 1V4_1 1V3_0 56V1_1",
  "2V3_0 cV3_2 2V4_1 aV3_2 8V4_0 bV4_1 1V5_1 2V5_2 2V4_0 10V4_1 1V5_0 aV5_1 3V5_2 4V5_1 aV5_2",
  "1V6_0 13V5_2 1V6_0 1V5_2 4V6_0 18V5_2 1V7_0 4V1_1 1V6_0 4V1_1 2V6_0 1cV1_1 1V6_0 23V1_1",
  "1V6_0 1V1_1 1V6_0 4V1_1 3V6_0 1V1_1 1V5_2 7V1_1 2V6_0 7V1_1 eV3_2 1fV1_1 3V6_0 18V1_1",
  "1V6_0 eV1_1 1V6_0 7V4_1 4V5_0 1V6_1 1V5_1 1V6_1 2V6_0 1cV3_2 4V5_1 10V3_2 100V3_0 200V3_2",
  "eV4_0 6V4_1 7V5_0 5V5_1 4V5_0 29V5_1 3V7_0 5V5_1 5V5_2 1aV7_0 2NA 20V7_0 1NA 1V13_0 22V7_0",
  "3V11_0 cV7_0 1V12_0 8V7_0 1V10_0 19V11_0 4V8_0 fV11_0 1V12_0 2fV4_1 1V14_0 2fV4_1 1V14_0",
  "dV5_0 3V5_1 1V5_2 3V5_1 4V5_0 6V5_1 2V5_2 6bV4_1 7V5_2 2V6_1 5NA 2dV4_1 1NA 1V6_1 5NA",
  "1V6_1 2NA 36V4_1 2V6_1 7NA 1V4_1 1V6_0 eNA 1V6_0 17V4_1 9NA 7V4_1 1NA 7V4_1 1NA 7V4_1 1NA",
  "7V4_1 1NA 7V4_1 1NA 7V4_1 1NA 7V4_1 1NA 7V4_1 1NA 20V5_1 18V4_1 4V5_1 2V4_1 13V5_1 1V5_2",
  "aV6_1 7V7_0 2V9_0 5V10_0 5V11_0 1V12_0 3V13_0 bV14_0 22NA 1aV3_0 1NA 59V3_0 cNA d6V3_0",
  "1aNA cV3_0 4V15_1 38V1_1 3V3_0 3V3_2 1V3_0 1V1_1 1NA 54V1_1 2V3_2 2NA 6V1_1 2V3_2 5eV1_1",
  "1V3_2 5NA 28V1_1 1V5_1 1V10_0 1V11_0 1NA 5eV1_1 1NA 10V1_1 18V3_0 3V6_0 5V13_0 10V4_1",
  "14V5_1 2V16_0 9NA 1V15_1 10V3_2 1dV1_1 2V4_0 1NA 24V1_1 cV5_2 1V4_0 fV3_2 1cV1_1 2V4_0",
  "1V4_1 32V1_1 fV3_2 cV1_1 4V4_0 2fV1_1 1V12_1 77V1_1 4V4_0 63V1_1 2V4_0 1fV1_1 1V4_0",
  "19b6V3_0 aV13_0 40V4_0 51a6V1_1 16V4_1 8V5_1 8V5_2 1V6_1 9V8_0 15V10_0 5V11_0 dV13_0",
  "3V14_0 48dV3_0 3NA 12V3_0 2V3_2 10V3_0 1V3_2 cV3_0 1V3_2 3V3_0 1V3_2 1V3_0 9NA 30V5_2",
  "12cV5_1 14NA 20V5_1 2V6_0 12V5_1 8V6_1 1cV5_1 6V7_0 1V8_0 1V6_1 58V5_2 8NA 17V4_1 4V5_0",
  "5V5_1 2V5_0 6bV5_1 2V6_0 1V8_0 2V6_0 2V6_1 cV7_0 aV6_0 1V6_1 3V7_0 1V9_0 1V11_0 2V7_0",
  "6V8_0 2V11_0 6V12_0 2V14_0 5V12_0 4V13_0 3V16_0 2NA 2V14_0 1NA 1V14_0 1NA 5V14_0 3V16_0",
  "15NA 3V14_0 2V13_0 1V7_0 2V6_1 1V6_0 5V5_1 2cV4_1 1V13_0 3NA aV5_2 6NA 38V5_0 8NA 45V5_1",
  "1V9_0 8NA cV5_1 6NA 1cV5_2 2V8_0 2V11_0 54V5_1 bNA 1V5_1 1dV5_2 3NA 4eV5_2 1NA bV5_2 4NA",
  "2V5_2 1fV7_0 1NA 37V5_1 9NA eV5_1 2NA aV5_1 2NA 4V5_1 1cV5_2 4V7_0 43V5_2 18NA 5V5_2",
  "17V6_1 aNA 6V6_0 2NA 6V6_0 2NA 6V6_0 9NA 7V6_0 1NA 7V6_0 1NA 30V7_0 4V8_0 2V7_0 2V12_0",
  "4V13_0 4NA 50V8_0 2eV5_2 2NA aV5_2 6NA 2ba4V2_0 cNA 17V5_2 4NA 31V5_2 4NA 800V2_0 1a2eV1_1",
  "2V6_1 3bV3_2 3V5_2 2NA 6aV4_1 26NA 7V1_1 cNA 5V1_1 5NA 1V3_0 19V1_1 1NA 5V1_1 1NA 1V1_1",
  "1NA 2V1_1 1NA 2V1_1 1NA 6cV1_1 10V6_0 1V14_0 10NA 16dV1_1 10V14_0 40V1_1 2NA 36V1_1 7NA",
  "1V14_0 20V3_1 cV1_1 1V3_2 1V4_0 2V14_0 10V3_2 aV4_1 6NA 4V1_1 3V5_1 7V7_0 2V8_0 15V1_1",
  "2V3_2 2V4_0 aV1_1 1NA 13V1_1 1NA 4V1_1 4NA 3V1_1 1V3_2 1V1_1 1NA 87V1_1 2NA 1V1_1 1NA",
  "5eV1_1 2V3_2 5eV1_1 3NA 6V1_1 2NA 6V1_1 2NA 6V1_1 2NA 3V1_1 3NA 7V1_1 1NA 7V1_1 aNA 3V3_0",
  "1V2_1 3V1_1 cV4_0 1NA 1aV4_0 1NA 13V4_0 1NA 2V4_0 1NA fV4_0 2NA eV4_0 22NA 7bV4_0 5NA",
  "3V4_0 4NA 2dV4_0 3NA 9V4_0 4bV4_1 2V7_0 2V9_0 1NA cV5_1 1V13_0 3NA 1V7_0 2fNA 2eV5_1 82NA",
  "1dV5_1 3NA 31V5_1 fNA 1cV7_0 4NA 1fV3_1 1V7_0 4V3_1 9NA 3V10_0 1bV3_1 5NA 2bV7_0 5NA",
  "1eV4_0 1NA 1V4_0 24V4_1 4NA eV4_1 2aNA 26V3_1 2V4_0 26V3_1 50V4_0 2NA aV4_0 6NA 24V9_0 4NA",
  "24V9_0 4NA 28V7_0 8NA 34V7_0 bNA 1V7_0 bV14_0 1NA fV14_0 1NA 7V14_0 1NA 2V14_0 1NA bV14_0",
  "1NA fV14_0 1NA 7V14_0 1NA 2V14_0 3NA 34V16_0 cNA 137V7_0 9NA 16V7_0 aNA 8V7_0 18NA 6V14_0",
  "1NA 2aV14_0 1NA 9V14_0 45NA 6V4_0 2NA 1V4_0 1NA 2cV4_0 1NA 2V4_0 3NA 1V4_0 2NA 1V4_0",
  "16V5_2 1NA 9V5_2 3fV7_0 8NA 9V7_0 30NA 13V8_0 1NA 2V8_0 5NA 5V8_0 1aV5_0 2V5_2 3NA 1V5_0",
  "1aV5_1 5NA 1V5_1 40NA 38V6_1 4NA 2V8_0 2V6_1 10V8_0 2NA 2eV8_0 4V4_1 1NA 2V4_1 5NA 8V4_1",
  "1NA 3V4_1 1NA 1bV4_1 2V11_0 2NA 3V4_1 4NA 9V4_1 1V11_0 7NA 9V4_1 7NA 20V5_2 20V7_0 20NA",
  "27V7_0 4NA cV7_0 9NA 36V5_2 3NA 1dV5_2 2NA 1bV5_2 5NA 8V5_2 12V7_0 7NA 4V7_0 cNA 7V7_0",
  "50NA 49V5_2 37NA 33V8_0 dNA 33V8_0 7NA 6V8_0 28V11_0 8NA aV11_0 6NA 26V16_0 3NA 1dV16_0",
  "8NA 2V16_0 d0NA 1fV5_2 1NA 2aV13_0 1NA 3V13_0 2NA 2V13_0 10NA 3V16_0 37NA 1V16_0 3V15_0",
  "28V11_0 8NA 2aV11_0 16NA 1aV14_0 26NA 1cV13_0 14NA 17V12_0 9NA 4eV6_0 4NA 1eV6_0 6V14_0",
  "9NA 1V7_0 42V5_2 1V14_0 aNA 1V11_0 2NA 19V6_1 7NA aV6_1 6NA 35V6_1 1NA eV6_1 3V11_0 1V13_0",
  "8NA 27V7_0 9NA 49V6_1 4V8_0 1V7_0 2V13_0 aV6_1 1V7_0 5V8_0 1NA 14V7_0 bNA 12V7_0 1NA",
  "2bV7_0 1V9_0 3V15_0 3eNA 7V8_0 1NA 1V8_0 1NA 4V8_0 1NA fV8_0 1NA bV8_0 6NA 3bV7_0 5NA",
  "aV7_0 6NA 1V8_0 3V7_0 1NA 8V7_0 2NA 2V7_0 2NA 16V7_0 1NA 7V7_0 1NA 2V7_0 1NA 5V7_0 1NA",
  "1V11_0 9V7_0 2NA 2V7_0 2NA 3V7_0 2NA 1V8_0 6NA 1V7_0 5NA 7V7_0 2NA 7V7_0 3NA 5V7_0 bNA",
  "aV16_0 1NA 1V16_0 2NA 1V16_0 1NA 26V16_0 1NA aV16_0 1NA 1V16_0 2NA 1V16_0 1NA 4V16_0 1NA",
  "aV16_0 1NA 2V16_0 8NA 2V16_0 1dNA 5aV9_0 1V13_0 1V9_0 1NA 1V9_0 1V11_0 1V12_0 2V13_0 1eNA",
  "48V7_0 8NA aV7_0 a6NA 36V7_0 2NA 12V7_0 14V8_0 22NA 45V7_0 bNA aV7_0 6NA dV9_0 13NA 38V6_1",
  "1V12_0 1V14_0 6NA aV6_1 6NA 14V16_0 1cNA 1aV8_0 1V11_0 2NA fV8_0 4NA 10V8_0 7V14_0 b9NA",
  "3cV11_0 64NA 53V7_0 cNA 1V7_0 7V13_0 2NA 1V13_0 2NA 8V13_0 1NA 2V13_0 1NA 1eV13_0 1NA",
  "2V13_0 2NA cV13_0 9NA aV13_0 46NA 8V12_0 2NA 2eV12_0 2NA bV12_0 1bNA 48V10_0 8NA 34V10_0",
  "2V12_0 17V10_0 1V11_0 5V10_0 dNA 10V14_0 39V7_0 7NA aV15_0 b6NA 22V16_0 eNA aV16_0 6NA",
  "9V9_0 1NA 2dV9_0 1NA eV9_0 aNA 1dV9_0 3NA 20V9_0 2NA 16V9_0 1NA eV9_0 49NA 7V10_0 1NA",
  "2V10_0 1NA 2cV10_0 3NA 1V10_0 1NA 2V10_0 1NA 9V10_0 8NA aV10_0 6NA 6V11_0 1NA 2V11_0 1NA",
  "25V11_0 1NA 2V11_0 1NA 6V11_0 7NA aV11_0 136NA 19V11_0 7NA 11V15_0 1NA 29V15_0 3NA 1cV15_0",
  "1V16_0 55NA 1V13_0 fNA 32V12_0 dNA 1V12_0 36fV5_0 2aV7_0 1V8_0 66NA 63V5_0 cV7_0 1NA 4V5_0",
  "1V7_0 bNA c4V8_0 a4cNA 63V14_0 dNA 42fV5_2 1V15_0 9V12_0 1dV15_0 aNA f9bV16_0 5NA 247V8_0",
  "1ab9NA 3aV16_0 6c6NA 239V6_0 7NA 1fV7_0 1NA aV7_0 4NA 2V7_0 4fV14_0 1NA aV14_0 6NA 1eV7_0",
  "2NA 6V7_0 aNA 46V7_0 aNA aV7_0 1NA 7V7_0 1NA 15V7_0 5NA 13V7_0 1b0NA 3aV16_0 c6NA 5bV11_0",
  "65NA 45V6_1 6V12_0 4NA 1V12_0 2fV6_1 9V12_0 7NA 11V6_1 40NA 1V9_0 1V10_0 2V12_0 1V13_0 bNA",
  "2V13_0 eNA 17edV9_0 5V11_0 6V12_0 8NA 2f3V9_0 1e3V13_0 29NA 1V16_0 9V13_0 22e7NA 4V14_0",
  "1NA 7V14_0 1NA 2V14_0 1NA 2V6_0 11dV10_0 4V14_0 fNA 1V15_0 1dNA 3V12_0 2NA 1V15_0 eNA",
  "4V12_0 8NA 18cV10_0 904NA 6bV7_0 5NA dV7_0 3NA 9V7_0 7NA aV7_0 2NA 8V7_0 f5cNA faV16_0 6NA",
  "1b4V16_0 4cNA 2eV14_0 2NA 17V14_0 9NA 74V14_0 3cNA f6V3_1 aNA 27V3_1 2NA 1V5_1 b4V3_1",
  "bV8_0 2V14_0 15NA 46V4_1 7aNA 14V15_0 cNA 14V11_0 cNA 57V4_0 9NA 12V5_0 7V11_0 87NA 55V3_1",
  "1NA 47V3_1 1NA 2V3_1 2NA 1V3_1 2NA 2V3_1 2NA 4V3_1 1NA cV3_1 1NA 1V3_1 1NA 4V3_1 1V4_0",
  "2V3_1 1NA 41V3_1 1NA 4V3_1 2NA 8V3_1 1NA 7V3_1 1NA 1cV3_1 1NA 4V3_1 1NA 5V3_1 1NA 1V3_1",
  "3NA 7V3_1 1NA 152V3_1 2V4_1 2NA 122V3_1 2V5_0 2NA 32V3_1 28cV8_0 fNA 5V8_0 1NA fV8_0 450NA",
  "1fV14_0 6NA 6V15_0 d5NA 7V9_0 1NA 11V9_0 2NA 7V9_0 1NA 2V9_0 1NA 5V9_0 5NA 3eV15_0 21NA",
  "1V15_0 70NA 2dV12_0 3NA eV12_0 2NA aV12_0 4NA 2V12_0 140NA 1fV14_0 11NA 3aV12_0 5NA 1V12_0",
  "1d0NA 2aV15_0 d6NA 2bV16_0 4NA 1V16_0 1e0NA 7V14_0 1NA 4V14_0 1NA 2V14_0 1NA fV14_0 1NA",
  "c5V7_0 2NA 10V7_0 29NA 4bV9_0 1V12_0 4NA aV9_0 4NA 2V9_0 311NA 44V11_0 4cNA 3dV12_0 c2NA",
  "4V6_1 1NA 1bV6_1 1NA 2V6_1 1NA 1V6_1 2NA 1V6_1 1NA aV6_1 1NA 4V6_1 1NA 1V6_1 1NA 1V6_1 6NA",
  "1V6_1 4NA 1V6_1 1NA 1V6_1 1NA 1V6_1 1NA 3V6_1 1NA 2V6_1 1NA 1V6_1 2NA 1V6_1 1NA 1V6_1 1NA",
  "1V6_1 1NA 1V6_1 1NA 1V6_1 1NA 2V6_1 1NA 1V6_1 2NA 4V6_1 1NA 7V6_1 1NA 4V6_1 1NA 4V6_1 1NA",
  "1V6_1 1NA aV6_1 1NA 11V6_1 5NA 3V6_1 1NA 5V6_1 1NA 11V6_1 34NA 2V6_1 10eNA 2cV5_1 4NA",
  "64V5_1 cNA fV6_0 2NA eV6_0 1V7_0 1NA fV6_0 1NA fV6_0 16V7_0 aNA bV5_2 2V7_0 3V13_0 1fV5_2",
  "1V11_0 1V6_0 1V5_2 bV6_0 1V5_2 1V6_0 1V5_2 2V6_0 1V5_2 3V6_0 1V5_2 3V6_0 5V5_2 8V6_0 1V5_2",
  "7V6_0 1V5_2 aV6_0 2V6_1 1V12_0 3V13_0 9V6_0 1V5_2 1V6_0 2V5_2 2V6_0 1V5_2 aV6_0 4V5_2",
  "2V6_0 1V5_2 aV6_0 12V9_0 1V13_0 38NA 1aV6_0 1V5_2 2V6_0 dNA 22V5_2 9V6_0 1V9_0 4NA 9V5_2",
  "7NA 2V6_0 eNA 6V10_0 9aNA 21V6_0 cV7_0 3V8_0 6V6_0 1V7_0 46V6_0 1V7_0 2V8_0 14V6_0 cV7_0",
  "25V6_0 1V7_0 5V6_0 4V7_0 5V8_0 cV7_0 11V6_0 7V7_0 8V8_0 3fV6_0 1V7_0 1V6_0 1V7_0 b6V6_0",
  "1V7_0 4V6_0 2V7_0 1V8_0 3eV6_0 2V7_0 4V6_1 7V7_0 5V8_0 18V6_0 12V7_0 1V9_0 29V7_0 1V9_0",
  "56V7_0 5V6_0 1V6_1 10V6_0 1V6_1 3V6_0 1V6_1 1V6_0 1V6_1 1V6_0 1V6_1 1V6_0 1V6_1 3V6_0",
  "1V6_1 6V6_0 2V6_1 4V6_0 1V6_1 1V6_0 2V6_1 4V6_0 1V6_1 cV6_0 2V7_0 2V8_0 bV6_0 30V7_0",
  "46V6_0 aV7_0 1V8_0 2V9_0 2V10_0 1V12_0 2V13_0 4NA 1V15_0 3V14_0 dV7_0 3NA 4V7_0 3V9_0",
  "2V10_0 1V11_0 1V12_0 2V13_0 3NA 74V6_0 3V15_0 4NA 5V15_0 55V7_0 4V11_0 1V15_0 6NA cV12_0",
  "4NA 1V14_0 fNA cV7_0 4NA 38V7_0 8NA aV7_0 6NA 28V7_0 8NA 1eV7_0 2NA 2V13_0 aV16_0 4NA",
  "2V16_0 3eNA cV10_0 1V13_0 3V12_0 9V8_0 6V9_0 1V10_0 8V9_0 8V10_0 1V9_0 2V10_0 cV9_0 1V12_0",
  "cV9_0 1V10_0 3V11_0 fV9_0 dV10_0 5V11_0 1V12_0 1V13_0 4V11_0 2V13_0 1V14_0 1V11_0 1V12_0",
  "4V11_0 5V8_0 dV9_0 6V10_0 bV11_0 2V13_0 6V12_0 3V13_0 2V12_0 aV11_0 6V12_0 1V8_0 2V11_0",
  "8V12_0 1V13_0 1V14_0 3V12_0 17V10_0 19V11_0 54V12_0 cNA eV11_0 2NA 4V12_0 1V13_0 3V15_0",
  "3V12_0 2V14_0 3NA 3V12_0 4V13_0 2V15_0 1V16_0 5NA 1V16_0 6V12_0 13V13_0 4V14_0 3V15_0",
  "7V13_0 4V14_0 3V15_0 1V16_0 1V15_0 3V13_0 3V14_0 1V16_0 7NA 2V15_0 7V13_0 3V14_0 2V15_0",
  "1V16_0 2NA 1V16_0 8V14_0 1V15_0 1V16_0 6NA 7V14_0 2V15_0 7NA 93V13_0 1NA 37V13_0 25V16_0",
  "aV13_0 404NA 2V2_0 a6d7V3_1 7V13_0 2V14_0 20NA 1035V5_2 4V14_0 1V15_0 6NA deV6_0 2NA",
  "1682V8_0 eNA 1d31V10_0 fNA 26eV15_1 9a2NA 21eV3_1 5e0NA 2V2_0 134bV13_0 5NA 1060V15_0",
  "dc4eNA 2V2_0 fffeNA 2V2_0 fffeNA 2V2_0 fffeNA 2V2_0 fffeNA 2V2_0 fffeNA 2V2_0 fffeNA 2V2_0",
  "fffeNA 2V2_0 fffeNA 2V2_0 fffeNA 2V2_0 fffeNA 2V2_0 1NA 1V3_1 1eNA 60V3_1 80NA f0V4_0",
  "fe0eNA 20002V2_0"]

/-- The versions, the first one first. -/
def versions : List String :=
  ["V1_1", "V2_0", "V2_1", "V3_0", "V3_1", "V3_2", "V4_0", "V4_1", "V5_0", "V5_1", "V5_2",
   "V6_0", "V6_1", "V6_2", "V6_3", "V7_0", "V8_0", "V9_0", "V10_0", "V11_0", "V12_0", "V12_1",
   "V13_0", "V14_0", "V15_0", "V15_1", "V16_0"]

/-- The two ways to name a version: `v11` and `1.1`. -/
def versionNames (version : String) : List String :=
  let parts := (version.drop 1).toString.splitOn "_"
  ["v" ++ String.join parts, ".".intercalate parts]

/-- The characters of a version, with those of all versions before. -/
def age? (name : String) : Option CodeSet :=
  (versions.findIdx? fun v => (versionNames v).contains name).map fun i =>
    ages.among (versions.take (i + 1))

/-! ## Characters -/

/-- The syllables of Hangul. -/
def hangulSyllables : CodeSet := .range 0xac00 0xd7a3

/-- The syllables of Hangul that have no last part. -/
def openSyllables : CodeSet :=
  .ofRanges ((List.range 399).map fun k => (0xac00 + 28 * k, 0xac00 + 28 * k))

/-- Marks that belong to the character before them. -/
def extending : CodeSet := graphemeExtend.union emojiModifier

def lineFeed : CodeSet := .singleChar '\n'

def carriageReturn : CodeSet := .singleChar '\x0d'

def zeroWidthJoiner : CodeSet := .single 0x200d

def zeroWidthNonJoiner : CodeSet := .single 0x200c

/-- Characters that stand alone. -/
def controls : CodeSet :=
  (CodeSet.unions [category ["Zl", "Zp", "Cc", "Cf"],
      defaultIgnorable.inter (category ["Cn"])]).diff
    (.unions [lineFeed, carriageReturn, zeroWidthJoiner, extending, prependedConcatenationMark])

/-- Marks of their own width that belong to the character before them. -/
def spacingMarks : CodeSet :=
  (((category ["Mc"]).diff extending).diff unattachedMarks).union
    (.unions [.single 0xe33, .single 0xeb3])

/-- The property Grapheme_Cluster_Break. -/
def graphemeBreaks : List (List String × CodeSet) := [
  (["cr"], carriageReturn), (["lf"], lineFeed), (["control", "cn"], controls),
  (["extend", "ex"], extending), (["zwj"], zeroWidthJoiner),
  (["regionalindicator", "ri"], regionalIndicator),
  (["prepend", "pp"], prependedLetters.union prependedConcatenationMark),
  (["spacingmark", "sm"], spacingMarks), (["l"], leadingJamo), (["v"], vowelJamo),
  (["t"], trailingJamo), (["lv"], openSyllables), (["lvt"], hangulSyllables.diff openSyllables)]

/-! ## Words -/

/-- Marks and joining characters, which belong to the word before them. -/
def wordExtending : CodeSet := extending.union (category ["Mc"])

/-- Letters of words. -/
def wordLetters : CodeSet :=
  (alphabetic.diff (.unions [ideographic, wordExtending, katakanaOfWords, hebrewLetters,
    (script? "hiragana").getD .empty, complexContext])).union letterLike

/-- Line ends that are no line feed. -/
def newlines : CodeSet := .ofRanges [(0xb, 0xc), (0x85, 0x85), (0x2028, 0x2029)]

/-- Formatting characters between letters. -/
def formats : CodeSet :=
  (category ["Cf"]).diff (.unions [zeroWidthJoiner, zeroWidthNonJoiner, extending])

/-- The property Word_Break. -/
def wordBreaks : List (List String × CodeSet) := [
  (["cr"], carriageReturn), (["lf"], lineFeed), (["newline", "nl"], newlines),
  (["extend"], wordExtending), (["zwj"], zeroWidthJoiner),
  (["format", "fo"], formats.diff (.single 0x200b)),
  (["regionalindicator", "ri"], regionalIndicator), (["katakana", "ka"], katakanaOfWords),
  (["hebrewletter", "hl"], hebrewLetters), (["aletter", "le"], wordLetters),
  (["singlequote", "sq"], .singleChar '\''), (["doublequote", "dq"], .singleChar '"'),
  (["midnumlet", "mb"], midNumberOrLetter), (["midletter", "ml"], midLetter),
  (["midnum", "mn"], midNumber), (["numeric", "nu"], decimalDigits.union (.single 0x66b)),
  (["extendnumlet", "ex"], extendNumberOrLetter), (["wsegspace"], wordSpace)]

/-! ## Sentences -/

/-- Full stops, which may also end an abbreviation. -/
def fullStops : CodeSet := .ofRanges [(0x2e, 0x2e), (0x2024, 0x2024), (0xfe52, 0xfe52),
  (0xff0e, 0xff0e)]

/-- Characters that part sentences wherever they stand. -/
def separators : CodeSet := .ofRanges [(0x85, 0x85), (0x2028, 0x2029)]

/-- Marks and joining characters, which belong to the sentence before them. -/
def sentenceExtending : CodeSet :=
  .unions [graphemeExtend, category ["Mc"], zeroWidthJoiner]

/-- Capital letters of Georgian, which begin no sentence. -/
def georgianCapitals : CodeSet := .ofRanges [(0x1c90, 0x1cba), (0x1cbd, 0x1cbf)]

def sentenceLowers : CodeSet := lowercase.diff (graphemeExtend.union georgianSmall)

def sentenceUppers : CodeSet := (uppercase.union titlecase).diff georgianCapitals

/-- The property Sentence_Break. -/
def sentenceBreaks : List (List String × CodeSet) := [
  (["cr"], carriageReturn), (["lf"], lineFeed), (["extend", "ex"], sentenceExtending),
  (["sep", "se"], separators), (["format", "fo"], formats),
  (["sp"], whiteSpace.diff (.unions [separators, carriageReturn, lineFeed])),
  (["lower", "lo"], sentenceLowers), (["upper", "up"], sentenceUppers),
  (["oletter", "le"], (alphabetic.union (.single 0x5f3)).diff
    (.unions [sentenceLowers, sentenceUppers, sentenceExtending])),
  (["numeric", "nu"], decimalDigits.union (.range 0x66b 0x66c)), (["aterm", "at"], fullStops),
  (["sterm", "st"], sentenceTerminal.diff fullStops),
  (["close", "cl"], (category ["Ps", "Pe", "Pi", "Pf"]).union quoteLike),
  (["scontinue", "sc"], sentenceContinue)]

end EntityStore.Unicode
