-- Scripts of characters, after Unicode 16. Each code point has one script,
-- known by a code of four letters, and some are used with more scripts.
import EntityStore.Unicode.CodeSet

namespace EntityStore.Unicode

/-! ## Tables -/

/-- The scripts of all code points. What has no script is `Zzzz`. -/
def scripts : Partition := .ofRuns [
  "41Zyyy 1aLatn 6Zyyy 1aLatn 2fZyyy 1Latn fZyyy 1Latn 5Zyyy 17Latn 1Zyyy 1fLatn 1Zyyy",
  "1c1Latn 27Zyyy 5Latn 5Zyyy 2Bopo 14Zyyy 70Zinh 4Grek 1Zyyy 3Grek 2Zzzz 4Grek 1Zyyy 1Grek",
  "4Zzzz 1Grek 1Zyyy 1Grek 1Zyyy 3Grek 1Zzzz 1Grek 1Zzzz 14Grek 1Zzzz 3fGrek eCopt 10Grek",
  "85Cyrl 2Zinh a9Cyrl 1Zzzz 26Armn 2Zzzz 32Armn 2Zzzz 3Armn 1Zzzz 37Hebr 8Zzzz 1bHebr 4Zzzz",
  "6Hebr bZzzz 5Arab 1Zyyy 6Arab 1Zyyy eArab 1Zyyy 3Arab 1Zyyy 20Arab 1Zyyy aArab bZinh",
  "1aArab 1Zinh 6cArab 1Zyyy 22Arab eSyrc 1Zzzz 3cSyrc 2Zzzz 3Syrc 30Arab 32Thaa eZzzz 3bNkoo",
  "2Zzzz 3Nkoo 2eSamr 2Zzzz fSamr 1Zzzz 1cMand 2Zzzz 1Mand 1Zzzz bSyrc 5Zzzz 1fArab 1Zzzz",
  "2Arab 5Zzzz 4bArab 1Zyyy 1dArab 51Deva 4Zinh fDeva 2Zyyy 1aDeva 4Beng 1Zzzz 8Beng 2Zzzz",
  "2Beng 2Zzzz 16Beng 1Zzzz 7Beng 1Zzzz 1Beng 3Zzzz 4Beng 2Zzzz 9Beng 2Zzzz 2Beng 2Zzzz 4Beng",
  "8Zzzz 1Beng 4Zzzz 2Beng 1Zzzz 5Beng 2Zzzz 19Beng 2Zzzz 3Guru 1Zzzz 6Guru 4Zzzz 2Guru 2Zzzz",
  "16Guru 1Zzzz 7Guru 1Zzzz 2Guru 1Zzzz 2Guru 1Zzzz 2Guru 2Zzzz 1Guru 1Zzzz 5Guru 4Zzzz 2Guru",
  "2Zzzz 3Guru 3Zzzz 1Guru 7Zzzz 4Guru 1Zzzz 1Guru 7Zzzz 11Guru aZzzz 3Gujr 1Zzzz 9Gujr 1Zzzz",
  "3Gujr 1Zzzz 16Gujr 1Zzzz 7Gujr 1Zzzz 2Gujr 1Zzzz 5Gujr 2Zzzz aGujr 1Zzzz 3Gujr 1Zzzz 3Gujr",
  "2Zzzz 1Gujr fZzzz 4Gujr 2Zzzz cGujr 7Zzzz 7Gujr 1Zzzz 3Orya 1Zzzz 8Orya 2Zzzz 2Orya 2Zzzz",
  "16Orya 1Zzzz 7Orya 1Zzzz 2Orya 1Zzzz 5Orya 2Zzzz 9Orya 2Zzzz 2Orya 2Zzzz 3Orya 7Zzzz 3Orya",
  "4Zzzz 2Orya 1Zzzz 5Orya 2Zzzz 12Orya aZzzz 2Taml 1Zzzz 6Taml 3Zzzz 3Taml 1Zzzz 4Taml 3Zzzz",
  "2Taml 1Zzzz 1Taml 1Zzzz 2Taml 3Zzzz 2Taml 3Zzzz 3Taml 3Zzzz cTaml 4Zzzz 5Taml 3Zzzz 3Taml",
  "1Zzzz 4Taml 2Zzzz 1Taml 6Zzzz 1Taml eZzzz 15Taml 5Zzzz dTelu 1Zzzz 3Telu 1Zzzz 17Telu",
  "1Zzzz 10Telu 2Zzzz 9Telu 1Zzzz 3Telu 1Zzzz 4Telu 7Zzzz 2Telu 1Zzzz 3Telu 2Zzzz 1Telu 2Zzzz",
  "4Telu 2Zzzz aTelu 7Zzzz 9Telu dKnda 1Zzzz 3Knda 1Zzzz 17Knda 1Zzzz aKnda 1Zzzz 5Knda 2Zzzz",
  "9Knda 1Zzzz 3Knda 1Zzzz 4Knda 7Zzzz 2Knda 6Zzzz 2Knda 1Zzzz 4Knda 2Zzzz aKnda 1Zzzz 3Knda",
  "cZzzz dMlym 1Zzzz 3Mlym 1Zzzz 33Mlym 1Zzzz 3Mlym 1Zzzz 6Mlym 4Zzzz 10Mlym 2Zzzz 1aMlym",
  "1Zzzz 3Sinh 1Zzzz 12Sinh 3Zzzz 18Sinh 1Zzzz 9Sinh 1Zzzz 1Sinh 2Zzzz 7Sinh 3Zzzz 1Sinh",
  "4Zzzz 6Sinh 1Zzzz 1Sinh 1Zzzz 8Sinh 6Zzzz aSinh 2Zzzz 3Sinh cZzzz 3aThai 4Zzzz 1Zyyy",
  "1cThai 25Zzzz 2Laoo 1Zzzz 1Laoo 1Zzzz 5Laoo 1Zzzz 18Laoo 1Zzzz 1Laoo 1Zzzz 17Laoo 2Zzzz",
  "5Laoo 1Zzzz 1Laoo 1Zzzz 7Laoo 1Zzzz aLaoo 2Zzzz 4Laoo 20Zzzz 48Tibt 1Zzzz 24Tibt 4Zzzz",
  "27Tibt 1Zzzz 24Tibt 1Zzzz fTibt 1Zzzz 7Tibt 4Zyyy 2Tibt 25Zzzz a0Mymr 26Geor 1Zzzz 1Geor",
  "5Zzzz 1Geor 2Zzzz 2bGeor 1Zyyy 4Geor 100Hang 49Ethi 1Zzzz 4Ethi 2Zzzz 7Ethi 1Zzzz 1Ethi",
  "1Zzzz 4Ethi 2Zzzz 29Ethi 1Zzzz 4Ethi 2Zzzz 21Ethi 1Zzzz 4Ethi 2Zzzz 7Ethi 1Zzzz 1Ethi",
  "1Zzzz 4Ethi 2Zzzz fEthi 1Zzzz 39Ethi 1Zzzz 4Ethi 2Zzzz 43Ethi 2Zzzz 20Ethi 3Zzzz 1aEthi",
  "6Zzzz 56Cher 2Zzzz 6Cher 2Zzzz 280Cans 1dOgam 3Zzzz 4bRunr 3Zyyy bRunr 7Zzzz 16Tglg 9Zzzz",
  "1Tglg 15Hano 2Zyyy 9Zzzz 14Buhd cZzzz dTagb 1Zzzz 3Tagb 1Zzzz 2Tagb cZzzz 5eKhmr 2Zzzz",
  "aKhmr 6Zzzz aKhmr 6Zzzz 2Mong 2Zyyy 1Mong 1Zyyy 14Mong 6Zzzz 59Mong 7Zzzz 2bMong 5Zzzz",
  "46Cans aZzzz 1fLimb 1Zzzz cLimb 4Zzzz cLimb 4Zzzz 1Limb 3Zzzz cLimb 1eTale 2Zzzz 5Tale",
  "bZzzz 2cTalu 4Zzzz 1aTalu 6Zzzz bTalu 3Zzzz 2Talu 20Khmr 1cBugi 2Zzzz 2Bugi 3fLana 1Zzzz",
  "1dLana 2Zzzz bLana 6Zzzz aLana 6Zzzz eLana 2Zzzz 1fZinh 31Zzzz 4dBali 1Zzzz 32Bali 40Sund",
  "34Batk 8Zzzz 4Batk 38Lepc 3Zzzz fLepc 3Zzzz 3Lepc 30Olck bCyrl 5Zzzz 2bGeor 2Zzzz 3Geor",
  "8Sund 8Zzzz 3Zinh 1Zyyy dZinh 1Zyyy 7Zinh 4Zyyy 1Zinh 6Zyyy 1Zinh 3Zyyy 2Zinh 1Zyyy 5Zzzz",
  "26Latn 5Grek 1Cyrl 31Latn 5Grek 4Latn 5Grek dLatn 1Cyrl 46Latn 1Grek 40Zinh 100Latn 16Grek",
  "2Zzzz 6Grek 2Zzzz 26Grek 2Zzzz 6Grek 2Zzzz 8Grek 1Zzzz 1Grek 1Zzzz 1Grek 1Zzzz 1Grek 1Zzzz",
  "1fGrek 2Zzzz 35Grek 1Zzzz fGrek 1Zzzz eGrek 2Zzzz 6Grek 1Zzzz 13Grek 2Zzzz 3Grek 1Zzzz",
  "9Grek 1Zzzz cZyyy 2Zinh 57Zyyy 1Zzzz bZyyy 1Latn 2Zzzz bZyyy 1Latn fZyyy 1Zzzz dLatn 3Zzzz",
  "21Zyyy fZzzz 21Zinh fZzzz 26Zyyy 1Grek 3Zyyy 2Latn 6Zyyy 1Latn 1bZyyy 1Latn 11Zyyy 29Latn",
  "3Zyyy 4Zzzz 29aZyyy 16Zzzz bZyyy 15Zzzz 3a0Zyyy 100Brai 274Zyyy 2Zzzz 20Zyyy 1Zzzz 69Zyyy",
  "60Glag 20Latn 74Copt 5Zzzz 7Copt 26Geor 1Zzzz 1Geor 5Zzzz 1Geor 2Zzzz 38Tfng 7Zzzz 2Tfng",
  "eZzzz 1Tfng 17Ethi 9Zzzz 7Ethi 1Zzzz 7Ethi 1Zzzz 7Ethi 1Zzzz 7Ethi 1Zzzz 7Ethi 1Zzzz 7Ethi",
  "1Zzzz 7Ethi 1Zzzz 7Ethi 1Zzzz 20Cyrl 5eZyyy 22Zzzz 1aHani 1Zzzz 59Hani cZzzz d6Hani 1aZzzz",
  "15Zyyy 1Hani 1Zyyy 1Hani 19Zyyy 9Hani 4Zinh 2Hang 8Zyyy 4Hani 4Zyyy 1Zzzz 56Hira 2Zzzz",
  "2Zinh 2Zyyy 3Hira 1Zyyy 5aKana 2Zyyy 3Kana 5Zzzz 2bBopo 1Zzzz 5eHang 1Zzzz 10Zyyy 20Bopo",
  "26Zyyy 9Zzzz 1Zyyy 10Kana 1fHang 1Zzzz 40Zyyy 1fHang 51Zyyy 2fKana 1Zyyy 58Kana a8Zyyy",
  "19c0Hani 40Zyyy 5200Hani 48dYiii 3Zzzz 37Yiii 9Zzzz 30Lisu 12cVaii 14Zzzz 60Cyrl 58Bamu",
  "8Zzzz 22Zyyy 66Latn 3Zyyy 43Latn 2Zzzz 2Latn 1Zzzz 1Latn 1Zzzz 8Latn 15Zzzz eLatn 2dSylo",
  "3Zzzz aZyyy 6Zzzz 38Phag 8Zzzz 46Saur 8Zzzz cSaur 6Zzzz 20Deva 2eKali 1Zyyy 1Kali 24Rjng",
  "bZzzz 1Rjng 1dHang 3Zzzz 4eJava 1Zzzz 1Zyyy aJava 4Zzzz 2Java 1fMymr 1Zzzz 37Cham 9Zzzz",
  "eCham 2Zzzz aCham 2Zzzz 4Cham 20Mymr 43Tavt 18Zzzz 5Tavt 17Mtei aZzzz 6Ethi 2Zzzz 6Ethi",
  "2Zzzz 6Ethi 9Zzzz 7Ethi 1Zzzz 7Ethi 1Zzzz 2bLatn 1Zyyy 9Latn 1Grek 4Latn 2Zyyy 4Zzzz",
  "50Cher 2eMtei 2Zzzz aMtei 6Zzzz 2ba4Hang cZzzz 17Hang 4Zzzz 31Hang 2104Zzzz 16eHani 2Zzzz",
  "6aHani 26Zzzz 7Latn cZzzz 5Armn 5Zzzz 1aHebr 1Zzzz 5Hebr 1Zzzz 1Hebr 1Zzzz 2Hebr 1Zzzz",
  "2Hebr 1Zzzz aHebr 73Arab 10Zzzz 16bArab 2Zyyy 50Arab 2Zzzz 36Arab 7Zzzz 1Arab 20Zzzz",
  "10Arab 10Zinh aZyyy 6Zzzz eZinh 2Cyrl 23Zyyy 1Zzzz 13Zyyy 1Zzzz 4Zyyy 4Zzzz 5Arab 1Zzzz",
  "87Arab 2Zzzz 1Zyyy 1Zzzz 20Zyyy 1aLatn 6Zyyy 1aLatn bZyyy aKana 1Zyyy 2dKana 2Zyyy 1fHang",
  "3Zzzz 6Hang 2Zzzz 6Hang 2Zzzz 6Hang 2Zzzz 3Hang 3Zzzz 7Zyyy 1Zzzz 7Zyyy aZzzz 5Zyyy 2Zzzz",
  "cLinb 1Zzzz 1aLinb 1Zzzz 13Linb 1Zzzz 2Linb 1Zzzz fLinb 2Zzzz eLinb 22Zzzz 7bLinb 5Zzzz",
  "3Zyyy 4Zzzz 2dZyyy 3Zzzz 9Zyyy 4fGrek 1Zzzz dZyyy 3Zzzz 1Grek 2fZzzz 2dZyyy 1Zinh 82Zzzz",
  "1dLyci 3Zzzz 31Cari fZzzz 1Zinh 1bZyyy 4Zzzz 24Ital 9Zzzz 3Ital 1bGoth 5Zzzz 2bPerm 5Zzzz",
  "1eUgar 1Zzzz 1Ugar 24Xpeo 4Zzzz eXpeo 2aZzzz 50Dsrt 30Shaw 1eOsma 2Zzzz aOsma 6Zzzz 24Osge",
  "4Zzzz 24Osge 4Zzzz 28Elba 8Zzzz 34Aghb bZzzz 1Aghb bVith 1Zzzz fVith 1Zzzz 7Vith 1Zzzz",
  "2Vith 1Zzzz bVith 1Zzzz fVith 1Zzzz 7Vith 1Zzzz 2Vith 3Zzzz 34Todr cZzzz 137Lina 9Zzzz",
  "16Lina aZzzz 8Lina 18Zzzz 6Latn 1Zzzz 2aLatn 1Zzzz 9Latn 45Zzzz 6Cprt 2Zzzz 1Cprt 1Zzzz",
  "2cCprt 1Zzzz 2Cprt 3Zzzz 1Cprt 2Zzzz 1Cprt 16Armi 1Zzzz 9Armi 20Palm 1fNbat 8Zzzz 9Nbat",
  "30Zzzz 13Hatr 1Zzzz 2Hatr 5Zzzz 5Hatr 1cPhnx 3Zzzz 1Phnx 1aLydi 5Zzzz 1Lydi 40Zzzz 20Mero",
  "18Merc 4Zzzz 14Merc 2Zzzz 2eMerc 4Khar 1Zzzz 2Khar 5Zzzz 8Khar 1Zzzz 3Khar 1Zzzz 1dKhar",
  "2Zzzz 3Khar 4Zzzz aKhar 7Zzzz 9Khar 7Zzzz 20Sarb 20Narb 20Zzzz 27Mani 4Zzzz cMani 9Zzzz",
  "36Avst 3Zzzz 7Avst 16Prti 2Zzzz 8Prti 13Phli 5Zzzz 8Phli 12Phlp 7Zzzz 4Phlp cZzzz 7Phlp",
  "50Zzzz 49Orkh 37Zzzz 33Hung dZzzz 33Hung 7Zzzz 6Hung 28Rohg 8Zzzz aRohg 6Zzzz 26Gara 3Zzzz",
  "1dGara 8Zzzz 2Gara d0Zzzz 1fArab 1Zzzz 2aYezi 1Zzzz 3Yezi 2Zzzz 2Yezi 10Zzzz 3Arab 37Zzzz",
  "4Arab 28Sogo 8Zzzz 2aSogd 16Zzzz 1aOugr 26Zzzz 1cChrs 14Zzzz 17Elym 9Zzzz 4eBrah 4Zzzz",
  "24Brah 9Zzzz 1Brah 43Kthi aZzzz 1Kthi 2Zzzz 19Sora 7Zzzz aSora 6Zzzz 35Cakm 1Zzzz 12Cakm",
  "8Zzzz 27Mahj 9Zzzz 60Shrd 1Zzzz 14Sinh bZzzz 12Khoj 1Zzzz 2fKhoj 3eZzzz 7Mult 1Zzzz 1Mult",
  "1Zzzz 4Mult 1Zzzz fMult 1Zzzz bMult 6Zzzz 3bSind 5Zzzz aSind 6Zzzz 4Gran 1Zzzz 8Gran 2Zzzz",
  "2Gran 2Zzzz 16Gran 1Zzzz 7Gran 1Zzzz 2Gran 1Zzzz 5Gran 1Zzzz 1Zinh 9Gran 2Zzzz 2Gran 2Zzzz",
  "3Gran 2Zzzz 1Gran 6Zzzz 1Gran 5Zzzz 7Gran 2Zzzz 7Gran 3Zzzz 5Gran bZzzz aTutg 1Zzzz 1Tutg",
  "2Zzzz 1Tutg 1Zzzz 26Tutg 1Zzzz aTutg 1Zzzz 1Tutg 2Zzzz 1Tutg 1Zzzz 4Tutg 1Zzzz aTutg 1Zzzz",
  "2Tutg 8Zzzz 2Tutg 1dZzzz 5cNewa 1Zzzz 5Newa 1eZzzz 48Tirh 8Zzzz aTirh a6Zzzz 36Sidd 2Zzzz",
  "26Sidd 22Zzzz 45Modi bZzzz aModi 6Zzzz dMong 13Zzzz 3aTakr 6Zzzz aTakr 6Zzzz 14Mymr 1cZzzz",
  "1bAhom 2Zzzz fAhom 4Zzzz 17Ahom b9Zzzz 3cDogr 64Zzzz 53Wara cZzzz 1Wara 7Diak 2Zzzz 1Diak",
  "2Zzzz 8Diak 1Zzzz 2Diak 1Zzzz 1eDiak 1Zzzz 2Diak 2Zzzz cDiak 9Zzzz aDiak 46Zzzz 8Nand",
  "2Zzzz 2eNand 2Zzzz bNand 1bZzzz 48Zanb 8Zzzz 53Soyo dZzzz 10Cans 39Pauc 7Zzzz aDeva b6Zzzz",
  "22Sunu eZzzz aSunu 6Zzzz 9Bhks 1Zzzz 2dBhks 1Zzzz eBhks aZzzz 1dBhks 3Zzzz 20Marc 2Zzzz",
  "16Marc 1Zzzz eMarc 49Zzzz 7Gonm 1Zzzz 2Gonm 1Zzzz 2cGonm 3Zzzz 1Gonm 1Zzzz 2Gonm 1Zzzz",
  "9Gonm 8Zzzz aGonm 6Zzzz 6Gong 1Zzzz 2Gong 1Zzzz 25Gong 1Zzzz 2Gong 1Zzzz 6Gong 7Zzzz aGong",
  "136Zzzz 19Maka 7Zzzz 11Kawi 1Zzzz 29Kawi 3Zzzz 1dKawi 55Zzzz 1Lisu fZzzz 32Taml dZzzz",
  "1Taml 39aXsux 66Zzzz 6fXsux 1Zzzz 5Xsux bZzzz c4Xsux a4cZzzz 63Cpmn dZzzz 456Egyp aZzzz",
  "f9bEgyp 5Zzzz 247Hluw 1ab9Zzzz 3aGukh 6c6Zzzz 239Bamu 7Zzzz 1fMroo 1Zzzz aMroo 4Zzzz 2Mroo",
  "4fTnsa 1Zzzz aTnsa 6Zzzz 1eBass 2Zzzz 6Bass aZzzz 46Hmng aZzzz aHmng 1Zzzz 7Hmng 1Zzzz",
  "15Hmng 5Zzzz 13Hmng 1b0Zzzz 3aKrai c6Zzzz 5bMedf 65Zzzz 4bPlrd 4Zzzz 39Plrd 7Zzzz 11Plrd",
  "40Zzzz 1Tang 1Nshu 2Hani 1Kits bZzzz 2Hani eZzzz 17f8Tang 8Zzzz 300Tang 1d6Kits 29Zzzz",
  "1Kits 9Tang 22e7Zzzz 4Kana 1Zzzz 7Kana 1Zzzz 2Kana 1Zzzz 1Kana 11fHira 3Kana fZzzz 1Hira",
  "1dZzzz 3Hira 2Zzzz 1Kana eZzzz 4Kana 8Zzzz 18cNshu 904Zzzz 6bDupl 5Zzzz dDupl 3Zzzz 9Dupl",
  "7Zzzz aDupl 2Zzzz 4Dupl 4Zyyy f5cZzzz faZyyy 6Zzzz 1b4Zyyy 4cZzzz 2eZinh 2Zzzz 17Zinh",
  "9Zzzz 74Zyyy 3cZzzz f6Zyyy aZzzz 27Zyyy 2Zzzz 3eZyyy 3Zinh 11Zyyy 8Zinh 2Zyyy 7Zinh 1eZyyy",
  "4Zinh 3dZyyy 15Zzzz 46Grek 7aZzzz 14Zyyy cZzzz 14Zyyy cZzzz 57Zyyy 9Zzzz 19Zyyy 87Zzzz",
  "55Zyyy 1Zzzz 47Zyyy 1Zzzz 2Zyyy 2Zzzz 1Zyyy 2Zzzz 2Zyyy 2Zzzz 4Zyyy 1Zzzz cZyyy 1Zzzz",
  "1Zyyy 1Zzzz 7Zyyy 1Zzzz 41Zyyy 1Zzzz 4Zyyy 2Zzzz 8Zyyy 1Zzzz 7Zyyy 1Zzzz 1cZyyy 1Zzzz",
  "4Zyyy 1Zzzz 5Zyyy 1Zzzz 1Zyyy 3Zzzz 7Zyyy 1Zzzz 154Zyyy 2Zzzz 124Zyyy 2Zzzz 32Zyyy 28cSgnw",
  "fZzzz 5Sgnw 1Zzzz fSgnw 450Zzzz 1fLatn 6Zzzz 6Latn d5Zzzz 7Glag 1Zzzz 11Glag 2Zzzz 7Glag",
  "1Zzzz 2Glag 1Zzzz 5Glag 5Zzzz 3eCyrl 21Zzzz 1Cyrl 70Zzzz 2dHmnp 3Zzzz eHmnp 2Zzzz aHmnp",
  "4Zzzz 2Hmnp 140Zzzz 1fToto 11Zzzz 3aWcho 5Zzzz 1Wcho 1d0Zzzz 2aNagm d6Zzzz 2bOnao 4Zzzz",
  "1Onao 1e0Zzzz 7Ethi 1Zzzz 4Ethi 1Zzzz 2Ethi 1Zzzz fEthi 1Zzzz c5Mend 2Zzzz 10Mend 29Zzzz",
  "4cAdlm 4Zzzz aAdlm 4Zzzz 2Adlm 311Zzzz 44Zyyy 4cZzzz 3dZyyy c2Zzzz 4Arab 1Zzzz 1bArab",
  "1Zzzz 2Arab 1Zzzz 1Arab 2Zzzz 1Arab 1Zzzz aArab 1Zzzz 4Arab 1Zzzz 1Arab 1Zzzz 1Arab 6Zzzz",
  "1Arab 4Zzzz 1Arab 1Zzzz 1Arab 1Zzzz 1Arab 1Zzzz 3Arab 1Zzzz 2Arab 1Zzzz 1Arab 2Zzzz 1Arab",
  "1Zzzz 1Arab 1Zzzz 1Arab 1Zzzz 1Arab 1Zzzz 1Arab 1Zzzz 2Arab 1Zzzz 1Arab 2Zzzz 4Arab 1Zzzz",
  "7Arab 1Zzzz 4Arab 1Zzzz 4Arab 1Zzzz 1Arab 1Zzzz aArab 1Zzzz 11Arab 5Zzzz 3Arab 1Zzzz 5Arab",
  "1Zzzz 11Arab 34Zzzz 2Arab 10eZzzz 2cZyyy 4Zzzz 64Zyyy cZzzz fZyyy 2Zzzz fZyyy 1Zzzz fZyyy",
  "1Zzzz 25Zyyy aZzzz aeZyyy 38Zzzz 1aZyyy 1Hira 2Zyyy dZzzz 2cZyyy 4Zzzz 9Zyyy 7Zzzz 2Zyyy",
  "eZzzz 6Zyyy 9aZzzz 3d8Zyyy 4Zzzz 11Zyyy 3Zzzz dZyyy 3Zzzz 77Zyyy 4Zzzz 5fZyyy 6Zzzz cZyyy",
  "4Zzzz 1Zyyy fZzzz cZyyy 4Zzzz 38Zyyy 8Zzzz aZyyy 6Zzzz 28Zyyy 8Zzzz 1eZyyy 2Zzzz cZyyy",
  "4Zzzz 2Zyyy 3eZzzz 154Zyyy cZzzz eZyyy 2Zzzz dZyyy 3Zzzz aZyyy 5Zzzz 38Zyyy 7Zzzz fZyyy",
  "2Zzzz bZyyy 6Zzzz 9Zyyy 7Zzzz 93Zyyy 1Zzzz 66Zyyy 406Zzzz a6e0Hani 20Zzzz 103aHani 6Zzzz",
  "deHani 2Zzzz 1682Hani eZzzz 1d31Hani fZzzz 26eHani 9a2Zzzz 21eHani 5e2Zzzz 134bHani 5Zzzz",
  "1060Hani adc51Zzzz 1Zyyy 1eZzzz 60Zyyy 80Zzzz f0Zinh 2fe10Zzzz"]

/-- Characters that several scripts use, or another one than their own. -/
def sharedCharacters : List ((Nat × Nat) × List String) := [
  ((0xb7, 0xb7), ["Avst", "Cari", "Copt", "Dupl", "Elba", "Geor", "Glag", "Gong", "Goth", "Grek",
    "Hani", "Latn", "Lydi", "Mahj", "Perm", "Shaw"]),
  ((0x2bc, 0x2bc), ["Beng", "Cyrl", "Deva", "Latn", "Lisu", "Thai", "Toto"]),
  ((0x2c7, 0x2c7), ["Bopo", "Latn"]), ((0x2c9, 0x2cb), ["Bopo", "Latn"]),
  ((0x2cd, 0x2cd), ["Latn", "Lisu"]), ((0x2d7, 0x2d7), ["Latn", "Thai"]),
  ((0x2d9, 0x2d9), ["Bopo", "Latn"]),
  ((0x300, 0x300), ["Cher", "Copt", "Cyrl", "Grek", "Latn", "Perm", "Sunu", "Tale"]),
  ((0x301, 0x301), ["Cher", "Cyrl", "Grek", "Latn", "Osge", "Sunu", "Tale", "Todr"]),
  ((0x302, 0x302), ["Cher", "Cyrl", "Latn", "Tfng"]),
  ((0x303, 0x303), ["Glag", "Latn", "Sunu", "Syrc", "Thai"]),
  ((0x304, 0x304), ["Aghb", "Cher", "Copt", "Cyrl", "Goth", "Grek", "Latn", "Osge", "Syrc",
    "Tfng", "Todr"]),
  ((0x305, 0x305), ["Copt", "Elba", "Glag", "Goth", "Kana", "Latn"]),
  ((0x306, 0x306), ["Cyrl", "Grek", "Latn", "Perm", "Tfng"]),
  ((0x307, 0x307), ["Copt", "Dupl", "Hebr", "Latn", "Perm", "Syrc", "Tale", "Tfng", "Todr"]),
  ((0x308, 0x308), ["Armn", "Cyrl", "Dupl", "Goth", "Grek", "Hebr", "Latn", "Perm", "Syrc",
    "Tale", "Tfng"]),
  ((0x309, 0x309), ["Latn", "Tfng"]), ((0x30a, 0x30a), ["Dupl", "Latn", "Syrc"]),
  ((0x30b, 0x30b), ["Cher", "Cyrl", "Latn", "Osge"]), ((0x30c, 0x30c), ["Cher", "Latn", "Tale"]),
  ((0x30d, 0x30d), ["Latn", "Sunu"]), ((0x30e, 0x30e), ["Ethi", "Latn"]),
  ((0x310, 0x310), ["Latn", "Sunu"]), ((0x311, 0x311), ["Cyrl", "Latn", "Todr"]),
  ((0x313, 0x313), ["Grek", "Latn", "Perm", "Todr"]),
  ((0x323, 0x323), ["Cher", "Dupl", "Kana", "Latn", "Syrc", "Tfng"]),
  ((0x324, 0x324), ["Cher", "Dupl", "Latn", "Syrc"]), ((0x325, 0x325), ["Latn", "Syrc"]),
  ((0x32d, 0x32d), ["Latn", "Sunu", "Syrc"]), ((0x32e, 0x32e), ["Latn", "Syrc"]),
  ((0x330, 0x330), ["Cher", "Latn", "Syrc"]),
  ((0x331, 0x331), ["Aghb", "Cher", "Goth", "Latn", "Sunu", "Syrc", "Thai"]),
  ((0x342, 0x342), ["Grek"]), ((0x345, 0x345), ["Grek"]), ((0x358, 0x358), ["Latn", "Osge"]),
  ((0x35e, 0x35e), ["Aghb", "Latn", "Todr"]), ((0x363, 0x36f), ["Latn"]),
  ((0x374, 0x375), ["Copt", "Grek"]), ((0x483, 0x483), ["Cyrl", "Perm"]),
  ((0x484, 0x484), ["Cyrl", "Glag"]), ((0x485, 0x486), ["Cyrl", "Latn"]),
  ((0x487, 0x487), ["Cyrl", "Glag"]), ((0x589, 0x589), ["Armn", "Geor", "Glag"]),
  ((0x60c, 0x60c), ["Arab", "Gara", "Nkoo", "Rohg", "Syrc", "Thaa", "Yezi"]),
  ((0x61b, 0x61b), ["Arab", "Gara", "Nkoo", "Rohg", "Syrc", "Thaa", "Yezi"]),
  ((0x61c, 0x61c), ["Arab", "Syrc", "Thaa"]),
  ((0x61f, 0x61f), ["Adlm", "Arab", "Gara", "Nkoo", "Rohg", "Syrc", "Thaa", "Yezi"]),
  ((0x640, 0x640), ["Adlm", "Arab", "Mand", "Mani", "Ougr", "Phlp", "Rohg", "Sogd", "Syrc"]),
  ((0x64b, 0x655), ["Arab", "Syrc"]), ((0x660, 0x669), ["Arab", "Thaa", "Yezi"]),
  ((0x670, 0x670), ["Arab", "Syrc"]), ((0x6d4, 0x6d4), ["Arab", "Rohg"]),
  ((0x951, 0x951), ["Beng", "Deva", "Gran", "Gujr", "Guru", "Knda", "Latn", "Mlym", "Nand",
    "Newa", "Orya", "Shrd", "Taml", "Telu", "Tirh"]),
  ((0x952, 0x952), ["Beng", "Deva", "Gran", "Gujr", "Guru", "Knda", "Latn", "Mlym", "Newa",
    "Orya", "Taml", "Telu", "Tirh"]),
  ((0x964, 0x964), ["Beng", "Deva", "Dogr", "Gong", "Gonm", "Gran", "Gujr", "Guru", "Knda",
    "Mahj", "Mlym", "Nand", "Onao", "Orya", "Sind", "Sinh", "Sylo", "Takr", "Taml", "Telu",
    "Tirh"]),
  ((0x965, 0x965), ["Beng", "Deva", "Dogr", "Gong", "Gonm", "Gran", "Gujr", "Gukh", "Guru",
    "Knda", "Limb", "Mahj", "Mlym", "Nand", "Onao", "Orya", "Sind", "Sinh", "Sylo", "Takr", "Taml",
    "Telu", "Tirh"]),
  ((0x966, 0x96f), ["Deva", "Dogr", "Kthi", "Mahj"]), ((0x9e6, 0x9ef), ["Beng", "Cakm", "Sylo"]),
  ((0xa66, 0xa6f), ["Guru", "Mult"]), ((0xae6, 0xaef), ["Gujr", "Khoj"]),
  ((0xbe6, 0xbf3), ["Gran", "Taml"]), ((0xce6, 0xcef), ["Knda", "Nand", "Tutg"]),
  ((0x1040, 0x1049), ["Cakm", "Mymr", "Tale"]), ((0x10fb, 0x10fb), ["Geor", "Glag", "Latn"]),
  ((0x16eb, 0x16ed), ["Runr"]), ((0x1735, 0x1736), ["Buhd", "Hano", "Tagb", "Tglg"]),
  ((0x1802, 0x1803), ["Mong", "Phag"]), ((0x1805, 0x1805), ["Mong", "Phag"]),
  ((0x1cd0, 0x1cd0), ["Beng", "Deva", "Gran", "Knda"]), ((0x1cd1, 0x1cd1), ["Deva"]),
  ((0x1cd2, 0x1cd2), ["Beng", "Deva", "Gran", "Knda"]),
  ((0x1cd3, 0x1cd3), ["Deva", "Gran", "Knda"]), ((0x1cd4, 0x1cd4), ["Deva"]),
  ((0x1cd5, 0x1cd5), ["Beng", "Deva", "Newa", "Telu", "Tirh"]),
  ((0x1cd6, 0x1cd6), ["Beng", "Deva", "Telu"]), ((0x1cd7, 0x1cd7), ["Deva", "Newa", "Shrd"]),
  ((0x1cd8, 0x1cd8), ["Beng", "Deva", "Newa", "Telu"]), ((0x1cd9, 0x1cd9), ["Deva", "Shrd"]),
  ((0x1cda, 0x1cda), ["Deva", "Knda", "Mlym", "Orya", "Taml", "Telu"]),
  ((0x1cdb, 0x1cdb), ["Deva"]), ((0x1cdc, 0x1cdd), ["Deva", "Shrd"]), ((0x1cde, 0x1cdf), ["Deva"]),
  ((0x1ce0, 0x1ce0), ["Deva", "Shrd"]), ((0x1ce1, 0x1ce1), ["Beng", "Deva"]),
  ((0x1ce2, 0x1ce2), ["Deva", "Newa", "Tirh"]), ((0x1ce3, 0x1ce8), ["Deva"]),
  ((0x1ce9, 0x1ce9), ["Deva", "Nand", "Newa"]), ((0x1cea, 0x1cea), ["Beng", "Deva", "Shrd"]),
  ((0x1ceb, 0x1ceb), ["Deva", "Newa"]), ((0x1cec, 0x1cec), ["Deva"]),
  ((0x1ced, 0x1ced), ["Beng", "Deva", "Newa", "Shrd"]), ((0x1cee, 0x1cf1), ["Deva"]),
  ((0x1cf2, 0x1cf2), ["Beng", "Deva", "Gran", "Knda", "Mlym", "Nand", "Orya", "Sinh", "Telu",
    "Tirh", "Tutg"]),
  ((0x1cf3, 0x1cf3), ["Deva", "Gran"]), ((0x1cf4, 0x1cf4), ["Deva", "Gran", "Knda", "Tutg"]),
  ((0x1cf5, 0x1cf6), ["Beng", "Deva"]), ((0x1cf7, 0x1cf7), ["Beng"]),
  ((0x1cf8, 0x1cf9), ["Deva", "Gran"]), ((0x1cfa, 0x1cfa), ["Nand"]), ((0x1dc0, 0x1dc1), ["Grek"]),
  ((0x1df8, 0x1df8), ["Cyrl", "Latn", "Syrc"]), ((0x1dfa, 0x1dfa), ["Syrc"]),
  ((0x202f, 0x202f), ["Latn", "Mong", "Phag"]), ((0x204f, 0x204f), ["Adlm", "Arab"]),
  ((0x205a, 0x205a), ["Cari", "Geor", "Glag", "Hung", "Lyci", "Orkh"]),
  ((0x205d, 0x205d), ["Cari", "Grek", "Hung", "Mero"]),
  ((0x20f0, 0x20f0), ["Deva", "Gran", "Latn"]), ((0x2e17, 0x2e17), ["Copt", "Latn"]),
  ((0x2e30, 0x2e30), ["Avst", "Orkh"]),
  ((0x2e31, 0x2e31), ["Avst", "Cari", "Geor", "Hung", "Kthi", "Lydi", "Samr"]),
  ((0x2e3c, 0x2e3c), ["Dupl"]), ((0x2e41, 0x2e41), ["Adlm", "Arab", "Hung"]),
  ((0x2e43, 0x2e43), ["Cyrl", "Glag"]), ((0x2ff0, 0x2fff), ["Hani", "Tang"]),
  ((0x3001, 0x3001), ["Bopo", "Hang", "Hani", "Hira", "Kana", "Mong", "Yiii"]),
  ((0x3002, 0x3002), ["Bopo", "Hang", "Hani", "Hira", "Kana", "Mong", "Phag", "Yiii"]),
  ((0x3003, 0x3003), ["Bopo", "Hang", "Hani", "Hira", "Kana"]), ((0x3006, 0x3006), ["Hani"]),
  ((0x3008, 0x3009), ["Bopo", "Hang", "Hani", "Hira", "Kana", "Mong", "Tibt", "Yiii"]),
  ((0x300a, 0x300b), ["Bopo", "Hang", "Hani", "Hira", "Kana", "Lisu", "Mong", "Tibt", "Yiii"]),
  ((0x300c, 0x3011), ["Bopo", "Hang", "Hani", "Hira", "Kana", "Yiii"]),
  ((0x3013, 0x3013), ["Bopo", "Hang", "Hani", "Hira", "Kana"]),
  ((0x3014, 0x301b), ["Bopo", "Hang", "Hani", "Hira", "Kana", "Yiii"]),
  ((0x301c, 0x301f), ["Bopo", "Hang", "Hani", "Hira", "Kana"]),
  ((0x302a, 0x302d), ["Bopo", "Hani"]),
  ((0x3030, 0x3030), ["Bopo", "Hang", "Hani", "Hira", "Kana"]),
  ((0x3031, 0x3035), ["Hira", "Kana"]),
  ((0x3037, 0x3037), ["Bopo", "Hang", "Hani", "Hira", "Kana"]),
  ((0x303c, 0x303d), ["Hani", "Hira", "Kana"]), ((0x303e, 0x303f), ["Hani"]),
  ((0x3099, 0x309c), ["Hira", "Kana"]), ((0x30a0, 0x30a0), ["Hira", "Kana"]),
  ((0x30fb, 0x30fb), ["Bopo", "Hang", "Hani", "Hira", "Kana", "Yiii"]),
  ((0x30fc, 0x30fc), ["Hira", "Kana"]), ((0x3190, 0x319f), ["Hani"]), ((0x31c0, 0x31e5), ["Hani"]),
  ((0x31ef, 0x31ef), ["Hani", "Tang"]), ((0x3220, 0x3247), ["Hani"]), ((0x3280, 0x32b0), ["Hani"]),
  ((0x32c0, 0x32cb), ["Hani"]), ((0x32ff, 0x32ff), ["Hani"]), ((0x3358, 0x3370), ["Hani"]),
  ((0x337b, 0x337f), ["Hani"]), ((0x33e0, 0x33fe), ["Hani"]), ((0xa66f, 0xa66f), ["Cyrl", "Glag"]),
  ((0xa700, 0xa707), ["Hani", "Latn"]),
  ((0xa830, 0xa832), ["Deva", "Dogr", "Gujr", "Guru", "Khoj", "Knda", "Kthi", "Mahj", "Mlym",
    "Modi", "Nand", "Shrd", "Sind", "Takr", "Tirh", "Tutg"]),
  ((0xa833, 0xa835), ["Deva", "Dogr", "Gujr", "Guru", "Khoj", "Knda", "Kthi", "Mahj", "Modi",
    "Nand", "Shrd", "Sind", "Takr", "Tirh", "Tutg"]),
  ((0xa836, 0xa837), ["Deva", "Dogr", "Gujr", "Guru", "Khoj", "Kthi", "Mahj", "Modi", "Sind",
    "Takr", "Tirh"]),
  ((0xa838, 0xa838), ["Deva", "Dogr", "Gujr", "Guru", "Khoj", "Kthi", "Mahj", "Modi", "Shrd",
    "Sind", "Takr", "Tirh"]),
  ((0xa839, 0xa839), ["Deva", "Dogr", "Gujr", "Guru", "Khoj", "Kthi", "Mahj", "Modi", "Sind",
    "Takr", "Tirh"]),
  ((0xa8f1, 0xa8f1), ["Beng", "Deva", "Tutg"]), ((0xa8f3, 0xa8f3), ["Deva", "Taml"]),
  ((0xa92e, 0xa92e), ["Kali", "Latn", "Mymr"]), ((0xa9cf, 0xa9cf), ["Bugi", "Java"]),
  ((0xfd3e, 0xfd3f), ["Arab", "Nkoo"]), ((0xfdf2, 0xfdf2), ["Arab", "Thaa"]),
  ((0xfdfd, 0xfdfd), ["Arab", "Thaa"]),
  ((0xfe45, 0xfe46), ["Bopo", "Hang", "Hani", "Hira", "Kana"]),
  ((0xff61, 0xff65), ["Bopo", "Hang", "Hani", "Hira", "Kana", "Yiii"]),
  ((0xff70, 0xff70), ["Hira", "Kana"]), ((0xff9e, 0xff9f), ["Hira", "Kana"]),
  ((0x10100, 0x10101), ["Cpmn", "Cprt", "Linb"]), ((0x10102, 0x10102), ["Cprt", "Linb"]),
  ((0x10107, 0x10133), ["Cprt", "Lina", "Linb"]), ((0x10137, 0x1013f), ["Cprt", "Linb"]),
  ((0x102e0, 0x102fb), ["Arab", "Copt"]), ((0x10af2, 0x10af2), ["Mani", "Ougr"]),
  ((0x11301, 0x11301), ["Gran", "Taml"]), ((0x11303, 0x11303), ["Gran", "Taml"]),
  ((0x1133b, 0x1133c), ["Gran", "Taml"]), ((0x11fd0, 0x11fd1), ["Gran", "Taml"]),
  ((0x11fd3, 0x11fd3), ["Gran", "Taml"]), ((0x1bca0, 0x1bca3), ["Dupl"]),
  ((0x1d360, 0x1d371), ["Hani"]), ((0x1f250, 0x1f251), ["Hani"])]

/-! ## Names -/

/-- The codes of the scripts, and their names. -/
def scriptNames : List (String × List String) := [
  ("Adlm", ["adlm", "adlam"]), ("Ahom", ["ahom"]), ("Hluw", ["hluw", "anatolianhieroglyphs"]),
  ("Arab", ["arab", "arabic"]), ("Armn", ["armn", "armenian"]), ("Avst", ["avst", "avestan"]),
  ("Bali", ["bali", "balinese"]), ("Bamu", ["bamu", "bamum"]), ("Bass", ["bass", "bassavah"]),
  ("Batk", ["batk", "batak"]), ("Beng", ["beng", "bengali"]), ("Bhks", ["bhks", "bhaiksuki"]),
  ("Bopo", ["bopo", "bopomofo"]), ("Brah", ["brah", "brahmi"]), ("Brai", ["brai", "braille"]),
  ("Bugi", ["bugi", "buginese"]), ("Buhd", ["buhd", "buhid"]),
  ("Cans", ["cans", "canadianaboriginal"]), ("Cari", ["cari", "carian"]),
  ("Aghb", ["aghb", "caucasianalbanian"]), ("Cakm", ["cakm", "chakma"]), ("Cham", ["cham"]),
  ("Cher", ["cher", "cherokee"]), ("Chrs", ["chrs", "chorasmian"]), ("Zyyy", ["zyyy", "common"]),
  ("Copt", ["copt", "coptic", "qaac"]), ("Xsux", ["xsux", "cuneiform"]),
  ("Cprt", ["cprt", "cypriot"]), ("Cpmn", ["cpmn", "cyprominoan"]), ("Cyrl", ["cyrl", "cyrillic"]),
  ("Dsrt", ["dsrt", "deseret"]), ("Deva", ["deva", "devanagari"]),
  ("Diak", ["diak", "divesakuru"]), ("Dogr", ["dogr", "dogra"]), ("Dupl", ["dupl", "duployan"]),
  ("Egyp", ["egyp", "egyptianhieroglyphs"]), ("Elba", ["elba", "elbasan"]),
  ("Elym", ["elym", "elymaic"]), ("Ethi", ["ethi", "ethiopic"]), ("Gara", ["gara", "garay"]),
  ("Geor", ["geor", "georgian"]), ("Glag", ["glag", "glagolitic"]), ("Goth", ["goth", "gothic"]),
  ("Gran", ["gran", "grantha"]), ("Grek", ["grek", "greek"]), ("Gujr", ["gujr", "gujarati"]),
  ("Gong", ["gong", "gunjalagondi"]), ("Guru", ["guru", "gurmukhi"]),
  ("Gukh", ["gukh", "gurungkhema"]), ("Hani", ["hani", "han"]), ("Hang", ["hang", "hangul"]),
  ("Rohg", ["rohg", "hanifirohingya"]), ("Hano", ["hano", "hanunoo"]),
  ("Hatr", ["hatr", "hatran"]), ("Hebr", ["hebr", "hebrew"]), ("Hira", ["hira", "hiragana"]),
  ("Armi", ["armi", "imperialaramaic"]), ("Zinh", ["zinh", "inherited", "qaai"]),
  ("Phli", ["phli", "inscriptionalpahlavi"]), ("Prti", ["prti", "inscriptionalparthian"]),
  ("Java", ["java", "javanese"]), ("Kthi", ["kthi", "kaithi"]), ("Knda", ["knda", "kannada"]),
  ("Kana", ["kana", "katakana"]), ("Kawi", ["kawi"]), ("Kali", ["kali", "kayahli"]),
  ("Khar", ["khar", "kharoshthi"]), ("Kits", ["kits", "khitansmallscript"]),
  ("Khmr", ["khmr", "khmer"]), ("Khoj", ["khoj", "khojki"]), ("Sind", ["sind", "khudawadi"]),
  ("Krai", ["krai", "kiratrai"]), ("Laoo", ["laoo", "lao"]), ("Latn", ["latn", "latin"]),
  ("Lepc", ["lepc", "lepcha"]), ("Limb", ["limb", "limbu"]), ("Lina", ["lina", "lineara"]),
  ("Linb", ["linb", "linearb"]), ("Lisu", ["lisu"]), ("Lyci", ["lyci", "lycian"]),
  ("Lydi", ["lydi", "lydian"]), ("Mahj", ["mahj", "mahajani"]), ("Maka", ["maka", "makasar"]),
  ("Mlym", ["mlym", "malayalam"]), ("Mand", ["mand", "mandaic"]), ("Mani", ["mani", "manichaean"]),
  ("Marc", ["marc", "marchen"]), ("Gonm", ["gonm", "masaramgondi"]),
  ("Medf", ["medf", "medefaidrin"]), ("Mtei", ["mtei", "meeteimayek"]),
  ("Mend", ["mend", "mendekikakui"]), ("Merc", ["merc", "meroiticcursive"]),
  ("Mero", ["mero", "meroitichieroglyphs"]), ("Plrd", ["plrd", "miao"]), ("Modi", ["modi"]),
  ("Mong", ["mong", "mongolian"]), ("Mroo", ["mroo", "mro"]), ("Mult", ["mult", "multani"]),
  ("Mymr", ["mymr", "myanmar"]), ("Nbat", ["nbat", "nabataean"]), ("Nagm", ["nagm", "nagmundari"]),
  ("Nand", ["nand", "nandinagari"]), ("Talu", ["talu", "newtailue"]), ("Newa", ["newa"]),
  ("Nkoo", ["nkoo", "nko"]), ("Nshu", ["nshu", "nushu"]),
  ("Hmnp", ["hmnp", "nyiakengpuachuehmong"]), ("Ogam", ["ogam", "ogham"]),
  ("Olck", ["olck", "olchiki"]), ("Onao", ["onao", "olonal"]), ("Hung", ["hung", "oldhungarian"]),
  ("Ital", ["ital", "olditalic"]), ("Narb", ["narb", "oldnortharabian"]),
  ("Perm", ["perm", "oldpermic"]), ("Xpeo", ["xpeo", "oldpersian"]),
  ("Sogo", ["sogo", "oldsogdian"]), ("Sarb", ["sarb", "oldsoutharabian"]),
  ("Orkh", ["orkh", "oldturkic"]), ("Ougr", ["ougr", "olduyghur"]), ("Orya", ["orya", "oriya"]),
  ("Osge", ["osge", "osage"]), ("Osma", ["osma", "osmanya"]), ("Hmng", ["hmng", "pahawhhmong"]),
  ("Palm", ["palm", "palmyrene"]), ("Pauc", ["pauc", "paucinhau"]), ("Phag", ["phag", "phagspa"]),
  ("Phnx", ["phnx", "phoenician"]), ("Phlp", ["phlp", "psalterpahlavi"]),
  ("Rjng", ["rjng", "rejang"]), ("Runr", ["runr", "runic"]), ("Samr", ["samr", "samaritan"]),
  ("Saur", ["saur", "saurashtra"]), ("Shrd", ["shrd", "sharada"]), ("Shaw", ["shaw", "shavian"]),
  ("Sidd", ["sidd", "siddham"]), ("Sgnw", ["sgnw", "signwriting"]), ("Sinh", ["sinh", "sinhala"]),
  ("Sogd", ["sogd", "sogdian"]), ("Sora", ["sora", "sorasompeng"]), ("Soyo", ["soyo", "soyombo"]),
  ("Sund", ["sund", "sundanese"]), ("Sunu", ["sunu", "sunuwar"]),
  ("Sylo", ["sylo", "sylotinagri"]), ("Syrc", ["syrc", "syriac"]), ("Tglg", ["tglg", "tagalog"]),
  ("Tagb", ["tagb", "tagbanwa"]), ("Tale", ["tale", "taile"]), ("Lana", ["lana", "taitham"]),
  ("Tavt", ["tavt", "taiviet"]), ("Takr", ["takr", "takri"]), ("Taml", ["taml", "tamil"]),
  ("Tnsa", ["tnsa", "tangsa"]), ("Tang", ["tang", "tangut"]), ("Telu", ["telu", "telugu"]),
  ("Thaa", ["thaa", "thaana"]), ("Thai", ["thai"]), ("Tibt", ["tibt", "tibetan"]),
  ("Tfng", ["tfng", "tifinagh"]), ("Tirh", ["tirh", "tirhuta"]), ("Todr", ["todr", "todhri"]),
  ("Toto", ["toto"]), ("Tutg", ["tutg", "tulutigalari"]), ("Ugar", ["ugar", "ugaritic"]),
  ("Vaii", ["vaii", "vai"]), ("Vith", ["vith", "vithkuqi"]), ("Wcho", ["wcho", "wancho"]),
  ("Wara", ["wara", "warangciti"]), ("Yezi", ["yezi", "yezidi"]), ("Yiii", ["yiii", "yi"]),
  ("Zanb", ["zanb", "zanabazarsquare"])]

/-- The code of a script, by one of its names. -/
def scriptCode? (name : String) : Option String :=
  (scriptNames.find? (·.2.contains name)).map (·.1)

/-- The code points of a script. -/
def script? (name : String) : Option CodeSet :=
  (scriptCode? name).map fun code => scripts.among [code]

/-- The code points that a script uses. Where several scripts share a
character, its own script counts only if it is one of them. -/
def scriptExtensions? (name : String) : Option CodeSet :=
  (scriptCode? name).map fun code =>
    let shared := sharedCharacters.partition (·.2.contains code)
    ((scripts.among [code]).diff (.ofRanges (shared.2.map (·.1)))).union
      (.ofRanges (shared.1.map (·.1)))

end EntityStore.Unicode
