-- Properties that characters have or lack, after Unicode 16, and their names.
-- Most follow from the tables and the general categories by the rules of the
-- standard.
import EntityStore.Text.Ranges
import EntityStore.Unicode.Category
import EntityStore.Unicode.Contributory

namespace EntityStore.Unicode

/-! ## Letters and case -/

/-- White space. -/
def whiteSpace : CodeSet := .ofRanges Text.blankRanges

def titlecase : CodeSet := category ["Lt"]

def lowercase : CodeSet := (category ["Ll"]).union otherLowercase

def uppercase : CodeSet := (category ["Lu"]).union otherUppercase

def cased : CodeSet := .unions [lowercase, uppercase, titlecase]

def alphabetic : CodeSet :=
  .unions [lowercase, uppercase, category ["Lt", "Lm", "Lo", "Nl"], otherAlphabetic]

/-- Characters that case rules look past. -/
def caseIgnorable : CodeSet :=
  .unions [category ["Mn", "Me", "Cf", "Lm", "Sk"], midLetter, midNumberOrLetter,
    .singleChar '\'']

/-- Small letters of Georgian, which stay small at the start of a title. -/
def georgianSmall : CodeSet := .ofRanges [(0x10d0, 0x10fa), (0x10fd, 0x10ff)]

/-- Letters that change in lower case. -/
def changesLowercased : CodeSet := (uppercase.union titlecase).diff capitalsAlone

/-- Letters that change in upper case. -/
def changesUppercased : CodeSet := (lowercase.diff smallsAlone).union titlecase

/-- Letters that change at the start of a title. -/
def changesTitlecased : CodeSet :=
  .unions [changesUppercased.diff (titlecase.union georgianSmall), .single 0x1c4, .single 0x1c7,
    .single 0x1ca, .single 0x1f1]

/-- Letters that change when they are folded. -/
def changesCasefolded : CodeSet :=
  (changesLowercased.diff (.range 0x13a0 0x13f5)).union foldedOnly

/-- Letters that change in some case. -/
def changesCasemapped : CodeSet :=
  .unions [changesLowercased, changesUppercased, changesTitlecased]

/-! ## Identifiers -/

def idStart : CodeSet :=
  (CodeSet.unions [category ["Lu", "Ll", "Lt", "Lm", "Lo", "Nl"], otherIdStart]).diff
    (patternSyntax.union patternWhiteSpace)

def idContinue : CodeSet :=
  (CodeSet.unions [idStart, category ["Mn", "Mc", "Nd", "Pc"], otherIdContinue]).diff
    (patternSyntax.union patternWhiteSpace)

def xidStart : CodeSet := idStart.diff (compatOnly.union compatStart)

def xidContinue : CodeSet := idContinue.diff compatOnly

/-! ## Parts of characters -/

def graphemeExtend : CodeSet := (category ["Me", "Mn"]).union otherGraphemeExtend

def graphemeBase : CodeSet :=
  ((category ["Cc", "Cf", "Cs", "Co", "Cn", "Zl", "Zp"]).union graphemeExtend).compl

def defaultIgnorable : CodeSet :=
  (CodeSet.unions [otherDefaultIgnorable, category ["Cf"], variationSelector]).diff
    (.unions [whiteSpace, .range 0xfff9 0xfffb, .range 0x13430 0x13440,
      prependedConcatenationMark])

/-- Mathematical symbols. -/
def math : CodeSet := (category ["Sm"]).union otherMath

/-- Characters of words: letters, marks, decimal digits, and characters that
join words. -/
def wordCharacters : CodeSet :=
  .unions [alphabetic, category ["Mn", "Mc", "Me", "Nd", "Pc"], joinControl]

/-- Decimal digits. -/
def decimalDigits : CodeSet := category ["Nd"]

/-! ## Names -/

/-- The properties by their names. -/
def binaryProperties : List (List String × CodeSet) := [
  (["asciihexdigit", "ahex"], asciiHexDigit), (["alphabetic", "alpha"], alphabetic),
  (["bidicontrol", "bidic"], bidiControl), (["bidimirrored", "bidim"], bidiMirrored),
  (["caseignorable", "ci"], caseIgnorable), (["cased"], cased),
  (["changeswhencasefolded", "cwcf"], changesCasefolded),
  (["changeswhencasemapped", "cwcm"], changesCasemapped),
  (["changeswhenlowercased", "cwl"], changesLowercased),
  (["changeswhentitlecased", "cwt"], changesTitlecased),
  (["changeswhenuppercased", "cwu"], changesUppercased), (["dash"], dash),
  (["defaultignorablecodepoint", "di"], defaultIgnorable), (["deprecated", "dep"], deprecated),
  (["diacritic", "dia"], diacritic), (["emoji"], emoji),
  (["emojicomponent", "ecomp"], emojiComponent), (["emojimodifier", "emod"], emojiModifier),
  (["emojimodifierbase", "ebase"], emojiModifierBase),
  (["emojipresentation", "epres"], emojiPresentation),
  (["extendedpictographic", "extpict"], extendedPictographic), (["extender", "ext"], extender),
  (["graphemebase", "grbase"], graphemeBase), (["graphemeextend", "grext"], graphemeExtend),
  (["graphemelink", "grlink"], graphemeLink), (["hexdigit", "hex"], hexDigit),
  (["hyphen"], hyphen), (["idcompatmathcontinue"], compatMathContinue),
  (["idcompatmathstart"], compatMathStart), (["idcontinue", "idc"], idContinue),
  (["idstart", "ids"], idStart), (["idsbinaryoperator", "idsb"], idsBinary),
  (["idstrinaryoperator", "idst"], idsTrinary), (["idsunaryoperator", "idsu"], idsUnary),
  (["ideographic", "ideo"], ideographic), (["joincontrol", "joinc"], joinControl),
  (["logicalorderexception", "loe"], logicalOrderException),
  (["lowercase", "lower"], lowercase), (["math"], math),
  (["modifiercombiningmark", "mcm"], modifierCombiningMark),
  (["noncharactercodepoint", "nchar"], noncharacter),
  (["otheralphabetic", "oalpha"], otherAlphabetic),
  (["otherdefaultignorablecodepoint", "odi"], otherDefaultIgnorable),
  (["othergraphemeextend", "ogrext"], otherGraphemeExtend),
  (["otheridcontinue", "oidc"], otherIdContinue), (["otheridstart", "oids"], otherIdStart),
  (["otherlowercase", "olower"], otherLowercase), (["othermath", "omath"], otherMath),
  (["otheruppercase", "oupper"], otherUppercase),
  (["patternsyntax", "patsyn"], patternSyntax),
  (["patternwhitespace", "patws"], patternWhiteSpace),
  (["prependedconcatenationmark", "pcm"], prependedConcatenationMark),
  (["quotationmark", "qmark"], quotationMark), (["radical"], radical),
  (["regionalindicator", "ri"], regionalIndicator),
  (["sentenceterminal", "sterm"], sentenceTerminal), (["softdotted", "sd"], softDotted),
  (["terminalpunctuation", "term"], terminalPunctuation),
  (["unifiedideograph", "uideo"], unifiedIdeograph), (["uppercase", "upper"], uppercase),
  (["variationselector", "vs"], variationSelector), (["whitespace", "wspace", "space"], whiteSpace),
  (["xidcontinue", "xidc"], xidContinue), (["xidstart", "xids"], xidStart)]

/-- The code points with a property, by one of its names. -/
def binary? (name : String) : Option CodeSet :=
  (binaryProperties.find? (·.1.contains name)).map (·.2)

end EntityStore.Unicode
