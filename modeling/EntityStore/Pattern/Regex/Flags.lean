-- Flags of regular expressions, what stands for nothing in a pattern, and the sets of
-- characters that patterns name. The names of properties may be written in any case, with
-- spaces, underscores and minus signs anywhere, and with "is" in front.
import EntityStore.Pattern.Regex.Basic
import EntityStore.Text.Ranges
import EntityStore.Unicode.Folding
import EntityStore.Unicode.Values

namespace EntityStore.Unicode

/-- A name without what makes no difference. -/
def bareName (name : String) : String :=
  let cs := name.toList
  let isFirst := (cs.take 2).map Char.toLower == ['i', 's']
  let bare := ((if isFirst then cs.drop 2 else cs).filter fun c =>
    c.val < 128 && c != ' ' && c != '_' && c != '-').map Char.toLower
  String.ofList (if isFirst && bare == ['c'] then ['i', 's', 'c'] else bare)

/-- The characters that a single name stands for: a property, a general
category or a script. Of two meanings the first one counts. -/
def named? (name : String) : Option CodeSet :=
  let name := bareName name
  (binary? name <|> category? name) <|> script? name

/-- The set that a list of values by their names has for one of them. -/
def valueOf? (values : List (List String × CodeSet)) (name : String) : Option CodeSet :=
  (values.find? (·.1.contains name)).map (·.2)

/-- The characters that have a value of a property, both by their names. -/
def valued? (property value : String) : Option CodeSet :=
  let value := bareName value
  match bareName property with
  | "generalcategory" | "gc" => category? value
  | "script" | "sc" => script? value
  | "scriptextensions" | "scx" => scriptExtensions? value
  | "age" => age? value
  | "graphemeclusterbreak" | "gcb" => valueOf? graphemeBreaks value
  | "wordbreak" | "wb" => valueOf? wordBreaks value
  | "sentencebreak" | "sb" => valueOf? sentenceBreaks value
  | _ => none

end EntityStore.Unicode

namespace EntityStore.CharSet

/-! ## Characters of ASCII -/

def lowerLetters : CodeSet := .range 0x61 0x7a

def upperLetters : CodeSet := .range 0x41 0x5a

def letters : CodeSet := lowerLetters.union upperLetters

def digits : CodeSet := .range 0x30 0x39

def wordChars : CodeSet := .unions [letters, digits, .singleChar '_']

def blanks : CodeSet := .unions [.range 0x9 0xd, .singleChar ' ']

/-- The class that a name in brackets and colons stands for. -/
def named? : String → Option CodeSet
  | "alnum" => some (letters.union digits)
  | "alpha" => some letters
  | "ascii" => some (.range 0 0x7f)
  | "blank" => some (.ofRanges [(0x9, 0x9), (0x20, 0x20)])
  | "cntrl" => some (.ofRanges [(0, 0x1f), (0x7f, 0x7f)])
  | "digit" => some digits
  | "graph" => some (.range 0x21 0x7e)
  | "lower" => some lowerLetters
  | "print" => some (.range 0x20 0x7e)
  | "punct" => some (.ofRanges [(0x21, 0x2f), (0x3a, 0x40), (0x5b, 0x60), (0x7b, 0x7e)])
  | "space" => some blanks
  | "upper" => some upperLetters
  | "word" => some wordChars
  | "xdigit" => some (.ofRanges [(0x30, 0x39), (0x41, 0x46), (0x61, 0x66)])
  | _ => none

end EntityStore.CharSet

namespace EntityStore.Regex

structure Flags where
  /-- Letter case does not matter. -/
  caseless : Bool
  /-- The start and end of a line count as start and end. -/
  lines : Bool
  /-- The point stands for line feeds too. -/
  pointIsAll : Bool
  /-- Classes hold the characters of all scripts, not of ASCII only. -/
  allScripts : Bool
  /-- White space and comments in the pattern stand for nothing. -/
  spaced : Bool
  /-- Carriage returns end lines too. -/
  returns : Bool
  deriving DecidableEq, Repr

namespace Flags

/-- The flags at the start of a pattern. -/
def initial : Flags := ⟨true, false, false, true, false, false⟩

/-- A letter that names a flag, switched on or off. -/
def set? (f : Flags) (letter : Char) (value : Bool) : Option Flags :=
  match letter with
  | 'i' => some { f with caseless := value }
  | 'm' => some { f with lines := value }
  | 's' => some { f with pointIsAll := value }
  | 'u' => some { f with allScripts := value }
  | 'x' => some { f with spaced := value }
  | 'R' => some { f with returns := value }
  | 'U' => some f
  | _ => none

/-! ## What stands for nothing -/

end Flags

/-- Skips white space and comments. -/
def skipBlanks (inComment : Bool) : List Char → List Char
  | [] => []
  | c :: rest =>
    if inComment then skipBlanks (c != '\n') rest
    else if Text.isBlank c then skipBlanks false rest
    else if c == '#' then skipBlanks true rest
    else c :: rest

namespace Flags

/-- Skips white space and comments where they stand for nothing. -/
def skip (f : Flags) (cs : List Char) : List Char :=
  if f.spaced then skipBlanks false cs else cs

/-- The next character behind blanks. Of a comment in the way only its sign
is skipped. -/
def peek? (f : Flags) (cs : List Char) : Option Char :=
  if f.spaced then
    match cs.dropWhile Text.isBlank with
    | '#' :: rest => (rest.dropWhile Text.isBlank).head?
    | rest => rest.head?
  else cs.head?

/-- The characters up to a closing brace, and the rest behind it. -/
def upToBrace (f : Flags) (inComment : Bool) : List Char → Option (List Char × List Char)
  | [] => none
  | c :: rest =>
    if inComment then f.upToBrace (c != '\n') rest
    else if f.spaced && Text.isBlank c then f.upToBrace false rest
    else if f.spaced && c == '#' then f.upToBrace true rest
    else if c == '\x7d' then some ([], rest)
    else (f.upToBrace false rest).map fun (inside, after) => (c :: inside, after)

/-- A number of characters, and the rest. -/
def takeChars (f : Flags) : Nat → List Char → Option (List Char × List Char)
  | 0, cs => some ([], cs)
  | n + 1, cs =>
    match f.skip cs with
    | [] => none
    | c :: rest => (f.takeChars n rest).map fun (taken, after) => (c :: taken, after)

/-! ## Sets -/

def digitSet (f : Flags) : CodeSet :=
  if f.allScripts then Unicode.decimalDigits else CharSet.digits

def blankSet (f : Flags) : CodeSet :=
  if f.allScripts then Unicode.whiteSpace else CharSet.blanks

def wordSet (f : Flags) : CodeSet :=
  if f.allScripts then Unicode.wordCharacters else CharSet.wordChars

/-- The complement of a set. With the characters of ASCII only it would hold
half characters, and is refused. -/
def compl? (f : Flags) (s : CodeSet) : Option CodeSet :=
  if f.allScripts then some s.compl else none

/-- The set with all case variants, where letter case does not matter. -/
def fold (f : Flags) (s : CodeSet) : CodeSet :=
  if f.caseless then (if f.allScripts then s.fold else s.foldAscii) else s

/-- The characters that a character of the pattern stands for. -/
def charSet (f : Flags) (c : Char) : CodeSet :=
  if f.caseless then (if f.allScripts then .variants c else (CodeSet.singleChar c).foldAscii)
  else .singleChar c

/-- A set with all case variants, which may then be complemented. -/
def class? (f : Flags) (negated : Bool) (s : CodeSet) : Option CodeSet :=
  if negated then f.compl? (f.fold s) else some (f.fold s)

/-- The set of the point. -/
def point? (f : Flags) : Option CodeSet :=
  if f.pointIsAll then f.compl? .empty
  else if f.returns then f.compl? (.ofRanges [(0xa, 0xa), (0xd, 0xd)])
  else f.compl? (.singleChar '\n')

/-! ## Assertions -/

def startAssertion (f : Flags) : Assertion :=
  if f.lines then (if f.returns then .lineStartReturn else .lineStart) else .textStart

def endAssertion (f : Flags) : Assertion :=
  if f.lines then (if f.returns then .lineEndReturn else .lineEnd) else .textEnd

end Flags

/-! ## Flags in a pattern -/

/-- A letter of a flag group with the way it is switched. Flags behind a
minus sign are switched off. -/
structure FlagGroup where
  flags : Flags
  /-- The letters so far, and the minus sign. -/
  seen : List Char

/-- The flags up to a colon or the closing bracket, which is not taken. No
letter comes twice, and letters follow the minus sign. -/
def readFlags : FlagGroup → List Char → Option (FlagGroup × List Char)
  | _, [] => none
  | g, c :: rest =>
    if c == ':' || c == ')' then
      if g.seen.head? == some '-' then none else some (g, c :: rest)
    else if g.seen.contains c then none
    else if c == '-' then readFlags { g with seen := '-' :: g.seen } rest
    else
      match g.flags.set? c (!g.seen.contains '-') with
      | none => none
      | some flags => readFlags ⟨flags, c :: g.seen⟩ rest

end EntityStore.Regex
