-- Patterns with wildcards. In a LIKE pattern a percent sign stands for any text and an
-- underscore for any one character, and letter case does not matter. In a wildcard pattern of
-- a document query these are a star and a question mark, and it is matched as a regular
-- expression. In both a backslash makes the next character stand for itself.
import EntityStore.Text.LetterCase

namespace EntityStore.Like

/-! ## Tokens -/

inductive Token where
  | any
  | one
  | char (c : Char)
  deriving DecidableEq, Repr

/-- The first character of the lower case of a character. -/
def fold (c : Char) : Char := (Text.lowerChar c).headD c

/-- The tokens of a pattern. A backslash at the end stands for itself. -/
def tokens : List Char → List Token
  | [] => []
  | '%' :: rest => .any :: tokens rest
  | '_' :: rest => .one :: tokens rest
  | ['\\'] => [.char '\\']
  | '\\' :: c :: rest => .char (fold c) :: tokens rest
  | c :: rest => .char (fold c) :: tokens rest

/-! ## Matching -/

/-- What comes of fitting tokens to a text one by one, up to a token for any
text. -/
inductive Fit where
  /-- The text has ended. It fits if no token that is left asks for a character. -/
  | ended (fits : Bool)
  /-- The tokens behind the one for any text, and the text from there on. -/
  | any (ts : List Token) (cs : List Char)
  /-- A character is left that does not fit. -/
  | stuck

/-- Fits tokens to a text one by one, up to a token for any text. -/
def fit : List Token → List Char → Fit
  | ts, [] => .ended (ts.all (· = .any))
  | [], _ :: _ => .stuck
  | .any :: ts, c :: cs => .any ts (c :: cs)
  | .one :: ts, _ :: cs => fit ts cs
  | .char d :: ts, c :: cs => if d = c then fit ts cs else .stuck

theorem length_of_fit_eq_any {ts ts' : List Token} {cs cs' : List Char}
    (h : fit ts cs = .any ts' cs') : ts'.length < ts.length ∧ cs'.length ≤ cs.length := by
  fun_induction fit ts cs with
  | case1 | case2 => cases h
  | case3 ts c cs =>
    obtain ⟨rfl, rfl⟩ := Fit.any.inj h
    exact ⟨Nat.lt_succ_self _, Nat.le_refl _⟩
  | case4 ts c cs ih => exact ⟨Nat.lt_succ_of_lt (ih h).1, Nat.le_succ_of_le (ih h).2⟩
  | case5 ts c cs ih => exact ⟨Nat.lt_succ_of_lt (ih h).1, Nat.le_succ_of_le (ih h).2⟩
  | case6 => cases h

theorem ne_nil_of_fit_eq_stuck {ts : List Token} {cs : List Char} (h : fit ts cs = .stuck) :
    cs ≠ [] := by
  rintro rfl
  unfold fit at h
  cases h

/-- The tokens behind a token for any text match some end of the text. Where
a character does not fit they are tried again from one character later. What
stands before the last token for any text is never tried again. -/
def fitsEnd (ts : List Token) (cs : List Char) : Bool :=
  match _h : fit ts cs with
  | .ended fits => fits
  | .any ts cs => fitsEnd ts cs
  | .stuck => fitsEnd ts cs.tail
termination_by ts.length + cs.length
decreasing_by
  · have := length_of_fit_eq_any _h
    omega
  · have := List.length_pos_iff.mpr (ne_nil_of_fit_eq_stuck _h)
    rw [List.length_tail]
    omega

/-- The tokens match the whole text. -/
def matchTokens (ts : List Token) (cs : List Char) : Bool :=
  match fit ts cs with
  | .ended fits => fits
  | .any ts cs => fitsEnd ts cs
  | .stuck => false

/-- The pattern matches the whole text, whatever the letter case. -/
def test (text pattern : String) : Bool :=
  matchTokens (tokens pattern.toList) (Text.lowerChars text.toList)

/-! ## Patterns with stars -/

/-- The character that stands for any text in a pattern of a filter. -/
def star : Char := '*'

/-- One character of a filter's pattern, written as a LIKE pattern. -/
def escape (c : Char) : List Char :=
  if c = '\\' ∨ c = '%' ∨ c = '_' then ['\\', c]
  else if c = star then ['%']
  else [c]

/-- The LIKE pattern of a filter's pattern, in which a star stands for any
text. Without a star the pattern is found anywhere. -/
def ofStarred (raw : List Char) : List Char :=
  if raw.contains star then raw.flatMap escape else '%' :: raw.flatMap escape ++ ['%']

/-- The LIKE pattern of a filter's pattern. -/
def pattern (raw : String) : String := String.ofList (ofStarred raw.toList)

end EntityStore.Like

namespace EntityStore.Wildcard

/-! ## From a filter's pattern -/

/-- One character of a filter's pattern, written as a wildcard pattern. -/
def escape (c : Char) : List Char := if c = '\\' ∨ c = '?' then ['\\', c] else [c]

/-- The wildcard pattern of a filter's pattern. Without a star the pattern
is found anywhere. -/
def ofStarred (raw : List Char) : List Char :=
  if raw.contains Like.star then raw.flatMap escape else '*' :: raw.flatMap escape ++ ['*']

/-- The wildcard pattern of a filter's pattern. -/
def pattern (raw : String) : String := String.ofList (ofStarred raw.toList)

/-! ## To a regular expression -/

/-- The characters that mean something in a regular expression. -/
def isMeta (c : Char) : Bool := "\\.+*?()|[]\x7b\x7d^$#&-~".toList.contains c

/-- A character as a regular expression for itself. -/
def literal (c : Char) : List Char := if isMeta c then ['\\', c] else [c]

/-- The regular expression of a wildcard pattern. A backslash at the end
stands for nothing. -/
def regexChars : List Char → List Char
  | [] => []
  | '*' :: rest => '.' :: '*' :: regexChars rest
  | '?' :: rest => '.' :: regexChars rest
  | ['\\'] => []
  | '\\' :: c :: rest => literal c ++ regexChars rest
  | c :: rest => literal c ++ regexChars rest

/-- The regular expression of a wildcard pattern. -/
def regex (pattern : String) : String := String.ofList (regexChars pattern.toList)

end EntityStore.Wildcard
