-- Cutting texts at a separator, and searching one text in another.

namespace EntityStore.Text

/-! ## On lists of characters -/

/-- The parts between the separators. There is always at least one part. -/
def splitChars (sep : Char) : List Char → List (List Char)
  | [] => [[]]
  | c :: rest =>
    if c = sep then [] :: splitChars sep rest
    else match splitChars sep rest with
      | [] => [[c]]
      | part :: parts => (c :: part) :: parts

theorem splitChars_ne_nil (sep : Char) (cs : List Char) : splitChars sep cs ≠ [] := by
  induction cs with
  | nil => simp [splitChars]
  | cons c rest ih =>
    unfold splitChars
    split
    · simp
    · split <;> simp

theorem splitChars_of_not_mem {sep : Char} {cs : List Char} (h : sep ∉ cs) :
    splitChars sep cs = [cs] := by
  induction cs with
  | nil => rfl
  | cons c rest ih =>
    rw [List.mem_cons, not_or] at h
    rw [splitChars, if_neg (Ne.symm h.1), ih h.2]

/-- The longer text has the shorter one somewhere inside. -/
def hasInfix (needle : List Char) : List Char → Bool
  | [] => needle.isEmpty
  | c :: rest => needle.isPrefixOf (c :: rest) || hasInfix needle rest

/-! ## On texts -/

/-- The parts of a text between the separators. -/
def split (sep : Char) (s : String) : List String :=
  (splitChars sep s.toList).map String.ofList

theorem split_ne_nil (sep : Char) (s : String) : split sep s ≠ [] := by
  simp [split, splitChars_ne_nil]

/-- The text holds the character. -/
def hasChar (c : Char) (s : String) : Bool := s.toList.contains c

/-- A text without separators is its only part. -/
theorem split_of_hasChar_eq_false {sep : Char} {s : String} (h : hasChar sep s = false) :
    split sep s = [s] := by
  have hmem : sep ∉ s.toList := by simpa [hasChar] using h
  rw [split, splitChars_of_not_mem hmem, List.map_singleton, String.ofList_toList]

/-- The text holds the other text. -/
def holds (s needle : String) : Bool := hasInfix needle.toList s.toList

/-- The text behind a given beginning. -/
def dropFront? (front s : String) : Option String :=
  if front.toList.isPrefixOf s.toList then some (String.ofList (s.toList.drop front.length))
  else none

/-- The text before a given ending. -/
def dropBack? (back s : String) : Option String :=
  if back.toList.isSuffixOf s.toList then
    some (String.ofList (s.toList.take (s.length - back.length)))
  else none

end EntityStore.Text
