-- Regular expressions, as trees.
import EntityStore.Unicode.CodeSet

namespace EntityStore

/-- A condition on a place in a text. -/
inductive Assertion where
  | textStart
  | textEnd
  /-- The start of a line that a line feed begins. -/
  | lineStart
  | lineEnd
  /-- The start of a line, where carriage returns begin lines too. -/
  | lineStartReturn
  | lineEndReturn
  /-- Of the characters on either side exactly one is of the set. -/
  | edge (w : CodeSet)
  | noEdge (w : CodeSet)
  /-- A character of the set follows, and none comes before. -/
  | wordStart (w : CodeSet)
  | wordEnd (w : CodeSet)
  /-- No character of the set comes before. -/
  | afterNonWord (w : CodeSet)
  | beforeNonWord (w : CodeSet)
  deriving DecidableEq, Repr

inductive Regex where
  | empty
  /-- One character of the set. -/
  | set (s : CodeSet)
  | assert (a : Assertion)
  | cat (r s : Regex)
  | alt (r s : Regex)
  /-- At least `least` times, and at most `most` times if there is a bound. -/
  | times (r : Regex) (least : Nat) (most : Option Nat)
  /-- An expression in brackets, which may be one that is remembered. -/
  | group (remembered : Bool) (r : Regex)
  deriving Repr

end EntityStore
