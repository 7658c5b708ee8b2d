import Flashcards.Text.Basic

/-!
# Ranges of characters

A class of characters that a standard fixes is a list of ranges of code points in increasing order. The tables are in the modules
that are named for the classes.
-/

namespace Flashcards.Text

/-- Ranges of code points, each by its first and its last, in increasing order. -/
abbrev Ranges := List (Nat × Nat)

/-- Whether a code point lies in one of the ranges. The search ends at the first range that begins above it. -/
def Ranges.holds : Ranges → Nat → Bool
  | [], _ => false
  | (first, last) :: rest, n => if n < first then false else if n ≤ last then true else holds rest n

end Flashcards.Text
