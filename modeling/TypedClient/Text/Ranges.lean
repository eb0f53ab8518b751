/-!
# Classes of characters

A class of characters is given by ranges of code points, and `inRanges` says whether a
character belongs to it. The tables in this folder are those of version 17 of the
character set.
-/

namespace TypedClient.Text

/-- Ranges of code points, each with its first and its last. -/
abbrev Ranges : Type := List (Nat × Nat)

/-- Whether a character lies in one of the ranges. -/
def inRanges (ranges : Ranges) (c : Char) : Bool :=
  ranges.any fun (low, high) => low ≤ c.toNat && c.toNat ≤ high

end TypedClient.Text
