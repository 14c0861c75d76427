import ElementTags.Text.Basic

/-!
# Classes of characters given by ranges
-/

namespace ElementTags.Text

/-- Whether the code point of a character lies in one of the ranges, ends included. -/
def inRanges (ranges : Array (Nat × Nat)) (c : Char) : Bool :=
  ranges.any fun (first, last) => first ≤ c.toNat && c.toNat ≤ last

end ElementTags.Text
