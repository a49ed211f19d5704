namespace TxClient.Text

/-- The character's code point lies in one of the ranges, both ends of a range included. -/
def inRanges (ranges : List (Nat × Nat)) (c : Char) : Bool :=
  ranges.any fun (first, last) => first ≤ c.toNat && c.toNat ≤ last

end TxClient.Text
