namespace RemoteQuery.Text

/-! Sets of code points given by the ranges that a character property consists
of. -/

def inRanges (ranges : List (Nat × Nat)) (codePoint : Nat) : Bool :=
  ranges.any fun range => range.1 ≤ codePoint && codePoint ≤ range.2

theorem inRanges_iff {ranges : List (Nat × Nat)} {codePoint : Nat} :
    inRanges ranges codePoint = true ↔
      ∃ range ∈ ranges, range.1 ≤ codePoint ∧ codePoint ≤ range.2 := by
  simp [inRanges]

end RemoteQuery.Text
