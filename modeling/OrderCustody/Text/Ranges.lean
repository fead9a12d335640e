namespace OrderCustody.Text

/-!
# Character ranges

A property of characters is a list of closed ranges of code points.
-/

/-- Closed ranges of code points. -/
abbrev Ranges := List (Nat × Nat)

/-- Whether a character lies in one of the ranges. -/
def Ranges.contains (ranges : Ranges) (c : Char) : Bool :=
  List.any ranges fun range => range.1 ≤ c.toNat && c.toNat ≤ range.2

/-- A character is contained exactly when some range holds its code point. -/
theorem Ranges.contains_iff {ranges : Ranges} {c : Char} :
    ranges.contains c = true ↔
      ∃ range ∈ ranges, range.1 ≤ c.toNat ∧ c.toNat ≤ range.2 := by
  simp [Ranges.contains]

end OrderCustody.Text
