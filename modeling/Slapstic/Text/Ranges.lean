/-!
# Text/Ranges — a property of characters, given by its code points

Properties of characters come as tables of code points.  A table is kept as its **ranges**, in
order and with both ends included, and read off by `Ranges.has`.
-/

namespace Slapstic.Text

/-- Code point ranges, each from its first to its last member. -/
abbrev Ranges := List (Nat × Nat)

/-- **A character is in the table** when one of the ranges holds its code point. -/
def Ranges.has (table : Ranges) (c : Char) : Bool :=
  table.any fun range => range.1 ≤ c.toNat && c.toNat ≤ range.2

theorem Ranges.has_eq_true_iff {table : Ranges} {c : Char} :
    table.has c = true ↔ ∃ range ∈ table, range.1 ≤ c.toNat ∧ c.toNat ≤ range.2 := by
  simp [Ranges.has]

end Slapstic.Text
