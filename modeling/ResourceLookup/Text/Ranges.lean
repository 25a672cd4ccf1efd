import ResourceLookup.Text

/-!
# Sets of code points as ranges

The tables of this library that follow the Unicode character database are lists of
inclusive ranges; membership is a walk along the list.
-/

namespace ResourceLookup.Text

abbrev Ranges := List (Nat × Nat)

def Ranges.holds (rs : Ranges) (c : Nat) : Bool := rs.any fun r => r.1 ≤ c && c ≤ r.2

theorem Ranges.holds_iff (rs : Ranges) (c : Nat) :
    rs.holds c = true ↔ ∃ r ∈ rs, r.1 ≤ c ∧ c ≤ r.2 := by
  simp [Ranges.holds]

end ResourceLookup.Text
