/-!
# Code point ranges

A class of characters is a list of closed ranges of code points.
-/

set_option autoImplicit false

namespace CrateDdl.Text

/-- The code points from `first` to `last`, both included. -/
structure CodeRange where
  first : Nat
  last : Nat
deriving DecidableEq, Repr

namespace CodeRange

def has (r : CodeRange) (c : Char) : Bool := r.first ≤ c.toNat && c.toNat ≤ r.last

theorem has_iff {r : CodeRange} {c : Char} :
    r.has c = true ↔ r.first ≤ c.toNat ∧ c.toNat ≤ r.last := by
  simp [has]

end CodeRange

/-- The character lies in one of the ranges. -/
def inRanges (ranges : List CodeRange) (c : Char) : Bool := ranges.any (·.has c)

theorem inRanges_iff {ranges : List CodeRange} {c : Char} :
    inRanges ranges c = true ↔ ∃ r ∈ ranges, r.first ≤ c.toNat ∧ c.toNat ≤ r.last := by
  simp [inRanges, CodeRange.has_iff]

end CrateDdl.Text
