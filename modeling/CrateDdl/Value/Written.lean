import CrateDdl.Fault

/-!
# Values that can be written

Whole numbers are written only up to a number of digits. A value with a longer one in it can be
computed with, compared and passed on, but it is a fault to show it.
-/

set_option autoImplicit false

namespace CrateDdl

namespace Value

/-- The value itself, if it can be written. -/
def writable (v : Value) : Except Fault Value :=
  if v.isOversized then .error .longValue else .ok v

/-- The display form of a value, if it can be written. -/
def written (v : Value) : Except Fault String := v.writable.map display

theorem writable_eq_ok_iff {v w : Value} : v.writable = .ok w ↔ v.isOversized = false ∧ v = w := by
  by_cases h : v.isOversized <;> simp [writable, h]

end Value

namespace Fault

/-- The values that the wording of a fault shows. -/
def shown : Fault → List Value
  | platform v | unsupported v | invalidArgument v | configuration v => [v]
  | columnType _ v | notLogicalType v | levelKind v | unknownKey v => [v]
  | _ => []

/-- The fault that is told: where the wording would show a value that cannot be written, it is
that fault instead. -/
def told (fault : Fault) : Fault :=
  if Value.anyOversized fault.shown then .longValue else fault

end Fault

end CrateDdl
