/-!
# Case shifts

Letters with case stand in runs whose members lie equally far from their counterparts: a whole
alphabet, or every second code point where capitals and small letters alternate.
-/

set_option autoImplicit false

namespace CrateDdl.Text

/-- The code points `first`, `first + step`, …, `last`, each `shift` away from its counterpart. -/
structure ShiftRun where
  first : Nat
  last : Nat
  step : Nat
  shift : Int
deriving DecidableEq, Repr

namespace ShiftRun

def has (r : ShiftRun) (n : Nat) : Bool :=
  r.first ≤ n && n ≤ r.last && (n - r.first) % r.step == 0

def apply (r : ShiftRun) (n : Nat) : Nat := (n + r.shift).toNat

end ShiftRun

/-- The counterpart of a character: its expansion if it has one, else its shift in a run that
has it, else the character itself. -/
def counterpart (runs : List ShiftRun) (expansions : List (Nat × List Nat)) (c : Char) :
    List Char :=
  match runs.find? (·.has c.toNat) with
  | some r => [Char.ofNat (r.apply c.toNat)]
  | none =>
    match expansions.lookup c.toNat with
    | some points => points.map Char.ofNat
    | none => [c]

end CrateDdl.Text
