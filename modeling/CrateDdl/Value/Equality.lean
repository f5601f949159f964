import CrateDdl.Value.Basic

/-!
# Equality of values

Numbers are equal if they denote the same number, whatever their kind; booleans count as one and
zero, and what is no number equals nothing. A logical type equals the text of its name. Lists,
tuples and records are compared item by item, each only with its own kind. Comparing goes on up to
the first difference; a signaling value that is compared with a number on the way is reported.
-/

set_option autoImplicit false

namespace CrateDdl

open CrateDdl.Number

/-- A number or an infinity. -/
inductive Magnitude
  | finite (x : Exact)
  | infinite (negative : Bool)
deriving DecidableEq, Repr

namespace Magnitude

def ofBinary64? : Binary64 → Option Magnitude
  | .infinite negative => some (.infinite negative)
  | x => x.toExact?.map .finite

def ofDecimal? : Decimal → Option Magnitude
  | .infinite negative => some (.infinite negative)
  | x => x.toExact?.map .finite

def ofInt (n : Int) : Magnitude := .finite (Exact.ofInt n)

end Magnitude

namespace Value

/-- What a value without items is compared by. -/
inductive Key
  | null
  | number (re im : Magnitude)
  | text (s : String)
  | bytes (data : List UInt8)
  | columnType (type : ColumnType)
deriving DecidableEq, Repr

/-- A real number as a key. -/
def Key.real (x : Magnitude) : Key := .number x (.finite Exact.zero)

/-- The key of a value without items; what is no number has none. -/
def key? : Value → Option Key
  | null => some .null
  | bool b => some (.real (.ofInt (if b then 1 else 0)))
  | int n => some (.real (.ofInt n))
  | float x => (Magnitude.ofBinary64? x).map .real
  | decimal x => (Magnitude.ofDecimal? x).map .real
  | fraction q => some (.real (.finite (Exact.ofScaled q.num q.den 0 0)))
  | complex re im => do
    return .number (← Magnitude.ofBinary64? re) (← Magnitude.ofBinary64? im)
  | text s => some (.text s)
  | logical t => some (.text t.name)
  | bytes data => some (.bytes data)
  | columnType t => some (.columnType t)
  | list _ | tuple _ | record _ => none

/-- Two values have keys, and the same one. -/
def sameKey (a b : Value) : Bool :=
  match a.key?, b.key? with
  | some x, some y => x == y
  | _, _ => false

mutual

/-- Equality of values. -/
def same : Value → Value → Bool
  | list xs, b => match b with
    | list ys => sameItems xs ys
    | _ => false
  | tuple xs, b => match b with
    | tuple ys => sameItems xs ys
    | _ => false
  | record fs, b => match b with
    | record gs => sameFields fs gs
    | _ => false
  | a, b => sameKey a b

def sameItems : List Value → List Value → Bool
  | [], ys => ys.isEmpty
  | x :: xs, ys => match ys with
    | [] => false
    | y :: ys => same x y && sameItems xs ys

def sameFields : List (String × Value) → List (String × Value) → Bool
  | [], gs => gs.isEmpty
  | (name, x) :: fs, gs => match gs with
    | [] => false
    | (name', y) :: gs => name == name' && same x y && sameFields fs gs

end

/-! ## Signaling comparisons -/

def isSignaling : Value → Bool
  | decimal (.nan _ signaling _) => signaling
  | _ => false

/-- A value that a decimal is compared with as a number: a complex one only if it lies on the real
line. -/
def isReal : Value → Bool
  | complex _ im => im.isZero
  | v => v.isNumber

mutual

/-- Comparing the values meets a signaling value. Lists and records of different sizes are
different before their items are looked at; a record's fields are looked up by name. -/
def signals : Value → Value → Bool
  | list xs, b => match b with
    | list ys => xs.length == ys.length && signalsItems xs ys
    | _ => false
  | tuple xs, b => match b with
    | tuple ys => signalsItems xs ys
    | _ => false
  | record fs, b => match b with
    | record gs => fs.length == gs.length && signalsFields fs gs
    | _ => false
  | a, b => (a.isSignaling && b.isReal) || (b.isSignaling && a.isReal)

def signalsItems : List Value → List Value → Bool
  | [], _ => false
  | x :: xs, ys => match ys with
    | [] => false
    | y :: ys => signals x y || (same x y && signalsItems xs ys)

def signalsFields : List (String × Value) → List (String × Value) → Bool
  | [], _ => false
  | (name, x) :: fs, gs => match gs.lookup name with
    | none => false
    | some y => signals x y || (same x y && signalsFields fs gs)

end

end Value

end CrateDdl
