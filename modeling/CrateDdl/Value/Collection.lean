import CrateDdl.Fault
import CrateDdl.Value.Equality

/-!
# Values as collections

Comparing values, going through the items of a value, joining texts, and dropping repeated items.
`distinct` keeps the first of equal values; only values that cannot change may be compared in this
way.
-/

set_option autoImplicit false

namespace CrateDdl

namespace LogicalType

/-- The type that a value names, or is. -/
def ofValue? (v : Value) : Option LogicalType := v.asText?.bind ofName?

def ofValue (v : Value) : Except Fault LogicalType :=
  match ofValue? v with
  | some t => .ok t
  | none => .error (.notLogicalType v)

end LogicalType

namespace Value

/-- Whether two values are equal, unless comparing them meets a signaling value. -/
def equal (a b : Value) : Except Fault Bool :=
  if a.signals b then .error .signalingComparison else .ok (a.same b)

/-- The items of a value: the characters of a text, the numbers of a byte string, the names of a
record's fields. -/
def items : Value → Except Fault (List Value)
  | text s => .ok (s.toList.map fun c => .text (String.singleton c))
  | logical t => .ok (t.name.toList.map fun c => .text (String.singleton c))
  | bytes data => .ok (data.map fun b => .int b.toNat)
  | list items | tuple items => .ok items
  | record fields => .ok (fields.map fun field => .text field.1)
  | v => .error (.notIterable v.kind)

/-- The texts among which a join puts separators; the first item that is no text is reported with
its position. -/
def textsFrom (position : Nat) : List Value → Except Fault (List String)
  | [] => .ok []
  | v :: rest =>
    match v.asText? with
    | some s => (textsFrom (position + 1) rest).map (s :: ·)
    | none => .error (.notText position v.kind)

/-- The items, which have to be texts, with commas between them. -/
def joined (items : List Value) : Except Fault String := (textsFrom 0 items).map Text.commaSeparated

mutual

/-- What keeps a value from being a key: a list or a record, also inside a tuple. -/
def keyFault? : Value → Option Fault
  | list _ => some (.unhashable "list")
  | record _ => some (.unhashable "dict")
  | decimal (.nan _ true _) => some .signalingKey
  | tuple items => keyFaults? items
  | _ => none

def keyFaults? : List Value → Option Fault
  | [] => none
  | v :: rest => v.keyFault?.or (keyFaults? rest)

end

/-- Drops every value that equals one kept before. -/
def distinctFrom (kept : List Value) : List Value → List Value
  | [] => kept
  | v :: rest => distinctFrom (if kept.any (same · v) then kept else kept ++ [v]) rest

/-- The first of every group of equal values, in order; all have to be able to be keys. -/
def distinct (items : List Value) : Except Fault (List Value) :=
  match keyFaults? items with
  | some fault => .error fault
  | none => .ok (distinctFrom [] items)

end Value

end CrateDdl
