import CrateDdl.Proofs.ExactForm

/-!
# What equal values have in common

A value means what it is equal to others by: a number means the number that it is, whatever its
kind, a text its characters, a collection the meanings of its items. What is no number means
nothing, nor does a collection with such an item. Two values are equal just if both mean the same
(`equal_eq_ok_true_iff_meaning`), so equality of values is symmetric and transitive across all
kinds, and a value equals itself if it means something.

Of values that can be keys, every comparison has an answer (`equal_of_keyFault?`).
-/

set_option autoImplicit false

namespace CrateDdl

namespace Number

/-- A rational number, or an infinity of either sign. -/
inductive Quantity
  | finite (q : ℚ)
  | infinite (negative : Bool)

/-- The number `m * base ^ exponent` with a sign. -/
def signedScaled (negative : Bool) (m base : Nat) (exponent : Int) : ℚ :=
  (if negative then -(m : Int) else m : Int) * base ^ exponent

def Binary64.quantity? : Binary64 → Option Quantity
  | .nan => none
  | .infinite negative => some (.infinite negative)
  | .finite negative m e => some (.finite (signedScaled negative m 2 e))

def Decimal.quantity? : Decimal → Option Quantity
  | .nan .. => none
  | .infinite negative => some (.infinite negative)
  | .finite negative coefficient e => some (.finite (signedScaled negative coefficient 10 e))

end Number

open CrateDdl.Number

/-- What values can mean. A number is the complex one with the given parts. -/
inductive Meaning
  | null
  | number (re im : Quantity)
  | text (s : String)
  | bytes (data : List UInt8)
  | columnType (type : ColumnType)
  | list (items : List Meaning)
  | tuple (items : List Meaning)
  | record (fields : List (String × Meaning))

def Meaning.real (x : Quantity) : Meaning := .number x (.finite 0)

namespace Value

mutual

/-- What a value means; what is no number, or has such an item, has no meaning. -/
def meaning? : Value → Option Meaning
  | null => some .null
  | bool b => some (.real (.finite (if b then 1 else 0)))
  | int n => some (.real (.finite n))
  | float x => x.quantity?.map .real
  | decimal x => x.quantity?.map .real
  | fraction q => some (.real (.finite q))
  | complex re im => re.quantity?.bind fun x => im.quantity?.map fun y => .number x y
  | text s => some (.text s)
  | logical t => some (.text t.name)
  | bytes data => some (.bytes data)
  | columnType t => some (.columnType t)
  | list items => (meanings? items).map .list
  | tuple items => (meanings? items).map .tuple
  | record fields => (fieldMeanings? fields).map .record

def meanings? : List Value → Option (List Meaning)
  | [] => some []
  | v :: rest => v.meaning?.bind fun m => (meanings? rest).map fun ms => m :: ms

def fieldMeanings? : List (String × Value) → Option (List (String × Meaning))
  | [] => some []
  | (name, v) :: rest =>
    v.meaning?.bind fun m => (fieldMeanings? rest).map fun ms => (name, m) :: ms

end

end Value

/-! ## Meanings and what is compared -/

namespace Number

/-- What a quantity is compared by. -/
def Quantity.magnitude : Quantity → Magnitude
  | .finite q => .finite (Exact.ofRat q)
  | .infinite negative => .infinite negative

theorem Quantity.magnitude_injective : Function.Injective Quantity.magnitude := by
  intro x y h
  cases x <;> cases y <;> simp_all [magnitude, Exact.ofRat_injective.eq_iff]

theorem Quantity.magnitude_finite_zero : magnitude (.finite 0) = .finite Exact.zero :=
  congrArg Magnitude.finite Exact.ofRat_zero

theorem ofBinary64?_eq (x : Binary64) :
    Magnitude.ofBinary64? x = x.quantity?.map Quantity.magnitude := by
  cases x with
  | nan => rfl
  | infinite negative => rfl
  | finite negative m e =>
    simp [Magnitude.ofBinary64?, Binary64.toExact?, Binary64.quantity?, Quantity.magnitude,
      signedScaled, Exact.ofScaled_eq_ofRat]

theorem ofDecimal?_eq (x : Decimal) :
    Magnitude.ofDecimal? x = x.quantity?.map Quantity.magnitude := by
  cases x with
  | nan => rfl
  | infinite negative => rfl
  | finite negative coefficient e =>
    have hten : (2 ^ e * 5 ^ e : ℚ) = 10 ^ e := by
      rw [← mul_zpow]
      norm_num
    simp [Magnitude.ofDecimal?, Decimal.toExact?, Decimal.quantity?, Quantity.magnitude,
      signedScaled, Exact.ofScaled_eq_ofRat, mul_assoc, hten]

theorem ofInt_eq (n : Int) : Magnitude.ofInt n = (Quantity.finite n).magnitude := by
  simp [Magnitude.ofInt, Exact.ofInt, Quantity.magnitude, Exact.ofScaled_eq_ofRat]

theorem ofScaled_num_den (q : ℚ) : Exact.ofScaled q.num q.den 0 0 = Exact.ofRat q := by
  simp [Exact.ofScaled_eq_ofRat, Rat.num_div_den]

end Number

namespace Meaning

/-- What values of this meaning are compared by, if they have no items. -/
def key? : Meaning → Option Value.Key
  | null => some .null
  | number re im => some (.number re.magnitude im.magnitude)
  | text s => some (.text s)
  | bytes data => some (.bytes data)
  | columnType t => some (.columnType t)
  | list _ | tuple _ | record _ => none

@[simp] theorem key?_real (x : Quantity) : (real x).key? = some (.real x.magnitude) := by
  rw [real, key?, Value.Key.real, Quantity.magnitude_finite_zero]

/-- Different meanings are not compared by the same. -/
theorem eq_of_key? {m m' : Meaning} {k : Value.Key} (h : m.key? = some k) (h' : m'.key? = some k) :
    m = m' := by
  cases m with
  | list | tuple | record => cases h
  | number re im =>
    cases h
    cases m' with
    | number re' im' =>
      obtain ⟨hre, him⟩ := Value.Key.number.inj (Option.some.inj h')
      rw [Quantity.magnitude_injective hre, Quantity.magnitude_injective him]
    | _ => cases h'
  | _ =>
    cases h
    cases m' <;> cases h'
    rfl

end Meaning

namespace Value

/-- What a value is compared by depends on its meaning only. -/
theorem key?_eq_bind (v : Value) : v.key? = v.meaning?.bind Meaning.key? := by
  cases v with
  | bool b => cases b <;> simp [key?, meaning?, ofInt_eq]
  | int n => simp [key?, meaning?, ofInt_eq]
  | float x =>
    rw [key?, meaning?, ofBinary64?_eq]
    cases x.quantity? <;> simp
  | decimal x =>
    rw [key?, meaning?, ofDecimal?_eq]
    cases x.quantity? <;> simp
  | fraction q =>
    rw [key?, ofScaled_num_den]
    exact (Meaning.key?_real (.finite q)).symm
  | complex re im =>
    rw [key?, meaning?, ofBinary64?_eq, ofBinary64?_eq]
    cases re.quantity? <;> cases im.quantity? <;> simp [Meaning.key?]
  | list items => cases h : meanings? items <;> simp [key?, meaning?, Meaning.key?, h]
  | tuple items => cases h : meanings? items <;> simp [key?, meaning?, Meaning.key?, h]
  | record fields => cases h : fieldMeanings? fields <;> simp [key?, meaning?, Meaning.key?, h]
  | _ => rfl

/-! ## Meanings of collections -/

theorem meaning?_eq_list {v : Value} {ms : List Meaning} :
    v.meaning? = some (.list ms) ↔ ∃ items, v = .list items ∧ meanings? items = some ms := by
  cases v <;> simp [meaning?, Meaning.real, Option.bind_eq_some_iff]

theorem meaning?_eq_tuple {v : Value} {ms : List Meaning} :
    v.meaning? = some (.tuple ms) ↔ ∃ items, v = .tuple items ∧ meanings? items = some ms := by
  cases v <;> simp [meaning?, Meaning.real, Option.bind_eq_some_iff]

theorem meaning?_eq_record {v : Value} {ms : List (String × Meaning)} :
    v.meaning? = some (.record ms) ↔
      ∃ fields, v = .record fields ∧ fieldMeanings? fields = some ms := by
  cases v <;> simp [meaning?, Meaning.real, Option.bind_eq_some_iff]

theorem meanings?_eq_nil {items : List Value} : meanings? items = some [] ↔ items = [] := by
  cases items <;> simp [meanings?, Option.bind_eq_some_iff]

theorem meanings?_eq_cons {items : List Value} {m : Meaning} {ms : List Meaning} :
    meanings? items = some (m :: ms) ↔
      ∃ v rest, items = v :: rest ∧ v.meaning? = some m ∧ meanings? rest = some ms := by
  cases items <;> simp [meanings?, Option.bind_eq_some_iff]

theorem fieldMeanings?_eq_nil {fields : List (String × Value)} :
    fieldMeanings? fields = some [] ↔ fields = [] := by
  cases fields <;> simp [fieldMeanings?, Option.bind_eq_some_iff]

theorem fieldMeanings?_eq_cons {fields : List (String × Value)} {name : String} {m : Meaning}
    {ms : List (String × Meaning)} :
    fieldMeanings? fields = some ((name, m) :: ms) ↔
      ∃ v rest, fields = (name, v) :: rest ∧ v.meaning? = some m ∧
        fieldMeanings? rest = some ms := by
  cases fields with
  | nil => simp [fieldMeanings?]
  | cons field rest =>
    obtain ⟨name', v⟩ := field
    simp only [fieldMeanings?, Option.bind_eq_some_iff, Option.map_eq_some_iff, List.cons.injEq,
      Prod.mk.injEq]
    constructor
    · rintro ⟨_, hv, _, hrest, ⟨rfl, rfl⟩, rfl⟩
      exact ⟨v, rest, ⟨⟨rfl, rfl⟩, rfl⟩, hv, hrest⟩
    · rintro ⟨_, _, ⟨⟨rfl, rfl⟩, rfl⟩, hv, hrest⟩
      exact ⟨m, hv, ms, hrest, ⟨rfl, rfl⟩, rfl⟩

/-! ## Equal values mean the same -/

mutual

theorem Equals.meaning {a b : Value} (h : Equals Apart a b) :
    ∃ m, a.meaning? = some m ∧ b.meaning? = some m := by
  match h with
  | .key ha hb =>
    rw [key?_eq_bind] at ha hb
    obtain ⟨m, hm, hk⟩ := Option.bind_eq_some_iff.1 ha
    obtain ⟨m', hm', hk'⟩ := Option.bind_eq_some_iff.1 hb
    obtain rfl := Meaning.eq_of_key? hk hk'
    exact ⟨m, hm, hm'⟩
  | .list h =>
    obtain ⟨ms, hxs, hys⟩ := h.meanings
    exact ⟨.list ms, meaning?_eq_list.2 ⟨_, rfl, hxs⟩, meaning?_eq_list.2 ⟨_, rfl, hys⟩⟩
  | .tuple h =>
    obtain ⟨ms, hxs, hys⟩ := h.meanings
    exact ⟨.tuple ms, meaning?_eq_tuple.2 ⟨_, rfl, hxs⟩, meaning?_eq_tuple.2 ⟨_, rfl, hys⟩⟩
  | .record h =>
    obtain ⟨ms, hfs, hgs⟩ := h.meanings
    exact ⟨.record ms, meaning?_eq_record.2 ⟨_, rfl, hfs⟩, meaning?_eq_record.2 ⟨_, rfl, hgs⟩⟩

theorem EqualItems.meanings {xs ys : List Value} (h : EqualItems Apart xs ys) :
    ∃ ms, meanings? xs = some ms ∧ meanings? ys = some ms := by
  match h with
  | .nil => exact ⟨[], rfl, rfl⟩
  | .equal hx hxs =>
    obtain ⟨m, hm, hm'⟩ := hx.meaning
    obtain ⟨ms, hms, hms'⟩ := hxs.meanings
    exact ⟨m :: ms, meanings?_eq_cons.2 ⟨_, _, rfl, hm, hms⟩,
      meanings?_eq_cons.2 ⟨_, _, rfl, hm', hms'⟩⟩

theorem EqualFields.meanings {fs gs : List (String × Value)} (h : EqualFields Apart fs gs) :
    ∃ ms, fieldMeanings? fs = some ms ∧ fieldMeanings? gs = some ms := by
  match h with
  | .nil => exact ⟨[], rfl, rfl⟩
  | @EqualFields.equal _ name _ _ _ _ hx hfs =>
    obtain ⟨m, hm, hm'⟩ := hx.meaning
    obtain ⟨ms, hms, hms'⟩ := hfs.meanings
    exact ⟨(name, m) :: ms, fieldMeanings?_eq_cons.2 ⟨_, _, rfl, hm, hms⟩,
      fieldMeanings?_eq_cons.2 ⟨_, _, rfl, hm', hms'⟩⟩

end

mutual

theorem equals_of_meaning {m : Meaning} {a b : Value} (ha : a.meaning? = some m)
    (hb : b.meaning? = some m) : Equals Apart a b := by
  -- The recursion is on the meaning, which tells what both values are made of.
  have hkey {k : Key} (hk : m.key? = some k) : Equals Apart a b := by
    refine .key (k := k) ?_ ?_
    · rw [key?_eq_bind, ha, Option.bind_some, hk]
    · rw [key?_eq_bind, hb, Option.bind_some, hk]
  match m with
  | .list ms =>
    obtain ⟨xs, rfl, hxs⟩ := meaning?_eq_list.1 ha
    obtain ⟨ys, rfl, hys⟩ := meaning?_eq_list.1 hb
    exact .list (equalItems_of_meanings hxs hys)
  | .tuple ms =>
    obtain ⟨xs, rfl, hxs⟩ := meaning?_eq_tuple.1 ha
    obtain ⟨ys, rfl, hys⟩ := meaning?_eq_tuple.1 hb
    exact .tuple (equalItems_of_meanings hxs hys)
  | .record ms =>
    obtain ⟨fs, rfl, hfs⟩ := meaning?_eq_record.1 ha
    obtain ⟨gs, rfl, hgs⟩ := meaning?_eq_record.1 hb
    exact .record (equalFields_of_meanings hfs hgs)
  | .null | .number .. | .text _ | .bytes _ | .columnType _ => exact hkey rfl

theorem equalItems_of_meanings {ms : List Meaning} {xs ys : List Value}
    (hx : meanings? xs = some ms) (hy : meanings? ys = some ms) : EqualItems Apart xs ys := by
  match ms with
  | [] =>
    rw [meanings?_eq_nil.1 hx, meanings?_eq_nil.1 hy]
    exact .nil
  | m :: ms =>
    obtain ⟨x, xs, rfl, hx, hxs⟩ := meanings?_eq_cons.1 hx
    obtain ⟨y, ys, rfl, hy, hys⟩ := meanings?_eq_cons.1 hy
    exact .equal (equals_of_meaning hx hy) (equalItems_of_meanings hxs hys)

theorem equalFields_of_meanings {ms : List (String × Meaning)} {fs gs : List (String × Value)}
    (hf : fieldMeanings? fs = some ms) (hg : fieldMeanings? gs = some ms) :
    EqualFields Apart fs gs := by
  match ms with
  | [] =>
    rw [fieldMeanings?_eq_nil.1 hf, fieldMeanings?_eq_nil.1 hg]
    exact .nil
  | (name, m) :: ms =>
    obtain ⟨x, fs, rfl, hx, hfs⟩ := fieldMeanings?_eq_cons.1 hf
    obtain ⟨y, gs, rfl, hy, hgs⟩ := fieldMeanings?_eq_cons.1 hg
    exact .equal (equals_of_meaning hx hy) (equalFields_of_meanings hfs hgs)

end

/-- Comparing two values returns that they are equal just if both mean the same. -/
theorem equal_eq_ok_true_iff_meaning {a b : Value} :
    a.equal b = .ok true ↔ ∃ m, a.meaning? = some m ∧ b.meaning? = some m := by
  rw [equal_eq_ok_true_iff]
  exact ⟨Equals.meaning, fun ⟨_, ha, hb⟩ => equals_of_meaning ha hb⟩

theorem equal_symm {a b : Value} (h : a.equal b = .ok true) : b.equal a = .ok true := by
  rw [equal_eq_ok_true_iff_meaning] at h ⊢
  obtain ⟨m, ha, hb⟩ := h
  exact ⟨m, hb, ha⟩

theorem equal_trans {a b c : Value} (hab : a.equal b = .ok true) (hbc : b.equal c = .ok true) :
    a.equal c = .ok true := by
  rw [equal_eq_ok_true_iff_meaning] at hab hbc ⊢
  obtain ⟨m, ha, hb⟩ := hab
  obtain ⟨m', hb', hc⟩ := hbc
  cases hb.symm.trans hb'
  exact ⟨m, ha, hc⟩

theorem same_iff_equal {a b : Value} : a.same b = true ↔ a.equal b = .ok true := by
  rw [same_iff, equal_eq_ok_true_iff]

/-! ## Comparing values that can be keys -/

theorem not_isSignaling_of_keyFault? {v : Value} (h : v.keyFault? = none) :
    v.isSignaling = false := by
  cases v with
  | decimal x =>
    cases x with
    | nan negative signaling payload =>
      cases signaling with
      | false => rfl
      | true => cases h
    | _ => rfl
  | _ => rfl

mutual

theorem signals_of_keyFault? {a b : Value} (ha : a.keyFault? = none) (hb : b.keyFault? = none) :
    a.signals b = false := by
  match a with
  | .tuple xs =>
    cases b with
    | tuple ys => exact signalsItems_of_keyFaults? ha hb
    | _ => rfl
  | .list _ | .record _ => cases ha
  | .null | .bool _ | .int _ | .float _ | .decimal _ | .fraction _ | .complex .. | .text _
  | .bytes _ | .logical _ | .columnType _ =>
    have ha' := not_isSignaling_of_keyFault? ha
    have hb' := not_isSignaling_of_keyFault? hb
    simp [signals, ha', hb']

theorem signalsItems_of_keyFaults? {xs ys : List Value} (hx : keyFaults? xs = none)
    (hy : keyFaults? ys = none) : signalsItems xs ys = false := by
  match xs, ys with
  | [], _ => rfl
  | _ :: _, [] => rfl
  | x :: xs, y :: ys =>
    obtain ⟨hx, hxs⟩ := Option.or_eq_none_iff.1 hx
    obtain ⟨hy, hys⟩ := Option.or_eq_none_iff.1 hy
    rw [signalsItems, signals_of_keyFault? hx hy, signalsItems_of_keyFaults? hxs hys,
      Bool.and_false]
    rfl

end

theorem equal_of_keyFault? {a b : Value} (ha : a.keyFault? = none) (hb : b.keyFault? = none) :
    a.equal b = .ok (a.same b) := by
  rw [equal, signals_of_keyFault? ha hb]
  rfl

/-- Values that can be keys are unequal just if they are not equal: no comparison of them fails. -/
theorem equal_eq_ok_false_iff {a b : Value} (ha : a.keyFault? = none) (hb : b.keyFault? = none) :
    a.equal b = .ok false ↔ ¬ a.equal b = .ok true := by
  rw [equal_of_keyFault? ha hb]
  cases a.same b <;> simp

end Value

end CrateDdl
