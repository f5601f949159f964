import CrateDdl.Value.Collection

/-!
# What comparing values finds equal

`Equals` says when a comparison comes out true, part by part. It has a parameter for the items that
are one and the same: those count as equal without being compared, which matters for a value that is
no number and so equals nothing. Without such items it is what `equal` finds
(`equal_eq_ok_true_iff`): a comparison that comes out true meets no signaling value.

What a value equals says whether it is a number (`isNumber_eq_of_key`) and whether it is zero
(`key?_eq_zero_iff`): of each kind, the zeros are those that equal the number zero, with any sign
and any exponent.
-/

set_option autoImplicit false

namespace CrateDdl

namespace Number

/-! ## Numbers that are zero -/

theorem pow_mul_splitFactor (p limit n : Nat) :
    p.pow (splitFactor p limit n).1 * (splitFactor p limit n).2 = n := by
  induction limit generalizing n with
  | zero => exact Nat.one_mul n
  | succ limit ih =>
    rw [splitFactor]
    split
    · rename_i hdvd
      calc p.pow (splitFactor p limit (n / p)).1 * p * (splitFactor p limit (n / p)).2
        _ = p.pow (splitFactor p limit (n / p)).1 * (splitFactor p limit (n / p)).2 * p :=
          Nat.mul_right_comm ..
        _ = n / p * p := by rw [ih]
        _ = n := Nat.div_mul_cancel (Nat.dvd_of_mod_eq_zero hdvd)
    · exact Nat.one_mul n

theorem splitFactor_rest_ne_zero (p limit : Nat) {n : Nat} (h : n ≠ 0) :
    (splitFactor p limit n).2 ≠ 0 := by
  intro hrest
  rw [← pow_mul_splitFactor p limit n, hrest, Nat.mul_zero] at h
  exact h rfl

namespace Exact

theorem ofScaled_numerator_ne_zero {n : Int} (h : n ≠ 0) (d : Nat) (twos fives : Int) :
    (ofScaled n d twos fives).numerator ≠ 0 := by
  have hrest := Nat.pos_of_ne_zero <|
    splitFactor_rest_ne_zero 5 ((splitFactor 2 (n.natAbs.log2 + 1) n.natAbs).2.log2 + 1)
      (splitFactor_rest_ne_zero 2 (n.natAbs.log2 + 1) (Int.natAbs_ne_zero.2 h))
  rw [ofScaled, if_neg h]
  refine Int.mul_ne_zero (mt Int.sign_eq_zero_iff_zero.1 h) (Int.natCast_ne_zero.2 ?_)
  exact Nat.ne_of_gt (Nat.div_pos (Nat.gcd_le_left _ hrest) (Nat.gcd_pos_of_pos_left _ hrest))

theorem ofScaled_eq_zero_iff {n : Int} {d : Nat} {twos fives : Int} :
    ofScaled n d twos fives = zero ↔ n = 0 := by
  constructor
  · intro h
    refine Decidable.byContradiction fun hn => ?_
    exact ofScaled_numerator_ne_zero hn d twos fives (congrArg numerator h)
  · intro h
    rw [ofScaled, if_pos h]

end Exact

theorem Binary64.isZero_iff {x : Binary64} :
    x.isZero = true ↔ ∃ negative exponent, x = .finite negative 0 exponent := by
  cases x <;> simp [isZero]

theorem Decimal.isZero_iff {x : Decimal} :
    x.isZero = true ↔ ∃ negative exponent, x = .finite negative 0 exponent := by
  cases x <;> simp [isZero]

theorem signed_eq_zero_iff {negative : Bool} {m : Nat} :
    (if negative then -(m : Int) else m) = 0 ↔ m = 0 := by
  cases negative <;> simp

end Number

namespace Value

open CrateDdl.Number

/-! ## The zeros of all kinds -/

/-- A number that is zero: of the kinds that have a sign or an exponent, with any sign and any
exponent. -/
inductive IsZero : Value → Prop
  | bool : IsZero (.bool false)
  | int : IsZero (.int 0)
  | float (negative : Bool) (exponent : Int) : IsZero (.float (.finite negative 0 exponent))
  | decimal (negative : Bool) (exponent : Int) : IsZero (.decimal (.finite negative 0 exponent))
  | fraction (denominator : Nat) : IsZero (.fraction (mkRat 0 denominator))
  | complex (negative negative' : Bool) (exponent exponent' : Int) :
      IsZero (.complex (.finite negative 0 exponent) (.finite negative' 0 exponent'))

/-- Zeros are the numbers that do not count as true. -/
theorem isZero_iff {v : Value} : v.IsZero ↔ v.isNumber = true ∧ v.truthy = false := by
  constructor
  · intro h
    cases h with
    | fraction denominator =>
      rw [Rat.zero_mkRat]
      exact ⟨rfl, rfl⟩
    | _ => exact ⟨rfl, rfl⟩
  · rintro ⟨hnumber, hfalse⟩
    cases v with
    | bool b =>
      cases hfalse
      exact .bool
    | int n =>
      rw [bne_eq_false_iff_eq.1 hfalse]
      exact .int
    | float x =>
      obtain ⟨negative, exponent, rfl⟩ := Binary64.isZero_iff.1 (Bool.not_inj hfalse)
      exact .float negative exponent
    | decimal x =>
      obtain ⟨negative, exponent, rfl⟩ := Decimal.isZero_iff.1 (Bool.not_inj hfalse)
      exact .decimal negative exponent
    | fraction q =>
      rw [bne_eq_false_iff_eq.1 hfalse, ← Rat.zero_mkRat 1]
      exact .fraction 1
    | complex re im =>
      obtain ⟨hre, him⟩ := Bool.and_eq_true_iff.1 (Bool.not_inj hfalse)
      obtain ⟨negative, exponent, rfl⟩ := Binary64.isZero_iff.1 hre
      obtain ⟨negative', exponent', rfl⟩ := Binary64.isZero_iff.1 him
      exact .complex negative negative' exponent exponent'
    | _ => cases hnumber

theorem not_isZero_iff {v : Value} (h : v.isNumber = true) : ¬ v.IsZero ↔ v.truthy = true := by
  rw [isZero_iff, and_iff_right h, Bool.not_eq_false]

/-! ## What zero and other numbers equal -/

/-- What zero is compared by. -/
def Key.zero : Key := .real (.finite Exact.zero)

theorem ofBinary64?_eq_zero_iff {x : Binary64} :
    Magnitude.ofBinary64? x = some (.finite Exact.zero) ↔ x.isZero = true := by
  cases x with
  | nan => simp [Magnitude.ofBinary64?, Binary64.toExact?, Binary64.isZero]
  | infinite negative => simp [Magnitude.ofBinary64?, Binary64.isZero]
  | finite negative m e =>
    simp [Magnitude.ofBinary64?, Binary64.toExact?, Binary64.isZero, Exact.ofScaled_eq_zero_iff,
      signed_eq_zero_iff]

theorem ofDecimal?_eq_zero_iff {x : Decimal} :
    Magnitude.ofDecimal? x = some (.finite Exact.zero) ↔ x.isZero = true := by
  cases x with
  | nan negative signaling payload => simp [Magnitude.ofDecimal?, Decimal.toExact?, Decimal.isZero]
  | infinite negative => simp [Magnitude.ofDecimal?, Decimal.isZero]
  | finite negative coefficient e =>
    simp [Magnitude.ofDecimal?, Decimal.toExact?, Decimal.isZero, Exact.ofScaled_eq_zero_iff,
      signed_eq_zero_iff]

theorem ofInt_eq_zero_iff {n : Int} : Magnitude.ofInt n = .finite Exact.zero ↔ n = 0 := by
  rw [Magnitude.ofInt, Magnitude.finite.injEq, Exact.ofInt, Exact.ofScaled_eq_zero_iff]

theorem Key.real_eq_zero_iff {x : Magnitude} : Key.real x = Key.zero ↔ x = .finite Exact.zero := by
  rw [Key.real, Key.zero, Key.real, Key.number.injEq, and_iff_left rfl]

/-- The zeros are what equals zero. -/
theorem key?_eq_zero_iff {v : Value} : v.key? = some Key.zero ↔ v.IsZero := by
  rw [isZero_iff]
  cases v with
  | bool b =>
    simp only [key?, Option.some.injEq, Key.real_eq_zero_iff, ofInt_eq_zero_iff, isNumber, truthy]
    cases b <;> decide
  | int n =>
    simp only [key?, Option.some.injEq, Key.real_eq_zero_iff, ofInt_eq_zero_iff, isNumber, truthy,
      bne_eq_false_iff_eq, true_and]
  | float x =>
    simp only [key?, Option.map_eq_some_iff, Key.real_eq_zero_iff, exists_eq_right,
      ofBinary64?_eq_zero_iff, isNumber, truthy, true_and, Bool.not_eq_false']
  | decimal x =>
    simp only [key?, Option.map_eq_some_iff, Key.real_eq_zero_iff, exists_eq_right,
      ofDecimal?_eq_zero_iff, isNumber, truthy, true_and, Bool.not_eq_false']
  | fraction q =>
    simp only [key?, Option.some.injEq, Key.real_eq_zero_iff, Magnitude.finite.injEq,
      Exact.ofScaled_eq_zero_iff, Rat.num_eq_zero, isNumber, truthy, bne_eq_false_iff_eq, true_and]
  | complex re im =>
    have hkey : (complex re im).key? = some Key.zero ↔
        Magnitude.ofBinary64? re = some (.finite Exact.zero) ∧
          Magnitude.ofBinary64? im = some (.finite Exact.zero) := by
      simp [key?, Key.zero, Key.real, Option.bind_eq_some_iff]
    simp only [hkey, ofBinary64?_eq_zero_iff, isNumber, truthy, true_and, Bool.not_eq_false',
      Bool.and_eq_true]
  | _ => simp [key?, Key.zero, Key.real, isNumber]

/-- The key is that of a number. -/
def Key.isNumber : Key → Bool
  | .number .. => true
  | _ => false

/-- What a value is compared by tells whether it is a number. -/
theorem isNumber_eq_of_key {v : Value} {k : Key} (h : v.key? = some k) :
    v.isNumber = k.isNumber := by
  cases v with
  | float x =>
    obtain ⟨m, -, rfl⟩ := Option.map_eq_some_iff.1 h
    rfl
  | decimal x =>
    obtain ⟨m, -, rfl⟩ := Option.map_eq_some_iff.1 h
    rfl
  | complex re im =>
    obtain ⟨x, -, him⟩ := Option.bind_eq_some_iff.1 h
    obtain ⟨y, -, hkey⟩ := Option.bind_eq_some_iff.1 him
    cases hkey
    rfl
  | list | tuple | record => cases h
  | _ =>
    cases h
    rfl

/-- A number counts as true unless zero is what it is compared by. -/
theorem truthy_eq_of_key {v : Value} {k : Key} (h : v.key? = some k) (hnumber : k.isNumber = true) :
    v.truthy = (k != Key.zero) := by
  rw [← isNumber_eq_of_key h] at hnumber
  by_cases hk : k = Key.zero
  · rw [hk] at h
    rw [(isZero_iff.1 (key?_eq_zero_iff.1 h)).2, hk, bne_self_eq_false]
  · rw [bne_iff_ne.2 hk]
    refine (not_isZero_iff hnumber).1 fun hzero => hk ?_
    exact Option.some.inj (h.symm.trans (key?_eq_zero_iff.2 hzero))

/-! ## Comparisons that come out true -/

mutual

/-- Comparing two values comes out true: they have the same key, or their items are equal in pairs.
Of items, `one` says which are one and the same; these are not compared. -/
inductive Equals (one : Value → Value → Prop) : Value → Value → Prop
  | key {a b : Value} {k : Key} : a.key? = some k → b.key? = some k → Equals one a b
  | list {xs ys : List Value} : EqualItems one xs ys → Equals one (.list xs) (.list ys)
  | tuple {xs ys : List Value} : EqualItems one xs ys → Equals one (.tuple xs) (.tuple ys)
  | record {fs gs : List (String × Value)} : EqualFields one fs gs →
      Equals one (.record fs) (.record gs)

inductive EqualItems (one : Value → Value → Prop) : List Value → List Value → Prop
  | nil : EqualItems one [] []
  | one {x y : Value} {xs ys : List Value} : one x y → EqualItems one xs ys →
      EqualItems one (x :: xs) (y :: ys)
  | equal {x y : Value} {xs ys : List Value} : Equals one x y → EqualItems one xs ys →
      EqualItems one (x :: xs) (y :: ys)

inductive EqualFields (one : Value → Value → Prop) :
    List (String × Value) → List (String × Value) → Prop
  | nil : EqualFields one [] []
  | one {name : String} {x y : Value} {fs gs : List (String × Value)} : one x y →
      EqualFields one fs gs → EqualFields one ((name, x) :: fs) ((name, y) :: gs)
  | equal {name : String} {x y : Value} {fs gs : List (String × Value)} : Equals one x y →
      EqualFields one fs gs → EqualFields one ((name, x) :: fs) ((name, y) :: gs)

end

/-- No two items are one and the same. -/
def Apart (_ _ : Value) : Prop := False

theorem sameKey_iff {a b : Value} :
    a.sameKey b = true ↔ ∃ k, a.key? = some k ∧ b.key? = some k := by
  rw [sameKey]
  cases ha : a.key? with
  | none => simp
  | some x =>
    cases hb : b.key? with
    | none => simp
    | some y =>
      simp only [beq_iff_eq, Option.some.injEq, exists_eq_left']
      exact eq_comm

theorem same_of_key {a : Value} {k : Key} (h : a.key? = some k) (b : Value) :
    a.same b = a.sameKey b := by
  cases a with
  | list | tuple | record => cases h
  | _ => rfl

mutual

theorem Equals.same {a b : Value} (h : Equals Apart a b) : a.same b = true := by
  match h with
  | .key ha hb =>
    rw [same_of_key ha]
    exact sameKey_iff.2 ⟨_, ha, hb⟩
  | .list h => exact h.same
  | .tuple h => exact h.same
  | .record h => exact h.same

theorem EqualItems.same {xs ys : List Value} (h : EqualItems Apart xs ys) :
    sameItems xs ys = true := by
  match h with
  | .nil => rfl
  | .equal hx hxs => exact Bool.and_eq_true_iff.2 ⟨hx.same, hxs.same⟩

theorem EqualFields.same {fs gs : List (String × Value)} (h : EqualFields Apart fs gs) :
    sameFields fs gs = true := by
  match h with
  | .nil => rfl
  | .equal hx hfs =>
    rw [sameFields, beq_self_eq_true, hx.same, hfs.same]
    rfl

end

theorem equals_of_sameKey {a b : Value} (h : a.sameKey b = true) : Equals Apart a b := by
  obtain ⟨k, ha, hb⟩ := sameKey_iff.1 h
  exact .key ha hb

mutual

theorem equals_of_same {a b : Value} (h : a.same b = true) : Equals Apart a b := by
  match a, b with
  | .list xs, .list ys => exact .list (equalItems_of_same h)
  | .tuple xs, .tuple ys => exact .tuple (equalItems_of_same h)
  | .record fs, .record gs => exact .record (equalFields_of_same h)
  | .null, _ | .bool _, _ | .int _, _ | .float _, _ | .decimal _, _ | .fraction _, _
  | .complex .., _ | .text _, _ | .bytes _, _ | .logical _, _ | .columnType _, _ =>
    exact equals_of_sameKey h

theorem equalItems_of_same {xs ys : List Value} (h : sameItems xs ys = true) :
    EqualItems Apart xs ys := by
  match xs, ys with
  | [], [] => exact .nil
  | x :: xs, y :: ys =>
    obtain ⟨hx, hxs⟩ := Bool.and_eq_true_iff.1 h
    exact .equal (equals_of_same hx) (equalItems_of_same hxs)

theorem equalFields_of_same {fs gs : List (String × Value)} (h : sameFields fs gs = true) :
    EqualFields Apart fs gs := by
  match fs, gs with
  | [], [] => exact .nil
  | (name, x) :: fs, (name', y) :: gs =>
    obtain ⟨hfield, hfs⟩ := Bool.and_eq_true_iff.1 h
    obtain ⟨hname, hx⟩ := Bool.and_eq_true_iff.1 hfield
    obtain rfl := eq_of_beq hname
    exact .equal (equals_of_same hx) (equalFields_of_same hfs)

end

/-- Two values are the same if comparing them comes out true when no item is left out. -/
theorem same_iff {a b : Value} : a.same b = true ↔ Equals Apart a b :=
  ⟨equals_of_same, Equals.same⟩

/-! ## Signaling values -/

theorem not_isSignaling_of_key {v : Value} {k : Key} (h : v.key? = some k) :
    v.isSignaling = false := by
  cases v with
  | decimal x =>
    cases x with
    | nan => cases h
    | _ => rfl
  | _ => rfl

theorem Equals.not_isSignaling {a b : Value} (h : Equals Apart a b) :
    b.isSignaling = false := by
  cases h with
  | key _ hb => exact not_isSignaling_of_key hb
  | _ => rfl

theorem signals_of_key {a b : Value} {k : Key} (ha : a.key? = some k)
    (hb : b.isSignaling = false) : a.signals b = false := by
  have hsignals : a.signals b =
      (a.isSignaling && b.isReal || b.isSignaling && a.isReal) := by
    cases a with
    | list | tuple | record => cases ha
    | _ => rfl
  rw [hsignals, not_isSignaling_of_key ha, hb]
  rfl

theorem Equals.items_of_list {one : Value → Value → Prop} {v : Value} {ys : List Value}
    (h : Equals one v (.list ys)) : ∃ xs, EqualItems one xs ys := by
  cases h with
  | key _ hkey => cases hkey
  | list hitems => exact ⟨_, hitems⟩

theorem Equals.items_of_tuple {one : Value → Value → Prop} {v : Value} {ys : List Value}
    (h : Equals one v (.tuple ys)) : ∃ xs, EqualItems one xs ys := by
  cases h with
  | key _ hkey => cases hkey
  | tuple hitems => exact ⟨_, hitems⟩

theorem Equals.fields_of_record {one : Value → Value → Prop} {v : Value}
    {gs : List (String × Value)} (h : Equals one v (.record gs)) : ∃ fs, EqualFields one fs gs := by
  cases h with
  | key _ hkey => cases hkey
  | record hfields => exact ⟨_, hfields⟩

/-- A field that is looked up equals another value, if all fields do. -/
theorem EqualFields.of_lookup {name : String} {y : Value} {fs gs : List (String × Value)}
    (h : EqualFields Apart fs gs) (hy : gs.lookup name = some y) : ∃ x, Equals Apart x y := by
  match h with
  | .nil => cases hy
  | .equal hx hfs =>
    rw [List.lookup_cons] at hy
    split at hy
    · cases hy
      exact ⟨_, hx⟩
    · exact hfs.of_lookup hy

mutual

/-- Values that equal something are compared without meeting a signaling value. -/
theorem signals_of_equals {a a' b' b : Value} (ha : Equals Apart a a') (hb : Equals Apart b' b) :
    a.signals b = false := by
  -- The recursion is on how `a` equals another value; that `b` does as well is only looked up.
  match ha with
  | .key ha _ => exact signals_of_key ha hb.not_isSignaling
  | .list hxs =>
    cases b with
    | list ys =>
      obtain ⟨ys', hys⟩ := hb.items_of_list
      rw [signals, signalsItems_of_equals hxs hys, Bool.and_false]
    | _ => rfl
  | .tuple hxs =>
    cases b with
    | tuple ys =>
      obtain ⟨ys', hys⟩ := hb.items_of_tuple
      exact signalsItems_of_equals hxs hys
    | _ => rfl
  | .record hfs =>
    cases b with
    | record gs =>
      obtain ⟨gs', hgs⟩ := hb.fields_of_record
      rw [signals, signalsFields_of_equals hfs hgs, Bool.and_false]
    | _ => rfl

theorem signalsItems_of_equals {xs xs' ys' ys : List Value} (hx : EqualItems Apart xs xs')
    (hy : EqualItems Apart ys' ys) : signalsItems xs ys = false := by
  match hx with
  | .nil => rfl
  | .equal hx hxs =>
    match hy with
    | .nil => rfl
    | .equal hy hys =>
      rw [signalsItems, signals_of_equals hx hy, signalsItems_of_equals hxs hys, Bool.and_false]
      rfl

theorem signalsFields_of_equals {fs fs' gs' gs : List (String × Value)}
    (hf : EqualFields Apart fs fs') (hg : EqualFields Apart gs' gs) :
    signalsFields fs gs = false := by
  match hf with
  | .nil => rfl
  | @EqualFields.equal _ name _ _ _ _ hx hfs =>
    rw [signalsFields]
    cases hlookup : gs.lookup name with
    | none => rfl
    | some y =>
      obtain ⟨y', hy⟩ := hg.of_lookup hlookup
      simp only [signals_of_equals hx hy, signalsFields_of_equals hfs hg, Bool.and_false,
        Bool.or_false]

end

/-- Comparing two values returns that they are equal just if they are the same. -/
theorem equal_eq_ok_true_iff {a b : Value} : a.equal b = .ok true ↔ Equals Apart a b := by
  rw [← same_iff, equal]
  constructor
  · intro h
    split at h
    · cases h
    · exact Except.ok.inj h
  · intro h
    have heq := same_iff.1 h
    rw [signals_of_equals heq heq, h]
    rfl

end Value

end CrateDdl
