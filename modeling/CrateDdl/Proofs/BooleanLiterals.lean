import CrateDdl.Platform.Basic
import CrateDdl.Proofs.Equality
import Mathlib.Data.List.Forall2

/-!
# Boolean literals

Numbers are converted to the texts of truth and falsehood, on their own and as the items of a list
or of a tuple (`Converted`), and nothing deeper is. What has no number in these places is what the
conversion leaves alone (`convertBooleans_eq_self_iff`), and such is all that it returns, so
converting again changes nothing.

The conversion keeps equality (`convertBooleans_equals`): what equals a number is a number, and zero
if that is, of whatever kind both are; and what is nested deeper is left as it is on both sides.
-/

set_option autoImplicit false

namespace CrateDdl

namespace Platform

open Value

/-! ## What values are converted to -/

/-- What a value is converted to that is not looked into. -/
inductive ConvertedItem : Value → Value → Prop
  | zero {v : Value} : v.IsZero → ConvertedItem v (.text "false")
  | nonzero {v : Value} : v.isNumber = true → ¬ v.IsZero → ConvertedItem v (.text "true")
  | other {v : Value} : v.isNumber = false → ConvertedItem v v

/-- A value whose items, if it has any, are not looked at. -/
def NoSequence (v : Value) : Prop := ∀ items, v ≠ .list items ∧ v ≠ .tuple items

/-- What a value is converted to, the items of a list or of a tuple one by one. -/
inductive Converted : Value → Value → Prop
  | list {xs ys : List Value} : List.Forall₂ ConvertedItem xs ys → Converted (.list xs) (.list ys)
  | tuple {xs ys : List Value} : List.Forall₂ ConvertedItem xs ys →
      Converted (.tuple xs) (.tuple ys)
  | item {v w : Value} : NoSequence v → ConvertedItem v w → Converted v w

theorem convertBoolean_of_not_number {v : Value} (h : v.isNumber = false) :
    convertBoolean v = v := by
  rw [convertBoolean, h]
  rfl

theorem convertBoolean_of_number {v : Value} (h : v.isNumber = true) :
    convertBoolean v = .text (if v.truthy then "true" else "false") := by
  rw [convertBoolean, if_pos h]

theorem convertedItem_convertBoolean (v : Value) : ConvertedItem v (convertBoolean v) := by
  cases hnumber : v.isNumber with
  | false =>
    rw [convertBoolean_of_not_number hnumber]
    exact .other hnumber
  | true =>
    rw [convertBoolean_of_number hnumber]
    cases htruthy : v.truthy with
    | false => exact .zero (isZero_iff.2 ⟨hnumber, htruthy⟩)
    | true => exact .nonzero hnumber ((not_isZero_iff hnumber).2 htruthy)

theorem convertedItem_iff {v w : Value} : ConvertedItem v w ↔ convertBoolean v = w := by
  constructor
  · intro h
    cases h with
    | zero hzero =>
      obtain ⟨hnumber, hfalse⟩ := isZero_iff.1 hzero
      rw [convertBoolean_of_number hnumber, hfalse]
      rfl
    | nonzero hnumber hzero =>
      rw [convertBoolean_of_number hnumber, (not_isZero_iff hnumber).1 hzero]
      rfl
    | other hnumber => exact convertBoolean_of_not_number hnumber
  · rintro rfl
    exact convertedItem_convertBoolean v

theorem forall₂_convertedItem_iff {xs ys : List Value} :
    List.Forall₂ ConvertedItem xs ys ↔ xs.map convertBoolean = ys := by
  have hconverted : ConvertedItem = fun v w => convertBoolean v = w :=
    funext₂ fun _ _ => propext convertedItem_iff
  rw [hconverted, ← List.forall₂_map_left_iff, List.forall₂_eq_eq_eq]

theorem noSequence_of_key {v : Value} {k : Key} (h : v.key? = some k) : NoSequence v := by
  refine fun items => ⟨?_, ?_⟩
  · rintro rfl
    cases h
  · rintro rfl
    cases h

theorem convertBooleans_of_noSequence {v : Value} (h : NoSequence v) :
    convertBooleans v = convertBoolean v := by
  cases v with
  | list items => exact absurd rfl (h items).1
  | tuple items => exact absurd rfl (h items).2
  | _ => rfl

theorem converted_iff {v w : Value} : Converted v w ↔ convertBooleans v = w := by
  constructor
  · intro h
    cases h with
    | list hitems => rw [convertBooleans, forall₂_convertedItem_iff.1 hitems]
    | tuple hitems => rw [convertBooleans, forall₂_convertedItem_iff.1 hitems]
    | item hv hitem => rw [convertBooleans_of_noSequence hv, convertedItem_iff.1 hitem]
  · rintro rfl
    cases v with
    | list items => exact .list (forall₂_convertedItem_iff.2 rfl)
    | tuple items => exact .tuple (forall₂_convertedItem_iff.2 rfl)
    | _ => exact .item (fun _ => ⟨nofun, nofun⟩) (convertedItem_convertBoolean _)

/-! ## Converting again -/

/-- A value that is no number, nor has one among its items if it is a list or a tuple. -/
def NumberFree (v : Value) : Prop :=
  v.isNumber = false ∧ ∀ items, v = .list items ∨ v = .tuple items → ∀ x ∈ items, x.isNumber = false

theorem numberFree_list_iff {items : List Value} :
    NumberFree (.list items) ↔ ∀ x ∈ items, x.isNumber = false := by
  simp [NumberFree, isNumber]

theorem numberFree_tuple_iff {items : List Value} :
    NumberFree (.tuple items) ↔ ∀ x ∈ items, x.isNumber = false := by
  simp [NumberFree, isNumber]

theorem numberFree_of_noSequence {v : Value} (hv : NoSequence v) (h : v.isNumber = false) :
    NumberFree v :=
  ⟨h, fun items hitems => hitems.elim (absurd · (hv items).1) (absurd · (hv items).2)⟩

theorem ConvertedItem.isNumber_eq_false {v w : Value} (h : ConvertedItem v w) :
    w.isNumber = false := by
  cases h with
  | zero | nonzero => rfl
  | other h => exact h

theorem isNumber_of_forall₂ {xs ys : List Value} (h : List.Forall₂ ConvertedItem xs ys) :
    ∀ y ∈ ys, y.isNumber = false := by
  induction h with
  | nil => exact fun _ => nofun
  | cons hitem _ ih => exact List.forall_mem_cons.2 ⟨hitem.isNumber_eq_false, ih⟩

/-- No number is left. -/
theorem Converted.numberFree {v w : Value} (h : Converted v w) : NumberFree w := by
  cases h with
  | list hitems => exact numberFree_list_iff.2 (isNumber_of_forall₂ hitems)
  | tuple hitems => exact numberFree_tuple_iff.2 (isNumber_of_forall₂ hitems)
  | item hv hitem =>
    refine numberFree_of_noSequence ?_ hitem.isNumber_eq_false
    cases hitem with
    | zero | nonzero => exact fun _ => ⟨nofun, nofun⟩
    | other => exact hv

theorem numberFree_convertBooleans (v : Value) : NumberFree (convertBooleans v) :=
  (converted_iff.2 rfl).numberFree

theorem map_convertBoolean_eq_self {items : List Value} (h : ∀ x ∈ items, x.isNumber = false) :
    items.map convertBoolean = items :=
  (List.map_congr_left fun x hx => convertBoolean_of_not_number (h x hx)).trans items.map_id

theorem convertBooleans_eq_self_iff {v : Value} : convertBooleans v = v ↔ NumberFree v := by
  constructor
  · intro h
    rw [← h]
    exact numberFree_convertBooleans v
  · intro h
    cases v with
    | list items => rw [convertBooleans, map_convertBoolean_eq_self (numberFree_list_iff.1 h)]
    | tuple items => rw [convertBooleans, map_convertBoolean_eq_self (numberFree_tuple_iff.1 h)]
    | _ => exact convertBoolean_of_not_number h.1

/-! ## Converting equal values -/

section

variable {one : Value → Value → Prop}

theorem convertBoolean_equals {v w : Value} (h : Equals one v w) :
    Equals one (convertBoolean v) (convertBoolean w) := by
  cases h with
  | @key _ _ k hv hw =>
    cases hk : k.isNumber with
    | true =>
      rw [convertBoolean_of_number ((isNumber_eq_of_key hv).trans hk),
        convertBoolean_of_number ((isNumber_eq_of_key hw).trans hk), truthy_eq_of_key hv hk,
        truthy_eq_of_key hw hk]
      exact .key rfl rfl
    | false =>
      rw [convertBoolean_of_not_number ((isNumber_eq_of_key hv).trans hk),
        convertBoolean_of_not_number ((isNumber_eq_of_key hw).trans hk)]
      exact .key hv hw
  | list hitems => exact .list hitems
  | tuple hitems => exact .tuple hitems
  | record hfields => exact .record hfields

theorem map_convertBoolean_equals (hone : ∀ v w, one v w → v = w) {xs ys : List Value}
    (h : EqualItems one xs ys) :
    EqualItems one (xs.map convertBoolean) (ys.map convertBoolean) := by
  match h with
  | .nil => exact .nil
  | @EqualItems.one _ x y xs ys hxy hitems =>
    have hrest := map_convertBoolean_equals hone hitems
    obtain rfl := hone x y hxy
    -- A number that equals nothing, not even itself, has become a text that does.
    cases hnumber : x.isNumber with
    | true =>
      refine .equal ?_ hrest
      rw [convertBoolean_of_number hnumber]
      exact .key rfl rfl
    | false =>
      refine .one ?_ hrest
      rw [convertBoolean_of_not_number hnumber]
      exact hxy
  | .equal hxy hitems =>
    exact .equal (convertBoolean_equals hxy) (map_convertBoolean_equals hone hitems)

theorem convertBooleans_equals (hone : ∀ v w, one v w → v = w) {v w : Value}
    (h : Equals one v w) : Equals one (convertBooleans v) (convertBooleans w) := by
  cases h with
  | key hv hw =>
    rw [convertBooleans_of_noSequence (noSequence_of_key hv),
      convertBooleans_of_noSequence (noSequence_of_key hw)]
    exact convertBoolean_equals (.key hv hw)
  | list hitems => exact .list (map_convertBoolean_equals hone hitems)
  | tuple hitems => exact .tuple (map_convertBoolean_equals hone hitems)
  | record hfields => exact .record hfields

end

/-- **Conversion is a projection that keeps equality.** Every value is converted to what `Converted`
says. No number is left in the result, nor among its items if it is a list or a tuple, so that
converting it again changes nothing. Lists and tuples stay what they are and keep their length, and
a concatenation is converted to the concatenation of what its parts are converted to. Equal values
are converted to equal values, whether comparing them goes through all items or leaves out those
that are one and the same. -/
theorem convertBooleans_projection (v : Value) :
    (∀ w, Converted v w ↔ convertBooleans v = w) ∧ NumberFree (convertBooleans v) ∧
    convertBooleans (convertBooleans v) = convertBooleans v ∧
    (∀ wrap ∈ [Value.list, Value.tuple], ∀ xs ys, ∃ converted converted',
      convertBooleans (wrap xs) = wrap converted ∧ converted.length = xs.length ∧
      convertBooleans (wrap ys) = wrap converted' ∧
      convertBooleans (wrap (xs ++ ys)) = wrap (converted ++ converted')) ∧
    (∀ w, v.equal w = .ok true → (convertBooleans v).equal (convertBooleans w) = .ok true) ∧
    ∀ one : Value → Value → Prop, (∀ x y, one x y → x = y) → ∀ w, Equals one v w →
      Equals one (convertBooleans v) (convertBooleans w) := by
  refine ⟨fun w => converted_iff, numberFree_convertBooleans v,
    convertBooleans_eq_self_iff.2 (numberFree_convertBooleans v), fun wrap hwrap xs ys => ?_,
    fun w h => ?_, fun one hone w => convertBooleans_equals hone⟩
  · refine ⟨xs.map convertBoolean, ys.map convertBoolean, ?_⟩
    rcases List.mem_pair.1 hwrap with rfl | rfl
    · exact ⟨rfl, List.length_map .., rfl, by rw [convertBooleans, List.map_append]⟩
    · exact ⟨rfl, List.length_map .., rfl, by rw [convertBooleans, List.map_append]⟩
  · rw [equal_eq_ok_true_iff] at h ⊢
    exact convertBooleans_equals nofun h

/-- Minus zero, a value that is no number, an infinity, and a number in a list of its own. -/
example : convertBooleans (.tuple [.float (.zero true), .decimal (.nan false true 0),
    .complex (.zero false) (.infinite true), .list [.int 0], .null]) =
    .tuple [.text "false", .text "true", .text "true", .list [.int 0], .null] := by
  rfl

end Platform

end CrateDdl
