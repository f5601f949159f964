import CrateDdl.Proofs.CreationFault
import CrateDdl.Proofs.Meaning

/-!
# A key without repetitions

Of the items of a key, those are kept that equal no item before them (`FirstsAfter`); a `nan` equals
nothing and is kept wherever it stands. They are found by comparing with what was kept before, not
with all that came before: the kept values stand for all of these (`StandsFor`), since what equals a
value equals what stands for it.

Values are taken as different objects, even where they are written alike. One and the same object
counts as a repetition of itself, so that a single `nan` given twice would be kept only once.
-/

set_option autoImplicit false

namespace CrateDdl

namespace Value

/-- Of the items that come after others, those that equal nothing before them. -/
inductive FirstsAfter : List Value → List Value → List Value → Prop
  | nil {before : List Value} : FirstsAfter before [] []
  | first {before rest firsts : List Value} {v : Value} :
      (∀ u ∈ before, u.equal v = .ok false) → FirstsAfter (before ++ [v]) rest firsts →
      FirstsAfter before (v :: rest) (v :: firsts)
  | again {before rest firsts : List Value} {u v : Value} :
      u ∈ before → u.equal v = .ok true → FirstsAfter (before ++ [v]) rest firsts →
      FirstsAfter before (v :: rest) firsts

namespace FirstsAfter

variable {before items firsts : List Value}

theorem sublist (h : FirstsAfter before items firsts) : firsts.Sublist items := by
  induction h with
  | nil => exact .slnil
  | first _ _ ih => exact ih.cons_cons _
  | again _ _ _ ih => exact ih.cons _

theorem unequal_before (h : FirstsAfter before items firsts) :
    ∀ v ∈ firsts, ∀ u ∈ before, u.equal v = .ok false := by
  induction h with
  | nil => exact fun _ => nofun
  | first hv _ ih =>
    rw [List.forall_mem_cons]
    exact ⟨hv, fun w hw u hu => ih w hw u (List.mem_append_left _ hu)⟩
  | again _ _ _ ih => exact fun w hw u hu => ih w hw u (List.mem_append_left _ hu)

theorem pairwise (h : FirstsAfter before items firsts) :
    firsts.Pairwise fun u v => u.equal v = .ok false := by
  induction h with
  | nil => exact .nil
  | first _ hrest ih =>
    refine .cons (fun w hw => ?_) ih
    exact hrest.unequal_before w hw _ (List.mem_append_right _ List.mem_cons_self)
  | again _ _ _ ih => exact ih

/-- There is one way to tell which items are the first. -/
theorem unique {firsts' : List Value} (h : FirstsAfter before items firsts)
    (h' : FirstsAfter before items firsts') : firsts = firsts' := by
  induction h generalizing firsts' with
  | nil =>
    cases h'
    rfl
  | first hv _ ih =>
    cases h' with
    | first _ hrest => rw [ih hrest]
    | again hu heq _ => cases heq.symm.trans (hv _ hu)
  | again hu heq _ ih =>
    cases h' with
    | first hv _ => cases heq.symm.trans (hv _ hu)
    | again _ _ hrest => exact ih hrest

/-- An item that equals none of those before it is kept. -/
theorem mem_of_unequal {v : Value} {between after : List Value}
    (h : FirstsAfter before items firsts) (hitems : items = between ++ v :: after)
    (hv : ∀ u ∈ before ++ between, u.equal v = .ok false) : v ∈ firsts := by
  induction h generalizing between with
  | nil => simp at hitems
  | @first before rest firsts w _ _ ih =>
    cases between with
    | nil =>
      cases hitems
      exact List.mem_cons_self
    | cons x between =>
      cases hitems
      refine List.mem_cons_of_mem _ (ih rfl ?_)
      rwa [List.append_assoc]
  | @again before rest firsts u w hu heq _ ih =>
    cases between with
    | nil =>
      cases hitems
      have hne := hv u (List.mem_append_left _ hu)
      cases heq.symm.trans hne
    | cons x between =>
      cases hitems
      refine ih rfl ?_
      rwa [List.append_assoc]

end FirstsAfter

/-! ## What is kept stands for what came before -/

/-- The values that are kept are among those before, and each of these is kept or equals one. -/
structure StandsFor (kept before : List Value) : Prop where
  mem : ∀ k ∈ kept, k ∈ before
  covers : ∀ u ∈ before, u ∈ kept ∨ ∃ k ∈ kept, k.equal u = .ok true

namespace StandsFor

variable {kept before : List Value} {v : Value}

theorem nil : StandsFor [] [] := ⟨fun _ => nofun, fun _ => nofun⟩

theorem exists_equal_iff (h : StandsFor kept before) :
    (∃ k ∈ kept, k.equal v = .ok true) ↔ ∃ u ∈ before, u.equal v = .ok true := by
  constructor
  · rintro ⟨k, hk, heq⟩
    exact ⟨k, h.mem k hk, heq⟩
  · rintro ⟨u, hu, heq⟩
    rcases h.covers u hu with hkept | ⟨k, hk, hku⟩
    · exact ⟨u, hkept, heq⟩
    · exact ⟨k, hk, equal_trans hku heq⟩

theorem keep (h : StandsFor kept before) : StandsFor (kept ++ [v]) (before ++ [v]) := by
  refine ⟨fun k hk => ?_, fun u hu => ?_⟩
  · rcases List.mem_append.1 hk with hk | hk
    · exact List.mem_append_left _ (h.mem k hk)
    · exact List.mem_append_right _ hk
  · rcases List.mem_append.1 hu with hu | hu
    · rcases h.covers u hu with hkept | ⟨k, hk, heq⟩
      · exact .inl (List.mem_append_left _ hkept)
      · exact .inr ⟨k, List.mem_append_left _ hk, heq⟩
    · exact .inl (List.mem_append_right _ hu)

theorem drop (h : StandsFor kept before) (hv : ∃ k ∈ kept, k.equal v = .ok true) :
    StandsFor kept (before ++ [v]) := by
  refine ⟨fun k hk => List.mem_append_left _ (h.mem k hk), fun u hu => ?_⟩
  rcases List.mem_append.1 hu with hu | hu
  · exact h.covers u hu
  · rw [List.mem_singleton.1 hu]
    exact .inr hv

end StandsFor

theorem any_same_iff {kept : List Value} {v : Value} :
    kept.any (same · v) = true ↔ ∃ k ∈ kept, k.equal v = .ok true := by
  simp only [List.any_eq_true, same_iff_equal]

theorem firstsAfter_distinctFrom {before kept items : List Value}
    (hbefore : ∀ u ∈ before, u.keyFault? = none) (hitems : ∀ v ∈ items, v.keyFault? = none)
    (h : StandsFor kept before) :
    ∃ firsts, distinctFrom kept items = kept ++ firsts ∧ FirstsAfter before items firsts := by
  -- `before` grows by every item, `kept` only by those that equal nothing in it.
  induction items generalizing before kept with
  | nil => exact ⟨[], (List.append_nil kept).symm, .nil⟩
  | cons v rest ih =>
    obtain ⟨hv, hrest⟩ := List.forall_mem_cons.1 hitems
    have hbefore' : ∀ u ∈ before ++ [v], u.keyFault? = none :=
      List.forall_mem_append.2 ⟨hbefore, List.forall_mem_singleton.2 hv⟩
    rw [distinctFrom]
    by_cases hequal : ∃ k ∈ kept, k.equal v = .ok true
    · obtain ⟨firsts, hfirsts, hafter⟩ := ih hbefore' hrest (h.drop hequal)
      obtain ⟨u, hu, heq⟩ := h.exists_equal_iff.1 hequal
      rw [if_pos (any_same_iff.2 hequal)]
      exact ⟨firsts, hfirsts, .again hu heq hafter⟩
    · obtain ⟨firsts, hfirsts, hafter⟩ := ih hbefore' hrest h.keep
      rw [if_neg (mt any_same_iff.1 hequal), hfirsts, List.append_assoc]
      refine ⟨v :: firsts, rfl, .first (fun u hu => ?_) hafter⟩
      rw [equal_eq_ok_false_iff (hbefore u hu) hv]
      exact fun heq => hequal (h.exists_equal_iff.2 ⟨u, hu, heq⟩)

/-- Every item that equals itself equals one that is kept, the first such of all items. -/
theorem exists_first_equal {items firsts : List Value} (h : FirstsAfter [] items firsts)
    (hkeys : ∀ v ∈ items, v.keyFault? = none) {v : Value} (hv : v ∈ items)
    (hself : v.equal v = .ok true) :
    ∃ before first after, items = before ++ first :: after ∧ first ∈ firsts ∧
      first.equal v = .ok true ∧ ∀ u ∈ before, u.equal v = .ok false := by
  have hfound : (items.find? (same · v)).isSome = true :=
    List.find?_isSome.2 ⟨v, hv, same_iff_equal.2 hself⟩
  obtain ⟨first, hfirst⟩ := Option.isSome_iff_exists.1 hfound
  obtain ⟨hequal, before, after, hitems, hbefore⟩ := List.find?_eq_some_iff_append.1 hfirst
  rw [same_iff_equal] at hequal
  have hne : ∀ u ∈ before, ¬ u.equal v = .ok true := by
    intro u hu heq
    have := hbefore u hu
    rw [same_iff_equal.2 heq] at this
    cases this
  have hkey {u : Value} (hu : u ∈ before) : u.keyFault? = none :=
    hkeys u (hitems ▸ List.mem_append_left _ hu)
  have hkey' : first.keyFault? = none :=
    hkeys first (hitems ▸ List.mem_append_right _ List.mem_cons_self)
  refine ⟨before, first, after, hitems, h.mem_of_unequal hitems fun u hu => ?_, hequal,
    fun u hu => (equal_eq_ok_false_iff (hkey hu) (hkeys v hv)).2 (hne u hu)⟩
  -- What equals `first` would equal `v` as well.
  exact (equal_eq_ok_false_iff (hkey hu) hkey').2 fun heq => hne u hu (equal_trans heq hequal)

/-- Nothing is dropped where no two items are equal. -/
theorem distinctFrom_of_pairwise {kept items : List Value}
    (h : (kept ++ items).Pairwise fun u v => u.equal v = .ok false) :
    distinctFrom kept items = kept ++ items := by
  induction items generalizing kept with
  | nil => exact (List.append_nil kept).symm
  | cons v rest ih =>
    have hnone : ¬ ∃ k ∈ kept, k.equal v = .ok true := by
      rintro ⟨k, hk, heq⟩
      have hne := (List.pairwise_append.1 h).2.2 k hk v List.mem_cons_self
      cases heq.symm.trans hne
    rw [distinctFrom, if_neg (mt any_same_iff.1 hnone), ih, List.append_assoc]
    · rfl
    · rwa [List.append_assoc]

/-! ## Characters of a text -/

def character (c : Char) : Value := .text (String.singleton c)

theorem items_of_asText? {v : Value} {s : String} (h : v.asText? = some s) :
    v.items = .ok (s.toList.map character) := by
  cases v with
  | text | logical =>
    cases h
    rfl
  | _ => cases h

theorem same_character_iff {c d : Char} : same (character c) (character d) = true ↔ c = d := by
  rw [same_of_key rfl, sameKey_iff]
  simp [character, key?, eq_comm]

theorem any_same_character (kept : List Char) (c : Char) :
    (kept.map character).any (same · (character c)) = kept.contains c := by
  rw [Bool.eq_iff_iff, List.any_map, List.any_eq_true, List.contains_iff_mem]
  simp [same_character_iff]

theorem distinctFrom_characters (kept chars : List Char) :
    distinctFrom (kept.map character) (chars.map character) =
      (kept ++ (chars.filter fun c => !kept.contains c).eraseDups).map character := by
  induction chars generalizing kept with
  | nil => simp [distinctFrom]
  | cons c rest ih =>
    rw [List.map_cons, distinctFrom, any_same_character]
    cases hc : kept.contains c with
    | true =>
      rw [if_pos rfl, ih, List.filter_cons_of_neg]
      simpa using hc
    | false =>
      have hkept : kept.map character ++ [character c] = (kept ++ [c]).map character := by simp
      have hnew : (fun d => !(kept ++ [c]).contains d) = fun d => !d == c && !kept.contains d := by
        funext d
        rw [Bool.eq_iff_iff]
        simp [and_comm]
      rw [if_neg Bool.false_ne_true, hkept, ih, hnew, List.filter_cons_of_pos (by rw [hc]; rfl),
        List.eraseDups_cons, List.filter_filter, List.append_assoc]
      rfl

theorem items_of_not_truthy {v : Value} {items : List Value} (hfalse : v.truthy = false)
    (hitems : v.items = .ok items) : items = [] := by
  cases v <;> simp_all [truthy, Value.items]

end Value

namespace TableOptions

open Value

theorem primaryKeyColumns_of_items {options : TableOptions} {items : List Value}
    (hitems : options.primaryKey.items = .ok items) (hkeys : ∀ v ∈ items, v.keyFault? = none) :
    options.primaryKeyColumns = .ok (distinctFrom [] items) := by
  rw [primaryKeyColumns_eq_ok]
  cases htruthy : options.primaryKey.truthy with
  | false =>
    obtain rfl := items_of_not_truthy htruthy hitems
    exact .inl ⟨rfl, rfl⟩
  | true => exact .inr ⟨rfl, items, hitems, distinct_eq_ok.2 ⟨hkeys, rfl⟩⟩

/-- **A key keeps the first of equal items.** Of the items of a key, all of which can be keys, the
columns of the key are just those that equal no item before them: a part of the items in their
order, no two of them equal. Every item that equals itself equals one of the columns, which is the
first of all items to do so. A key with these columns for items has these columns. The columns of a
key that is a text are its characters, each where it first appears. Comparing items never fails, and
finds those equal that mean the same: numbers of all kinds if they are the same number. The items
are taken as different objects: one and the same `nan`, given twice, would be kept only once. -/
theorem primaryKeyColumns_keeps_firsts {options : TableOptions} {items : List Value}
    (hitems : options.primaryKey.items = .ok items) (hkeys : ∀ v ∈ items, v.keyFault? = none) :
    ∃ columns, options.primaryKeyColumns = .ok columns ∧
      (∀ firsts, FirstsAfter [] items firsts ↔ firsts = columns) ∧
      columns.Sublist items ∧
      (columns.Pairwise fun u v => u.equal v = .ok false ∧ v.equal u = .ok false) ∧
      (∀ v ∈ items, v.equal v = .ok true → ∃ before first after,
        items = before ++ first :: after ∧ first ∈ columns ∧ first.equal v = .ok true ∧
          ∀ u ∈ before, u.equal v = .ok false) ∧
      (∀ again : TableOptions, again.primaryKey.items = .ok columns →
        again.primaryKeyColumns = .ok columns) ∧
      (∀ s, options.primaryKey.asText? = some s →
        columns = s.toList.eraseDups.map character) ∧
      ∀ u ∈ items, ∀ v ∈ items, ∃ answer, u.equal v = .ok answer ∧
        (answer = true ↔ ∃ m, u.meaning? = some m ∧ v.meaning? = some m) := by
  obtain ⟨columns, hcolumns, hfirsts⟩ :=
    firstsAfter_distinctFrom (List.forall_mem_nil _) hkeys StandsFor.nil
  rw [List.nil_append] at hcolumns
  have hkeys' : ∀ v ∈ columns, v.keyFault? = none := fun v hv => hkeys v (hfirsts.sublist.mem hv)
  refine ⟨columns, hcolumns ▸ primaryKeyColumns_of_items hitems hkeys, fun firsts => ?_,
    hfirsts.sublist, ?_, fun v hv => exists_first_equal hfirsts hkeys hv, fun again hagain => ?_,
    fun s hs => ?_, fun u hu v hv => ?_⟩
  · exact ⟨fun h => h.unique hfirsts, fun h => h ▸ hfirsts⟩
  · refine hfirsts.pairwise.imp_of_mem fun hu hv huv => ⟨huv, ?_⟩
    rw [equal_eq_ok_false_iff (hkeys' _ hu) (hkeys' _ hv)] at huv
    rw [equal_eq_ok_false_iff (hkeys' _ hv) (hkeys' _ hu)]
    exact fun hvu => huv (equal_symm hvu)
  · rw [primaryKeyColumns_of_items hagain hkeys', @distinctFrom_of_pairwise [] _ hfirsts.pairwise]
    rfl
  · rw [items_of_asText? hs] at hitems
    cases hitems
    rw [← hcolumns]
    simpa using distinctFrom_characters [] s.toList
  · refine ⟨u.same v, equal_of_keyFault? (hkeys u hu) (hkeys v hv), ?_⟩
    rw [same_iff_equal, equal_eq_ok_true_iff_meaning]

/-- Three ways to write one, twice what is no number, one half as a fraction and as a complex number,
two equal pairs, and a logical type by its name and as it is. -/
theorem primaryKeyColumns_keeps_firsts_of_mixed :
    let half : Value := .complex (.finite false (2 ^ 52) (-53)) (.zero true)
    let items : List Value := [.bool true, .float .nan, .float (.finite false (2 ^ 52) (-52)),
      .fraction (mkRat 1 2), .decimal (.finite false 10 (-1)), .text "date", .float .nan,
      .tuple [.logical .date, .int 1], .tuple [.text "date", .bool true], half, .logical .date]
    let columns : List Value := [.bool true, .float .nan, .fraction (mkRat 1 2), .text "date",
      .float .nan, .tuple [.logical .date, .int 1]]
    let options : TableOptions := { primaryKey := .tuple items }
    options.primaryKey.items = .ok items ∧ (∀ v ∈ items, v.keyFault? = none) ∧
    options.primaryKeyColumns = .ok columns ∧ FirstsAfter [] items columns ∧
    columns.Sublist items ∧
    (∃ before first after, items = before ++ first :: after ∧ first ∈ columns ∧
      first.equal half = .ok true ∧ ∀ u ∈ before, u.equal half = .ok false) ∧
    ({ primaryKey := .list columns } : TableOptions).primaryKeyColumns = .ok columns := by
  intro half items columns options
  have hkeys : ∀ v ∈ items, v.keyFault? = none := by simp [items, half, keyFault?, keyFaults?]
  have hcolumns : options.primaryKeyColumns = .ok columns := rfl
  obtain ⟨kept, hkept, hfirsts, hsublist, -, hequal, hagain, -⟩ :=
    @primaryKeyColumns_keeps_firsts options items rfl hkeys
  obtain rfl := Except.ok.inj (hkept.symm.trans hcolumns)
  exact ⟨rfl, hkeys, hcolumns, (hfirsts _).2 rfl, hsublist, hequal half (by simp [items]) rfl,
    hagain _ rfl⟩

/-- The characters of a text, in the order in which they first appear. -/
example : ({ primaryKey := .text "tatus" } : TableOptions).primaryKeyColumns =
    .ok [character 't', character 'a', character 'u', character 's'] := by
  rfl

end TableOptions

end CrateDdl
