import CrateDdl.Fault

/-!
# Values or faults

What a result of `Except Fault` tells about its parts, be it a value or a fault. A traversal of a
list fails at the first item that fails (`mapM_eq_error`).
-/

set_option autoImplicit false

namespace CrateDdl

/-- `a` is the first of the items that is not good, and `before` are those in front of it. -/
structure FirstNot {α : Type} (good : α → Prop) (items before : List α) (a : α) : Prop where
  split : ∃ after, items = before ++ a :: after
  good_before : ∀ b ∈ before, good b
  not_good : ¬ good a

section
variable {α : Type} {good : α → Prop} {x a : α} {items before : List α}

theorem not_firstNot_nil : ¬ FirstNot good [] before a := fun h => by simpa using h.split

theorem firstNot_cons :
    FirstNot good (x :: items) before a ↔
      ¬ good x ∧ before = [] ∧ a = x ∨
        good x ∧ ∃ rest, before = x :: rest ∧ FirstNot good items rest a := by
  refine ⟨fun h => ?_, ?_⟩
  · obtain ⟨after, hsplit⟩ := h.split
    cases before with
    | nil =>
      obtain ⟨rfl, -⟩ := List.cons.inj hsplit
      exact .inl ⟨h.not_good, rfl, rfl⟩
    | cons b rest =>
      obtain ⟨rfl, hrest⟩ := List.cons.inj hsplit
      obtain ⟨hx, hgood⟩ := List.forall_mem_cons.1 h.good_before
      exact .inr ⟨hx, rest, rfl, ⟨after, hrest⟩, hgood, h.not_good⟩
  · rintro (⟨hx, rfl, rfl⟩ | ⟨hx, rest, rfl, ⟨after, hrest⟩, hgood, hnot⟩)
    · exact ⟨⟨items, rfl⟩, by simp, hx⟩
    · exact ⟨⟨after, congrArg (x :: ·) hrest⟩, List.forall_mem_cons.2 ⟨hx, hgood⟩, hnot⟩

theorem FirstNot.mem (h : FirstNot good items before a) : a ∈ items := by
  obtain ⟨after, rfl⟩ := h.split
  exact List.mem_append_right before List.mem_cons_self

end

namespace Checked

variable {α β : Type}

theorem bind_eq_ok {x : Except Fault α} {f : α → Except Fault β} {b : β} :
    (x >>= f) = .ok b ↔ ∃ a, x = .ok a ∧ f a = .ok b := by
  cases x <;> simp [bind, Except.bind]

theorem bind_eq_error {x : Except Fault α} {f : α → Except Fault β} {fault : Fault} :
    (x >>= f) = .error fault ↔ x = .error fault ∨ ∃ a, x = .ok a ∧ f a = .error fault := by
  cases x <;> simp [bind, Except.bind]

/-- A chain whose second part fails alike whatever the first one gives. -/
theorem bind_eq_error_of_forall {x : Except Fault α} {f : α → Except Fault β} {fault : Fault}
    {P : Prop} (h : ∀ a, f a = .error fault ↔ P) :
    (x >>= f) = .error fault ↔ x = .error fault ∨ (∃ a, x = .ok a) ∧ P := by
  simp only [bind_eq_error, h, exists_and_right]

theorem map_eq_ok {x : Except Fault α} {f : α → β} {b : β} :
    x.map f = .ok b ↔ ∃ a, x = .ok a ∧ f a = b := by
  cases x <;> simp [Except.map]

theorem map_returns_iff {x : Except Fault α} {f : α → β} :
    (∃ b, x.map f = .ok b) ↔ ∃ a, x = .ok a := by
  cases x <;> simp [Except.map]

theorem map_eq_error {x : Except Fault α} {f : α → β} {fault : Fault} :
    x.map f = .error fault ↔ x = .error fault := by
  cases x <;> simp [Except.map]

theorem mapM_cons_eq_ok {f : α → Except Fault β} {a : α} {as : List α} {bs : List β} :
    (a :: as).mapM f = .ok bs ↔
      ∃ b bs', f a = .ok b ∧ as.mapM f = .ok bs' ∧ bs = b :: bs' := by
  simp only [List.mapM_cons, bind_eq_ok, pure, Except.pure, Except.ok.injEq]
  refine ⟨fun h => ?_, fun h => ?_⟩
  · obtain ⟨b, hb, bs', hbs, rfl⟩ := h
    exact ⟨b, bs', hb, hbs, rfl⟩
  · obtain ⟨b, bs', hb, hbs, rfl⟩ := h
    exact ⟨b, hb, bs', hbs, rfl⟩

theorem mapM_append_eq_ok {f : α → Except Fault β} {as bs : List α} {cs : List β} :
    (as ++ bs).mapM f = .ok cs ↔
      ∃ xs ys, as.mapM f = .ok xs ∧ bs.mapM f = .ok ys ∧ cs = xs ++ ys := by
  simp only [List.mapM_append, bind_eq_ok, pure, Except.pure, Except.ok.injEq]
  refine ⟨fun h => ?_, fun h => ?_⟩
  · obtain ⟨xs, hx, ys, hy, rfl⟩ := h
    exact ⟨xs, ys, hx, hy, rfl⟩
  · obtain ⟨xs, ys, hx, hy, rfl⟩ := h
    exact ⟨xs, hx, ys, hy, rfl⟩

theorem length_of_mapM {f : α → Except Fault β} : ∀ {as : List α} {bs : List β},
    as.mapM f = .ok bs → bs.length = as.length
  | [], _, h => by cases h; rfl
  | _ :: _, _, h => by
    obtain ⟨_, _, -, hrest, rfl⟩ := mapM_cons_eq_ok.1 h
    rw [List.length_cons, List.length_cons, length_of_mapM hrest]

theorem eq_nil_iff_of_mapM {f : α → Except Fault β} {as : List α} {bs : List β}
    (h : as.mapM f = .ok bs) : bs = [] ↔ as = [] := by
  rw [← List.length_eq_zero_iff, ← List.length_eq_zero_iff, length_of_mapM h]

/-- What the items and the values have in common, they have item by item. -/
theorem map_eq_of_mapM {γ : Type} {f : α → Except Fault β} {u : α → γ} {v : β → γ}
    (huv : ∀ a b, f a = .ok b → u a = v b) : ∀ {as : List α} {bs : List β},
      as.mapM f = .ok bs → as.map u = bs.map v
  | [], _, h => by cases h; rfl
  | a :: as, _, h => by
    obtain ⟨b, bs, hb, hbs, rfl⟩ := mapM_cons_eq_ok.1 h
    rw [List.map_cons, List.map_cons, huv a b hb, map_eq_of_mapM huv hbs]

/-- A traversal that goes on with what another one returns for each item. -/
theorem mapM_eq_map_mapM {γ : Type} {f : α → Except Fault γ} {g : α → Except Fault β} {k : β → γ} :
    ∀ {as : List α}, (∀ a ∈ as, f a = (g a).map k) → as.mapM f = (as.mapM g).map (List.map k)
  | [], _ => rfl
  | a :: as, h => by
    obtain ⟨ha, has⟩ := List.forall_mem_cons.1 h
    rw [List.mapM_cons, List.mapM_cons, ha, mapM_eq_map_mapM has]
    cases g a with
    | error fault => rfl
    | ok b => cases as.mapM g <;> rfl

/-- What a traversal returns comes from its items. -/
theorem exists_of_mem_mapM {f : α → Except Fault β} : ∀ {as : List α} {bs : List β},
    as.mapM f = .ok bs → ∀ b ∈ bs, ∃ a ∈ as, f a = .ok b
  | [], _, h, b, hb => by cases h; cases hb
  | a :: as, _, h, b, hb => by
    obtain ⟨_, _, ha, has, rfl⟩ := mapM_cons_eq_ok.1 h
    rcases List.mem_cons.1 hb with rfl | hb
    · exact ⟨a, List.mem_cons_self, ha⟩
    · obtain ⟨c, hc, hfc⟩ := exists_of_mem_mapM has b hb
      exact ⟨c, List.mem_cons_of_mem a hc, hfc⟩

/-- What an item gives is among what a traversal returns. -/
theorem mem_of_mem_mapM {f : α → Except Fault β} {a : α} {b : β} (hb : f a = .ok b) :
    ∀ {as : List α} {bs : List β}, as.mapM f = .ok bs → a ∈ as → b ∈ bs
  | [], _, _, ha => by cases ha
  | c :: as, _, h, ha => by
    obtain ⟨_, _, hc, has, rfl⟩ := mapM_cons_eq_ok.1 h
    rcases List.mem_cons.1 ha with rfl | ha
    · cases hb.symm.trans hc
      exact List.mem_cons_self
    · exact List.mem_cons_of_mem _ (mem_of_mem_mapM hb has ha)

/-- A traversal returns if every item does. -/
theorem mapM_returns_iff {f : α → Except Fault β} : ∀ {as : List α},
    (∃ bs, as.mapM f = .ok bs) ↔ ∀ a ∈ as, ∃ b, f a = .ok b
  | [] => by simp [pure, Except.pure]
  | a :: as => by
    rw [List.forall_mem_cons, ← mapM_returns_iff]
    refine ⟨fun ⟨_, h⟩ => ?_, fun ⟨⟨b, hb⟩, bs, hbs⟩ => ?_⟩
    · obtain ⟨b, bs, hb, hbs, -⟩ := mapM_cons_eq_ok.1 h
      exact ⟨⟨b, hb⟩, bs, hbs⟩
    · exact ⟨_, mapM_cons_eq_ok.2 ⟨b, bs, hb, hbs, rfl⟩⟩

theorem mapM_cons_eq_error {f : α → Except Fault β} {a : α} {as : List α} {fault : Fault} :
    (a :: as).mapM f = .error fault ↔
      f a = .error fault ∨ (∃ b, f a = .ok b) ∧ as.mapM f = .error fault := by
  rw [List.mapM_cons]
  refine bind_eq_error_of_forall fun b => bind_eq_error.trans (or_iff_left ?_)
  rintro ⟨bs, -, hpure⟩
  cases hpure

/-- A traversal fails at the first item that does not return, with its fault. -/
theorem mapM_eq_error {f : α → Except Fault β} {fault : Fault} : ∀ {as : List α},
    as.mapM f = .error fault ↔
      ∃ before a, FirstNot (fun a => ∃ b, f a = .ok b) as before a ∧ f a = .error fault
  | [] => by simp [pure, Except.pure, not_firstNot_nil]
  | a :: as => by
    rw [mapM_cons_eq_error, mapM_eq_error]
    refine ⟨?_, fun ⟨before, c, hfirst, hc⟩ => ?_⟩
    · rintro (ha | ⟨hb, before, c, hfirst, hc⟩)
      · have hnot : ¬ ∃ b, f a = .ok b := by simp [ha]
        exact ⟨[], a, firstNot_cons.2 (.inl ⟨hnot, rfl, rfl⟩), ha⟩
      · exact ⟨a :: before, c, firstNot_cons.2 (.inr ⟨hb, before, rfl, hfirst⟩), hc⟩
    · rcases firstNot_cons.1 hfirst with ⟨-, -, rfl⟩ | ⟨hb, rest, -, hrest⟩
      · exact .inl hc
      · exact .inr ⟨hb, rest, c, hrest, hc⟩

end Checked

end CrateDdl
