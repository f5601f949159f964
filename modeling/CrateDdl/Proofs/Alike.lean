import CrateDdl.Table.Alteration
import CrateDdl.Table.Creation
import Mathlib.Data.List.Forall2
import Mathlib.Order.Basic

/-!
# Computations that go alike

`Act.Alike R V x y`: from related states, `x` and `y` fail with the same fault or return related
values, and end in related states.
-/

set_option autoImplicit false

namespace CrateDdl

namespace Act

variable {ω σ τ α β α' β' : Type}

/-- The same fault or related values, in related states. -/
inductive Match (R : σ → τ → Prop) (V : α → β → Prop) :
    EStateM.Result Fault σ α → EStateM.Result Fault τ β → Prop
  | ok {a : α} {b : β} {s : σ} {t : τ} : V a b → R s t → Match R V (.ok a s) (.ok b t)
  | error {fault : Fault} {s : σ} {t : τ} : R s t → Match R V (.error fault s) (.error fault t)

theorem Match.endState {R : σ → τ → Prop} {V : α → β → Prop} {x : EStateM.Result Fault σ α}
    {y : EStateM.Result Fault τ β} (h : Match R V x y) : R (endState x) (endState y) := by
  cases h with
  | ok _ hst => exact hst
  | error hst => exact hst

/-- Final states that are related otherwise. -/
theorem Match.imp {R R' : σ → τ → Prop} {V : α → β → Prop} {x : EStateM.Result Fault σ α}
    {y : EStateM.Result Fault τ β} (h : Match R V x y)
    (hR : R (Act.endState x) (Act.endState y) → R' (Act.endState x) (Act.endState y)) :
    Match R' V x y := by
  cases h with
  | ok hv hst => exact .ok hv (hR hst)
  | error hst => exact .error (hR hst)

variable [Preorder ω]

/-- From states that are related in a world. -/
def AlikeAt (R : ω → σ → τ → Prop) (V : ω → α → β → Prop) (w : ω) (x : Act σ α) (y : Act τ β) :
    Prop :=
  ∀ s t, R w s t → ∃ w', w ≤ w' ∧ Match (R w') (V w') (x s) (y t)

def Alike (R : ω → σ → τ → Prop) (V : ω → α → β → Prop) (x : Act σ α) (y : Act τ β) : Prop :=
  ∀ w, AlikeAt R V w x y

/-- The world of relations that do not change on the way. -/
inductive OneWorld
  | here

instance : Preorder OneWorld where
  le _ _ := True
  le_refl _ := trivial
  le_trans _ _ _ _ _ := trivial

/-- The same value, in every world. -/
abbrev Same (_ : ω) (a b : α) : Prop := a = b

variable {R : ω → σ → τ → Prop} {V : ω → α → β → Prop} {V' : ω → α' → β' → Prop} {w : ω}

protected theorem AlikeAt.pure {a : α} {b : β} (h : V w a b) :
    AlikeAt R V w (pure a : Act σ α) (pure b : Act τ β) :=
  fun _ _ hst => ⟨w, le_refl w, .ok h hst⟩

/-- The values that the first parts return are related in a world that the rest may rely on. -/
protected theorem AlikeAt.bind {x : Act σ α} {y : Act τ β} {f : α → Act σ α'} {g : β → Act τ β'}
    (hx : AlikeAt R V w x y)
    (hf : ∀ w', w ≤ w' → ∀ a b, V w' a b → AlikeAt R V' w' (f a) (g b)) :
    AlikeAt R V' w (x >>= f) (y >>= g) := by
  intro s t hst
  obtain ⟨w₁, hw₁, hm⟩ := hx s t hst
  revert hm
  cases hxs : x s with
  | ok a s₁ =>
    cases hyt : y t with
    | ok b t₁ =>
      rintro ⟨hab, hst₁⟩
      obtain ⟨w₂, hw₂, hm⟩ := hf w₁ hw₁ a b hab s₁ t₁ hst₁
      rw [bind_of_ok hxs, bind_of_ok hyt]
      exact ⟨w₂, le_trans hw₁ hw₂, hm⟩
    | error fault t₁ => rintro ⟨⟩
  | error fault s₁ =>
    cases hyt : y t with
    | ok b t₁ => rintro ⟨⟩
    | error fault' t₁ =>
      rintro ⟨⟩
      rename_i hst₁
      rw [bind_of_error hxs, bind_of_error hyt]
      exact ⟨w₁, hw₁, .error hst₁⟩

namespace Alike

protected theorem pure (a : α) : Alike R Same (pure a : Act σ α) (pure a : Act τ α) :=
  fun _ => .pure rfl

protected theorem throw (fault : Fault) :
    Alike R V (throw fault : Act σ α) (throw fault : Act τ β) :=
  fun w _ _ hst => ⟨w, le_refl w, .error hst⟩

protected theorem ofExcept (x : Except Fault α) :
    Alike R Same (ofExcept x : Act σ α) (ofExcept x : Act τ α) := by
  cases x with
  | ok a => exact .pure a
  | error fault => exact .throw fault

protected theorem bind {x : Act σ α} {y : Act τ α} {f : α → Act σ α'} {g : α → Act τ β'}
    (hx : Alike R Same x y) (hf : ∀ a, Alike R V' (f a) (g a)) :
    Alike R V' (x >>= f) (y >>= g) :=
  fun w => (hx w).bind fun w' _ a _ hab => hab ▸ hf a w'

protected theorem modify {f : σ → σ} {g : τ → τ} (h : ∀ w s t, R w s t → R w (f s) (g t)) :
    Alike R Same (modify f : Act σ Unit) (modify g : Act τ Unit) :=
  fun w s t hst => ⟨w, le_refl w, .ok rfl (h w s t hst)⟩

/-- Values that are related more closely. -/
protected theorem imp {V' : ω → α → β → Prop} {x : Act σ α} {y : Act τ β} (h : Alike R V x y)
    (hV : ∀ w a b, V w a b → V' w a b) : Alike R V' x y := by
  intro w s t hst
  obtain ⟨w', hw, hm⟩ := h w s t hst
  refine ⟨w', hw, ?_⟩
  revert hm
  generalize x s = result
  generalize y t = result'
  rintro (⟨hab, hst'⟩ | hst')
  · exact .ok (hV w' _ _ hab) hst'
  · exact .error hst'

/-- What goes on may depend on the state as it is now. -/
protected theorem get {f : σ → Act σ α} {g : τ → Act τ β}
    (h : ∀ w s t, R w s t → AlikeAt R V w (f s) (g t)) :
    Alike R V (get >>= f) (get >>= g) :=
  fun w s t hst => h w s t hst s t hst

/-- Parts of the states that go alike, where the rest is kept. -/
protected theorem onPart {σ' τ' : Type} {R' : ω → σ' → τ' → Prop} {get : σ' → σ}
    {set : σ → σ' → σ'} {get' : τ' → τ} {set' : τ → τ' → τ'} {x : Act σ α} {y : Act τ β}
    (hxy : Alike R V x y) (hget : ∀ w s t, R' w s t → R w (get s) (get' t))
    (hset : ∀ w w' s t a b, R' w s t → w ≤ w' → R w' a b → R' w' (set a s) (set' b t)) :
    Alike R' V (onPart get set x) (onPart get' set' y) := by
  intro w s t hst
  obtain ⟨w', hw, hm⟩ := hxy w _ _ (hget w s t hst)
  refine ⟨w', hw, ?_⟩
  unfold Act.onPart
  revert hm
  generalize x (get s) = result
  generalize y (get' t) = result'
  rintro (⟨hab, hst'⟩ | hst')
  · exact .ok hab (hset w w' s t _ _ hst hw hst')
  · exact .error (hset w w' s t _ _ hst hw hst')

end Alike

/-! ### What holds all the way -/

/-- What holds of the state in the beginning holds in the end. -/
def Holds (P : σ → Prop) (x : Act σ α) : Prop :=
  Alike (fun (_ : OneWorld) s t => s = t ∧ P s) Same x x

theorem Holds.endState {P : σ → Prop} {x : Act σ α} (h : Holds P x) {s : σ} (hs : P s) :
    P (endState (x s)) := by
  obtain ⟨_, -, hm⟩ := h .here s s ⟨rfl, hs⟩
  exact hm.endState.2

protected theorem Holds.bind {P : σ → Prop} {x : Act σ α} {f : α → Act σ α'} (hx : Holds P x)
    (hf : ∀ a, Holds P (f a)) : Holds P (x >>= f) :=
  Alike.bind hx hf

theorem Holds.of_endState {P : σ → Prop} {x : Act σ α} (h : ∀ s, P s → P (Act.endState (x s))) :
    Holds P x := by
  rintro w s _ ⟨rfl, hs⟩
  have hend := h s hs
  refine ⟨w, le_refl w, ?_⟩
  cases hx : x s with
  | ok a s' =>
    rw [hx] at hend
    exact .ok rfl ⟨rfl, hend⟩
  | error fault s' =>
    rw [hx] at hend
    exact .error ⟨rfl, hend⟩

end Act

open Act

variable {ω σ τ : Type} [Preorder ω] {R : ω → σ → τ → Prop}

/-! ## Notes and the creation of a table -/

section
variable {note : Note σ} {note' : Note τ}
  (hn : ∀ level message, Alike R Same (note level message) (note' level message))
include hn

theorem Note.reject_alike {α β : Type} {V : ω → α → β → Prop} (table operation : String) :
    Alike R V (note.reject table operation) (note'.reject table operation) :=
  (hn _ _).bind fun _ => .throw _

theorem Note.warnReserved_alike (table : String) : ∀ columns : List Column,
    Alike R Same (note.warnReserved table columns) (note'.warnReserved table columns)
  | [] => .pure ()
  | c :: rest => by
    have ih := warnReserved_alike table rest
    unfold Note.warnReserved
    split
    · exact (hn _ _).bind fun _ => ih
    · exact ih

theorem Platform.createTable_alike (p : Platform) (table : String) (columns : List Column)
    (options : TableOptions) :
    Alike R Same (p.createTable note table columns options)
      (p.createTable note' table columns options) := by
  have hrest := (Note.warnReserved_alike hn table columns).bind fun _ =>
    (Alike.ofExcept (p.createStatement table columns options)).bind fun statement =>
      (hn Level.debug ("Generated " ++ statement)).bind fun _ => Alike.pure statement
  unfold Platform.createTable
  split
  · exact hrest
  · exact (Note.reject_alike hn _ _).bind fun _ => hrest

end

/-! ## Hooks and the alteration of a table -/

namespace Hook

variable {C H H' : Type} {r : H → H' → Prop}

/-- Handlers that correspond one by one. -/
theorem collect_alike {call : H → Act σ Value} {call' : H' → Act τ Value}
    (hc : ∀ handler handler', r handler handler' →
      Alike R Same (call handler) (call' handler')) :
    ∀ {handlers : List H} {handlers' : List H'}, List.Forall₂ r handlers handlers' →
    Alike R Same (collect call handlers) (collect call' handlers')
  | _, _, .nil => .pure none
  | _, _, .cons hr hrest =>
    (hc _ _ hr).bind fun _ => (Alike.ofExcept _).bind fun _ =>
      (collect_alike hc hrest).bind fun _ => .pure _

theorem dispatch_alike_of_forall₂ {registry : σ → Registry H} {registry' : τ → Registry H'}
    {call : C → H → Act σ Value} {call' : C → H' → Act τ Value} (event : EventRef)
    (hr : ∀ w s t, R w s t →
      List.Forall₂ r ((registry s).handlers event) ((registry' t).handlers event))
    (ctx : C) (hc : ∀ handler handler', r handler handler' →
      Alike R Same (call ctx handler) (call' ctx handler')) :
    Alike R Same (dispatch registry call event ctx) (dispatch registry' call' event ctx) :=
  .get fun w s t hst => collect_alike hc (hr w s t hst) w

theorem dispatch_alike {registry : σ → Registry H} {registry' : τ → Registry H}
    {call : C → H → Act σ Value} {call' : C → H → Act τ Value}
    (hr : ∀ w s t, R w s t → registry s = registry' t)
    (hc : ∀ ctx handler, Alike R Same (call ctx handler) (call' ctx handler)) (event : EventRef)
    (ctx : C) :
    Alike R Same (dispatch registry call event ctx) (dispatch registry' call' event ctx) := by
  refine dispatch_alike_of_forall₂ (r := Eq) event (fun w s t hst => ?_) ctx ?_
  · rw [hr w s t hst]
    exact List.forall₂_same.2 fun _ _ => rfl
  · rintro handler _ rfl
    exact hc ctx handler

end Hook

/-- The surroundings of an alteration go alike. -/
structure Host.Alike (R : ω → σ → τ → Prop) (host : Host σ) (host' : Host τ) : Prop where
  note : ∀ level message, Act.Alike R Same (host.note level message) (host'.note level message)
  dispatch : ∀ event ctx, Act.Alike R Same (host.dispatch event ctx) (host'.dispatch event ctx)

namespace Platform

variable {host : Host σ} {host' : Host τ} (hh : host.Alike R host') (p : Platform)
  (diff : TableDiff)
include hh

theorem addColumn_alike (draft : Draft) (c : Column) :
    Alike R Same (p.addColumn host diff draft c) (p.addColumn host' diff draft c) :=
  (hh.dispatch _ _).bind fun outcome =>
    match outcome with
    | some _ => .pure _
    | none => .ofExcept _

theorem addColumns_alike : ∀ (columns : List Column) (draft : Draft),
    Alike R Same (p.addColumns host diff draft columns) (p.addColumns host' diff draft columns)
  | [], draft => .pure draft
  | c :: rest, draft =>
    (addColumn_alike hh p diff draft c).bind fun draft => addColumns_alike rest draft

theorem alterTable_alike : Alike R Same (p.alterTable host diff) (p.alterTable host' diff) := by
  have hrest := (Note.warnReserved_alike hh.note diff.name diff.added).bind fun _ =>
    (addColumns_alike hh p diff diff.added {}).bind fun draft =>
      (hh.dispatch .alterTable ⟨p, some diff, none⟩).bind fun table =>
        (hh.note Level.debug ("Generated " ++ toString (draft.statements table).length ++
          " statement(s) for ALTER TABLE " ++ diff.name)).bind fun _ =>
            Alike.pure (draft.statements table)
  unfold alterTable
  split
  · exact (Note.reject_alike hh.note _ _).bind fun _ => hrest
  · exact hrest

end Platform

end CrateDdl
