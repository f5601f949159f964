import CrateDdl.Proofs.Lasting

/-!
# Setting the journal up

What a request can do to the handlers and the level of a journal is said once (`after_setUp`): it
leaves them alone, unless it sets the journal up, and it does that only where there is no handler.
From there on the journal stays as it has been set up (`Settles`), in every session, however the
environment changes in it (`configured_once`).
-/

set_option autoImplicit false

namespace CrateDdl

namespace Journal

variable {j k : Journal}

/-! ## One request -/

theorem setId_setUp (j : Journal) (value : Value) :
    (j.setId value).2.handlers = j.handlers ∧ (j.setId value).2.level = j.level := by
  unfold setId
  split <;> exact ⟨rfl, rfl⟩

theorem readId_setUp (j : Journal) :
    j.readId.2.handlers = j.handlers ∧ j.readId.2.level = j.level := by
  unfold readId
  split
  · exact ⟨rfl, rfl⟩
  · exact j.setId_setUp .null

theorem write_setUp (j : Journal) (level : Int) (logger message : String) :
    (j.write level logger message).handlers = j.handlers ∧
      (j.write level logger message).level = j.level := by
  cases hkept : j.installed && j.enabled level with
  | true =>
    rw [write_of_kept hkept]
    exact j.readId_setUp
  | false =>
    rw [write_of_dropped hkept]
    exact ⟨rfl, rfl⟩

theorem after_setUp (j : Journal) (r : Request) :
    ((j.after r).handlers = j.handlers ∧ (j.after r).level = j.level) ∨
      ∃ environment level, r = .configure environment level ∧ j.handlers = 0 ∧
        (j.after r).handlers = 1 := by
  cases r with
  | configure environment level =>
    cases hi : j.installed with
    | true =>
      rw [after, configure_of_installed hi]
      exact .inl ⟨rfl, rfl⟩
    | false =>
      have hzero : j.handlers = 0 := by simpa [installed] using hi
      refine .inr ⟨environment, level, rfl, hzero, ?_⟩
      rw [after, configure_of_not_installed hi]
      cases Level.asked environment level <;> exact congrArg (· + 1) hzero
  | write level logger message => exact .inl (j.write_setUp level logger message)
  | setId value => exact .inl (j.setId_setUp value)
  | readId => exact .inl j.readId_setUp
  | turnPage => exact .inl ⟨rfl, rfl⟩

theorem effectiveLevel_congr (h : k.level = j.level) : k.effectiveLevel = j.effectiveLevel := by
  rw [effectiveLevel, effectiveLevel, h]

/-! ## Any number of requests -/

/-- How a journal goes on: it loses no handler, and keeps the one that it has with its level. -/
structure Settles (j k : Journal) : Prop where
  handlers_le : j.handlers ≤ k.handlers
  at_most_one : j.handlers ≤ 1 → k.handlers ≤ 1
  level : j.handlers ≠ 0 → k.level = j.level

namespace Settles

theorem refl (j : Journal) : Settles j j := ⟨Nat.le_refl _, id, fun _ => rfl⟩

theorem trans {l : Journal} (h : Settles j k) (h' : Settles k l) : Settles j l where
  handlers_le := Nat.le_trans h.handlers_le h'.handlers_le
  at_most_one hj := h'.at_most_one (h.at_most_one hj)
  level hj := by
    have hk : k.handlers ≠ 0 := by
      have := h.handlers_le
      omega
    rw [h'.level hk, h.level hj]

theorem installed (h : Settles j k) (hj : j.installed = true) : k.installed = true := by
  have hk := h.handlers_le
  simp only [Journal.installed, bne_iff_ne] at hj ⊢
  omega

theorem level_of_installed (h : Settles j k) (hj : j.installed = true) : k.level = j.level :=
  h.level (bne_iff_ne.1 hj)

theorem after (j : Journal) (r : Request) : Settles j (j.after r) := by
  rcases j.after_setUp r with ⟨hhandlers, hlevel⟩ | ⟨_, _, -, hzero, hone⟩
  · exact ⟨by omega, by omega, fun _ => hlevel⟩
  · exact ⟨by omega, by omega, fun h => absurd hzero h⟩

theorem replay (j : Journal) (requests : List Request) : Settles j (j.replay requests) := by
  induction requests generalizing j with
  | nil => exact .refl j
  | cons r rest ih => exact (after j r).trans (ih (j.after r))

/-- From one place among the requests to a later one. -/
theorem replay_take (j : Journal) (requests : List Request) {m n : Nat} (hmn : m ≤ n) :
    Settles (j.replay (requests.take m)) (j.replay (requests.take n)) := by
  have hsplit : requests.take n = requests.take m ++ (requests.take n).drop m := by
    have h := List.take_append_drop m (requests.take n)
    rw [List.take_take, Nat.min_eq_left hmn] at h
    exact h.symm
  rw [hsplit, replay_append]
  exact .replay _ _

end Settles

end Journal

/-! ## Sessions -/

theorem Session.perform_configureLogging {s : Session} (h : s.journal.installed = true)
    (depth : Nat) (environment : Option String) (level : Value) :
    perform (depth + 1) (.configureLogging environment level) s = .ok .done s := by
  have hconfigure : configure environment level s = .ok () s :=
    Act.onPart_of_ok (Journal.configure_of_installed h environment level)
  have hwith :
      performWith (perform depth) (.configureLogging environment level) s = .ok .done s := by
    rw [performWith, Act.bind_of_ok hconfigure]
    rfl
  rw [perform, Act.bind_of_ok hwith]
  rfl

/-- **The journal is set up once.** However steps and handlers ask for it, and whatever becomes of
the environment meanwhile, it has no handler or one, and never loses one. The level changes only at
a request that sets the journal up and finds no handler, which leaves it with one; from there on
both stay as they are, and setting the journal up returns and does nothing, with any level. -/
theorem configured_once (changes : Nat → Option String → Option String)
    (environment : Option String) (steps : List Step) :
    let d := diary changes environment steps
    (∀ n, (d.journalAt n).handlers = 0 ∨ (d.journalAt n).handlers = 1) ∧
    (∀ m n, m ≤ n → (d.journalAt m).handlers ≤ (d.journalAt n).handlers) ∧
    (∀ n, (d.journalAt (n + 1)).level ≠ (d.journalAt n).level →
      ∃ environment level, d.requests[n]? = some (.configure environment level) ∧
        (d.journalAt n).handlers = 0 ∧ (d.journalAt (n + 1)).handlers = 1) ∧
    (∀ m n, m ≤ n → (d.journalAt m).handlers = 1 →
      (d.journalAt n).handlers = 1 ∧ (d.journalAt n).level = (d.journalAt m).level) ∧
    (∀ n, (d.journalAt n).handlers = 1 → ∀ environment level,
      Journal.configure environment level (d.journalAt n) = .ok () (d.journalAt n)) ∧
    (∀ s : Session, s.journal.handlers = 1 → ∀ depth environment level,
      Session.perform (depth + 1) (.configureLogging environment level) s = .ok .done s) ∧
    d.journalAt d.requests.length = d.journal ∧
    (diary Diary.unchanged environment steps).session = Session.after { environment } steps := by
  intro d
  have hsettles {m n : Nat} (hmn : m ≤ n) : Journal.Settles (d.journalAt m) (d.journalAt n) :=
    Journal.Settles.replay_take {} d.requests hmn
  have hle (n : Nat) : (d.journalAt n).handlers ≤ 1 :=
    (Journal.Settles.replay {} (d.requests.take n)).at_most_one (Nat.zero_le 1)
  have hinstalled {j : Journal} (h : j.handlers = 1) : j.installed = true := by
    rw [Journal.installed, h]
    rfl
  refine ⟨fun n => ?_, fun m n hmn => (hsettles hmn).handlers_le, fun n hne => ?_,
    fun m n hmn hm => ?_, fun n h => Journal.configure_of_installed (hinstalled h),
    fun s h => s.perform_configureLogging (hinstalled h), d.journalAt_length,
    diary_session environment steps⟩
  · have := hle n
    omega
  · cases hn : d.requests[n]? with
    | none => exact absurd (congrArg Journal.level (Diary.journalAt_succ_of_none hn)) hne
    | some r =>
      rw [Diary.journalAt_succ hn] at hne ⊢
      rcases (d.journalAt n).after_setUp r with ⟨-, hlevel⟩ | ⟨environment, level, hr, hsetUp⟩
      · exact absurd hlevel hne
      · exact ⟨environment, level, congrArg some hr, hsetUp⟩
  · have hmono := (hsettles hmn).handlers_le
    have hn := hle n
    exact ⟨by omega, (hsettles hmn).level (by omega)⟩

end CrateDdl
