import CrateDdl.Proofs.Lasting

/-!
# Correlation ids over a session

What a request can do to the id of a journal is said once: it sets the id (`after_of_set`), shows it
(`after_of_shown`), or leaves it alone (`after_of_neither`). So the id at a request is the one that
the latest request before it has set or shown, and none if there has not been any
(`current_eq_none_iff`), which is all that a session does about ids (`Diary.KeepsIds`).
-/

set_option autoImplicit false

namespace CrateDdl

namespace Journal

variable {j : Journal} {r : Request} {id : CorrelationId}

/-- The id that a request sets, which is the answer to it. -/
def set? (j : Journal) : Request → Option CorrelationId
  | .setId value => some (j.setId value).1
  | _ => none

/-- The id that a request generates. -/
def generated? (j : Journal) (r : Request) : Option CorrelationId :=
  if (j.after r).generated = j.generated then none
  else some (.generated (j.after r).generated)

/-! ## One request -/

theorem after_of_set (h : j.set? r = some id) : (j.after r).current = some id := by
  cases r with
  | setId value =>
    cases h
    exact j.setId_current value
  | _ => cases h

/-- A request that shows an id reads it. -/
theorem after_of_shown (h : j.shown? r = some id) :
    j.readId.1 = id ∧ (j.after r).current = some id ∧
      (j.after r).generated = j.readId.2.generated := by
  cases r with
  | write level logger message =>
    cases hkept : j.installed && j.enabled level with
    | true =>
      rw [shown?_write_of_kept hkept] at h
      cases h
      rw [after, write_of_kept hkept]
      exact ⟨rfl, j.readId_current, rfl⟩
    | false =>
      rw [shown?_write_of_dropped hkept] at h
      cases h
  | readId =>
    cases h
    exact ⟨rfl, j.readId_current, rfl⟩
  | _ => cases h

theorem configure_ids (j : Journal) (environment : Option String) (level : Value) :
    (Act.endState (configure environment level j)).current = j.current ∧
      (Act.endState (configure environment level j)).generated = j.generated := by
  cases hi : j.installed with
  | true =>
    rw [configure_of_installed hi]
    exact ⟨rfl, rfl⟩
  | false =>
    rw [configure_of_not_installed hi]
    cases Level.asked environment level <;> exact ⟨rfl, rfl⟩

theorem after_of_neither (hset : j.set? r = none) (hshown : j.shown? r = none) :
    (j.after r).current = j.current ∧ (j.after r).generated = j.generated := by
  cases r with
  | configure environment level => exact j.configure_ids environment level
  | write level logger message =>
    cases hkept : j.installed && j.enabled level with
    | true =>
      rw [shown?_write_of_kept hkept] at hshown
      cases hshown
    | false =>
      rw [after, write_of_dropped hkept]
      exact ⟨rfl, rfl⟩
  | setId value => cases hset
  | readId => cases hshown
  | turnPage => exact ⟨rfl, rfl⟩

theorem set?_eq_some :
    j.set? r = some id ↔ ∃ value, r = .setId value ∧ (j.setId value).1 = id := by
  cases r <;> simp [set?]

/-! ### Generation -/

theorem generated?_of_eq (h : (j.after r).generated = j.generated) : j.generated? r = none :=
  if_pos h

theorem generated?_of_succ (h : (j.after r).generated = j.generated + 1) :
    j.generated? r = some (.generated (j.generated + 1)) := by
  rw [generated?, h, if_neg (Nat.succ_ne_self _)]

/-- An id is generated where a value that is not truthy is set, and where an id is shown while there
is none. -/
theorem generated?_eq_some :
    j.generated? r = some id ↔
      (∃ value, r = .setId value ∧ value.truthy = false) ∧ j.set? r = some id ∨
        j.current = none ∧ j.shown? r = some id := by
  cases hset : j.set? r with
  | some i =>
    obtain ⟨value, rfl, rfl⟩ := set?_eq_some.1 hset
    cases htruthy : value.truthy with
    | true =>
      rw [generated?_of_eq (congrArg (·.2.generated) (setId_of_truthy htruthy j))]
      simp [shown?, htruthy]
    | false =>
      rw [generated?_of_succ (congrArg (·.2.generated) (setId_of_not_truthy htruthy j))]
      simp [shown?, htruthy, setId_of_not_truthy htruthy]
  | none =>
    cases hshown : j.shown? r with
    | some i =>
      obtain ⟨hread, -, hgenerated⟩ := after_of_shown hshown
      cases hcurrent : j.current with
      | some i' =>
        rw [readId_of_some hcurrent] at hgenerated
        rw [generated?_of_eq hgenerated]
        simp
      | none =>
        rw [readId_of_none hcurrent] at hread hgenerated
        rw [generated?_of_succ hgenerated, ← hread]
        simp
    | none =>
      rw [generated?_of_eq (after_of_neither hset hshown).2]
      simp

theorem readId_generated_le (j : Journal) : j.generated ≤ j.readId.2.generated := by
  cases h : j.current with
  | some id => exact Nat.le_of_eq (congrArg (·.2.generated) (readId_of_some h)).symm
  | none =>
    rw [readId_of_none h]
    exact Nat.le_succ _

theorem generated_le (j : Journal) (r : Request) : j.generated ≤ (j.after r).generated := by
  cases hshown : j.shown? r with
  | some id =>
    rw [(after_of_shown hshown).2.2]
    exact j.readId_generated_le
  | none =>
    cases hset : j.set? r with
    | none => exact Nat.le_of_eq (after_of_neither hset hshown).2.symm
    | some id =>
      obtain ⟨value, rfl, -⟩ := set?_eq_some.1 hset
      cases h : value.truthy with
      | true => exact Nat.le_of_eq (congrArg (·.2.generated) (setId_of_truthy h j)).symm
      | false =>
        rw [after, setId_of_not_truthy h]
        exact Nat.le_succ _

/-- The number of a generated id is the count with it. -/
theorem generated_lt_of_generated? (h : j.generated? r = some id) :
    id = .generated (j.after r).generated ∧ j.generated < (j.after r).generated := by
  unfold generated? at h
  split at h
  · cases h
  · rename_i hne
    cases h
    exact ⟨rfl, Nat.lt_of_le_of_ne (j.generated_le r) (Ne.symm hne)⟩

end Journal

namespace Diary

section
variable {start : Journal} (d : Diary start)

/-- The id that the request of number `n` shows. -/
def shows (n : Nat) : Option CorrelationId := d.requests[n]?.bind (d.journalAt n).shown?

/-- The id that the request of number `n` sets. -/
def sets (n : Nat) : Option CorrelationId := d.requests[n]?.bind (d.journalAt n).set?

/-- The id that the request of number `n` generates. -/
def generates (n : Nat) : Option CorrelationId := d.requests[n]?.bind (d.journalAt n).generated?

/-! ## Any number of requests -/

variable {d} {m n : Nat} {id : CorrelationId}

theorem current_of_sets (h : d.sets n = some id) : (d.journalAt (n + 1)).current = some id := by
  obtain ⟨r, hn, hset⟩ := Option.bind_eq_some_iff.1 h
  rw [journalAt_succ hn]
  exact Journal.after_of_set hset

theorem current_of_shows (h : d.shows n = some id) : (d.journalAt (n + 1)).current = some id := by
  obtain ⟨r, hn, hshown⟩ := Option.bind_eq_some_iff.1 h
  rw [journalAt_succ hn]
  exact (Journal.after_of_shown hshown).2.1

theorem current_of_neither (hset : d.sets n = none) (hshown : d.shows n = none) :
    (d.journalAt (n + 1)).current = (d.journalAt n).current := by
  cases hn : d.requests[n]? with
  | none => rw [journalAt_succ_of_none hn]
  | some r =>
    rw [sets, hn] at hset
    rw [shows, hn] at hshown
    rw [journalAt_succ hn]
    exact (Journal.after_of_neither hset hshown).1

/-- What a request shows is the current id, if there is one. -/
theorem shows_of_current {i : CorrelationId} (hcurrent : (d.journalAt n).current = some i)
    (h : d.shows n = some id) : id = i := by
  obtain ⟨r, hn, hshown⟩ := Option.bind_eq_some_iff.1 h
  rw [← (Journal.after_of_shown hshown).1, Journal.readId_of_some hcurrent]

/-- The current id stays until another one is set. -/
theorem current_kept (hmn : m ≤ n) (hnone : ∀ k, m ≤ k → k < n → d.sets k = none)
    (h : (d.journalAt m).current = some id) : (d.journalAt n).current = some id := by
  induction hmn with
  | refl => exact h
  | @step n hmn ih =>
    have hn := ih fun k hmk hkn => hnone k hmk (Nat.lt_succ_of_lt hkn)
    cases hshown : d.shows n with
    | none => rw [current_of_neither (hnone n hmn n.lt_succ_self) hshown, hn]
    | some i => rw [current_of_shows hshown, shows_of_current hn hshown]

/-- There is no id as long as none has been set or shown. -/
theorem current_eq_none_iff {d : Diary {}} {n : Nat} :
    (d.journalAt n).current = none ↔ ∀ m < n, d.sets m = none ∧ d.shows m = none := by
  induction n with
  | zero => exact ⟨fun _ m hm => absurd hm m.not_lt_zero, fun _ => rfl⟩
  | succ n ih =>
    rw [Nat.forall_lt_succ_right, ← ih]
    refine ⟨fun h => ?_, fun ⟨hn, hset, hshown⟩ => (current_of_neither hset hshown).trans hn⟩
    cases hset : d.sets n with
    | some id => rw [current_of_sets hset] at h; cases h
    | none =>
      cases hshown : d.shows n with
      | some id => rw [current_of_shows hshown] at h; cases h
      | none => exact ⟨(current_of_neither hset hshown).symm.trans h, rfl, rfl⟩

theorem generated_mono (d : Diary start) (hmn : m ≤ n) :
    (d.journalAt m).generated ≤ (d.journalAt n).generated := by
  induction hmn with
  | refl => exact Nat.le_refl _
  | @step n _ ih =>
    cases hn : d.requests[n]? with
    | none => exact (journalAt_succ_of_none hn).symm ▸ ih
    | some r => exact (journalAt_succ hn).symm ▸ Nat.le_trans ih (Journal.generated_le _ r)

theorem generates_eq_some (h : d.generates n = some id) :
    id = .generated (d.journalAt (n + 1)).generated ∧
      (d.journalAt n).generated < (d.journalAt (n + 1)).generated := by
  obtain ⟨r, hn, hgenerated⟩ := Option.bind_eq_some_iff.1 h
  rw [journalAt_succ hn]
  exact Journal.generated_lt_of_generated? hgenerated

/-- Ids that are generated one after the other differ. -/
theorem generates_ne {i : CorrelationId} (hmn : m < n) (hm : d.generates m = some id)
    (hn : d.generates n = some i) : id ≠ i := by
  obtain ⟨rfl, -⟩ := generates_eq_some hm
  obtain ⟨rfl, hlt⟩ := generates_eq_some hn
  have hle : (d.journalAt (m + 1)).generated ≤ _ := generated_mono d hmn
  intro heq
  injection heq with heq
  omega

/-! ## Results that show ids -/

theorem shows_ask {α : Type} {r : Journal.Request} {act : Act Journal α} {d d' : Diary start}
    (h : Act.endState (ask r act d) = d') :
    d'.requests = d.requests ++ [r] ∧ d'.journal = d.journal.after r ∧
      d'.shows d.requests.length = d.journal.shown? r ∧
      d'.sets d.requests.length = d.journal.set? r := by
  have hd' : d' = { d with requests := d.requests ++ [r] } := by
    rw [← h, ask]
    cases hr : act d.journal with
    | ok a journal => rw [Act.onPart_of_ok hr]; rfl
    | error fault journal => rw [Act.onPart_of_error hr]; rfl
  subst hd'
  have hat : Diary.journalAt { d with requests := d.requests ++ [r] } d.requests.length =
      d.journal :=
    congrArg start.replay (List.take_left ..)
  refine ⟨rfl, start.replay_concat d.requests r, ?_, ?_⟩
  · rw [shows, hat, List.getElem?_concat_length]
    rfl
  · rw [sets, hat, List.getElem?_concat_length]
    rfl

/-- A step that asks the journal for an id and gives it back. -/
theorem perform_correlationId {changes : Nat → Option String → Option String} {step : Step}
    {r : Journal.Request} {f : Journal → CorrelationId × Journal}
    (hstep : ∀ perform : Step → Act (Diary start) Reply,
      performWith perform changes step = do return .correlationId (← ask r (modifyGet f)))
    {depth : Nat} {d d' : Diary start}
    (h : perform changes depth step d = .ok (.correlationId id) d') :
    (f d.journal).1 = id ∧ Act.endState (ask r (modifyGet f) (d.marked step)) = d' := by
  cases depth with
  | zero => cases h
  | succ depth =>
    rw [perform_succ] at h
    obtain ⟨reply, d₁, hwith, hwritable⟩ := Act.bind_eq_ok.1 h
    obtain ⟨hreply, rfl⟩ := Act.ofExcept_eq_ok.1 hwritable
    rw [hstep] at hwith
    cases hwith
    rcases Session.writable_eq (.correlationId (f (d.marked step).journal).1) with heq | heq
    · rw [heq] at hreply
      cases hreply
      exact ⟨rfl, rfl⟩
    · rw [heq] at hreply
      cases hreply

end

theorem generates_eq_some_iff {d : Diary {}} {n : Nat} {id : CorrelationId} :
    d.generates n = some id ↔
      (∃ value, d.requests[n]? = some (.setId value) ∧ value.truthy = false) ∧
          d.sets n = some id ∨
        d.shows n = some id ∧ ∀ m < n, d.sets m = none ∧ d.shows m = none := by
  rw [← current_eq_none_iff, generates, sets, shows]
  cases hn : d.requests[n]? with
  | none => simp
  | some r =>
    rw [Option.bind_some, Option.bind_some, Option.bind_some, Journal.generated?_eq_some,
      and_comm (a := (d.journalAt n).current = none)]
    simp

/-- A request that shows the id that it generates is the first one about ids. -/
theorem first_of_generates {d : Diary {}} {n : Nat} (hshown : d.shows n ≠ none)
    (hgenerates : d.generates n ≠ none) : ∀ m < n, d.sets m = none ∧ d.shows m = none := by
  obtain ⟨id, hid⟩ := Option.ne_none_iff_exists'.1 hgenerates
  rcases generates_eq_some_iff.1 hid with ⟨⟨value, hn, -⟩, -⟩ | ⟨-, hfirst⟩
  · rw [shows, hn] at hshown
    exact absurd rfl hshown
  · exact hfirst

/-- What requests do about ids. -/
structure KeepsIds (d : Diary {}) : Prop where
  /-- Two requests show the same id, unless one is set between them. -/
  shows_eq : ∀ m n i j, m < n → d.shows m = some i → d.shows n = some j →
    (∀ k, m < k → k < n → d.sets k = none) → j = i
  /-- A request shows the id that has been set last. -/
  shows_sets : ∀ m n i j, m < n → d.sets m = some i → d.shows n = some j →
    (∀ k, m < k → k < n → d.sets k = none) → j = i
  /-- A truthy value becomes the id. -/
  sets_given : ∀ n value, d.requests[n]? = some (.setId value) → value.truthy = true →
    d.sets n = some (.given value) ∧ d.generates n = none
  /-- Any other value asks for a generated id. -/
  sets_generated : ∀ n value, d.requests[n]? = some (.setId value) → value.truthy = false →
    ∃ id, d.sets n = some id ∧ d.generates n = some id
  /-- Besides, an id is generated only where one is shown and none has been set or shown before. -/
  generates_iff : ∀ n id, d.generates n = some id ↔
    (∃ value, d.requests[n]? = some (.setId value) ∧ value.truthy = false) ∧
        d.sets n = some id ∨
      d.shows n = some id ∧ ∀ m < n, d.sets m = none ∧ d.shows m = none
  /-- This happens once. -/
  generates_once : ∀ m n, d.shows m ≠ none → d.generates m ≠ none → d.shows n ≠ none →
    d.generates n ≠ none → m = n
  /-- A line is kept where its level is written, and shows the id; else nothing happens. -/
  write : ∀ n level logger message, d.requests[n]? = some (.write level logger message) →
    if (d.journalAt n).installed && (d.journalAt n).enabled level then d.shows n ≠ none
    else d.shows n = none ∧ d.generates n = none ∧ d.journalAt (n + 1) = d.journalAt n
  /-- No id is generated twice. -/
  generates_injective : ∀ m n id, d.generates m = some id → d.generates n = some id → m = n

theorem keepsIds (d : Diary {}) : d.KeepsIds where
  shows_eq m n i j hmn hm hn hnone :=
    shows_of_current (current_kept hmn (fun k hk => hnone k hk) (current_of_shows hm)) hn
  shows_sets m n i j hmn hm hn hnone :=
    shows_of_current (current_kept hmn (fun k hk => hnone k hk) (current_of_sets hm)) hn
  sets_given n value hn htruthy := by
    rw [sets, generates, hn]
    have hset := Journal.setId_of_truthy htruthy (d.journalAt n)
    exact ⟨congrArg some (congrArg Prod.fst hset),
      Journal.generated?_of_eq (congrArg (·.2.generated) hset)⟩
  sets_generated n value hn htruthy := by
    rw [sets, generates, hn]
    exact ⟨_, rfl, Journal.generated?_eq_some.2 (.inl ⟨⟨value, rfl, htruthy⟩, rfl⟩)⟩
  generates_iff _ _ := generates_eq_some_iff
  generates_once m n hm hgm hn hgn := by
    rcases Nat.lt_trichotomy m n with hlt | heq | hgt
    · exact absurd (first_of_generates hn hgn m hlt).2 hm
    · exact heq
    · exact absurd (first_of_generates hm hgm n hgt).2 hn
  write n level logger message hn := by
    split
    · rename_i hkept
      rw [shows, hn, Option.bind_some, Journal.shown?_write_of_kept hkept]
      exact Option.some_ne_none _
    · rename_i hdropped
      have hj := Journal.write_of_dropped (eq_false_of_ne_true hdropped) logger message
      rw [shows, generates, hn, journalAt_succ hn]
      exact ⟨Journal.shown?_write_of_dropped (eq_false_of_ne_true hdropped) logger message,
        Journal.generated?_of_eq (congrArg Journal.generated hj), hj⟩
  generates_injective m n id hm hn := by
    rcases Nat.lt_trichotomy m n with hlt | heq | hgt
    · exact absurd rfl (generates_ne hlt hm hn)
    · exact heq
    · exact absurd rfl (generates_ne hgt hn hm)

end Diary

/-- **Correlation ids hold until they are set.** In every session, two requests that show an id, by
a line or as an answer, show the same one unless one is set between them, and show what was set
last. A truthy value becomes the id. Any other asks for a new one, and besides one is generated only
where the first id is shown, if none has been set; a line that is not written has nothing to do with
ids. The requests are those of the session, and what they show and set is what its steps give back
and its lines bear. -/
theorem correlation_ids (changes : Nat → Option String → Option String)
    (environment : Option String) (steps : List Step) :
    (diary changes environment steps).KeepsIds ∧
    (diary Diary.unchanged environment steps).session = Session.after { environment } steps ∧
    (∀ (d d' : Diary {}) depth id,
      Diary.perform changes depth .getCorrelationId d = .ok (.correlationId id) d' →
        d'.requests = d.requests ++ [.readId] ∧ d'.shows d.requests.length = some id) ∧
    (∀ (d d' : Diary {}) depth value id,
      Diary.perform changes depth (.setCorrelationId value) d = .ok (.correlationId id) d' →
        d'.requests = d.requests ++ [.setId value] ∧ d'.sets d.requests.length = some id) ∧
    (∀ (d d' : Diary {}) logger level message, Diary.note logger level message d = .ok () d' →
      d'.requests = d.requests ++ [.write level logger message] ∧
        d'.journal.entries = d.journal.entries ++
          (d'.shows d.requests.length).toList.map (⟨level, ·, logger, message⟩)) := by
  refine ⟨Diary.keepsIds _, diary_session environment steps, fun d d' depth id h => ?_,
    fun d d' depth value id h => ?_, fun d d' logger level message h => ?_⟩
  · obtain ⟨rfl, hask⟩ := Diary.perform_correlationId (fun _ => rfl) h
    obtain ⟨hrequests, -, hshows, -⟩ := Diary.shows_ask hask
    exact ⟨hrequests, hshows⟩
  · obtain ⟨rfl, hask⟩ := Diary.perform_correlationId (fun _ => rfl) h
    obtain ⟨hrequests, -, -, hsets⟩ := Diary.shows_ask hask
    exact ⟨hrequests, hsets⟩
  · have hask : Act.endState (Diary.ask _ _ d) = d' := congrArg Act.endState h
    obtain ⟨hrequests, hjournal, hshows, -⟩ := Diary.shows_ask hask
    refine ⟨hrequests, ?_⟩
    rw [hjournal, hshows]
    exact d.journal.write_entries_shown level logger message

end CrateDdl
