import CrateDdl.Journal.Basic

/-!
# Requests to a journal

All that a session does to its journal is to put requests to it, one after the other, and the
journal is what they come to (`Journal.replay`). The request of each kind is opened here, by one
equation for each of its cases. From these follows what any request can do to the handlers and the
level (`after_setUp`) and to the id (`after_of_set`, `after_of_shown`, `after_of_neither`), and from
that what holds of any number of requests.
-/

set_option autoImplicit false

namespace CrateDdl

/-- The level that a journal is set up with: the one that it is given, or the environment's. -/
def Level.asked (environment : Option String) : Value → Except Fault Int
  | .null => .ok (ofEnvironment environment)
  | level => ofValue level

namespace Journal

/-- What a journal can be asked for. -/
inductive Request
  | configure (environment : Option String) (level : Value)
  | write (level : Int) (logger message : String)
  | setId (value : Value)
  | readId
  /-- A clean page for lines. -/
  | turnPage

/-- The journal after a request, whether it has failed or not. -/
def after (j : Journal) : Request → Journal
  | .configure environment level => Act.endState (configure environment level j)
  | .write level logger message => j.write level logger message
  | .setId value => (j.setId value).2
  | .readId => j.readId.2
  | .turnPage => { j with entries := [] }

/-- The journal after requests, put one after the other. -/
def replay (j : Journal) (requests : List Request) : Journal := requests.foldl after j

/-- The id that a request shows: in the line that is written, if it is, or as the answer. -/
def shown? (j : Journal) : Request → Option CorrelationId
  | .write level logger message =>
    ((j.write level logger message).entries[j.entries.length]?).map Entry.id
  | .readId => some j.readId.1
  | _ => none

theorem replay_append (j : Journal) (requests later : List Request) :
    j.replay (requests ++ later) = (j.replay requests).replay later := List.foldl_append

theorem replay_concat (j : Journal) (requests : List Request) (r : Request) :
    j.replay (requests ++ [r]) = (j.replay requests).after r := replay_append j requests [r]

theorem replay_take_succ (j : Journal) {requests : List Request} {n : Nat} {r : Request}
    (hn : requests[n]? = some r) :
    j.replay (requests.take (n + 1)) = (j.replay (requests.take n)).after r := by
  rw [List.take_add_one, hn, Option.toList_some, replay_concat]

/-- Behind the last request nothing happens. -/
theorem replay_take_succ_of_none (j : Journal) {requests : List Request} {n : Nat}
    (hn : requests[n]? = none) : j.replay (requests.take (n + 1)) = j.replay (requests.take n) := by
  rw [List.take_add_one, hn, Option.toList_none, List.append_nil]

/-! ## Setting up -/

section
variable {j : Journal}

theorem configure_eq (environment : Option String) (level : Value) :
    configure environment level =
      get >>= fun j : Journal => if j.installed then pure () else
        modify (fun j : Journal => { j with handlers := j.handlers + 1 }) >>= fun _ =>
          Act.ofExcept (Level.asked environment level) >>= fun level =>
            modify fun j : Journal => { j with level } := by
  unfold configure Level.asked
  cases level with
  | null => rfl
  | _ => dsimp only

/-- A journal that has been set up is left as it is, whatever level it is asked for. -/
theorem configure_of_installed (h : j.installed = true) (environment : Option String)
    (level : Value) : configure environment level j = .ok () j := by
  rw [configure_eq, Act.bind_of_ok (Act.get_run j), if_pos h]
  rfl

/-- A journal that is set up gets a handler, even if the level is at fault. -/
theorem configure_of_not_installed (h : j.installed = false) (environment : Option String)
    (level : Value) :
    configure environment level j =
      match Level.asked environment level with
      | .ok level => .ok () { j with handlers := j.handlers + 1, level }
      | .error fault => .error fault { j with handlers := j.handlers + 1 } := by
  rw [configure_eq, Act.bind_of_ok (Act.get_run j), h]
  cases Level.asked environment level <;> rfl

/-- Setting up a journal leaves it set up, even if the level is at fault. -/
theorem after_configure_installed (j : Journal) (environment : Option String) (level : Value) :
    (j.after (.configure environment level)).installed = true := by
  cases hi : j.installed with
  | true =>
    rw [after, configure_of_installed hi]
    exact hi
  | false =>
    rw [after, configure_of_not_installed hi]
    cases Level.asked environment level <;> exact bne_iff_ne.2 (Nat.succ_ne_zero _)

/-- Setting up a journal as the environment says does not fail. -/
theorem configure_null_eq (j : Journal) (environment : Option String) :
    configure environment .null j = .ok () (j.after (.configure environment .null)) := by
  cases hi : j.installed with
  | true => rw [after, configure_of_installed hi]; rfl
  | false => rw [after, configure_of_not_installed hi]; rfl

end

/-! ## Ids -/

section
variable {j : Journal} {id : CorrelationId}

theorem setId_of_truthy {value : Value} (h : value.truthy = true) (j : Journal) :
    j.setId value = (.given value, { j with current := some (.given value) }) := if_pos h

theorem setId_of_not_truthy {value : Value} (h : value.truthy = false) (j : Journal) :
    j.setId value =
      (.generated (j.generated + 1),
        { j with
          current := some (.generated (j.generated + 1)), generated := j.generated + 1 }) := by
  rw [setId, h]
  rfl

theorem setId_current (j : Journal) (value : Value) :
    (j.setId value).2.current = some (j.setId value).1 := by
  cases h : value.truthy with
  | true => rw [setId_of_truthy h]
  | false => rw [setId_of_not_truthy h]

theorem readId_of_some (h : j.current = some id) : j.readId = (id, j) := by
  rw [readId, h]

theorem readId_of_none (h : j.current = none) :
    j.readId =
      (.generated (j.generated + 1),
        { j with
          current := some (.generated (j.generated + 1)), generated := j.generated + 1 }) := by
  rw [readId, h]
  exact setId_of_not_truthy rfl j

theorem readId_current (j : Journal) : j.readId.2.current = some j.readId.1 := by
  cases h : j.current with
  | some id =>
    rw [readId_of_some h]
    exact h
  | none => rw [readId_of_none h]

theorem readId_entries (j : Journal) : j.readId.2.entries = j.entries := by
  cases h : j.current with
  | some id => rw [readId_of_some h]
  | none => rw [readId_of_none h]

end

/-! ## Lines -/

section
variable {j : Journal} {level : Int}

theorem write_of_kept (h : (j.installed && j.enabled level) = true) (logger message : String) :
    j.write level logger message =
      { j.readId.2 with
        entries := j.readId.2.entries ++ [⟨level, j.readId.1, logger, message⟩] } := by
  rw [write, if_pos h]

theorem write_of_dropped (h : (j.installed && j.enabled level) = false) (logger message : String) :
    j.write level logger message = j := by
  rw [write, h]
  rfl

theorem shown?_write_of_kept (h : (j.installed && j.enabled level) = true)
    (logger message : String) : j.shown? (.write level logger message) = some j.readId.1 := by
  rw [shown?, write_of_kept h, readId_entries]
  simp

theorem shown?_write_of_dropped (h : (j.installed && j.enabled level) = false)
    (logger message : String) : j.shown? (.write level logger message) = none := by
  rw [shown?, write_of_dropped h]
  simp

/-- A line bears the id that it shows. -/
theorem write_entries_shown (j : Journal) (level : Int) (logger message : String) :
    (j.after (.write level logger message)).entries = j.entries ++
      (j.shown? (.write level logger message)).toList.map (⟨level, ·, logger, message⟩) := by
  rw [after]
  cases hkept : j.installed && j.enabled level with
  | true =>
    rw [shown?_write_of_kept hkept, write_of_kept hkept, j.readId_entries]
    rfl
  | false =>
    rw [shown?_write_of_dropped hkept, write_of_dropped hkept]
    exact (List.append_nil _).symm

end

end Journal

end CrateDdl
