import CrateDdl.Proofs.Accounts
import CrateDdl.Proofs.SetUp
import CrateDdl.Proofs.UpperCase

/-!
# Starting up

The environment may hold any text: the level that it asks for is that of a standard name, or the
one for information (`Level.Asks`). So the journal can be set up without being told a level, a logger
can be asked for and a builder be made, whatever the environment says (`start_up_never_fails`).

The table of levels answers a name with a number, or with a text where it knows no number
(`Level.answer`). What keeps the start safe is that only numbers are taken from the table
(`Level.ofValue_number`).
-/

set_option autoImplicit false

namespace CrateDdl

namespace Level

/-! ## Names of levels -/

theorem ofName?_eq_some_iff {name : String} {level : Int} :
    ofName? name = some level ↔ (name, level) ∈ names := by
  constructor
  · intro h
    obtain ⟨before, after, hsplit, -⟩ := List.lookup_eq_some_iff.1 h
    rw [hsplit]
    exact List.mem_append_right before List.mem_cons_self
  · intro h
    have hnames : ∀ entry ∈ names, ofName? entry.1 = some entry.2 := by decide
    exact hnames (name, level) h

theorem ofName?_eq_none_iff {name : String} :
    ofName? name = none ↔ ∀ level, (name, level) ∉ names := by
  simp [Option.eq_none_iff_forall_ne_some, ofName?_eq_some_iff]

/-- The names of the levels are made of the letters of ASCII. -/
theorem ofName?_eq_none_of_mem {name : String} {c : Char} (hc : c ∈ name.toList)
    (hletter : Text.inRanges Text.asciiLetters c = false) : ofName? name = none := by
  have hletters : ∀ entry ∈ names, entry.1.toList.all (Text.inRanges Text.asciiLetters) = true := by
    decide
  refine ofName?_eq_none_iff.2 fun level hmem => ?_
  rw [List.all_eq_true.1 (hletters _ hmem) c hc] at hletter
  cases hletter

/-- The level that a text asks for: that of the standard name that it is, in upper case and without
its outer blanks, and otherwise the level for information. -/
inductive Asks (text : String) : Int → Prop
  | named {level : Int} : (Text.upper (Text.strip text), level) ∈ names → Asks text level
  | unnamed : (∀ level, (Text.upper (Text.strip text), level) ∉ names) → Asks text info

theorem asks_ofEnvironment (setting : Option String) :
    Asks (setting.getD "") (ofEnvironment setting) := by
  unfold ofEnvironment
  cases h : ofName? (Text.upper (Text.strip (setting.getD ""))) with
  | some level => exact .named (ofName?_eq_some_iff.1 h)
  | none => exact .unnamed (ofName?_eq_none_iff.1 h)

theorem Asks.mem {text : String} {level : Int} (h : Asks text level) :
    level ∈ [0, 10, 20, 30, 40, 50] := by
  cases h with
  | named hmem =>
    have hlevels : ∀ entry ∈ names, entry.2 ∈ [0, 10, 20, 30, 40, 50] := by decide
    exact hlevels _ hmem
  | unnamed => decide

theorem ofEnvironment_of_unnamed {text : String}
    (h : ofName? (Text.upper (Text.strip text)) = none) : ofEnvironment (some text) = info := by
  rw [ofEnvironment, Option.getD_some, h, Option.getD_none]

/-- A text of blanks asks for nothing. -/
theorem ofEnvironment_of_blank {text : String} (h : Text.Blank text.toList) :
    ofEnvironment (some text) = info := by
  apply ofEnvironment_of_unnamed
  rw [(Text.strip_eq_empty_iff text).2 h]
  decide

/-- A text with a digit in it is no name of a level. -/
theorem ofEnvironment_of_digit {text : String} {c : Char} (hc : c ∈ text.toList)
    (hdigit : (Text.digitValue? c).isSome = true) : ofEnvironment (some text) = info := by
  obtain ⟨hblank, hletter⟩ := Text.not_blank_of_digit hdigit
  have hmem := Text.mem_upper_of_digit hdigit (Text.mem_strip_of_not_blank hc hblank)
  exact ofEnvironment_of_unnamed (ofName?_eq_none_of_mem hmem hletter)

theorem ofEnvironment_padded {before after : String} (hb : Text.Blank before.toList)
    (ha : Text.Blank after.toList) (text : String) :
    ofEnvironment (some (before ++ text ++ after)) = ofEnvironment (some text) := by
  rw [ofEnvironment, ofEnvironment, Option.getD_some, Option.getD_some, Text.strip_padded hb ha]

theorem ofEnvironment_toLower (text : String) :
    ofEnvironment (some text.toLower) = ofEnvironment (some text) := by
  rw [ofEnvironment, ofEnvironment, Option.getD_some, Option.getD_some, Text.strip_toLower,
    Text.upper_toLower]

/-! ## Numbers only -/

/-- What the table of levels answers for a name: its level, or a text that says that it has none. -/
def answer (name : String) : Value :=
  match ofName? name with
  | some level => .int level
  | none => .text ("Level " ++ name)

/-- A number is a level; in place of anything else stands the level for information. -/
def number : Value → Value
  | .int level => .int level
  | _ => .int info

/-- Taking only numbers from the table, every text asks for a level that is not at fault. -/
theorem ofValue_number (text : String) :
    ofValue (number (answer (Text.upper (Text.strip text)))) = .ok (ofEnvironment (some text)) := by
  rw [ofEnvironment, Option.getD_some, answer]
  cases ofName? (Text.upper (Text.strip text)) <;> rfl

end Level

namespace Journal

/-- The journal as it is set up without being told a level: with a handler it stays as it is. -/
def started (environment : Option String) (j : Journal) : Journal :=
  if j.handlers = 0 then { j with handlers := 1, level := Level.ofEnvironment environment } else j

theorem after_configure_null (j : Journal) (environment : Option String) :
    j.after (.configure environment .null) = j.started environment := by
  rw [after]
  by_cases h : j.handlers = 0
  · have hi : j.installed = false := by rw [installed, h]; rfl
    rw [configure_of_not_installed hi, started, if_pos h, h]
    rfl
  · rw [configure_of_installed (bne_iff_ne.2 h), started, if_neg h]
    rfl

end Journal

namespace Session

open Act

/-- A step that returns what can be written. -/
theorem perform_of_ok {depth : Nat} {step : Step} {reply : Reply} {s s' : Session}
    (h : performWith (perform depth) step s = .ok reply s') (hw : reply.writable = .ok reply) :
    perform (depth + 1) step s = .ok reply s' := by
  rw [perform, bind_of_ok h, hw]
  rfl

theorem perform_configureLogging_null (depth : Nat) (environment : Option String) (s : Session) :
    perform (depth + 1) (.configureLogging environment .null) s =
      .ok .done { s with journal := s.journal.started environment } := by
  rw [← Journal.after_configure_null]
  refine perform_of_ok ?_ rfl
  rw [performWith, bind_of_ok (configure_null environment s)]
  rfl

theorem perform_log (depth : Nat) (logger : String) (level : Int) (message : String) (s : Session) :
    perform (depth + 1) (.log logger level message) s =
      .ok (.logger (Journal.loggerName logger))
        { s with
          journal := (s.journal.started s.environment).write level (Journal.loggerName logger)
            message } := by
  rw [← Journal.after_configure_null]
  refine perform_of_ok ?_ rfl
  rw [performWith, bind_of_ok (get_run s), bind_of_ok (configure_null s.environment s)]
  rfl

/-- Making a builder does not fail, unless it is to have a dispatcher that does not exist. -/
theorem perform_newBuilder (depth : Nat) (name : String) {dispatcher : Option String}
    (capabilities : Capabilities) {s : Session}
    (h : ∀ other ∈ dispatcher, (s.dispatchers.get? other).isSome = true) :
    ∃ s', perform (depth + 1) (.newBuilder name dispatcher capabilities) s = .ok .done s' ∧
      s'.journal = s.journal.started s.environment := by
  rw [← Journal.after_configure_null]
  cases dispatcher with
  | none =>
    have hrun : performWith (perform depth) (.newBuilder name none capabilities) s =
        (newRegistry >>= putBuilder name capabilities) s := rfl
    rw [bind_of_ok (newRegistry_run s), putBuilder_run] at hrun
    exact ⟨_, perform_of_ok hrun rfl, rfl⟩
  | some other =>
    obtain ⟨registry, hregistry⟩ := Option.isSome_iff_exists.1 (h other rfl)
    have hrun : performWith (perform depth) (.newBuilder name (some other) capabilities) s =
        (lookup s.dispatchers other >>= putBuilder name capabilities) s := rfl
    rw [bind_of_ok (lookup_of_some hregistry), putBuilder_run] at hrun
    exact ⟨_, perform_of_ok hrun rfl, rfl⟩

end Session

/-- **The environment cannot break the start.** Whatever the variable for the log level holds, the
level that it asks for is one of the standard ones: that of the standard name that it is in upper
case and without its outer blanks, and otherwise the one for information, as with a text of blanks
or one with a digit in it. It is asked for by a number that passes for a level, and neither outer
blanks nor the case of letters of ASCII make a difference. So setting up the journal without a level
returns, as does asking for a logger and making a builder; the journal then has this level if it had
no handler, and otherwise stays as it was. -/
theorem start_up_never_fails (s : Session) (depth : Nat) :
    (∀ setting, Level.Asks (setting.getD "") (Level.ofEnvironment setting) ∧
      Level.ofEnvironment setting ∈ [0, 10, 20, 30, 40, 50]) ∧
    (∀ text, Text.Blank text.toList ∨
        (∃ c ∈ text.toList, (Text.digitValue? c).isSome = true) →
      Level.ofEnvironment (some text) = 20) ∧
    (∀ text, Level.ofValue (Level.number (Level.answer (Text.upper (Text.strip text)))) =
      .ok (Level.ofEnvironment (some text))) ∧
    (∀ before text after : String, Text.Blank before.toList → Text.Blank after.toList →
      Level.ofEnvironment (some (before ++ text ++ after)) = Level.ofEnvironment (some text)) ∧
    (∀ text other : String, text.toLower = other.toLower →
      Level.ofEnvironment (some text) = Level.ofEnvironment (some other)) ∧
    (∀ environment j, Journal.configure environment .null j = .ok ()
      (if j.handlers = 0 then { j with handlers := 1, level := Level.ofEnvironment environment }
        else j)) ∧
    (∀ environment, Session.perform (depth + 1) (.configureLogging environment .null) s =
      .ok .done { s with journal := s.journal.started environment }) ∧
    (∀ logger level message, Session.perform (depth + 1) (.log logger level message) s =
      .ok (.logger (Journal.loggerName logger))
        { s with
          journal := (s.journal.started s.environment).write level (Journal.loggerName logger)
            message }) ∧
    ∀ name dispatcher capabilities,
      (∀ other ∈ dispatcher, (s.dispatchers.get? other).isSome = true) →
      ∃ s', Session.perform (depth + 1) (.newBuilder name dispatcher capabilities) s =
          .ok .done s' ∧
        s'.journal = s.journal.started s.environment := by
  refine ⟨fun setting => ?_, fun text h => ?_, Level.ofValue_number, fun before text after hb ha =>
    Level.ofEnvironment_padded hb ha text, fun text other h => ?_, fun environment j => ?_,
    fun environment => s.perform_configureLogging_null depth environment, s.perform_log depth,
    fun name _ capabilities => s.perform_newBuilder depth name capabilities⟩
  · exact ⟨Level.asks_ofEnvironment setting, (Level.asks_ofEnvironment setting).mem⟩
  · rcases h with hblank | ⟨c, hc, hdigit⟩
    · exact Level.ofEnvironment_of_blank hblank
    · exact Level.ofEnvironment_of_digit hc hdigit
  · rw [← Level.ofEnvironment_toLower, h, Level.ofEnvironment_toLower]
  · rw [j.configure_null_eq, j.after_configure_null]
    rfl

/-- A standard name, in lower case and with blanks around it. -/
example : Level.ofEnvironment (some " debug\n") = 10 := rfl

end CrateDdl
