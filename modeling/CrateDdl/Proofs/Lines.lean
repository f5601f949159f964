import CrateDdl.Proofs.Invariants
import CrateDdl.Proofs.Refusal
import CrateDdl.Proofs.SetUp
import CrateDdl.Proofs.UpperCase

/-!
# The lines of a builder

What a builder itself writes about a request, apart from what handlers do meanwhile: that it is
refused, or else warnings about columns before all other things, and in the end a line about what
has been generated (`builder_lines`). Between these an alteration only dispatches events
(`Platform.generate`). Wherever there is a builder, the journal has been set up (`Session.Ready`),
so the level alone decides which of the lines are kept.
-/

set_option autoImplicit false

namespace CrateDdl

open Act

/-- The warnings about columns whose names need quotes and have none. -/
def Note.reservedWarnings (table : String) (columns : List Column) : List (Int × String) :=
  (columns.filter fun c => !c.quoted && Platform.isReservedKeyword c.name).map fun c =>
    (Level.warning, "Column " ++ table ++ "." ++ c.name ++
      " is a reserved keyword; declare it quoted to avoid syntax errors.")

/-! ## Reserved names in any case -/

theorem isReservedKeyword_eq_of_toLower {word word' : String}
    (h : word.toList.map Char.toLower = word'.toList.map Char.toLower) :
    Platform.isReservedKeyword word = Platform.isReservedKeyword word' := by
  rw [Platform.isReservedKeyword, Platform.isReservedKeyword, Text.upper, Text.upper,
    ← Text.upperChars_map_toLower word.toList, h, Text.upperChars_map_toLower]

/-! ## Generating the statements of an alteration -/

namespace Platform

variable {σ : Type}

/-- The part of an alteration that generates the statements, in which no notes are taken. -/
def generate (p : Platform) (dispatch : HookEvent → Context → Act σ (Option (List Value)))
    (diff : TableDiff) : Act σ (List Value) := do
  let draft ← p.addColumns ⟨fun _ _ => pure (), dispatch⟩ diff {} diff.added
  return draft.statements (← dispatch .alterTable ⟨p, some diff, none⟩)

theorem addColumns_of_dispatch (p : Platform) (host : Host σ) (note : Note σ) (diff : TableDiff) :
    ∀ (columns : List Column) (draft : Draft),
      p.addColumns host diff draft columns =
        p.addColumns ⟨note, host.dispatch⟩ diff draft columns
  | [], _ => rfl
  | _ :: rest, _ => bind_congr fun draft => addColumns_of_dispatch p host note diff rest draft

/-- An alteration that is not refused: warnings, the statements, and a line about them. -/
theorem alterTable_eq_generate {p : Platform} {host : Host σ} {diff : TableDiff}
    (h : unsupportedChange? diff = none) :
    p.alterTable host diff = do
      host.note.warnReserved diff.name diff.added
      let statements ← p.generate host.dispatch diff
      host.note Level.debug ("Generated " ++ toString statements.length ++
        " statement(s) for ALTER TABLE " ++ diff.name)
      return statements := by
  unfold alterTable generate
  rw [h, addColumns_of_dispatch p host fun _ _ => pure ()]
  simp only [bind_assoc, pure_bind]

theorem generate_alike {τ ω : Type} [Preorder ω] {R : ω → σ → τ → Prop}
    {dispatch : HookEvent → Context → Act σ (Option (List Value))}
    {dispatch' : HookEvent → Context → Act τ (Option (List Value))}
    (hd : ∀ event ctx, Act.Alike R Same (dispatch event ctx) (dispatch' event ctx))
    (p : Platform) (diff : TableDiff) :
    Act.Alike R Same (p.generate dispatch diff) (p.generate dispatch' diff) :=
  (addColumns_alike ⟨fun _ _ => .pure (), hd⟩ p diff diff.added {}).bind fun _ =>
    (hd _ _).bind fun _ => .pure _

end Platform

namespace Session

variable {s s' s'' : Session} {lines later : List (Int × String)}

/-! ## Lines and nothing else -/

/-- A builder has written lines, of which those from the effective level on are kept, and nothing
else has happened. -/
structure Wrote (lines : List (Int × String)) (s s' : Session) : Prop where
  rest : s' = { s with journal := s'.journal }
  handlers : s'.journal.handlers = s.journal.handlers
  level : s'.journal.level = s.journal.level
  entries : ∃ written, s'.journal.entries = s.journal.entries ++ written ∧
    written.map (fun entry => (entry.level, entry.logger, entry.message)) =
      (lines.filter fun line => s.journal.effectiveLevel ≤ line.1).map fun line =>
        (line.1, builderLogger, line.2)

theorem Wrote.installed (h : Wrote lines s s') (hs : s.journal.installed = true) :
    s'.journal.installed = true := by
  rw [Journal.installed, h.handlers]
  exact hs

theorem Wrote.refl (s : Session) : Wrote [] s s := ⟨rfl, rfl, rfl, [], by simp, rfl⟩

theorem Wrote.append (h : Wrote lines s s') (h' : Wrote later s' s'') :
    Wrote (lines ++ later) s s'' where
  rest := by rw [h'.rest, h.rest]
  handlers := h'.handlers.trans h.handlers
  level := h'.level.trans h.level
  entries := by
    obtain ⟨written, hw, hlines⟩ := h.entries
    obtain ⟨written', hw', hlater⟩ := h'.entries
    rw [Journal.effectiveLevel_congr h.level] at hlater
    refine ⟨written ++ written', ?_, ?_⟩
    · rw [hw', hw, List.append_assoc]
    · rw [List.map_append, hlines, hlater, List.filter_append, List.map_append]

/-- A line of a positive level, in a journal that has been set up. -/
theorem wrote_note (hs : s.journal.installed = true) {level : Int} (hl : 0 < level)
    (message : String) :
    Wrote [(level, message)] s
      { s with journal := s.journal.write level builderLogger message } where
  rest := rfl
  handlers := (s.journal.write_setUp level builderLogger message).1
  level := (s.journal.write_setUp level builderLogger message).2
  entries := by
    have henabled : (s.journal.installed && s.journal.enabled level) =
        decide (s.journal.effectiveLevel ≤ level) := by
      simp [hs, Journal.enabled, hl]
    by_cases hkept : s.journal.effectiveLevel ≤ level
    · rw [decide_eq_true hkept] at henabled
      refine ⟨[⟨level, s.journal.readId.1, builderLogger, message⟩], ?_, by simp [hkept]⟩
      rw [Journal.write_of_kept henabled, s.journal.readId_entries]
    · rw [decide_eq_false hkept] at henabled
      refine ⟨[], ?_, by simp [hkept]⟩
      rw [Journal.write_of_dropped henabled, List.append_nil]

theorem warned_wrote (table : String) : ∀ (columns : List Column) {s : Session},
    s.journal.installed = true →
    Wrote (Note.reservedWarnings table columns) s (s.warned table columns)
  | [], s, _ => .refl s
  | c :: rest, s, hs => by
    by_cases hc : (!c.quoted && Platform.isReservedKeyword c.name) = true
    · have hnote := wrote_note hs (show 0 < Level.warning by decide) ("Column " ++ table ++ "." ++
        c.name ++ " is a reserved keyword; declare it quoted to avoid syntax errors.")
      have hrest := warned_wrote table rest (hnote.installed hs)
      rw [Note.reservedWarnings, List.filter_cons, if_pos hc, List.map_cons]
      unfold warned Note.warnReserved
      simp only [hc, ↓reduceIte]
      exact hnote.append hrest
    · rw [Note.reservedWarnings, List.filter_cons, if_neg hc]
      unfold warned Note.warnReserved
      simp only [hc, Bool.false_eq_true, ↓reduceIte]
      exact warned_wrote table rest hs

/-! ## Requests and their lines -/

section
variable {α : Type}

/-- A request is refused, with a line that names the operation and the table. -/
def Refuses (x : Act Session α) (table operation : String) (s : Session) : Prop :=
  ∃ s', x s = .error (.unsupportedOperation operation) s' ∧
    Wrote [(Level.debug, "Rejecting '" ++ operation ++ "' on table " ++ table)] s s'

/-- A request writes the warnings, then comes to what `generate` makes of the state with them, and
writes a line about the result if there is one. -/
def Reports (x generate : Act Session α) (warnings : List (Int × String)) (line : α → String)
    (s : Session) : Prop :=
  ∃ s₁, Wrote warnings s s₁ ∧
    (∀ fault s', x s = .error fault s' ↔ generate s₁ = .error fault s') ∧
    (∀ a s', x s = .ok a s' → ∃ s₂, generate s₁ = .ok a s₂ ∧
      s₂.journal.effectiveLevel = s.journal.effectiveLevel ∧
      Wrote [(Level.debug, line a)] s₂ s') ∧
    (∀ a s₂, generate s₁ = .ok a s₂ → ∃ s', x s = .ok a s')

theorem reject_refuses (hs : s.journal.installed = true) (table operation : String) :
    Refuses (Note.reject (note builderLogger) table operation : Act Session α) table operation s :=
  ⟨_, rfl, wrote_note hs (by decide) _⟩

/-- Whatever handlers do while statements are generated, the journal stays as it has been set up. -/
theorem reports_of_settles (hs : s.journal.installed = true) {x generate : Act Session α}
    {table : String} {columns : List Column} {line : α → String}
    (hx : x = (Note.warnReserved (note builderLogger) table columns >>= fun _ =>
      generate >>= fun a => note builderLogger Level.debug (line a) >>= fun _ => pure a))
    (hsettles : ∀ s, Journal.Settles s.journal (endState (generate s)).journal) :
    Reports x generate (Note.reservedWarnings table columns) line s := by
  have hwarned := warned_wrote table columns hs
  have hrun : x s = (generate >>= fun a =>
      note builderLogger Level.debug (line a) >>= fun _ => pure a) (s.warned table columns) := by
    rw [hx, bind_of_ok (warnReserved_run table columns s)]
  refine ⟨s.warned table columns, hwarned, fun fault s' => ?_, fun a s' h => ?_, fun a s₂ h => ?_⟩
  · rw [hrun]
    cases hg : generate (s.warned table columns) with
    | ok a s₂ =>
      rw [bind_of_ok hg]
      refine ⟨fun h => ?_, fun h => ?_⟩ <;> cases h
    | error fault' s₂ => rw [bind_of_error hg]
  · rw [hrun] at h
    obtain ⟨a', s₂, hg, hnote⟩ := bind_eq_ok.1 h
    cases hnote
    have hj := hsettles (s.warned table columns)
    rw [hg] at hj
    have hlevel := (hj.level_of_installed (hwarned.installed hs)).trans hwarned.level
    exact ⟨s₂, hg, Journal.effectiveLevel_congr hlevel,
      wrote_note (hj.installed (hwarned.installed hs)) (by decide) _⟩
  · rw [hrun, bind_of_ok h]
    exact ⟨_, rfl⟩

end

theorem createTable_reports (hs : s.journal.installed = true) (p : Platform) (table : String)
    (columns : List Column) {options : TableOptions} (hf : options.foreignKeys = .null) :
    Reports (p.createTable (note builderLogger) table columns options)
      (Act.ofExcept (p.createStatement table columns options))
      (Note.reservedWarnings table columns) ("Generated " ++ ·) s := by
  refine reports_of_settles hs ?_ fun s => ?_
  · unfold Platform.createTable
    rw [hf]
  · cases p.createStatement table columns options <;> exact .refl s.journal

theorem alterTable_reports (hs : s.journal.installed = true) (depth : Nat) (b : Builder)
    {diff : TableDiff} (hu : Platform.unsupportedChange? diff = none) :
    Reports (b.platform.alterTable (host (perform depth) b) diff)
      (b.platform.generate (host (perform depth) b).dispatch diff)
      (Note.reservedWarnings diff.name diff.added)
      (fun statements => "Generated " ++ toString statements.length ++
        " statement(s) for ALTER TABLE " ++ diff.name) s := by
  refine reports_of_settles hs (Platform.alterTable_eq_generate hu) fun s => ?_
  have hstable : Stable fun t => Journal.Settles s.journal t.journal :=
    .of_journal fun r h => h.trans (.after _ r)
  have hholds : Holds _ (b.platform.generate (host (perform depth) b).dispatch diff) :=
    Diary.holds fun _ => Platform.generate_alike (Diary.host_alike hstable.lasting
      (Diary.perform_alike hstable.lasting depth) b).dispatch b.platform diff
  exact hholds.endState (.refl s.journal)

/-! ## Builders in a session -/

/-- Where there is a builder, the journal has been set up. -/
def Ready (s : Session) : Prop :=
  ∀ name b, s.builders.get? name = some b → s.journal.installed = true

theorem ready_stable : Stable Ready where
  journal r h name b hb := (Journal.Settles.after _ r).installed (h name b hb)
  builders _ hi _ _ _ _ := hi
  rest _ _ _ _ h := h

/-- **The lines of a builder are exact.** A request that is refused writes a line about that and
nothing else. Any other first writes a warning for each column, in order, that is not quoted and has
a reserved name, and in the end, if it returns, a line with what it has generated: the statement of
a table, or the number of statements of an alteration. What comes between them takes no notes. Lines
are kept from the effective level on, whatever it is. The case of ASCII letters does not matter for
whether a name is reserved; and wherever there is a builder, the journal has been set up. -/
theorem builder_lines (depth : Nat) (b : Builder) (s : Session)
    (h : s.journal.installed = true) :
    (∀ table columns options,
      let create := b.platform.createTable (note builderLogger) table columns options
      (options.foreignKeys ≠ .null → Refuses create table "Create Table: foreign keys" s) ∧
      (options.foreignKeys = .null →
        Reports create (Act.ofExcept (b.platform.createStatement table columns options))
          (Note.reservedWarnings table columns) ("Generated " ++ ·) s)) ∧
    (∀ diff,
      let alter := b.platform.alterTable (host (perform depth) b) diff
      (∀ operation, Platform.unsupportedChange? diff = some operation →
        Refuses alter diff.name operation s) ∧
      (Platform.unsupportedChange? diff = none →
        Reports alter (b.platform.generate (host (perform depth) b).dispatch diff)
          (Note.reservedWarnings diff.name diff.added)
          (fun statements => "Generated " ++ toString statements.length ++
            " statement(s) for ALTER TABLE " ++ diff.name) s)) ∧
    (∀ word word' : String, word.toList.map Char.toLower = word'.toList.map Char.toLower →
      Platform.isReservedKeyword word = Platform.isReservedKeyword word') ∧
    (∀ environment steps, Ready (after { environment } steps)) ∧
    (∀ depth step s, Ready s → Ready (endState (perform depth step s))) := by
  refine ⟨fun table columns options =>
      ⟨fun hf => ?_, createTable_reports h b.platform table columns⟩,
    fun diff => ⟨fun operation hu => ?_, alterTable_reports h depth b⟩,
    fun _ _ => isReservedKeyword_eq_of_toLower,
    fun environment steps => ready_stable.after steps fun _ _ hb => ?_,
    fun depth step s => (ready_stable.perform depth step).endState⟩
  · rw [Platform.createTable_of_foreignKeys hf]
    exact reject_refuses h table _
  · rw [Platform.alterTable_of_unsupported hu]
    exact reject_refuses h diff.name operation
  · cases hb

/-- An alteration that warns and returns, with all lines kept. -/
theorem builder_lines_of_order :
    let s := after { environment := some "debug" } [.newBuilder "b" none .crate]
    let diff : TableDiff :=
      { name := "t", added := [{ name := "order", type := .standard .integer }] }
    let b : Builder := ⟨⟨.crate⟩, 0⟩
    s.journal.installed = true ∧ s.journal.effectiveLevel = 10 ∧
    ∃ s₁ s₂ s',
      Wrote [(30, "Column t.order is a reserved keyword; declare it quoted to avoid syntax errors.")]
        s s₁ ∧
      b.platform.generate (host (perform 1) b).dispatch diff s₁ =
        .ok [.text "ALTER TABLE t ADD order INT"] s₂ ∧
      Wrote [(10, "Generated 1 statement(s) for ALTER TABLE t")] s₂ s' ∧
      b.platform.alterTable (host (perform 1) b) diff s =
        .ok [.text "ALTER TABLE t ADD order INT"] s' := by
  intro s diff b
  have h : s.journal.installed = true := rfl
  have hline : Note.reservedWarnings "t" diff.added = [(30,
      "Column t.order is a reserved keyword; declare it quoted to avoid syntax errors.")] := rfl
  obtain ⟨s₁, hwarned, -, hok, -⟩ := ((builder_lines 1 b s h).2.1 diff).2 rfl
  obtain ⟨s₂, hgenerate, -, hgenerated⟩ := hok [.text "ALTER TABLE t ADD order INT"] _ rfl
  exact ⟨h, rfl, s₁, s₂, _, hline ▸ hwarned, hgenerate, hgenerated, rfl⟩

end Session

end CrateDdl
