import CrateDdl.Proofs.Requests
import CrateDdl.Proofs.Snapshot
import CrateDdl.Proofs.Unhooked

/-!
# When an alteration fails

An alteration that asks for more than added columns is refused with a line about it and nothing
else (`alterTable_of_unsupported`). Any other fails where the dispatch of an event does, or at the
first column that hooks leave alone and that cannot be declared (`addColumns_eq_error`). Only binary
data cannot be declared, so where all handlers answer it is such columns that an alteration fails at
(`alterTable_fails_iff`).
-/

set_option autoImplicit false

namespace CrateDdl

variable {σ : Type}

namespace Hook

/-- Null, a text, or a list. -/
def IsAnswer (answer : Value) : Prop :=
  answer = .null ∨ answer.asText?.isSome ∨ ∃ items, answer = .list items

/-- The handlers, called in turn, all return with null, a text or a list: each does so if those
before it have. -/
def AllAnswer {H : Type} (call : H → Act σ Value) (handlers : List H) (s : σ) : Prop :=
  ∀ called handler rest answers s₁, handlers = called ++ handler :: rest →
    Act.InTurn call called s answers s₁ →
    ∃ answer s₂, call handler s₁ = .ok answer s₂ ∧ IsAnswer answer

theorem IsAnswer.contribution_ne_error {answer : Value} (h : IsAnswer answer) (fault : Fault) :
    ¬ (leavesAlone answer = false ∧ contribution answer = .error fault) := by
  rintro ⟨hl, hc⟩
  rcases h with rfl | ht | ⟨items, rfl⟩
  · cases hl
  · simp [contribution, ht] at hc
  · cases hc

theorem dispatch_returns {C H : Type} {registry : σ → Registry H} {call : C → H → Act σ Value}
    {event : EventRef} {ctx : C} {s : σ}
    (h : AllAnswer (call ctx) ((registry s).handlers event) s) :
    ∃ outcome s', dispatch registry call event ctx s = .ok outcome s' := by
  cases hd : dispatch registry call event ctx s with
  | ok outcome s' => exact ⟨outcome, s', rfl⟩
  | error fault s' =>
    obtain ⟨called, handler, rest, answers, _, s₁, hsplit, hturn, -, hfails⟩ :=
      collect_eq_error.1 hd
    obtain ⟨answer, s₂, hcall, hanswer⟩ := h called handler rest answers s₁ hsplit hturn
    rcases hfails with herror | ⟨answer', hcall', hfault⟩
    · rw [hcall] at herror
      cases herror
    · rw [hcall] at hcall'
      cases hcall'
      exact absurd hfault (hanswer.contribution_ne_error fault)

end Hook

namespace Platform

variable {p : Platform} {host : Host σ} {diff : TableDiff}

/-! ## Refusals -/

theorem alterTable_of_unsupported {operation : String}
    (h : unsupportedChange? diff = some operation) :
    p.alterTable host diff = host.note.reject diff.name operation := by
  funext s
  unfold alterTable
  rw [h]
  cases hn : host.note Level.debug ("Rejecting '" ++ operation ++ "' on table " ++ diff.name) s with
  | ok _ s₁ => simp only [Note.reject, bind, EStateM.bind, hn, Act.throw_run]
  | error fault s₁ => simp only [Note.reject, bind, EStateM.bind, hn]

/-- The first change that cannot be carried out is named, in a fixed order. -/
theorem unsupportedChange?_eq_some
    (h : diff.removed ≠ [] ∨ diff.changed ≠ [] ∨ diff.renamed ≠ [] ∨ diff.newName ≠ none) :
    unsupportedChange? diff = some
      (if diff.removed ≠ [] then "Alter Table: drop columns"
      else if diff.changed ≠ [] then "Alter Table: change column options"
      else if diff.renamed ≠ [] then "Alter Table: rename columns"
      else "Alter Table: rename table") := by
  unfold unsupportedChange?
  by_cases hremoved : diff.removed = []
  · by_cases hchanged : diff.changed = []
    · by_cases hrenamed : diff.renamed = []
      · have hname : diff.newName ≠ none := by simpa [hremoved, hchanged, hrenamed] using h
        simp [hremoved, hchanged, hrenamed, Option.isSome_iff_ne_none.2 hname]
      · simp [hremoved, hchanged, hrenamed]
    · simp [hremoved, hchanged]
  · simp [hremoved]

/-! ## Columns that cannot be declared -/

/-- A column of binary data, which cannot be declared. -/
def IsBlob (c : Column) : Prop := c.type = .standard .blob

theorem typeClause_eq_error {type : ColumnType} {fault : Fault} :
    typeClause type = .error fault ↔
      type = .standard .blob ∧ fault = .unsupportedOperation "blob_type_declaration" := by
  cases type with
  | custom declaration => simp [typeClause]
  | standard t => cases t <;> simp [typeClause, typeDeclaration, blobTypeDeclaration, eq_comm]

theorem declaration_eq_error {c : Column} {fault : Fault} :
    p.declaration c = .error fault ↔
      IsBlob c ∧ fault = .unsupportedOperation "blob_type_declaration" := by
  rw [IsBlob, ← typeClause_eq_error]
  unfold declaration declareColumn
  cases typeClause c.type <;> simp [Except.map]

theorem declaration_returns_iff {c : Column} :
    (∃ declaration, p.declaration c = .ok declaration) ↔ ¬ IsBlob c := by
  refine ⟨fun ⟨declaration, hd⟩ hblob => ?_, fun hblob => ?_⟩
  · rw [declaration_eq_error.2 ⟨hblob, rfl⟩] at hd
    cases hd
  · cases hd : p.declaration c with
    | error fault => exact absurd (declaration_eq_error.1 hd).1 hblob
    | ok declaration => exact ⟨declaration, rfl⟩

/-- Columns can all be declared if none of them has binary data. -/
theorem mapM_declaration_returns_iff {columns : List Column} :
    (∃ declarations, columns.mapM p.declaration = .ok declarations) ↔
      ∀ c ∈ columns, ¬ IsBlob c := by
  simp only [Checked.mapM_returns_iff, declaration_returns_iff]

/-! ## The column at which an alteration fails -/

theorem addColumn_eq_error {c : Column} {draft : Draft} {fault : Fault} {s s' : σ} :
    p.addColumn host diff draft c s = .error fault s' ↔
      host.dispatch .addColumn ⟨p, some diff, some c⟩ s = .error fault s' ∨
        host.dispatch .addColumn ⟨p, some diff, some c⟩ s = .ok none s' ∧
          p.declaration c = .error fault := by
  have hdefault (s₁ : σ) : (Act.ofExcept (p.addByDefault diff.name draft c) : Act σ Draft) s₁ =
      .error fault s' ↔ p.declaration c = .error fault ∧ s₁ = s' := by
    rw [Act.ofExcept_eq_error, addByDefault]
    cases p.declaration c <;> simp [Except.map]
  unfold addColumn
  rw [Act.bind_eq_error]
  refine or_congr_right ⟨fun h => ?_, fun h => ?_⟩
  · obtain ⟨outcome, s₁, hc, hdraft⟩ := h
    cases outcome with
    | none =>
      obtain ⟨hd, rfl⟩ := (hdefault s₁).1 hdraft
      exact ⟨hc, hd⟩
    | some statements => cases hdraft
  · exact ⟨none, s', h.1, (hdefault s').2 ⟨h.2, rfl⟩⟩

/-- The first column at which the columns cannot be added: the events of those before it are
answered, none of them has binary data if it is left alone, and the dispatch of its own event fails,
or it is left alone and cannot be declared. -/
theorem addColumns_eq_error : ∀ {columns : List Column} {draft : Draft} {fault : Fault} {s s' : σ},
    p.addColumns host diff draft columns s = .error fault s' ↔
      ∃ before c after outcomes s₁, columns = before ++ c :: after ∧
        Act.InTurn (fun c => host.dispatch .addColumn ⟨p, some diff, some c⟩)
          before s outcomes s₁ ∧
        (∀ d ∈ leftAlone before outcomes, ¬ IsBlob d) ∧
        (host.dispatch .addColumn ⟨p, some diff, some c⟩ s₁ = .error fault s' ∨
          host.dispatch .addColumn ⟨p, some diff, some c⟩ s₁ = .ok none s' ∧
            p.declaration c = .error fault)
  | [], draft, fault, s, s' => by simp [addColumns]
  | c :: rest, draft, fault, s, s' => by
    unfold addColumns
    rw [Act.bind_eq_error, addColumn_eq_error]
    refine ⟨fun h => ?_, fun h => ?_⟩
    · rcases h with hc | ⟨_, s₁, hcolumn, hrest⟩
      · exact ⟨[], c, rest, [], s, rfl, .nil s, by simp [leftAlone], hc⟩
      · obtain ⟨outcome, declarations, hdispatch, hd, -⟩ := addColumn_eq_ok.1 hcolumn
        obtain ⟨before, failing, after, outcomes, s₂, rfl, hturn, hbefore, hfails⟩ :=
          addColumns_eq_error.1 hrest
        refine ⟨c :: before, failing, after, outcome :: outcomes, s₂, rfl, .cons hdispatch hturn,
          ?_, hfails⟩
        rw [leftAlone_cons c before, List.forall_mem_append]
        exact ⟨mapM_declaration_returns_iff.1 ⟨declarations, hd⟩, hbefore⟩
    · obtain ⟨before, failing, after, _, s₁, heq, hall, hblob, hfails⟩ := h
      cases before with
      | nil =>
        obtain ⟨rfl, rfl⟩ := List.cons.inj heq
        obtain ⟨rfl, rfl⟩ := Act.InTurn.nil_iff.1 hall
        exact .inl hfails
      | cons d before =>
        obtain ⟨rfl, rfl⟩ := List.cons.inj heq
        obtain ⟨outcome, outcomes, s₂, hdispatch, hturn, rfl⟩ := Act.InTurn.cons_iff.1 hall
        rw [leftAlone_cons c before, List.forall_mem_append] at hblob
        obtain ⟨declarations, hd⟩ := mapM_declaration_returns_iff.2 hblob.1
        exact .inr ⟨_, s₂, addColumn_eq_ok.2 ⟨outcome, declarations, hdispatch, hd, rfl⟩,
          addColumns_eq_error.2 ⟨before, failing, after, outcomes, s₁, rfl, hturn, hblob.2, hfails⟩⟩

/-- A column of binary data that is left alone keeps the columns from being added. -/
theorem addColumns_fails : ∀ {before : List Column} {draft : Draft} {c : Column}
    {after : List Column} {outcomes : List (Option (List Value))} {s s₁ s₂ : σ},
    Act.InTurn (fun c => host.dispatch .addColumn ⟨p, some diff, some c⟩) before s outcomes s₁ →
    host.dispatch .addColumn ⟨p, some diff, some c⟩ s₁ = .ok none s₂ → IsBlob c →
    ∃ fault s', p.addColumns host diff draft (before ++ c :: after) s = .error fault s'
  | [], draft, c, after, outcomes, s, s₁, s₂, hturn, hc, hblob => by
    obtain ⟨rfl, rfl⟩ := Act.InTurn.nil_iff.1 hturn
    have hcolumn : p.addColumn host diff draft c s = .error _ s₂ :=
      addColumn_eq_error.2 (.inr ⟨hc, declaration_eq_error.2 ⟨hblob, rfl⟩⟩)
    exact ⟨_, s₂, Act.bind_of_error hcolumn⟩
  | d :: before, draft, c, after, _, s, s₁, s₂, hall, hc, hblob => by
    obtain ⟨outcome, outcomes, s₃, hasked, hturn, rfl⟩ := Act.InTurn.cons_iff.1 hall
    cases hcolumn : p.addColumn host diff draft d s with
    | error fault s' => exact ⟨fault, s', Act.bind_of_error hcolumn⟩
    | ok draft' s' =>
      obtain ⟨_, _, hdispatch, -⟩ := addColumn_eq_ok.1 hcolumn
      cases hasked.symm.trans hdispatch
      obtain ⟨fault, s', hrest⟩ := addColumns_fails hturn hc hblob
      exact ⟨fault, s', (Act.bind_of_ok hcolumn).trans hrest⟩

end Platform

/-! ## Builders -/

/-- Writing adds at most one line. -/
theorem Journal.write_entries (level : Int) (logger message : String) (j : Journal) :
    ∃ lines, (j.write level logger message).entries = j.entries ++ lines ∧ lines.length ≤ 1 ∧
      ∀ line ∈ lines, line.level = level ∧ line.logger = logger ∧ line.message = message := by
  unfold Journal.write
  split
  · exact ⟨[⟨level, j.readId.1, logger, message⟩], congrArg (· ++ _) j.readId_entries, by simp,
      by simp⟩
  · exact ⟨[], by simp, by simp, by simp⟩

namespace Session

open Platform

variable {call : Context → Registration → Act Session Value} {b : Builder} {diff : TableDiff}
  {s : Session}

/-- In an alteration that asks the handlers from `s` on, those of every event that is dispatched
all answer. An event is dispatched if those before it are answered and leave no column of binary
data alone. -/
def EventsAnswered (call : Context → Registration → Act Session Value) (b : Builder)
    (diff : TableDiff) (s : Session) : Prop :=
  ∀ before event after outcomes s₁, b.platform.events diff = before ++ event :: after →
    Act.InTurn (fun event : HookEvent × Context =>
      Hook.dispatch (registryAt b.registry) call (.event event.1) event.2) before s outcomes s₁ →
    (∀ c ∈ leftAlone diff.added outcomes, ¬ IsBlob c) →
    Hook.AllAnswer (call event.2) ((registryAt b.registry s₁).handlers (.event event.1)) s₁

theorem eventsAnswered_of_forall
    (h : ∀ ctx r s, ∃ answer s', call ctx r s = .ok answer s' ∧ Hook.IsAnswer answer) :
    EventsAnswered call b diff s :=
  fun _ event _ _ _ _ _ _ _ handler _ _ s₂ _ _ => h event.2 handler s₂

theorem alterTable_eq_error (hu : unsupportedChange? diff = none) {fault : Fault} {s' : Session} :
    let host := Host.ofRegistry (note builderLogger) (registryAt b.registry) call
    b.platform.alterTable host diff s = .error fault s' ↔
      b.platform.addColumns host diff {} diff.added (s.warned diff.name diff.added) =
        .error fault s' ∨
      ∃ draft s₁,
        b.platform.addColumns host diff {} diff.added (s.warned diff.name diff.added) =
          .ok draft s₁ ∧
        Hook.dispatch (registryAt b.registry) call (.event .alterTable)
          ⟨b.platform, some diff, none⟩ s₁ = .error fault s' := by
  intro host
  unfold alterTable
  rw [hu]
  show (Note.warnReserved (note builderLogger) diff.name diff.added >>= _) s = _ ↔ _
  rw [Act.bind_of_ok (warnReserved_run diff.name diff.added s), Act.bind_eq_error]
  refine or_congr_right (exists_congr fun draft => exists_congr fun s₁ =>
    and_congr_right fun _ => ?_)
  rw [Act.bind_eq_error]
  refine or_iff_left ?_
  rintro ⟨_, _, -, hnote⟩
  cases hnote

/-! ## The alteration -/

/-- Columns left alone among the first ones, by the outcomes of these. -/
theorem leftAlone_append {before : List Column} {outcomes : List (Option (List Value))}
    (h : outcomes.length = before.length) (after : List Column) :
    leftAlone (before ++ after) outcomes = leftAlone before outcomes := by
  have hzip : (before ++ after).zip (outcomes ++ []) = before.zip outcomes ++ after.zip [] :=
    List.zip_append h.symm
  rw [List.append_nil, List.zip_nil_right, List.append_nil] at hzip
  rw [leftAlone, hzip, leftAlone]

section
variable (h : EventsAnswered call b diff s)
include h

theorem dispatch_column_of_answered {before after : List Column} {c : Column}
    (hsplit : diff.added = before ++ c :: after) {outcomes : List (Option (List Value))}
    {s₁ : Session}
    (hturn : Act.InTurn (fun c => Hook.dispatch (registryAt b.registry) call (.event .addColumn)
      ⟨b.platform, some diff, some c⟩) before s outcomes s₁)
    (hblob : ∀ d ∈ leftAlone before outcomes, ¬ IsBlob d) :
    ∃ outcome s₂, Hook.dispatch (registryAt b.registry) call (.event .addColumn)
      ⟨b.platform, some diff, some c⟩ s₁ = .ok outcome s₂ := by
  let event (c : Column) : HookEvent × Context := (.addColumn, ⟨b.platform, some diff, some c⟩)
  have hevents : b.platform.events diff = before.map event ++ event c ::
      (after.map event ++ [(.alterTable, ⟨b.platform, some diff, none⟩)]) := by
    simp [events, hsplit, event]
  have halone : leftAlone diff.added outcomes = leftAlone before outcomes := by
    rw [hsplit, leftAlone_append hturn.length]
  exact Hook.dispatch_returns
    (h _ _ _ _ _ hevents ((Act.InTurn.map_iff event).2 hturn) (halone ▸ hblob))

theorem dispatch_table_of_answered {outcomes : List (Option (List Value))} {s₁ : Session}
    (hturn : Act.InTurn (fun c => Hook.dispatch (registryAt b.registry) call (.event .addColumn)
      ⟨b.platform, some diff, some c⟩) diff.added s outcomes s₁)
    (hblob : ∀ d ∈ leftAlone diff.added outcomes, ¬ IsBlob d) :
    ∃ outcome s₂, Hook.dispatch (registryAt b.registry) call (.event .alterTable)
      ⟨b.platform, some diff, none⟩ s₁ = .ok outcome s₂ := by
  let event (c : Column) : HookEvent × Context := (.addColumn, ⟨b.platform, some diff, some c⟩)
  have hevents : b.platform.events diff = diff.added.map event ++
      (.alterTable, ⟨b.platform, some diff, none⟩) :: [] := rfl
  exact Hook.dispatch_returns
    (h _ _ _ _ _ hevents ((Act.InTurn.map_iff event).2 hturn) hblob)

end

/-- **When an alteration fails.** One that asks for another change than added columns is refused
for the first such change; nothing but a line about that is written, and nothing else is touched.
Any other, if the handlers that it calls all answer, fails if and only if a column of binary data is
left alone. It does so at the first such column, in the state that the dispatch of its event has
left, which is the last one of the alteration. -/
theorem alterTable_fails_iff (call : Context → Registration → Act Session Value) (b : Builder)
    (diff : TableDiff) (s : Session) :
    let alter := b.platform.alterTable
      (.ofRegistry (note builderLogger) (registryAt b.registry) call) diff s
    let ask (c : Column) := Hook.dispatch (registryAt b.registry) call (.event .addColumn)
      ⟨b.platform, some diff, some c⟩
    let operation :=
      if diff.removed ≠ [] then "Alter Table: drop columns"
      else if diff.changed ≠ [] then "Alter Table: change column options"
      else if diff.renamed ≠ [] then "Alter Table: rename columns"
      else "Alter Table: rename table"
    let rejection := "Rejecting '" ++ operation ++ "' on table " ++ diff.name
    (diff.removed ≠ [] ∨ diff.changed ≠ [] ∨ diff.renamed ≠ [] ∨ diff.newName ≠ none →
      ∃ journal lines,
        alter = .error (.unsupported (.text operation)) { s with journal } ∧
        journal.entries = s.journal.entries ++ lines ∧ lines.length ≤ 1 ∧
        ∀ line ∈ lines, line.level = Level.debug ∧ line.logger = builderLogger ∧
          line.message = rejection) ∧
    (diff.removed = [] → diff.changed = [] → diff.renamed = [] → diff.newName = none →
      EventsAnswered call b diff (s.warned diff.name diff.added) →
      ((∃ fault s', alter = .error fault s') ↔
        ∃ before c after outcomes s₁ s₂, diff.added = before ++ c :: after ∧
          Act.InTurn ask before (s.warned diff.name diff.added) outcomes s₁ ∧
          ask c s₁ = .ok none s₂ ∧ c.type = .standard .blob) ∧
      ∀ fault s', alter = .error fault s' →
        fault = .unsupported (.text "blob_type_declaration") ∧
        ∃ before c after outcomes s₁, diff.added = before ++ c :: after ∧
          Act.InTurn ask before (s.warned diff.name diff.added) outcomes s₁ ∧
          (∀ d ∈ leftAlone before outcomes, d.type ≠ .standard .blob) ∧
          ask c s₁ = .ok none s' ∧ c.type = .standard .blob) := by
  intro alter ask operation rejection
  refine ⟨fun hchange => ?_, fun hremoved hchanged hrenamed hname hanswered => ?_⟩
  · have hu : unsupportedChange? diff = some operation := unsupportedChange?_eq_some hchange
    obtain ⟨lines, hlines⟩ := Journal.write_entries Level.debug builderLogger rejection s.journal
    refine ⟨_, lines, ?_, hlines⟩
    show b.platform.alterTable _ diff s = _
    rw [alterTable_of_unsupported hu]
    rfl
  · have hu : unsupportedChange? diff = none := by
      simp [unsupportedChange?, hremoved, hchanged, hrenamed, hname]
    have hfirst (fault : Fault) (s' : Session) (herror : alter = .error fault s') :
        fault = .unsupported (.text "blob_type_declaration") ∧
        ∃ before c after outcomes s₁, diff.added = before ++ c :: after ∧
          Act.InTurn ask before (s.warned diff.name diff.added) outcomes s₁ ∧
          (∀ d ∈ leftAlone before outcomes, d.type ≠ .standard .blob) ∧
          ask c s₁ = .ok none s' ∧ c.type = .standard .blob := by
      -- A dispatch does not fail as all handlers answer, which leaves the declaration of a column.
      rcases (alterTable_eq_error hu).1 herror with hcolumns | ⟨draft, s₁, hcolumns, htable⟩
      · obtain ⟨before, c, after, outcomes, s₁, hsplit, hturn, hblob, hfails⟩ :=
          addColumns_eq_error.1 hcolumns
        obtain ⟨outcome, s₂, hasked⟩ := dispatch_column_of_answered hanswered hsplit hturn hblob
        rcases hfails with hdispatch | ⟨hdispatch, hd⟩
        · cases hasked.symm.trans hdispatch
        · obtain ⟨hc, rfl⟩ := declaration_eq_error.1 hd
          exact ⟨rfl, before, c, after, outcomes, s₁, hsplit, hturn, hblob, hdispatch, hc⟩
      · obtain ⟨outcomes, declarations, hturn, hd, -⟩ := addColumns_eq_ok.1 hcolumns
        obtain ⟨outcome, s₂, hasked⟩ := dispatch_table_of_answered hanswered hturn
          (mapM_declaration_returns_iff.1 ⟨declarations, hd⟩)
        cases hasked.symm.trans htable
    refine ⟨⟨fun ⟨fault, s', herror⟩ => ?_, fun h => ?_⟩, hfirst⟩
    · obtain ⟨-, before, c, after, outcomes, s₁, hsplit, hturn, -, hasked, hc⟩ :=
        hfirst fault s' herror
      exact ⟨before, c, after, outcomes, s₁, s', hsplit, hturn, hasked, hc⟩
    · obtain ⟨before, c, after, outcomes, s₁, s₂, hsplit, hturn, hasked, hc⟩ := h
      have hfails : ∃ fault s', b.platform.addColumns
          (.ofRegistry (note builderLogger) (registryAt b.registry) call) diff {}
          (before ++ c :: after) (s.warned diff.name diff.added) = .error fault s' :=
        addColumns_fails hturn hasked hc
      obtain ⟨fault, s', hcolumns⟩ := hfails
      rw [← hsplit] at hcolumns
      exact ⟨fault, s', (alterTable_eq_error hu).2 (.inl hcolumns)⟩

/-- Binary data three times: the hook takes the first column over, and the second is left alone. -/
theorem alterTable_fails_at_second_blob :
    let b : Builder := ⟨{}, 0⟩
    let s : Session :=
      { registries := [Registry.empty.register (.event .addColumn) ⟨0, { id := "h" }⟩] }
    let call (ctx : Context) (r : Registration) : Act Session Value := do
      let _ ← beginCall r.handler.id ctx
      return if ctx.column.any (·.name == "a") then .text "X" else .null
    let column (name : String) (type : LogicalType) : Column :=
      { name, type := .standard type, quoted := true }
    let diff : TableDiff :=
      { name := "t"
        added := [column "a" .blob, column "b" .integer, column "c" .blob, column "d" .blob] }
    EventsAnswered call b diff (s.warned diff.name diff.added) ∧
    ∃ s', b.platform.alterTable
        (.ofRegistry (note builderLogger) (registryAt b.registry) call) diff s =
      .error (.unsupported (.text "blob_type_declaration")) s' ∧
    s'.calls.map (·.column) = [some "a", some "b", some "c"] := by
  intro b s call column diff
  have hanswered : EventsAnswered call b diff (s.warned diff.name diff.added) := by
    refine eventsAnswered_of_forall fun ctx r s => ⟨_, _, rfl, ?_⟩
    split
    · exact .inr (.inl rfl)
    · exact .inl rfl
  obtain ⟨hiff, hfirst⟩ := (alterTable_fails_iff call b diff s).2 rfl rfl rfl rfl hanswered
  obtain ⟨fault, s', herror⟩ := hiff.2
    ⟨[column "a" .blob, column "b" .integer], column "c" .blob, [column "d" .blob],
      [some [.text "X"], none], _, _, rfl, .cons rfl (.cons rfl (.nil _)), rfl, rfl⟩
  obtain ⟨rfl, -⟩ := hfirst fault s' herror
  refine ⟨hanswered, s', herror, ?_⟩
  cases herror
  rfl

end Session

end CrateDdl
