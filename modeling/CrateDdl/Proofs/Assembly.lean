import CrateDdl.Proofs.Checked
import CrateDdl.Proofs.InTurn
import CrateDdl.Table.Alteration

/-!
# What an alteration is put together from

An alteration that returns has dispatched an event for each added column and one for the table,
and its statements are determined by what became of these events. Handlers are arbitrary: the state
is any, the registry is read off it at each dispatch, and a call may change it in any way.

* `addColumns_eq_ok`: the run over the columns, by induction on them. What it adds to a draft are
  the declarations and comments of the columns left alone (`leftAlone`), and the statements of the
  hooks that have taken over the others.
* `alterTable_eq_ok`: the alteration as a whole, for any surroundings.
* `alterTable_returns_iff`: the same where events are dispatched to the handlers of a registry.
-/

set_option autoImplicit false

namespace CrateDdl

variable {σ : Type}

theorem Note.reject_ne_ok {α : Type} (note : Note σ) (table operation : String) {s s' : σ} {a : α} :
    note.reject table operation s ≠ .ok a s' := by
  intro h
  obtain ⟨_, _, -, hthrow⟩ := Act.bind_eq_ok.1 h
  cases hthrow

/-- The draft with the statements of further columns behind those that it has: the columns left
alone with their declarations, and the statements of hooks. -/
def Draft.extend (draft : Draft) (table : String) (alone : List Column)
    (declarations : List String) (taken : List Value) : Draft where
  additions := draft.additions ++ declarations.map ("ALTER TABLE " ++ table ++ " ADD " ++ ·)
  comments := draft.comments ++ alone.filterMap (Platform.commentStatement? table)
  hooked := draft.hooked ++ taken

@[simp] theorem Draft.extend_nil (draft : Draft) (table : String) :
    draft.extend table [] [] [] = draft := by
  simp [extend]

theorem Draft.extend_extend (draft : Draft) (table : String) (alone alone' : List Column)
    (declarations declarations' : List String) (taken taken' : List Value) :
    (draft.extend table alone declarations taken).extend table alone' declarations' taken' =
      draft.extend table (alone ++ alone') (declarations ++ declarations') (taken ++ taken') := by
  simp [extend]

namespace Platform

variable {p : Platform} {host : Host σ} {diff : TableDiff}

/-- The columns that hooks leave alone, by what became of the event of each. -/
def leftAlone (columns : List Column) (outcomes : List (Option (List Value))) : List Column :=
  ((columns.zip outcomes).filter (·.2.isNone)).map (·.1)

theorem leftAlone_cons (c : Column) (columns : List Column) (outcome : Option (List Value))
    (outcomes : List (Option (List Value))) :
    leftAlone (c :: columns) (outcome :: outcomes) =
      leftAlone [c] [outcome] ++ leftAlone columns outcomes := by
  cases outcome <;> rfl

/-! ## The columns -/

theorem addByDefault_eq_ok {c : Column} {draft draft' : Draft} {table : String} :
    p.addByDefault table draft c = .ok draft' ↔
      ∃ declaration, p.declaration c = .ok declaration ∧
        draft' = draft.extend table [c] [declaration] [] := by
  unfold addByDefault
  rw [Checked.map_eq_ok]
  refine exists_congr fun declaration => and_congr_right fun _ => ?_
  rw [eq_comm]
  cases hc : commentStatement? table c <;> simp [Draft.extend, hc]

/-- One column: its event is answered, and it is declared if it is left alone. -/
theorem addColumn_eq_ok {c : Column} {draft draft' : Draft} {s s' : σ} :
    p.addColumn host diff draft c s = .ok draft' s' ↔
      ∃ outcome declarations,
        host.dispatch .addColumn ⟨p, some diff, some c⟩ s = .ok outcome s' ∧
        (leftAlone [c] [outcome]).mapM p.declaration = .ok declarations ∧
        draft' = draft.extend diff.name (leftAlone [c] [outcome]) declarations
          (outcome.getD []) := by
  unfold addColumn
  rw [Act.bind_eq_ok]
  refine ⟨fun h => ?_, fun h => ?_⟩
  · obtain ⟨outcome, s₁, hc, hdraft⟩ := h
    cases outcome with
    | none =>
      obtain ⟨hdefault, rfl⟩ := Act.ofExcept_eq_ok.1 hdraft
      obtain ⟨declaration, hd, rfl⟩ := addByDefault_eq_ok.1 hdefault
      exact ⟨none, [declaration], hc, Checked.mapM_cons_eq_ok.2 ⟨_, _, hd, rfl, rfl⟩, rfl⟩
    | some statements =>
      cases hdraft
      exact ⟨some statements, [], hc, rfl, by simp [Draft.extend, leftAlone]⟩
  · obtain ⟨outcome, _, hc, hds, rfl⟩ := h
    cases outcome with
    | none =>
      obtain ⟨declaration, _, hd, hnil, rfl⟩ := Checked.mapM_cons_eq_ok.1 hds
      cases hnil
      exact ⟨none, s', hc, Act.ofExcept_eq_ok.2 ⟨addByDefault_eq_ok.2 ⟨_, hd, rfl⟩, rfl⟩⟩
    | some statements =>
      cases hds
      exact ⟨some statements, s', hc, by simp [Draft.extend, leftAlone]⟩

/-- The columns are added if every event is answered and every column left alone has a
declaration. -/
theorem addColumns_eq_ok : ∀ {columns : List Column} {draft draft' : Draft} {s s' : σ},
    p.addColumns host diff draft columns s = .ok draft' s' ↔
      ∃ outcomes declarations,
        Act.InTurn (fun c => host.dispatch .addColumn ⟨p, some diff, some c⟩)
          columns s outcomes s' ∧
        (leftAlone columns outcomes).mapM p.declaration = .ok declarations ∧
        draft' = draft.extend diff.name (leftAlone columns outcomes) declarations
          (outcomes.filterMap id).flatten
  | [], draft, draft', s, s' => by
    refine ⟨fun h => ?_, fun h => ?_⟩
    · cases h
      exact ⟨[], [], .nil s, rfl, (draft.extend_nil _).symm⟩
    · obtain ⟨_, _, hturn, hd, rfl⟩ := h
      obtain ⟨rfl, rfl⟩ := Act.InTurn.nil_iff.1 hturn
      cases hd
      rw [show leftAlone [] [] = [] from rfl]
      simp [addColumns]
  | c :: rest, draft, draft', s, s' => by
    unfold addColumns
    rw [Act.bind_eq_ok]
    refine ⟨fun h => ?_, fun h => ?_⟩
    · obtain ⟨_, s₁, hcolumn, hrest⟩ := h
      obtain ⟨outcome, declarations, hc, hd, rfl⟩ := addColumn_eq_ok.1 hcolumn
      obtain ⟨outcomes, later, hturn, hl, rfl⟩ := addColumns_eq_ok.1 hrest
      refine ⟨outcome :: outcomes, declarations ++ later, .cons hc hturn, ?_, ?_⟩
      · rw [leftAlone_cons c rest]
        exact Checked.mapM_append_eq_ok.2 ⟨_, _, hd, hl, rfl⟩
      · rw [leftAlone_cons c rest, Draft.extend_extend]
        cases outcome <;> simp
    · obtain ⟨_, _, hall, hds, rfl⟩ := h
      obtain ⟨outcome, outcomes, s₁, hc, hturn, rfl⟩ := Act.InTurn.cons_iff.1 hall
      rw [leftAlone_cons c rest] at hds ⊢
      obtain ⟨declarations, later, hd, hl, rfl⟩ := Checked.mapM_append_eq_ok.1 hds
      refine ⟨_, s₁, addColumn_eq_ok.2 ⟨outcome, declarations, hc, hd, rfl⟩,
        addColumns_eq_ok.2 ⟨outcomes, later, hturn, hl, ?_⟩⟩
      rw [Draft.extend_extend]
      cases outcome <;> simp

/-! ## The alteration -/

/-- The events of an alteration: one for each added column, and then one for the table. -/
def events (p : Platform) (diff : TableDiff) : List (HookEvent × Context) :=
  diff.added.map (fun c => (.addColumn, ⟨p, some diff, some c⟩)) ++
    [(.alterTable, ⟨p, some diff, none⟩)]

theorem events_inTurn_iff {outcomes : List (Option (List Value))} {outcome : Option (List Value)}
    {s s' : σ} :
    Act.InTurn (fun event => host.dispatch event.1 event.2) (p.events diff) s
        (outcomes ++ [outcome]) s' ↔
      ∃ s₁, Act.InTurn (fun c => host.dispatch .addColumn ⟨p, some diff, some c⟩)
          diff.added s outcomes s₁ ∧
        host.dispatch .alterTable ⟨p, some diff, none⟩ s₁ = .ok outcome s' := by
  unfold events
  rw [Act.InTurn.append_iff]
  refine ⟨fun h => ?_, fun h => ?_⟩
  · obtain ⟨xs, ys, s₁, hx, hy, heq⟩ := h
    obtain ⟨answer, _, _, ht, hnil, rfl⟩ := Act.InTurn.cons_iff.1 hy
    obtain ⟨rfl, rfl⟩ := Act.InTurn.nil_iff.1 hnil
    obtain ⟨rfl, h⟩ := List.append_inj' heq rfl
    cases h
    have hcolumns := (Act.InTurn.map_iff _).1 hx
    exact ⟨s₁, hcolumns, ht⟩
  · obtain ⟨s₁, hx, ht⟩ := h
    exact ⟨outcomes, [outcome], s₁, (Act.InTurn.map_iff _).2 hx, .cons ht (.nil s'), rfl⟩

/-- An alteration returns if it is supported, its warnings are written, its events are answered in
turn, every column left alone has a declaration, and the number of statements is written. -/
theorem alterTable_eq_ok {statements : List Value} {s s' : σ} :
    p.alterTable host diff s = .ok statements s' ↔
      unsupportedChange? diff = none ∧
      ∃ outcomes outcome declarations s₁ s₂,
        host.note.warnReserved diff.name diff.added s = .ok () s₁ ∧
        Act.InTurn (fun event => host.dispatch event.1 event.2) (p.events diff) s₁
          (outcomes ++ [outcome]) s₂ ∧
        (leftAlone diff.added outcomes).mapM p.declaration = .ok declarations ∧
        statements = (Draft.extend {} diff.name (leftAlone diff.added outcomes) declarations
          (outcomes.filterMap id).flatten).statements outcome ∧
        host.note Level.debug
          ("Generated " ++ toString statements.length ++ " statement(s) for ALTER TABLE " ++
            diff.name) s₂ = .ok () s' := by
  unfold alterTable
  cases hu : unsupportedChange? diff with
  | some operation =>
    simp only [Act.bind_eq_ok, reduceCtorEq, false_and, iff_false]
    rintro ⟨_, _, hreject, -⟩
    exact host.note.reject_ne_ok _ _ hreject
  | none =>
    simp only [Act.bind_eq_ok, Act.pure_run, true_and]
    refine ⟨fun h => ?_, fun h => ?_⟩
    · obtain ⟨⟨⟩, s₁, hwarn, draft, s₂, hcolumns, outcome, s₃, htable, ⟨⟩, s₄, hnote, hpure⟩ := h
      cases hpure
      obtain ⟨outcomes, declarations, hturn, hd, rfl⟩ := addColumns_eq_ok.1 hcolumns
      exact ⟨outcomes, outcome, declarations, s₁, s₃, hwarn,
        events_inTurn_iff.2 ⟨s₂, hturn, htable⟩, hd, rfl, hnote⟩
    · obtain ⟨outcomes, outcome, declarations, s₁, s₃, hwarn, hevents, hd, rfl, hnote⟩ := h
      obtain ⟨s₂, hturn, htable⟩ := events_inTurn_iff.1 hevents
      exact ⟨(), s₁, hwarn, _, s₂, addColumns_eq_ok.2 ⟨outcomes, declarations, hturn, hd, rfl⟩,
        outcome, s₃, htable, (), s', hnote, rfl⟩

theorem map_text_commentStatement (table : String) (columns : List Column) :
    (columns.filterMap (commentStatement? table)).map Value.text =
      columns.filterMap fun c =>
        c.comment?.map fun comment => .text (commentOnColumn table c.name comment) := by
  rw [List.map_filterMap]
  congr 1
  funext c
  simp [commentStatement?, Function.comp_def]

/-- The statements of an alteration, from the declarations of the columns left alone and from what
has become of the events. -/
theorem statements_extend (table : String) (alone : List Column) (declarations : List String)
    (taken : List Value) (outcome : Option (List Value)) :
    (Draft.extend {} table alone declarations taken).statements outcome =
      declarations.map (fun declaration =>
          .text ("ALTER TABLE " ++ table ++ " ADD " ++ declaration)) ++
        outcome.getD (alone.filterMap fun c =>
          c.comment?.map fun comment => .text (commentOnColumn table c.name comment)) ++ taken := by
  simp [Draft.extend, Draft.statements, map_text_commentStatement, Function.comp_def]

theorem length_leftAlone : ∀ {columns : List Column} {outcomes : List (Option (List Value))},
    outcomes.length = columns.length →
    (leftAlone columns outcomes).length + (outcomes.filterMap id).length = columns.length
  | [], [], _ => rfl
  | c :: columns, outcome :: outcomes, h => by
    have ih := @length_leftAlone columns outcomes (by simpa using h)
    rw [leftAlone_cons]
    cases outcome with
    | none => simp [leftAlone] at ih ⊢; omega
    | some statements => simp [leftAlone] at ih ⊢; omega

/-- **What an alteration returns.** After the warnings, the handlers of the registry are asked
about each added column in turn and once, in the end, about the table, in the state that each
leaves; nothing else touches the state until the number of statements is written. The statements
are the declarations of the columns left alone, then the table's or else the comments of these
columns, then those for the columns taken over; every column is one or the other. -/
theorem alterTable_returns_iff {H : Type} (p : Platform) (note : Note σ)
    (registry : σ → Registry H) (call : Context → H → Act σ Value) (diff : TableDiff)
    (statements : List Value) (s s' : σ) :
    p.alterTable (.ofRegistry note registry call) diff s = .ok statements s' ↔
      unsupportedChange? diff = none ∧
      ∃ outcomes outcome declarations s₁ s₂,
        note.warnReserved diff.name diff.added s = .ok () s₁ ∧
        Act.InTurn (fun event : HookEvent × Context =>
            Hook.dispatch registry call (.event event.1) event.2)
          (diff.added.map (fun c => (.addColumn, ⟨p, some diff, some c⟩)) ++
            [(.alterTable, ⟨p, some diff, none⟩)])
          s₁ (outcomes ++ [outcome]) s₂ ∧
        (leftAlone diff.added outcomes).length + (outcomes.filterMap id).length =
          diff.added.length ∧
        (leftAlone diff.added outcomes).mapM p.declaration = .ok declarations ∧
        statements =
          declarations.map (fun declaration =>
            .text ("ALTER TABLE " ++ diff.name ++ " ADD " ++ declaration)) ++
          outcome.getD ((leftAlone diff.added outcomes).filterMap fun c =>
            c.comment?.map fun comment => .text (commentOnColumn diff.name c.name comment)) ++
          (outcomes.filterMap id).flatten ∧
        note Level.debug
          ("Generated " ++ toString statements.length ++ " statement(s) for ALTER TABLE " ++
            diff.name) s₂ = .ok () s' := by
  rw [alterTable_eq_ok]
  refine and_congr_right fun _ => ?_
  refine ⟨fun h => ?_, fun h => ?_⟩
  · obtain ⟨outcomes, outcome, declarations, s₁, s₂, hwarn, hevents, hd, hstatements, hnote⟩ := h
    obtain ⟨_, hturn, -⟩ := events_inTurn_iff.1 hevents
    rw [statements_extend] at hstatements
    exact ⟨outcomes, outcome, declarations, s₁, s₂, hwarn, hevents,
      length_leftAlone hturn.length, hd, hstatements, hnote⟩
  · obtain ⟨outcomes, outcome, declarations, s₁, s₂, hwarn, hevents, -, hd, hstatements, hnote⟩ := h
    rw [← statements_extend] at hstatements
    exact ⟨outcomes, outcome, declarations, s₁, s₂, hwarn, hevents, hd, hstatements, hnote⟩

end Platform

end CrateDdl
