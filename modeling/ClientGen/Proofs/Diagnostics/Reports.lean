/-
  ClientGen/Proofs/Diagnostics/Reports.lean
  =========================================
  **Counts and reports are exact.**

  A report leaves out the steps that hold no record of its weights, with everything inside
  them.  It is the outline of the whole tree without the lines that are not wanted, each
  judged on its own (`filteredLines_eq_join`), since a step that holds no such record has no
  wanted line inside.  The records in the outline are those of the walk, and so those of the
  log (`Built.exact`).
-/
import ClientGen.Diagnostics.Report
import ClientGen.Proofs.Diagnostics.Walk

namespace ClientGen

open ClientGen.Text

/-! ### Outlines -/

/-- What a report shows at a level: a step, or a record inside the step of that level. -/
inductive ReportLine where
  | step (level : Nat) (s : StepNode)
  | record (level : Nat) (d : Diagnostic)

namespace ReportLine

/-- The text of the line; a record with a symbol takes two. -/
def text : ReportLine → String
  | .step level s => times level "  " ++ s.icon ++ " " ++ s.name ++ " " ++ s.time ++ "\n"
  | .record level d => d.filteredLines (times level "  ")

/-- The record that the line shows. -/
def record? : ReportLine → Option Diagnostic
  | .step _ _ => none
  | .record _ d => some d

/-- The line is wanted in a report of some weights. -/
def isWanted (severities : List Severity) : ReportLine → Bool
  | .step _ s => s.holds severities
  | .record _ d => severities.contains d.severity

end ReportLine

mutual
/-- Every line of a step and of what is inside it, in the order of a walk. -/
def StepNode.outline (level : Nat) : StepNode → List ReportLine
  | ⟨name, status, entries⟩ =>
    .step level ⟨name, status, entries⟩ :: StepEntry.outlineAll level entries

def StepEntry.outlineAll (level : Nat) : List StepEntry → List ReportLine
  | [] => []
  | .message d :: es => .record level d :: StepEntry.outlineAll level es
  | .step s :: es => s.outline (level + 1) ++ StepEntry.outlineAll level es
end

/-! ### Records of an outline -/

mutual
/-- An outline holds the records of the walk. -/
theorem StepNode.records_outline (path : List String) (level : Nat) : ∀ s : StepNode,
    (s.outline level).filterMap ReportLine.record? = (s.walk path).map Prod.snd
  | ⟨name, status, entries⟩ => by
    rw [StepNode.outline, StepNode.walk]
    exact StepEntry.records_outlineAll (path ++ [name]) level entries

theorem StepEntry.records_outlineAll (path : List String) (level : Nat) :
    ∀ es : List StepEntry, (StepEntry.outlineAll level es).filterMap ReportLine.record?
      = (StepEntry.walkAll path es).map Prod.snd
  | [] => rfl
  | .message d :: es => by
    rw [StepEntry.outlineAll, StepEntry.walkAll, List.map_cons,
      ← StepEntry.records_outlineAll path level es]
    rfl
  | .step s :: es => by
    rw [StepEntry.outlineAll, StepEntry.walkAll, List.map_append, List.filterMap_append,
      StepNode.records_outline path (level + 1) s, StepEntry.records_outlineAll path level es]
end

/-- Lines that are not wanted take no wanted record with them. -/
theorem filterMap_record?_filter (severities : List Severity) (lines : List ReportLine) :
    (lines.filter (ReportLine.isWanted severities)).filterMap ReportLine.record?
      = (lines.filterMap ReportLine.record?).filter fun d => severities.contains d.severity := by
  induction lines with
  | nil => rfl
  | cons line lines ih =>
    cases line with
    | step level s =>
      rw [List.filterMap_cons_none rfl, ← ih, List.filter_cons]
      split
      · rfl
      · rfl
    | record level d =>
      have hrecord : ReportLine.record? (.record level d) = some d := rfl
      have hwanted : ReportLine.isWanted severities (.record level d)
          = severities.contains d.severity := rfl
      rw [List.filterMap_cons_some hrecord, List.filter_cons, List.filter_cons, hwanted, ← ih]
      split
      · exact List.filterMap_cons_some hrecord
      · rfl

/-! ### Pruning -/

section Pruning

variable {severities : List Severity}

theorem StepNode.holds_eq_false {s : StepNode} :
    s.holds severities = false ↔ ∀ severity ∈ severities, s.count severity = 0 := by
  simp [StepNode.holds]

mutual
/-- A step without records of the weights has no wanted line. -/
theorem StepNode.filter_outline_eq_nil (level : Nat) : ∀ s : StepNode,
    (∀ severity ∈ severities, s.count severity = 0) →
      (s.outline level).filter (ReportLine.isWanted severities) = []
  | ⟨name, status, entries⟩, h => by
    have hstep : ReportLine.isWanted severities (.step level ⟨name, status, entries⟩) = false :=
      StepNode.holds_eq_false.mpr h
    rw [StepNode.outline, List.filter_cons_of_neg (by simp [hstep])]
    exact StepEntry.filter_outlineAll_eq_nil level entries h

theorem StepEntry.filter_outlineAll_eq_nil (level : Nat) : ∀ es : List StepEntry,
    (∀ severity ∈ severities, StepEntry.countAll severity es = 0) →
      (StepEntry.outlineAll level es).filter (ReportLine.isWanted severities) = []
  | [], _ => rfl
  | .message d :: es, h => by
    simp only [StepEntry.countAll, Nat.add_eq_zero_iff] at h
    have hweight : d.severity ∉ severities := fun hd => by
      simpa using (h d.severity hd).1
    have hrecord : ReportLine.isWanted severities (.record level d) = false := by
      simpa [ReportLine.isWanted] using hweight
    rw [StepEntry.outlineAll, List.filter_cons_of_neg (by simp [hrecord])]
    exact StepEntry.filter_outlineAll_eq_nil level es fun severity hs => (h severity hs).2
  | .step s :: es, h => by
    simp only [StepEntry.countAll, Nat.add_eq_zero_iff] at h
    rw [StepEntry.outlineAll, List.filter_append,
      StepNode.filter_outline_eq_nil (level + 1) s fun severity hs => (h severity hs).1,
      StepEntry.filter_outlineAll_eq_nil level es fun severity hs => (h severity hs).2]
    rfl
end

mutual
/-- The report of a step is made of the wanted lines of its outline. -/
theorem StepNode.filteredLines_eq_join (level : Nat) : ∀ s : StepNode,
    s.filteredLines severities level = String.join
      (((s.outline level).filter (ReportLine.isWanted severities)).map ReportLine.text)
  | ⟨name, status, entries⟩ => by
    rw [StepNode.filteredLines]
    by_cases hholds : StepNode.holds severities ⟨name, status, entries⟩ = true
    · have hstep : ReportLine.isWanted severities (.step level ⟨name, status, entries⟩) = true :=
        hholds
      rw [if_pos hholds, StepNode.outline, List.filter_cons_of_pos hstep, List.map_cons,
        String.join_cons, StepEntry.filteredLines_eq_join level entries]
      rfl
    · -- What the report leaves out with the step has no wanted line either.
      have hnone := StepNode.filter_outline_eq_nil level ⟨name, status, entries⟩
        (StepNode.holds_eq_false.mp (Bool.not_eq_true _ ▸ hholds))
      rw [if_neg hholds, hnone]
      rfl

theorem StepEntry.filteredLines_eq_join (level : Nat) : ∀ es : List StepEntry,
    StepEntry.filteredLines severities level es = String.join
      (((StepEntry.outlineAll level es).filter (ReportLine.isWanted severities)).map
        ReportLine.text)
  | [] => rfl
  | .message d :: es => by
    rw [StepEntry.filteredLines, StepEntry.outlineAll, StepEntry.filteredLines_eq_join level es,
      List.filter_cons]
    change _ = String.join (List.map _ (if severities.contains d.severity then _ else _))
    split
    · rw [List.map_cons, String.join_cons]
      rfl
    · exact String.empty_append
  | .step s :: es => by
    rw [StepEntry.filteredLines, StepEntry.outlineAll, List.filter_append, List.map_append,
      String.join_append, StepNode.filteredLines_eq_join (level + 1) s,
      StepEntry.filteredLines_eq_join level es]
end

end Pruning

/-! ### Exact logs -/

namespace Log

/-- The lines of the whole tree that are wanted in a report of some weights. -/
def wantedLines (log : Log) (severities : List Severity) : List ReportLine :=
  (log.tree.outline 0).filter (ReportLine.isWanted severities)

/-- Below its heading the report shows the wanted lines, and with them every record of the
    weights, once and in raising order. -/
structure Reports (log : Log) (report title : String) (severities : List Severity) : Prop where
  text : report = title ++ " found during \"" ++ log.tree.name ++ "\" execution:\n"
    ++ String.join ((log.wantedLines severities).map ReportLine.text)
  shown : (log.wantedLines severities).filterMap ReportLine.record?
    = log.records.filter fun d => severities.contains d.severity

/-- The records of a segment of the list are those of a step, and the step counts them. -/
structure IsSegment (s : StepNode) (path : List String) (inside : List Diagnostic) : Prop where
  walk : s.walk path = inside.map Diagnostic.located
  count : ∀ severity, s.count severity = inside.countP fun d => d.severity == severity

/-- The tree, the counts and the reports of a log tell what its list of records tells. -/
structure Exact (log : Log) : Prop where
  walk : log.tree.walk [] = log.records.map Diagnostic.located
  /-- The records of a step were raised one after another. -/
  steps : ∀ path s, log.tree.Occurs path s →
    ∃ front inside back, log.records = front ++ inside ++ back ∧ IsSegment s path inside
  /-- The records of the current step are the last ones. -/
  current : log.tree.Occurs log.outside log.current
    ∧ ∃ front inside, log.records = front ++ inside ∧ IsSegment log.current log.outside inside
  root : ∀ severity, log.tree.count severity = log.count severity
  errors : log.Reports log.errorsReport "Errors" [.error]
  warnings : log.Reports log.warningsReport "Warnings" [.warning]
  problems : log.Reports log.problemsReport "Errors and warnings" [.error, .warning]

theorem isSegment_of_walk {s : StepNode} {path : List String} {inside : List Diagnostic}
    (h : s.walk path = inside.map Diagnostic.located) : IsSegment s path inside := by
  refine ⟨h, fun severity => ?_⟩
  rw [s.count_eq_countP severity path, h, List.countP_map]
  rfl

namespace Built

variable {log : Log}

theorem steps (h : log.Built) {path : List String} {s : StepNode}
    (hs : log.tree.Occurs path s) :
    ∃ front inside back, log.records = front ++ inside ++ back ∧ IsSegment s path inside := by
  obtain ⟨front, back, hwalk⟩ := hs.walk
  rw [h.walk_tree] at hwalk
  obtain ⟨front', back', hrecords, hfront, -⟩ := List.map_eq_append_iff.mp hwalk
  obtain ⟨before, inside, rfl, -, hinside⟩ := List.map_eq_append_iff.mp hfront
  exact ⟨before, inside, back', hrecords, isSegment_of_walk hinside.symm⟩

theorem current (h : log.Built) :
    ∃ front inside, log.records = front ++ inside
      ∧ IsSegment log.current log.outside inside := by
  have hwalk := log.walk_tree
  rw [h.walk_tree] at hwalk
  obtain ⟨front, inside, hrecords, -, hinside⟩ := List.map_eq_append_iff.mp hwalk
  exact ⟨front, inside, hrecords, isSegment_of_walk hinside.symm⟩

theorem reports (h : log.Built) (title : String) (severities : List Severity) :
    log.Reports (log.filteredReport title severities) title severities := by
  have hrecords : (log.tree.outline 0).filterMap ReportLine.record? = log.records := by
    rw [log.tree.records_outline [] 0, h.walk_tree, List.map_map]
    exact List.map_id _
  refine ⟨?_, ?_⟩
  · rw [filteredReport, StepNode.filteredLines_eq_join, wantedLines]
  · rw [wantedLines, filterMap_record?_filter, hrecords]

theorem exact (h : log.Built) : log.Exact where
  walk := h.walk_tree
  steps := fun _ _ hs => h.steps hs
  current := ⟨log.occurs_current, h.current⟩
  root := by
    intro severity
    rw [(isSegment_of_walk h.walk_tree).count severity, count, List.countP_eq_length_filter]
  errors := h.reports _ _
  warnings := h.reports _ _
  problems := h.reports _ _

end Built

end Log

/-- A script leaves the records of the messages that it raised, in raising order, in a log
    that is exact while its root step is open and when it is closed; and every observation on
    the way is that of the current step of an exact log. -/
theorem runScript_exact (name : String) (script : List Instruction) :
    (runScript name script).log.records = Instruction.raisedAll script (.opened name)
      ∧ (runScript name script).log.finish.records = (runScript name script).log.records
      ∧ (runScript name script).log.Exact ∧ (runScript name script).log.finish.Exact
      ∧ ∀ step errors warnings,
        .observed step errors warnings ∈ (runScript name script).trace →
          ∃ between : Log, between.Exact
            ∧ between.records <+: (runScript name script).log.records
            ∧ between.current.name = step ∧ between.current.count .error = errors
            ∧ between.current.count .warning = warnings := by
  have hleads := runScript_leads name script
  refine ⟨hleads.records, Log.records_finish _, hleads.built.exact, hleads.built.finish.exact, ?_⟩
  intro step errors warnings hobserved
  rcases hleads.observed _ hobserved with ⟨f, hfailed⟩ | ⟨between, hbuilt, hrecords, heq⟩
  · cases hfailed
  · cases heq
    exact ⟨between, hbuilt.exact, hrecords, rfl, rfl, rfl⟩

/-- A task without errors is left out of the report of errors. -/
example : (runScript "KtorGen" [.task "Extraction" [.note "start"] false,
      .task "Validation" [.err "bad" (some "a.B")] false]).log.finish.errorsReport
    = "Errors found during \"KtorGen\" execution:\n✖ KtorGen (T)\n  ✖ Validation (T)\n"
      ++ "    ERROR: bad\n      -> at a.B\n" := by
  decide +kernel

end ClientGen
