/-
  ClientGen/Proofs/Round/Reporting.lean
  =====================================
  **Options of reporting change nothing but the reports.**

  The options are handed to every stage of a round, but only two of them are read there.
  Each stage is therefore the same work under options that agree on these two
  (`SameWork.findings`, `SameWork.generate`), and so is a round, whether it fails or not
  (`SameWork.judgeAll`).  Processors that agree on everything else answer one call alike and
  still agree after it (`answer_agrees`), and the induction over the calls carries that to
  whole builds.  What a listener hears of a call is read off its log: the records as the level
  has them (`Received`), and behind them the failure.
-/
import ClientGen.Proofs.Round.Deferral

namespace ClientGen

open ClientGen.Client

/-! ### What a listener hears -/

/-- What a listener is told. -/
inductive Signal where
  | record (d : Diagnostic)
  | failure (f : Fatal) (withCauses : Bool)

namespace Outcome

variable {α : Type}

/-- What a listener is told of a call, in order. -/
def signals (o : Outcome α) (options : Options) : List Signal :=
  (o.log.delivered options.checkLevel).map .record
    ++ (o.failure?.map fun f => .failure f options.printCauses).toList

end Outcome

def Inbox.hear (b : Inbox) : Signal → Inbox
  | .record d => b.receive [d]
  | .failure f withCauses => b.announce (f.announcement withCauses)

def Signal.event : Signal → Event
  | .record d => d.event
  | .failure f withCauses => f.event withCauses

theorem Inbox.foldl_hear_records (b : Inbox) (ds : List Diagnostic) :
    (ds.map Signal.record).foldl Inbox.hear b = b.receive ds := by
  induction ds generalizing b with
  | nil => simp [receive]
  | cons d ds ih => simp [hear, ih, receive]

/-- An inbox holds the signals of a call. -/
theorem Outcome.deliver_eq {α : Type} (o : Outcome α) (options : Options) (b : Inbox) :
    o.deliver options b = (o.signals options).foldl Inbox.hear b := by
  rw [deliver, signals, List.foldl_append, Inbox.foldl_hear_records, announcements]
  cases o.failure? with
  | none => rfl
  | some f => rfl

/-- An event log holds the signals of a call. -/
theorem Outcome.events_eq {α : Type} (o : Outcome α) (options : Options) :
    o.events options = (o.signals options).map Signal.event := by
  rw [events, signals, List.map_append, List.map_map]
  cases o.failure? with
  | none => rfl
  | some f => rfl

/-- Records as they were raised, and as a listener receives them at a level: errors unchanged,
    as warnings or left out, and everything else unchanged. -/
inductive Received (level : CheckLevel) : List Diagnostic → List Diagnostic → Prop
  | nil : Received level [] []
  | other {d : Diagnostic} {raised received : List Diagnostic} (hd : d.severity ≠ .error)
      (h : Received level raised received) : Received level (d :: raised) (d :: received)
  | unchanged {d : Diagnostic} {raised received : List Diagnostic} (hd : d.severity = .error)
      (hlevel : level = .errors) (h : Received level raised received) :
      Received level (d :: raised) (d :: received)
  | demoted {d : Diagnostic} {raised received : List Diagnostic} (hd : d.severity = .error)
      (hlevel : level = .warnings) (h : Received level raised received) :
      Received level (d :: raised) ({ d with severity := .warning } :: received)
  | leftOut {d : Diagnostic} {raised received : List Diagnostic} (hd : d.severity = .error)
      (hlevel : level = .off) (h : Received level raised received) :
      Received level (d :: raised) received

theorem received_filterMap (level : CheckLevel) (raised : List Diagnostic) :
    Received level raised (raised.filterMap (Diagnostic.delivered level)) := by
  induction raised with
  | nil => exact .nil
  | cons d raised ih =>
    by_cases herror : d.severity = .error
    · cases level with
      | off => simpa [Diagnostic.delivered, herror] using Received.leftOut herror rfl ih
      | errors => simpa [Diagnostic.delivered, herror] using Received.unchanged herror rfl ih
      | warnings => simpa [Diagnostic.delivered, herror] using Received.demoted herror rfl ih
    · have hsame : d.delivered level = some d := by
        unfold Diagnostic.delivered
        split
        · rename_i h; exact (herror h).elim
        · rename_i h; exact (herror h).elim
        · rfl
      rw [List.filterMap_cons, hsame]
      exact .other herror ih

/-! ### Options that matter to the work -/

/-- Options that differ at most in what they say about reports. -/
structure Options.SameWork (o o' : Options) : Prop where
  experimental : o.experimental = o'.experimental
  maxDeferredRounds : o.maxDeferredRounds = o'.maxDeferredRounds

namespace Options.SameWork

variable {o o' : Options}

/-- No check looks at more of the options than whether multiplatform factories are asked for. -/
theorem findings (h : o.SameWork o') (check : Check) (m : InterfaceModel) :
    check.findings ⟨m, o⟩ = check.findings ⟨m, o'⟩ := by
  cases check with
  | classLevel =>
    have hsettings : Validation.settingsFindings ⟨m, o⟩ = Validation.settingsFindings ⟨m, o'⟩ :=
      Validation.settingsFindings_withFunctions m m.functions o' o
    simp only [Check.findings, Validation.classLevel, hsettings]
    rfl
  | factories =>
    have hone : Validation.factoryFindings ⟨m, o⟩ = Validation.factoryFindings ⟨m, o'⟩ := by
      funext e
      simp only [Validation.factoryFindings, h.experimental]
    simp only [Check.findings, Validation.factories, hone]
  | _ => rfl

theorem validate (h : o.SameWork o') (checks : List Check) (m : InterfaceModel) :
    validate checks m o = validate checks m o' := by
  have hruns : runRules ⟨m, o⟩ (checks.map Check.ruleSet)
      = runRules ⟨m, o'⟩ (checks.map Check.ruleSet) := by
    induction checks with
    | nil => rfl
    | cons check checks ih =>
      rw [List.map_cons, runRules, runRules, ih]
      simp only [RuleSet.run, Check.ruleSet, h.findings check m]
  simp only [ClientGen.validate, validateBy, hruns]

theorem generate (h : o.SameWork o') (m : InterfaceModel) (registry : FactoryRegistry) :
    generate m o registry = generate m o' registry := by
  simp only [Client.generate, generateActuals, h.experimental]

theorem judge (h : o.SameWork o') (mode : RoundMode) (checks : List Check) (t : SymbolTable)
    (registry : FactoryRegistry) (c : Candidate) :
    (⟨mode, o, checks⟩ : RoundRules).judge t registry c
      = (⟨mode, o', checks⟩ : RoundRules).judge t registry c := by
  have hextraction : ∀ e, (⟨mode, o, checks⟩ : RoundRules).judgeExtraction registry c e
      = (⟨mode, o', checks⟩ : RoundRules).judgeExtraction registry c e := by
    intro e
    cases e with
    | ready m =>
      simp only [RoundRules.judgeExtraction, RoundRules.judgeModel, RoundRules.generateFiles,
        h.validate, h.generate]
    | deferred names =>
      simp only [RoundRules.judgeExtraction, RoundRules.judgeUnresolved, h.maxDeferredRounds]
    | rejected => rfl
    | skipped => rfl
  simp only [RoundRules.judge, hextraction]

/-- Candidates are judged alike, and the same is recorded, up to the same failure. -/
theorem judgeAll (h : o.SameWork o') (mode : RoundMode) (checks : List Check) (t : SymbolTable)
    (registry : FactoryRegistry) (cs : List Candidate) (log : Log) :
    (⟨mode, o, checks⟩ : RoundRules).judgeAll t registry cs log
      = (⟨mode, o', checks⟩ : RoundRules).judgeAll t registry cs log := by
  induction cs generalizing registry log with
  | nil => rfl
  | cons c cs ih => simp only [RoundRules.judgeAll, h.judge, ih]

end Options.SameWork

/-! ### Results of calls -/

namespace Processor

theorem extractAll_steady (t : SymbolTable) (cs : List ClassDeclaration) :
    Steady (extractAll t cs) := by
  induction cs with
  | nil => exact .of _ (Does.pure _)
  | cons c cs ih =>
    refine (Steady.task _ ⟨_, c.extract_does _⟩).bind fun extraction => ?_
    exact ih.bind fun rest => .of _ (Does.pure _)

theorem finishWork_steady (p : Processor) : Steady p.finishWork := by
  unfold finishWork
  split
  · exact .of _ (Does.pure _)
  · exact .of _ (Does.die _ _)

/-- The closing of its log adds nothing to what a call gives, as in a round (`run_eq_ok`). -/
theorem result_inspect (t : SymbolTable) :
    (inspect t).result = ((extractAll t t.candidates).run.run (.opened "KtorGen inspect")).1 :=
  Outcome.result_ofWork (extractAll_steady t t.candidates) _

theorem result_finish (p : Processor) :
    p.finish.1.result = (p.finishWork.run.run (.opened "KtorGen finish")).1 :=
  Outcome.result_ofWork p.finishWork_steady _

end Processor

/-! ### Calls of a build -/

inductive Call where
  | process (t : SymbolTable)
  | check (t : SymbolTable)
  | inspect (t : SymbolTable)
  | finish

/-- What a call hands out. -/
inductive Reply where
  | round (result : Except Fatal RoundOutput)
  | models (result : Except Fatal (List InterfaceModel))
  | finished (result : Except Fatal Unit)

def Reply.failure? : Reply → Option Fatal
  | .round (.error f) | .models (.error f) | .finished (.error f) => some f
  | .round (.ok _) | .models (.ok _) | .finished (.ok _) => none

theorem Outcome.failure?_reply {α : Type} {reply : Except Fatal α → Reply}
    (hok : ∀ a, (reply (.ok a)).failure? = none)
    (herror : ∀ f, (reply (.error f)).failure? = some f) (o : Outcome α) :
    (reply o.result).failure? = o.failure? := by
  unfold failure?
  cases o.result with
  | ok a => exact hok a
  | error f => exact herror f

/-- All that can be seen of a call. -/
structure Answer where
  reply : Reply
  log : Log
  /-- What waits after the call. -/
  pending : Pending
  /-- What becomes of the inbox of a listener. -/
  deliver : Inbox → Inbox
  /-- The lines that an event log gets. -/
  events : List Event

namespace Processor

/-- What is seen of a call with an outcome, and the processor after it. -/
def answerWith {α : Type} (p : Processor) (reply : Except Fatal α → Reply)
    (call : Outcome α × Processor) : Answer × Processor :=
  (⟨reply call.1.result, call.1.log, call.2.pending, call.1.deliver p.options,
    call.1.events p.options⟩, call.2)

/-- The answer to a call, and the processor after it. -/
def answer (p : Processor) : Call → Answer × Processor
  | .process t => p.answerWith .round (p.process t)
  | .check t => p.answerWith .round (p.check t)
  | .inspect t => p.answerWith .models (inspect t, p)
  | .finish => p.answerWith .finished p.finish

/-- The answers to calls, one after the other. -/
def answers (p : Processor) : List Call → List Answer
  | [] => []
  | call :: calls => (p.answer call).1 :: (p.answer call).2.answers calls

/-! ### Two builds -/

/-- Processors that differ at most in what their options say about reports. -/
structure Agrees (p q : Processor) : Prop where
  options : p.options.SameWork q.options
  checks : p.checks = q.checks
  pending : p.pending = q.pending
  rounds : p.rounds = q.rounds

end Processor

/-- A listener is told of the records of a call as the level has them, and behind them of the
    failure, when there is one. -/
def Answer.Tells (options : Options) (a : Answer) : Prop :=
  ∃ received signals, Received options.checkLevel a.log.records received
    ∧ signals = received.map Signal.record
      ++ (a.reply.failure?.map fun f => .failure f options.printCauses).toList
    ∧ (∀ b, a.deliver b = signals.foldl Inbox.hear b)
    ∧ a.events = signals.map Signal.event

/-- Two answers differ at most in what a listener is told of the same records. -/
structure Answer.Agrees (options options' : Options) (a a' : Answer) : Prop where
  reply : a.reply = a'.reply
  log : a.log = a'.log
  pending : a.pending = a'.pending
  tells : a.Tells options
  tells' : a'.Tells options'

namespace Processor

variable {p q : Processor}

theorem Agrees.run (h : p.Agrees q) (mode : RoundMode) (t : SymbolTable) :
    (p.run mode t).1 = (q.run mode t).1 ∧ (p.run mode t).2.Agrees (q.run mode t).2 := by
  have hjudged : p.judgements mode t = q.judgements mode t := by
    unfold judgements rules
    rw [← h.checks, ← h.pending, ← h.rounds]
    exact h.options.judgeAll _ _ _ _ _ _
  constructor
  · exact congrArg roundOutcome hjudged
  · refine ⟨h.options, h.checks, ?_, congrArg (· + 1) h.rounds⟩
    exact congrArg (fun j => pendingAfter j.judged) hjudged

theorem Agrees.finish (h : p.Agrees q) :
    p.finish.1 = q.finish.1 ∧ p.finish.2.Agrees q.finish.2 := by
  constructor
  · unfold Processor.finish finishWork pendingNames
    rw [h.pending]
  · exact ⟨h.options, h.checks, rfl, h.rounds⟩

theorem answerWith_tells {α : Type} {reply : Except Fatal α → Reply} {call : Outcome α × Processor}
    (hreply : ∀ o : Outcome α, (reply o.result).failure? = o.failure?) :
    (p.answerWith reply call).1.Tells p.options := by
  refine ⟨_, call.1.signals p.options, received_filterMap _ _, ?_, ?_, ?_⟩
  · simp only [answerWith, Outcome.signals, hreply]
    rfl
  · intro b
    exact call.1.deliver_eq p.options b
  · exact call.1.events_eq p.options

/-- The same outcome is told by each of two processors in its own way. -/
theorem answerWith_agrees {α : Type} {reply : Except Fatal α → Reply}
    {call call' : Outcome α × Processor} (hcall : call.1 = call'.1)
    (hafter : call.2.Agrees call'.2)
    (hreply : ∀ o : Outcome α, (reply o.result).failure? = o.failure?) :
    Answer.Agrees p.options q.options (p.answerWith reply call).1 (q.answerWith reply call').1
      ∧ (p.answerWith reply call).2.Agrees (q.answerWith reply call').2 := by
  refine ⟨⟨?_, ?_, hafter.pending, ?_, ?_⟩, hafter⟩
  · exact congrArg (fun o : Outcome α => reply o.result) hcall
  · exact congrArg Outcome.log hcall
  · exact answerWith_tells hreply
  · exact answerWith_tells hreply

theorem answer_agrees (h : p.Agrees q) (call : Call) :
    Answer.Agrees p.options q.options (p.answer call).1 (q.answer call).1
      ∧ (p.answer call).2.Agrees (q.answer call).2 := by
  cases call with
  | process t =>
    obtain ⟨hcall, hafter⟩ := h.run .generate t
    exact answerWith_agrees hcall hafter (Outcome.failure?_reply (fun _ => rfl) fun _ => rfl)
  | check t =>
    obtain ⟨hcall, hafter⟩ := h.run .check t
    exact answerWith_agrees hcall hafter (Outcome.failure?_reply (fun _ => rfl) fun _ => rfl)
  | inspect t =>
    exact answerWith_agrees rfl h (Outcome.failure?_reply (fun _ => rfl) fun _ => rfl)
  | finish =>
    obtain ⟨hcall, hafter⟩ := h.finish
    exact answerWith_agrees hcall hafter (Outcome.failure?_reply (fun _ => rfl) fun _ => rfl)

theorem options_answer (p : Processor) (call : Call) : (p.answer call).2.options = p.options := by
  cases call with
  | process t => rfl
  | check t => rfl
  | inspect t => rfl
  | finish => rfl

/-- Builds that differ at most in their options of reporting give the same answers to the same
    calls and keep the same waiting, and their listeners are told of the same records and
    failures. -/
theorem answers_agree (h : p.Agrees q) (calls : List Call) :
    List.Forall₂ (Answer.Agrees p.options q.options) (p.answers calls) (q.answers calls) := by
  -- The processors agree after each call, and no call changes their options.
  induction calls generalizing p q with
  | nil => exact .nil
  | cons call calls ih =>
    obtain ⟨hfirst, hafter⟩ := answer_agrees h call
    have hrest := ih hafter
    rw [options_answer, options_answer] at hrest
    exact .cons hfirst hrest

def quiet : Options :=
  { Options.default with checkLevel := .off, printCauses := true }

def droppingBuild : List Call :=
  [.check siblings, .process ⟨[waitingInterface], []⟩, .inspect siblings, .finish]

/-- A quiet build hears of no errors, and does the same as one that hears of them. -/
theorem answers_agree_of_quiet :
    List.Forall₂ (Answer.Agrees .default quiet)
        ((start .default Check.all).answers droppingBuild)
        ((start quiet Check.all).answers droppingBuild)
      ∧ ((start quiet Check.all).answers droppingBuild).map (fun a => a.reply.failure?.isSome)
          = [false, false, false, true]
      ∧ ((start .default Check.all).answers droppingBuild).map
          (fun a => ((a.deliver .empty).ofSeverity .error).length) = [1, 0, 0, 1]
      ∧ ((start quiet Check.all).answers droppingBuild).map
          (fun a => ((a.deliver .empty).ofSeverity .error).length) = [0, 0, 0, 0] := by
  have hagrees : (start .default Check.all).Agrees (start quiet Check.all) :=
    ⟨⟨rfl, rfl⟩, rfl, rfl, rfl⟩
  refine ⟨answers_agree hagrees droppingBuild, ?_, ?_, ?_⟩
  · decide +kernel
  · decide +kernel
  · decide +kernel

end Processor

end ClientGen
