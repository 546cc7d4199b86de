/-
  ClientGen/Proofs/CommandLine/Terminal.lean
  ==========================================
  **What commands do to a terminal.**

  Work is run in a terminal (`runIn`).  Loading an input looks at the files and does
  nothing else, so its result is a function of the file tree (`FileTree.load`); reports and
  comparisons print and leave the files alone (`KeepsFiles`).
-/
import ClientGen.CommandLine.Command
import ClientGen.CommandLine.FileTree

namespace ClientGen.CommandLine

open ClientGen.Client

/-! ### Running work -/

section Run

variable {α β : Type}

/-- What work gives in a terminal, and the terminal after it. -/
def runIn (work : CommandM (StateM Terminal) α) (t : Terminal) : Except String α × Terminal :=
  work.run.run t

variable {work : CommandM (StateM Terminal) α} {next : α → CommandM (StateM Terminal) β}
  {t t' : Terminal}

theorem runIn_bind_ok {a : α} (h : runIn work t = (.ok a, t')) :
    runIn (work >>= next) t = runIn (next a) t' := by
  change StateT.run (ExceptT.run (work >>= next)) t = _
  change StateT.run (ExceptT.run work) t = _ at h
  simp only [ExceptT.run_bind, StateT.run_bind, h]
  rfl

theorem runIn_bind_error {message : String} (h : runIn work t = (.error message, t')) :
    runIn (work >>= next) t = (.error message, t') := by
  change StateT.run (ExceptT.run (work >>= next)) t = _
  change StateT.run (ExceptT.run work) t = _ at h
  simp only [ExceptT.run_bind, StateT.run_bind, h]
  rfl

theorem runIn_adapt (words : String → String) :
    runIn (work.adapt words) t = ((runIn work t).1.mapError words, (runIn work t).2) := rfl

theorem runIn_createDirectories (path : String) (t : Terminal) :
    runIn (Terminal.world.createDirectories path) t = Terminal.createDirectories path t := rfl

theorem runIn_writeFile (path content : String) (t : Terminal) :
    runIn (Terminal.world.writeFile path content) t = Terminal.writeFile path content t := rfl

end Run

/-! ### Work that reads -/

/-- The result hangs on the files alone, and the terminal stays as it is. -/
def Reads {α : Type} (work : CommandM (StateM Terminal) α) : Prop :=
  ∀ t, runIn work t = ((runIn work (.start t.files)).1, t)

namespace Reads

variable {α β : Type} {work : CommandM (StateM Terminal) α}

theorem pure (a : α) : Reads (pure a : CommandM (StateM Terminal) α) :=
  fun _ => rfl

theorem throw (message : String) : Reads (throw message : CommandM (StateM Terminal) α) :=
  fun _ => rfl

theorem bind {next : α → CommandM (StateM Terminal) β} (h : Reads work)
    (hnext : ∀ a, Reads (next a)) : Reads (work >>= next) := by
  intro t
  have hstart : runIn work (.start t.files)
      = ((runIn work (.start t.files)).1, .start t.files) := h (.start t.files)
  have hthere := h t
  cases hresult : (runIn work (.start t.files)).1 with
  | error message =>
    rw [hresult] at hstart hthere
    rw [runIn_bind_error hthere, runIn_bind_error hstart]
  | ok a =>
    rw [hresult] at hstart hthere
    rw [runIn_bind_ok hthere, runIn_bind_ok hstart]
    exact hnext a t

theorem adapt (h : Reads work) (words : String → String) : Reads (work.adapt words) := by
  intro t
  rw [runIn_adapt, runIn_adapt, h t]

end Reads

/-! ### Loading inputs -/

theorem readTable_reads (path : String) : Reads (readTable Terminal.world path) := by
  unfold readTable
  have hread : Reads (Terminal.world.readFile path) := fun _ => rfl
  refine (hread.adapt _).bind fun text => ?_
  split
  · exact .pure _
  · exact .throw _

theorem readTables_reads (t : SymbolTable) (paths : List String) :
    Reads (readTables Terminal.world t paths) := by
  induction paths generalizing t with
  | nil => exact .pure t
  | cons path paths ih => exact (readTable_reads path).bind fun next => ih (t.merge next)

/-- Loading an input prints nothing and hangs on the files alone, so it gives the same
    between any two rounds. -/
theorem loadInput_reads (path : String) : Reads (loadInput Terminal.world path) := by
  unfold loadInput
  have hfile : Reads (liftM (Terminal.world.isFile path)) := fun _ => rfl
  have hdirectory : Reads (liftM (Terminal.world.isDirectory path)) := fun _ => rfl
  have hbelow : Reads (liftM (Terminal.world.filesBelow path)) := fun _ => rfl
  refine hfile.bind fun isFile => ?_
  split
  · exact readTable_reads path
  · refine hdirectory.bind fun isDirectory => ?_
    split
    · refine hbelow.bind fun files => ?_
      split
      · exact .throw _
      · exact readTables_reads _ _
    · exact .throw _

/-- What loading an input gives. -/
def FileTree.load (tree : FileTree) (input : String) : Except String SymbolTable :=
  (runIn (loadInput Terminal.world input) (.start tree)).1

theorem runIn_loadInput {t : Terminal} {input : String} {result : Except String SymbolTable}
    (h : t.files.load input = result) :
    runIn (loadInput Terminal.world input) t = (result, t) := by
  rw [← h]
  exact loadInput_reads input t

/-! ### Work that leaves the files alone -/

/-- The files are the same afterwards. -/
def KeepsFiles {α : Type} (work : CommandM (StateM Terminal) α) : Prop :=
  ∀ t, (runIn work t).2.files = t.files

namespace KeepsFiles

variable {α β : Type} {work : CommandM (StateM Terminal) α}

theorem pure (a : α) : KeepsFiles (pure a : CommandM (StateM Terminal) α) :=
  fun _ => rfl

theorem throw (message : String) : KeepsFiles (throw message : CommandM (StateM Terminal) α) :=
  fun _ => rfl

theorem bind {next : α → CommandM (StateM Terminal) β} (h : KeepsFiles work)
    (hnext : ∀ a, KeepsFiles (next a)) : KeepsFiles (work >>= next) := by
  intro t
  have hfiles := h t
  cases hrun : runIn work t with
  | mk result after =>
    rw [hrun] at hfiles
    cases result with
    | error message =>
      rw [runIn_bind_error hrun]
      exact hfiles
    | ok a =>
      rw [runIn_bind_ok hrun, hnext a after]
      exact hfiles

theorem mapM {xs : List β} {work : β → CommandM (StateM Terminal) α}
    (h : ∀ x ∈ xs, KeepsFiles (work x)) : KeepsFiles (xs.mapM work) := by
  induction xs with
  | nil => exact pure []
  | cons x xs ih =>
    rw [List.mapM_cons]
    refine bind (h x List.mem_cons_self) fun y => ?_
    exact bind (ih fun x hx => h x (List.mem_cons_of_mem _ hx)) fun ys => pure _

theorem print (text : String) : KeepsFiles (Terminal.world.print text) :=
  fun _ => rfl

theorem printError (text : String) : KeepsFiles (Terminal.world.printError text) :=
  fun _ => rfl

end KeepsFiles

theorem runIn_resultOf_ok {α : Type} {o : Outcome α} {a : α} (h : o.result = .ok a)
    (heard : Inbox) (t : Terminal) :
    runIn (resultOf Terminal.world heard o) t = (.ok a, t) := by
  unfold resultOf
  rw [h]
  rfl

/-- A failure is told after what was heard, and the files stay. -/
theorem runIn_resultOf_error {α : Type} {o : Outcome α} {f : Fatal} (h : o.result = .error f)
    (heard : Inbox) (t : Terminal) : ∃ t',
    runIn (resultOf Terminal.world heard o) t = (.error f.display, t')
      ∧ t'.files = t.files := by
  unfold resultOf
  rw [h]
  exact ⟨_, rfl, rfl⟩

theorem driftOf_keepsFiles (out : String) (f : SourceFile) :
    KeepsFiles (driftOf Terminal.world out f) := by
  unfold driftOf
  have hread : KeepsFiles (ExceptT.lift (Terminal.world.readFile (continuePath out f.path)).run) :=
    fun _ => rfl
  exact hread.bind fun _ => .pure _

/-- Comparing writes nothing, also where it ends in a failure. -/
theorem compareSources_keepsFiles (out : String) (files : List SourceFile) :
    KeepsFiles (compareSources Terminal.world out files) := by
  unfold compareSources
  refine (KeepsFiles.mapM fun f _ => driftOf_keepsFiles out f).bind fun drifts => ?_
  refine (KeepsFiles.print _).bind fun _ => ?_
  dsimp only
  split
  · exact .bind (.throw _) fun _ => .print _
  · exact .bind (.pure _) fun _ => .print _

end ClientGen.CommandLine
