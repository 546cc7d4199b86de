/-
  ClientGen/Proofs/CommandLine/Withholding.lean
  =============================================
  **`generate` writes all of its files or none.**

  The rounds of a build run to their end or stop at an input (`Build.Runs`, `Build.Stops`).
  Nothing is written before the build has ended, so whatever withholds the files leaves the
  tree as it was.  Otherwise the files of all rounds are written in order, and the status
  tells of the errors that were heard.
-/
import ClientGen.Proofs.CommandLine.FileTree
import ClientGen.Proofs.CommandLine.Terminal

namespace ClientGen.CommandLine

open ClientGen.Client

/-! ### The rounds of a build -/

namespace Build

/-- Rounds over the inputs of a tree that run to their end, and what they put out. -/
inductive Runs (tree : FileTree) : Build → List String → List RoundOutput → Build → Prop
  | done (b : Build) : Runs tree b [] [] b
  | round {b b' : Build} {input : String} {inputs : List String} {table : SymbolTable}
      {o : RoundOutput} {outputs : List RoundOutput} (loaded : tree.load input = .ok table)
      (ended : (b.processor.process table).1.result = .ok o)
      (rest : Runs tree (b.after (b.processor.process table)) inputs outputs b') :
      Runs tree b (input :: inputs) (o :: outputs) b'

/-- Rounds that stop at an input, because it cannot be loaded or its round aborts. -/
inductive Stops (tree : FileTree) : Build → List String → Prop
  | unloadable {b : Build} {input message : String} {inputs : List String}
      (refused : tree.load input = .error message) : Stops tree b (input :: inputs)
  | aborted {b : Build} {input : String} {inputs : List String} {table : SymbolTable} {f : Fatal}
      (loaded : tree.load input = .ok table)
      (failed : (b.processor.process table).1.result = .error f) :
      Stops tree b (input :: inputs)
  | later {b : Build} {input : String} {inputs : List String} {table : SymbolTable}
      {o : RoundOutput} (loaded : tree.load input = .ok table)
      (ended : (b.processor.process table).1.result = .ok o)
      (rest : Stops tree (b.after (b.processor.process table)) inputs) :
      Stops tree b (input :: inputs)

section Rounds

variable {t : Terminal} {b b' : Build} {inputs : List String} {outputs : List RoundOutput}

theorem runs_or_stops (tree : FileTree) (b : Build) (inputs : List String) :
    (∃ outputs b', Runs tree b inputs outputs b') ∨ Stops tree b inputs := by
  induction inputs generalizing b with
  | nil => exact .inl ⟨[], b, .done b⟩
  | cons input inputs ih =>
    cases hload : tree.load input with
    | error message => exact .inr (.unloadable hload)
    | ok table =>
      cases hround : (b.processor.process table).1.result with
      | error f => exact .inr (.aborted hload hround)
      | ok o =>
        rcases ih (b.after (b.processor.process table)) with ⟨outputs, b', hruns⟩ | hstops
        · exact .inl ⟨o :: outputs, b', .round hload hround hruns⟩
        · exact .inr (.later hload hround hstops)

theorem Runs.generateRounds (h : Runs t.files b inputs outputs b') :
    runIn (generateRounds Terminal.world b inputs) t
      = (.ok (outputs.flatMap RoundOutput.files, b'), t) := by
  induction h with
  | done b => rfl
  | @round b b' input inputs table o outputs hload hround _ ih =>
    unfold CommandLine.generateRounds
    rw [runIn_bind_ok (runIn_loadInput hload), runIn_bind_ok (runIn_resultOf_ok hround _ t),
      runIn_bind_ok ih]
    rfl

/-- Rounds that stop fail and leave the files alone. -/
theorem Stops.generateRounds (h : Stops t.files b inputs) : ∃ message t',
    runIn (generateRounds Terminal.world b inputs) t = (.error message, t')
      ∧ t'.files = t.files := by
  induction h with
  | @unloadable b input message inputs hload =>
    exact ⟨message, t, runIn_bind_error (runIn_loadInput hload), rfl⟩
  | @aborted b input inputs table f hload hround =>
    obtain ⟨t', hfailed, hfiles⟩ :=
      runIn_resultOf_error hround (b.after (b.processor.process table)).heard t
    refine ⟨f.display, t', ?_, hfiles⟩
    unfold CommandLine.generateRounds
    rw [runIn_bind_ok (runIn_loadInput hload), runIn_bind_error hfailed]
  | @later b input inputs table o hload hround _ ih =>
    obtain ⟨message, t', hrest, hfiles⟩ := ih
    refine ⟨message, t', ?_, hfiles⟩
    unfold CommandLine.generateRounds
    rw [runIn_bind_ok (runIn_loadInput hload), runIn_bind_ok (runIn_resultOf_ok hround _ t),
      runIn_bind_error hrest]

end Rounds

end Build

/-! ### The end of a build -/

section End

variable {t : Terminal} {b : Build}

theorem finish_result_of_pending_nil {p : Processor} (h : p.pendingNames = []) :
    p.finish.1.result = .ok () := by
  have hnone : p.pending = [] := List.map_eq_nil_iff.mp h
  unfold Processor.finish Processor.finishWork
  rw [hnone]
  rfl

theorem finish_result_of_pending {p : Processor} (h : p.pendingNames ≠ []) :
    ∃ f, p.finish.1.result = .error f := by
  have hsome : p.pending.isEmpty = false := by
    rw [List.isEmpty_eq_false_iff]
    intro hnone
    apply h
    unfold Processor.pendingNames
    rw [hnone]
    rfl
  unfold Processor.finish Processor.finishWork
  rw [hsome]
  exact ⟨_, rfl⟩

/-- Without pending declarations a build hands out what was heard of it. -/
theorem runIn_endBuild_ok (h : b.processor.pendingNames = []) (t : Terminal) : ∃ t',
    runIn (endBuild Terminal.world b) t = (.ok (b.after b.processor.finish).heard, t')
      ∧ t'.files = t.files := by
  unfold endBuild
  dsimp only
  rw [finish_result_of_pending_nil h]
  exact ⟨_, rfl, rfl⟩

theorem runIn_endBuild_error (h : b.processor.pendingNames ≠ []) (t : Terminal) :
    ∃ message t', runIn (endBuild Terminal.world b) t = (.error message, t')
      ∧ t'.files = t.files := by
  obtain ⟨f, hf⟩ := finish_result_of_pending h
  unfold endBuild
  dsimp only
  rw [hf]
  exact ⟨_, _, rfl, rfl⟩

end End

/-! ### Writing the files -/

/-- The files with the paths that they are written to. -/
def destinations (out : String) (files : List SourceFile) : List (String × String) :=
  files.map fun f => (continuePath out f.path, f.content)

section Writing

variable {t : Terminal} {out : String} {files : List SourceFile} {f : SourceFile}
  {tree : FileTree}

theorem runIn_createDirectories_ok {path : String} {around : FileTree}
    (h : t.files.createDirectories path = (.ok (), around)) (words : String → String) :
    runIn ((Terminal.world.createDirectories path).adapt words) t
      = (.ok (), { t with files := around }) := by
  rw [runIn_adapt, runIn_createDirectories, Terminal.createDirectories, h]
  rfl

theorem runIn_createDirectories_error {path : String} {e : FileError} {around : FileTree}
    (h : t.files.createDirectories path = (.error e, around)) (words : String → String) :
    runIn ((Terminal.world.createDirectories path).adapt words) t
      = (.error (words e.message), { t with files := around }) := by
  rw [runIn_adapt, runIn_createDirectories, Terminal.createDirectories, h]
  rfl

theorem runIn_writeFile_ok {path content : String} {written : FileTree}
    (h : t.files.writeFile path content = .ok written) (words : String → String) :
    runIn ((Terminal.world.writeFile path content).adapt words) t
      = (.ok (), { t with files := written }) := by
  rw [runIn_adapt, runIn_writeFile, Terminal.writeFile, h]
  rfl

theorem runIn_writeFile_error {path content : String} {e : FileError}
    (h : t.files.writeFile path content = .error e) (words : String → String) :
    runIn ((Terminal.world.writeFile path content).adapt words) t
      = (.error (words e.message), t) := by
  rw [runIn_adapt, runIn_writeFile, Terminal.writeFile, h]
  rfl

theorem runIn_writeSource (h : t.files.Placed (continuePath out f.path) f.content tree) :
    runIn (writeSource Terminal.world out f) t = (.ok (), { t with files := tree }) := by
  obtain ⟨around, hcreated, hwritten⟩ := h
  unfold writeSource
  dsimp only
  rw [runIn_bind_ok (runIn_createDirectories_ok hcreated _)]
  exact runIn_writeFile_ok (t := { t with files := around }) hwritten _

theorem forM_writeSource_cons (out : String) (f : SourceFile) (files : List SourceFile) :
    (f :: files).forM (writeSource Terminal.world out)
      = writeSource Terminal.world out f >>= fun _ => files.forM (writeSource Terminal.world out) :=
  rfl

theorem runIn_writeAll (h : t.files.PlacedAll (destinations out files) tree) :
    runIn (files.forM (writeSource Terminal.world out)) t
      = (.ok (), { t with files := tree }) := by
  induction files generalizing t with
  | nil =>
    cases h
    rfl
  | cons f files ih =>
    cases h with
    | cons first rest =>
      rw [forM_writeSource_cons, runIn_bind_ok (runIn_writeSource first)]
      exact ih rest

theorem placed_of_runIn {t' : Terminal}
    (h : runIn (writeSource Terminal.world out f) t = (.ok (), t')) :
    t.files.Placed (continuePath out f.path) f.content t'.files := by
  unfold writeSource at h
  cases hcreate : t.files.createDirectories (parentPath (continuePath out f.path)) with
  | mk result around =>
    cases result with
    | error e =>
      cases (runIn_bind_error (runIn_createDirectories_error hcreate _)).symm.trans h
    | ok _ =>
      replace h := (runIn_bind_ok (runIn_createDirectories_ok hcreate _)).symm.trans h
      cases hwrite : around.writeFile (continuePath out f.path) f.content with
      | error e =>
        cases (runIn_writeFile_error (t := { t with files := around }) hwrite _).symm.trans h
      | ok written =>
        cases (runIn_writeFile_ok (t := { t with files := around }) hwrite _).symm.trans h
        exact ⟨around, hcreate, hwrite⟩

theorem placedAll_of_runIn {t' : Terminal}
    (h : runIn (files.forM (writeSource Terminal.world out)) t = (.ok (), t')) :
    t.files.PlacedAll (destinations out files) t'.files := by
  induction files generalizing t with
  | nil =>
    cases h
    exact .nil _
  | cons f files ih =>
    rw [forM_writeSource_cons] at h
    cases hfirst : runIn (writeSource Terminal.world out f) t with
    | mk result after =>
      cases result with
      | error message =>
        rw [runIn_bind_error hfirst] at h
        cases h
      | ok _ =>
        rw [runIn_bind_ok hfirst] at h
        exact .cons (placed_of_runIn hfirst) (ih h)

theorem runIn_writeSources (h : t.files.PlacedAll (destinations out files) tree) : ∃ t',
    runIn (writeSources Terminal.world out files) t = (.ok (), t') ∧ t'.files = tree := by
  unfold writeSources
  rw [runIn_bind_ok (runIn_writeAll h)]
  exact ⟨_, rfl, rfl⟩

theorem placedAll_of_writeSources {t' : Terminal}
    (h : runIn (writeSources Terminal.world out files) t = (.ok (), t')) :
    t.files.PlacedAll (destinations out files) t'.files := by
  unfold writeSources at h
  cases hall : runIn (files.forM (writeSource Terminal.world out)) t with
  | mk result after =>
    cases result with
    | error message =>
      rw [runIn_bind_error hall] at h
      cases h
    | ok _ =>
      rw [runIn_bind_ok hall] at h
      cases h
      exact (placedAll_of_runIn hall :)

end Writing

/-! ### The command -/

/-- Why `generate` writes nothing. -/
inductive Withheld (tree : FileTree) (a : GenerateArguments) : Prop
  | malformed {e : OptionsError} (refused : Options.ofPairs a.options = .error e)
  | stopped {options : Options} (read : Options.ofPairs a.options = .ok options)
      (stops : Build.Stops tree (.start options) a.inputs)
  | waiting {options : Options} {outputs : List RoundOutput} {b : Build}
      (read : Options.ofPairs a.options = .ok options)
      (runs : Build.Runs tree (.start options) a.inputs outputs b)
      (pending : b.processor.pendingNames ≠ [])
  | compared (asked : a.compare = true)

section Command

variable {t t' : Terminal} {a : GenerateArguments} {command : CommandM (StateM Terminal) Unit}

theorem statusOf_ok (h : runIn command t = (.ok (), t')) :
    (statusOf Terminal.world command).run t = (0, t') := by
  change StateT.run (ExceptT.run command) t = _ at h
  unfold statusOf
  simp only [StateT.run_bind, h]
  rfl

theorem statusOf_error {message : String} (h : runIn command t = (.error message, t')) :
    (statusOf Terminal.world command).run t
      = (1, { t' with errors := t'.errors ++ (message ++ "\n") }) := by
  change StateT.run (ExceptT.run command) t = _ at h
  unfold statusOf
  simp only [StateT.run_bind, h]
  rfl

theorem statusOf_congr {command' : CommandM (StateM Terminal) Unit}
    (h : runIn command t = runIn command' t') :
    (statusOf Terminal.world command).run t = (statusOf Terminal.world command').run t' := by
  cases hrun : runIn command' t' with
  | mk result after =>
    rw [hrun] at h
    cases result with
    | ok _ => rw [statusOf_ok h, statusOf_ok hrun]
    | error message => rw [statusOf_error h, statusOf_error hrun]

theorem statusOf_files (h : KeepsFiles command) :
    ((statusOf Terminal.world command).run t).2.files = t.files := by
  have hfiles := h t
  cases hrun : runIn command t with
  | mk result after =>
    rw [hrun] at hfiles
    cases result with
    | ok _ => rw [statusOf_ok hrun, hfiles]
    | error message => rw [statusOf_error hrun, hfiles]

theorem runIn_readOptions {pairs : List String} {options : Options}
    (h : Options.ofPairs pairs = .ok options) (t : Terminal) :
    runIn (MonadExcept.ofExcept (readOptions pairs) : CommandM (StateM Terminal) Options) t
      = (.ok options, t) := by
  unfold readOptions
  rw [h]
  rfl

theorem generateRounds_keepsFiles (b : Build) (inputs : List String) :
    KeepsFiles (generateRounds Terminal.world b inputs) := by
  intro t
  rcases Build.runs_or_stops t.files b inputs with ⟨outputs, b', hruns⟩ | hstops
  · rw [hruns.generateRounds]
  · obtain ⟨message, t', hrun, hfiles⟩ := hstops.generateRounds
    rw [hrun, hfiles]

theorem endBuild_keepsFiles (b : Build) : KeepsFiles (endBuild Terminal.world b) := by
  intro t
  by_cases hpending : b.processor.pendingNames = []
  · obtain ⟨t', hend, hfiles⟩ := runIn_endBuild_ok hpending t
    rw [hend, hfiles]
  · obtain ⟨message, t', hend, hfiles⟩ := runIn_endBuild_error hpending t
    rw [hend, hfiles]

/-- A comparison leaves the files alone, however it ends. -/
theorem generateCommand_keepsFiles (h : a.compare = true) :
    KeepsFiles (generateCommand Terminal.world a) := by
  unfold generateCommand
  have hoptions : KeepsFiles
      (MonadExcept.ofExcept (readOptions a.options) : CommandM (StateM Terminal) Options) := by
    cases readOptions a.options with
    | ok options => exact .pure options
    | error message => exact .throw message
  refine hoptions.bind fun options => ?_
  refine (generateRounds_keepsFiles _ _).bind fun output => ?_
  refine (endBuild_keepsFiles _).bind fun heard => ?_
  rw [if_pos h]
  refine (compareSources_keepsFiles _ _).bind fun _ => ?_
  split
  · exact .throw _
  · exact .pure _

/-- Before the first file is written, a failure leaves the files alone. -/
theorem Withheld.generateCommand (h : Withheld t.files a) (hwrites : a.compare = false) :
    ∃ message t', runIn (generateCommand Terminal.world a) t = (.error message, t')
      ∧ t'.files = t.files := by
  unfold CommandLine.generateCommand
  cases h with
  | @malformed e hrefused =>
    refine ⟨"Invalid option: " ++ e.message, t, runIn_bind_error ?_, rfl⟩
    unfold readOptions
    rw [hrefused]
    rfl
  | stopped hread hstops =>
    obtain ⟨message, t', hrounds, hfiles⟩ := hstops.generateRounds
    refine ⟨message, t', ?_, hfiles⟩
    rw [runIn_bind_ok (runIn_readOptions hread t), runIn_bind_error hrounds]
  | waiting hread hruns hpending =>
    obtain ⟨message, t', hend, hfiles⟩ := runIn_endBuild_error hpending t
    refine ⟨message, t', ?_, hfiles⟩
    rw [runIn_bind_ok (runIn_readOptions hread t), runIn_bind_ok hruns.generateRounds]
    exact runIn_bind_error hend
  | compared hasked =>
    rw [hwrites] at hasked
    cases hasked

theorem build_of_not_withheld {tree : FileTree} (h : ¬ Withheld tree a) :
    a.compare = false ∧ ∃ options outputs b, Options.ofPairs a.options = .ok options
      ∧ Build.Runs tree (.start options) a.inputs outputs b ∧ b.processor.pendingNames = [] := by
  have hwrites : a.compare = false := by
    rw [Bool.eq_false_iff]
    intro hasked
    exact h (.compared hasked)
  refine ⟨hwrites, ?_⟩
  cases hread : Options.ofPairs a.options with
  | error e => exact absurd (.malformed hread) h
  | ok options =>
    rcases Build.runs_or_stops tree (.start options) a.inputs with ⟨outputs, b, hruns⟩ | hstops
    · by_cases hpending : b.processor.pendingNames = []
      · exact ⟨options, outputs, b, rfl, hruns, hpending⟩
      · exact absurd (.waiting hread hruns hpending) h
    · exact absurd (.stopped hread hstops) h

/-- The last word of a build is failure when errors were heard. -/
def lastWord (heard : Inbox) : CommandM (StateM Terminal) Unit :=
  if !(heard.ofSeverity .error).isEmpty then throw ("KtorGen finished with " ++ summary heard)
  else pure ()

/-- Up to the end of its build, `generate` leaves the files alone. -/
theorem runIn_generateCommand {options : Options} {outputs : List RoundOutput} {b : Build}
    (hwrites : a.compare = false) (hread : Options.ofPairs a.options = .ok options)
    (hruns : Build.Runs t.files (.start options) a.inputs outputs b)
    (hpending : b.processor.pendingNames = []) : ∃ ended : Terminal, ended.files = t.files
      ∧ runIn (generateCommand Terminal.world a) t
        = runIn (writeSources Terminal.world a.out (outputs.flatMap RoundOutput.files)
            >>= fun _ => lastWord (b.after b.processor.finish).heard) ended := by
  obtain ⟨ended, hend, hfiles⟩ := runIn_endBuild_ok hpending t
  refine ⟨ended, hfiles, ?_⟩
  unfold CommandLine.generateCommand
  rw [runIn_bind_ok (runIn_readOptions hread t), runIn_bind_ok hruns.generateRounds]
  dsimp only
  rw [runIn_bind_ok hend, if_neg (by rw [hwrites]; decide)]
  rfl

theorem lastWord_keepsFiles (heard : Inbox) : KeepsFiles (lastWord heard) := by
  unfold lastWord
  split
  · exact .throw _
  · exact .pure ()

theorem status_lastWord (heard : Inbox) (t : Terminal) :
    ((statusOf Terminal.world (lastWord heard)).run t).1 = 0
      ↔ ∀ d ∈ heard.records, d.severity ≠ .error := by
  have hheard : (∀ d ∈ heard.records, d.severity ≠ .error)
      ↔ (heard.ofSeverity .error).isEmpty = true := by
    simp [Inbox.ofSeverity]
  rw [hheard]
  unfold lastWord
  cases (heard.ofSeverity .error).isEmpty with
  | true => exact iff_of_true rfl rfl
  | false => exact iff_of_false Nat.one_ne_zero Bool.false_ne_true

/-- Whatever keeps `generate` from writing leaves the tree as it was.  Otherwise the files of
    all rounds lie over it, and the status is zero exactly when no error was heard; with the
    status zero all files have been written. -/
theorem generate_writes_all_or_nothing (t : Terminal) (a : GenerateArguments) :
    let after := ((Invocation.generate a).run Terminal.world).run t
    (Withheld t.files a → after.2.files = t.files ∧ (a.compare = false → after.1 = 1))
      ∧ (¬ Withheld t.files a → ∃ options outputs b,
          Options.ofPairs a.options = .ok options
            ∧ Build.Runs t.files (.start options) a.inputs outputs b
            ∧ b.processor.pendingNames = []
            ∧ (∀ tree,
              t.files.PlacedAll (destinations a.out (outputs.flatMap RoundOutput.files)) tree →
              after.2.files = tree
                ∧ t.files.LaidOver (destinations a.out (outputs.flatMap RoundOutput.files)) tree
                ∧ (after.1 = 0
                    ↔ ∀ d ∈ (b.after b.processor.finish).heard.records, d.severity ≠ .error))
            ∧ (after.1 = 0 → ∃ tree,
              t.files.PlacedAll (destinations a.out (outputs.flatMap RoundOutput.files)) tree)) := by
  intro after
  constructor
  · intro hwithheld
    cases hwrites : a.compare with
    | true => exact ⟨statusOf_files (generateCommand_keepsFiles hwrites), by simp⟩
    | false =>
      obtain ⟨message, t', hrun, hfiles⟩ := hwithheld.generateCommand hwrites
      have hafter : after = _ := statusOf_error hrun
      rw [hafter]
      exact ⟨hfiles, fun _ => rfl⟩
  · intro hfree
    obtain ⟨hwrites, options, outputs, b, hread, hruns, hpending⟩ := build_of_not_withheld hfree
    obtain ⟨ended, hsame, hcommand⟩ := runIn_generateCommand hwrites hread hruns hpending
    have hafter : after = _ := statusOf_congr hcommand
    rw [← hsame]
    refine ⟨options, outputs, b, hread, hsame ▸ hruns, hpending, ?_, ?_⟩
    · intro tree hplaced
      obtain ⟨t', hwritten, hfiles⟩ := runIn_writeSources hplaced
      rw [hafter, statusOf_congr (runIn_bind_ok hwritten), statusOf_files (lastWord_keepsFiles _)]
      exact ⟨hfiles, hplaced.laidOver, status_lastWord _ _⟩
    · intro hzero
      rw [hafter] at hzero
      cases hwrite : runIn (writeSources Terminal.world a.out
          (outputs.flatMap RoundOutput.files)) ended with
      | mk result t' =>
        cases result with
        | ok _ => exact ⟨t'.files, placedAll_of_writeSources hwrite⟩
        | error message =>
          rw [statusOf_error (runIn_bind_error hwrite)] at hzero
          cases hzero

end Command

/-- A table with one interface, and one that is empty. -/
def twoTables : FileTree :=
  ⟨[(["users.json"], some ("\x7b\"classes\":[\x7b\"qualifiedName\":\"Users\","
      ++ "\"annotations\":[\x7b\"qualifiedName\":\"KtorGen\"\x7d],"
      ++ "\"file\":\x7b\"path\":\"U\"\x7d\x7d]\x7d")),
    (["more.json"], some "\x7b\x7d")]⟩

def twoRounds : GenerateArguments := ⟨["users.json", "more.json"], "out", [], false⟩

theorem twoRounds_succeed :
    let after := ((Invocation.generate twoRounds).run Terminal.world).run (.start twoTables)
    after.1 = 0 ∧ (after.2.files.file? "out/_UsersImpl.kt").isSome := by
  decide +kernel

def twoRoundsCompared : GenerateArguments := ⟨["users.json", "more.json"], "out", [], true⟩

/-- Two rounds write the file of the interface; a comparison writes nothing. -/
theorem generate_writes_all_of_two_rounds :
    let after := ((Invocation.generate twoRounds).run Terminal.world).run (.start twoTables)
    ¬ Withheld twoTables twoRounds
      ∧ (∃ files, twoTables.PlacedAll (destinations "out" files) after.2.files
        ∧ twoTables.LaidOver (destinations "out" files) after.2.files)
      ∧ (after.2.files.file? "out/_UsersImpl.kt").isSome ∧ after.1 = 0
      ∧ (((Invocation.generate twoRoundsCompared).run Terminal.world).run
          (.start twoTables)).2.files = twoTables := by
  obtain ⟨hzero, hfile⟩ := twoRounds_succeed
  have hall := generate_writes_all_or_nothing (.start twoTables) twoRounds
  have hcompared := (generate_writes_all_or_nothing (.start twoTables) twoRoundsCompared).1
    (.compared rfl)
  -- From here on the run is any pair that ends with status zero.
  generalize ((Invocation.generate twoRounds).run Terminal.world).run (.start twoTables) = after
    at hzero hfile hall ⊢
  have hfree : ¬ Withheld twoTables twoRounds := by
    intro hwithheld
    rw [(hall.1 hwithheld).2 rfl] at hzero
    cases hzero
  obtain ⟨options, outputs, b, -, -, -, hwritten, hplaced⟩ := hall.2 hfree
  obtain ⟨tree, hplaced⟩ := hplaced hzero
  obtain ⟨rfl, hlaid, -⟩ := hwritten tree hplaced
  exact ⟨hfree, ⟨_, hplaced, hlaid⟩, hfile, hzero, hcompared.1⟩

end ClientGen.CommandLine
