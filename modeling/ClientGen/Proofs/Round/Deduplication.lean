/-
  ClientGen/Proofs/Round/Deduplication.lean
  =========================================
  **No factory of a round is written twice.**

  The registry of a round holds the keys of the factories that stand in its files, no more
  and no less: it starts empty, and what an interface adds to it is what its main file
  holds.  So the signatures of all written factories differ, and a request that is refused
  asks for the key of a factory that was written before it.
-/
import ClientGen.Proofs.Client.Signatures
import ClientGen.Proofs.Round.Files

namespace ClientGen

open ClientGen.Client ClientGen.Client.FactoryRegistry ClientGen.Code

/-! ### Written factories -/

/-- A function of a file with what was asked for. -/
structure WrittenFactory where
  request : FactoryRequest
  function : Code.Function
deriving Repr, Inhabited

def WrittenFactory.signature (w : WrittenFactory) : Signature :=
  w.request.signature

/-- The functions of the files are these factories of an interface, in order, and otherwise
    what stands behind declared functions. -/
inductive InterfaceModel.HoldsFactories (m : InterfaceModel) (ws : List WrittenFactory) :
    List SourceFile → Prop
  | files {main : SourceFile} {others : List SourceFile} {final : ImportTable}
      {actuals : List Code.Function} (package : main.package = m.packageName)
      (names : final.package = main.file.package) (lines : final.lines = main.file.imports)
      (functions : main.file.functions = ws.map WrittenFactory.function ++ actuals)
      (requested : (ws.map WrittenFactory.request).Sublist m.requests)
      (signed : ∀ w ∈ ws, w.signature.package = main.package
        ∧ HasSignature final w.function w.signature ∧ Constructs m w.function)
      (declared : ∀ g ∈ actuals, ∃ e ∈ m.expectFunctions, IsActualOf m final e g)
      (foreign : ∀ file ∈ others, ∃ e ∈ m.expectFunctions, file = actualFile m e) :
      m.HoldsFactories ws (main :: others)

def WrittenFactory.key (w : WrittenFactory) : FactoryKey :=
  w.signature.key

/-- The request was left out: a factory with its key was written before, among the earlier
    ones or for an earlier request of the same interface, and a warning says so. -/
structure LeftOut (m : InterfaceModel) (earlier : List FactoryKey) (ws : List WrittenFactory)
    (log : Log) (r : FactoryRequest) : Prop where
  written : r.signature.key ∈ earlier
    ∨ ∃ w ∈ ws, w.key = r.signature.key ∧ [w.request, r].Sublist m.requests
  reported : ∃ d ∈ log.records, d.ReportsRefusal m.qualifiedName r.kind r.signature.key

theorem LeftOut.mono {m : InterfaceModel} {earlier earlier' : List FactoryKey}
    {ws : List WrittenFactory} {log log' : Log} {r : FactoryRequest}
    (h : LeftOut m earlier ws log r) (hkeys : earlier ⊆ earlier')
    (hrecords : log.records ⊆ log'.records) : LeftOut m earlier' ws log' r where
  written := h.written.imp_left fun hkey => hkeys hkey
  reported := by
    obtain ⟨d, hd, hreports⟩ := h.reported
    exact ⟨d, hrecords hd, hreports⟩

/-! ### Factories of an interface -/

section Generation

variable {m : InterfaceModel} {o : Options} {registry registry' : FactoryRegistry}
  {final : ImportTable} {log log' : Log}

/-- The factories of requests, as they stand in the main file. -/
def writtenFor (rs : List FactoryRequest) (fs : List Factory) : List WrittenFactory :=
  (rs.zip fs).map fun p => ⟨p.1, p.2.function⟩

theorem writtenFor_spec {rs : List FactoryRequest} {fs : List Factory}
    (h : List.Forall₂ (IsWrittenFor m final) rs fs) :
    (writtenFor rs fs).map WrittenFactory.request = rs
      ∧ (writtenFor rs fs).map WrittenFactory.function = fs.map Factory.function
      ∧ (writtenFor rs fs).map WrittenFactory.key = fs.map Factory.key
      ∧ ∀ w ∈ writtenFor rs fs, HasSignature final w.function w.signature
          ∧ Constructs m w.function := by
  induction h with
  | nil => exact ⟨rfl, rfl, rfl, nofun⟩
  | @cons r f rs fs hrf _ ih =>
    obtain ⟨hrequests, hfunctions, hkeys, hall⟩ := ih
    have hcons : writtenFor (r :: rs) (f :: fs) = ⟨r, f.function⟩ :: writtenFor rs fs := rfl
    rw [hcons]
    refine ⟨by rw [List.map_cons, hrequests], by rw [List.map_cons, hfunctions]; rfl, ?_, ?_⟩
    · rw [List.map_cons, List.map_cons, hkeys, hrf.key]
      rfl
    · exact List.forall_mem_cons.mpr ⟨⟨hrf.signature, hrf.constructs⟩, hall⟩

/-- Whatever an interface asks for and does not get has a key that is taken, and a warning
    says so. -/
theorem Generated.leftOut {files : List SourceFile} {wanted : List Factory} {actuals : Actuals}
    (h : Generated m o registry registry' files log wanted final actuals)
    {rs : List FactoryRequest} (hrs : rs.Sublist m.requests)
    (henrolled : List.Forall₂ (IsWrittenFor m final) rs (registry.enroll wanted).enrolled)
    {r : FactoryRequest} (hr : r ∈ m.requests) (hleft : r ∉ rs) :
    (r.signature.key ∈ registry.keys ∨ ∃ r' ∈ rs, r'.signature.key = r.signature.key
        ∧ [r', r].Sublist m.requests)
      ∧ ∃ d ∈ log.records, d.ReportsRefusal m.qualifiedName r.kind r.signature.key := by
  obtain ⟨f, hf, hrf⟩ := exists_mem_of_forall₂ h.requested hr
  have hwritten : ∀ g ∈ (registry.enroll wanted).enrolled, ∃ r' ∈ rs, IsWrittenFor m final r' g := by
    intro g hg
    exact exists_mem_of_forall₂ henrolled.flip hg
  have hrefused : f ∈ (registry.enroll wanted).refused := by
    rcases List.mem_append.mp ((enroll_perm wanted).mem_iff.mpr hf) with henroll | hrefused
    · obtain ⟨r', hr', hrf'⟩ := hwritten f henroll
      rw [eq_of_isWrittenFor hr (hrs.subset hr') hrf hrf'] at hleft
      exact (hleft hr').elim
    · exact hrefused
  refine ⟨?_, ?_⟩
  · rw [← hrf.key]
    refine (key_of_refused hrefused).imp_right ?_
    rintro ⟨g, hg, hkey, hbefore⟩
    obtain ⟨r', hr', hrg⟩ := hwritten g hg
    refine ⟨r', hr', hrg.key.symm.trans hkey, ?_⟩
    obtain ⟨pair, hpair, hrel⟩ := exists_sublist_of_forall₂ h.requested hbefore
    cases hrel with
    | @cons a _ _ _ ha hrest =>
      cases hrest with
      | @cons b _ _ _ hb hnil =>
        cases hnil
        have hmem := hpair.subset
        rw [eq_of_isWrittenFor (hrs.subset hr') (hmem List.mem_cons_self) hrg ha,
          eq_of_isWrittenFor hr (hmem (List.mem_cons_of_mem _ List.mem_cons_self)) hrf hb]
        exact hpair
  · rw [← hrf.key, ← hrf.kind]
    exact h.refused f hrefused

/-- What an interface adds to the registry stands in its main file, and whatever it asks for
    besides was left out. -/
theorem generate_factories {files : List SourceFile}
    (hrun : (generate m o registry).run.run log = (.ok (files, registry'), log')) :
    ∃ ws : List WrittenFactory, m.HoldsFactories ws files
      ∧ registry.Admits (ws.map WrittenFactory.key)
      ∧ registry' = registry.adding (ws.map WrittenFactory.key)
      ∧ ∀ r ∈ m.requests, r ∉ ws.map WrittenFactory.request →
          LeftOut m registry.keys ws log' r := by
  obtain ⟨wanted, final, actuals, hgenerated⟩ := generate_generated hrun
  obtain ⟨rs, hrs, henrolled, hmarked⟩ := hgenerated.exists_granted
  obtain ⟨hadmits, hadded⟩ := enroll_adds (r := registry) wanted
  obtain ⟨hrequests, hfunctions, hkeys, hall⟩ :=
    writtenFor_spec (hmarked.imp fun _ _ h => h.toIsWrittenFor)
  have hsame : actuals.factories.map Factory.key
      = (registry.enroll wanted).enrolled.map Factory.key :=
    map_key_of_marks hgenerated.added.factories
  rw [hsame] at hkeys
  obtain ⟨gs, hgs, hown⟩ := hgenerated.added.functions
  obtain ⟨cls, hfiles⟩ := hgenerated.files
  refine ⟨writtenFor rs actuals.factories, ?_, ?_, ?_, ?_⟩
  · have hmain : (mainFile m final cls (actuals.factories.map Factory.function
          ++ actuals.functions)).file.functions
        = (writtenFor rs actuals.factories).map WrittenFactory.function ++ gs := by
      rw [hfunctions, hgs]
      rfl
    rw [hfiles]
    refine .files rfl hgenerated.package rfl hmain ?_ ?_ ?_ ?_
    · rw [hrequests]
      exact hrs
    · intro w hw
      have hrequested : w.request ∈ rs := by
        rw [← hrequests]
        exact List.mem_map_of_mem hw
      exact ⟨(kind_of_request? (request?_of_mem (hrs.subset hrequested))).2, hall w hw⟩
    · intro g hg
      obtain ⟨e, he, hbridges⟩ := exists_mem_of_forall₂ hown.flip hg
      exact ⟨e, (mem_expected.mp (List.mem_filter.mp he).1).2.1, hbridges⟩
    · intro file hfile
      obtain ⟨e, he, rfl⟩ := List.mem_map.mp hfile
      rw [foreignActuals_eq] at he
      exact ⟨e, (mem_expected.mp (List.mem_filter.mp he).1).2.1, rfl⟩
  · rw [hkeys]
    exact hadmits
  · rw [hkeys, hgenerated.registered]
    exact hadded
  · intro r hr hleft
    rw [hrequests] at hleft
    obtain ⟨hkey, hreported⟩ := hgenerated.leftOut hrs henrolled hr hleft
    refine ⟨hkey.imp_right ?_, hreported⟩
    rintro ⟨r', hr', hsame, hbefore⟩
    rw [← hrequests] at hr'
    obtain ⟨w, hw, rfl⟩ := List.mem_map.mp hr'
    exact ⟨w, hw, hsame, hbefore⟩

end Generation

/-! ### Factories of a round -/

/-- The files of the verdict hold these factories, and none unless it accepts. -/
def Judgement.HoldsFactories (t : SymbolTable) (j : Judgement) (ws : List WrittenFactory) : Prop :=
  match j.model? t with
  | some m => m.HoldsFactories ws (RoundOutput.filesOf j.verdict)
  | none => RoundOutput.filesOf j.verdict = [] ∧ ws = []

/-- Whatever the accepted interface asks for and does not get was left out. -/
def Judgement.LeavesOut (t : SymbolTable) (earlier : List FactoryKey) (log : Log) (j : Judgement)
    (ws : List WrittenFactory) : Prop :=
  ∀ m, j.model? t = some m → ∀ r ∈ m.requests, r ∉ ws.map WrittenFactory.request →
    LeftOut m earlier ws log r

/-- The keys of the factories that were written for judgements. -/
def keysOf (rows : List (Judgement × List WrittenFactory)) : List FactoryKey :=
  rows.flatMap fun row => row.2.map WrittenFactory.key

namespace RoundRules

variable {r : RoundRules} {t : SymbolTable} {registry registry' : FactoryRegistry}
  {c : Candidate} {v : Verdict} {log log' : Log}

theorem judge_factories (hmode : r.mode = .generate)
    (h : (r.judge t registry c).run.run log = (.ok (v, registry'), log')) :
    ∃ ws : List WrittenFactory, Judgement.HoldsFactories t ⟨c, v⟩ ws
      ∧ registry.Admits (ws.map WrittenFactory.key)
      ∧ registry' = registry.adding (ws.map WrittenFactory.key)
      ∧ Judgement.LeavesOut t registry.keys log' ⟨c, v⟩ ws := by
  cases v with
  | valid files =>
    obtain ⟨m, before, after, haccepts, hgenerate, hrecords⟩ := judge_valid hmode h
    have hmodel : Judgement.model? t ⟨c, .valid files⟩ = some m := haccepts.modelIn
    obtain ⟨ws, hholds, hadmits, hadding, hleft⟩ := generate_factories hgenerate
    refine ⟨ws, ?_, hadmits, hadding, ?_⟩
    · rw [Judgement.HoldsFactories, hmodel]
      exact hholds
    · intro m' hm' q hq hmissing
      rw [hmodel] at hm'
      cases hm'
      exact (hleft q hq hmissing).mono (List.Subset.refl _) (by rw [hrecords]; exact fun _ h => h)
  | _ =>
    rcases judge_cases h with ⟨m, before, after, -, hfiles, -⟩ | ⟨hsame, -, -, -⟩
    · obtain ⟨files, hvalid⟩ := generateFiles_valid hfiles
      cases hvalid
    · refine ⟨[], ⟨rfl, rfl⟩, admits_nil, hsame, ?_⟩
      intro m hm
      cases hm

/-- The keys that candidates add are admitted together, and whatever is left out has a key
    that was there or was added in front of it. -/
theorem judgeAll_factories (hmode : r.mode = .generate) (t : SymbolTable)
    (registry : FactoryRegistry) (cs : List Candidate) (log : Log) :
    ∃ rows : List (Judgement × List WrittenFactory),
      rows.map Prod.fst = (r.judgeAll t registry cs log).judged
        ∧ (∀ row ∈ rows, row.1.HoldsFactories t row.2)
        ∧ registry.Admits (keysOf rows)
        ∧ ∀ front row back, rows = front ++ row :: back →
            row.1.LeavesOut t (keysOf front ++ registry.keys) (r.judgeAll t registry cs log).log
              row.2 := by
  induction cs generalizing registry log with
  | nil =>
    refine ⟨[], rfl, fun row hrow => (nomatch hrow), admits_nil, ?_⟩
    intro front row back h
    simp at h
  | cons c cs ih =>
    cases hrun : (r.judge t registry c).run.run log with
    | mk result after =>
      cases result with
      | error f =>
        rw [judgeAll_error hrun]
        refine ⟨[], rfl, fun row hrow => (nomatch hrow), admits_nil, ?_⟩
        intro front row back h
        simp at h
      | ok judged =>
        obtain ⟨v, next⟩ := judged
        rw [judgeAll_ok hrun]
        have hlater := records_judgeAll r t next cs after
        obtain ⟨ws, hholds, hadmits, rfl, hleft⟩ := judge_factories hmode hrun
        obtain ⟨rows, hrows, hholdsRest, hadmitsRest, hleftRest⟩ :=
          ih (registry.adding (ws.map WrittenFactory.key)) after
        refine ⟨(⟨c, v⟩, ws) :: rows, congrArg (List.cons _) hrows, ?_, ?_, ?_⟩
        · exact List.forall_mem_cons.mpr ⟨hholds, hholdsRest⟩
        · exact admits_append.mpr ⟨hadmits, hadmitsRest⟩
        · intro front row back hsplit
          cases front with
          | nil =>
            obtain ⟨rfl, -⟩ := List.cons.inj hsplit
            intro m hm q hq hmissing
            exact (hleft m hm q hq hmissing).mono (List.Subset.refl _) hlater
          | cons first front =>
            obtain ⟨rfl, hrest⟩ := List.cons.inj hsplit
            intro m hm q hq hmissing
            refine (hleftRest front row back hrest m hm q hq hmissing).mono ?_
              (List.Subset.refl _)
            intro k hk
            rcases List.mem_append.mp hk with hk | hk
            · exact List.mem_append_left _ (List.mem_append_right _ hk)
            · rcases mem_adding.mp hk with hk | hk
              · exact List.mem_append_left _ (List.mem_append_left _ hk)
              · exact List.mem_append_right _ hk

end RoundRules

namespace Processor

variable {p : Processor} {t : SymbolTable} {o : RoundOutput}

/-- The factories in the files of a round have different signatures.  Whatever an accepted
    interface asks for and does not get has the key of a factory that was written before it,
    and a warning names that key for the interface. -/
theorem factories_distinct (hrun : (p.process t).1.result = .ok o) :
    ∃ rows : List (Judgement × List WrittenFactory),
      rows.map Prod.fst = o.judged
        ∧ (∀ row ∈ rows, row.1.HoldsFactories t row.2)
        ∧ (rows.flatMap fun row => row.2.map WrittenFactory.signature).Nodup
        ∧ ∀ front row back, rows = front ++ row :: back →
            row.1.LeavesOut t (keysOf front) (p.process t).1.log row.2 := by
  obtain ⟨-, rfl⟩ := run_eq_ok.mp hrun
  have hrecords : (p.judgements .generate t).log.records ⊆ (p.process t).1.log.records := by
    rw [show (p.process t).1.log = (p.judgements .generate t).log.finish from rfl,
      Log.records_finish]
    exact List.Subset.refl _
  have hmode : (p.rules .generate).mode = .generate := rfl
  obtain ⟨rows, hrows, hholds, hadmits, hleft⟩ := RoundRules.judgeAll_factories hmode t .empty
    (roundCandidates t p.pending) (.opened (roundName (p.rounds + 1)))
  refine ⟨rows, hrows, hholds, ?_, ?_⟩
  · have hkeys : keysOf rows
        = (rows.flatMap fun row => row.2.map WrittenFactory.signature).map Signature.key := by
      rw [List.map_flatMap, keysOf]
      simp only [List.map_map]
      rfl
    have hnodup := hadmits.nodup
    rw [hkeys] at hnodup
    exact hnodup.of_map
  · intro front row back hsplit m hm q hq hmissing
    refine (hleft front row back hsplit m hm q hq hmissing).mono ?_ hrecords
    rw [show FactoryRegistry.empty.keys = [] from rfl, List.append_nil]
    exact List.Subset.refl _

def creating (name : String) : ClassDeclaration :=
  { acceptedInterface with
    qualifiedName := name
    annotations := [⟨"KtorGenTopLevelFactory", [("name", .string "create")]⟩] }

/-- Of two interfaces that ask for the same factory, only one gets it. -/
theorem factories_distinct_of_creating :
    ∃ (o : RoundOutput) (rows : List (Judgement × List WrittenFactory)),
      ((start .default Check.all).process ⟨[creating "First", creating "Second"], []⟩).1.result
          = .ok o
        ∧ o.files.map (fun file => file.file.functions.length) = [1, 0]
        ∧ rows.map Prod.fst = o.judged
        ∧ (rows.flatMap fun row => row.2.map WrittenFactory.signature).Nodup := by
  have hround : (((start .default Check.all).process
      ⟨[creating "First", creating "Second"], []⟩).1.result.toOption.any fun o =>
        o.files.map (fun file => file.file.functions.length) = [1, 0]) = true := by
    decide +kernel
  obtain ⟨o, hrun, hfunctions⟩ := ok_of_any hround
  obtain ⟨rows, hrows, -, hnodup, -⟩ := factories_distinct hrun
  exact ⟨o, rows, hrun, hfunctions, hrows, hnodup⟩

end Processor

end ClientGen
