/-
  ClientGen/Proofs/Request/PathWriting.lean
  =========================================
  **A path that passes its check is written.**

  Binding takes the first parameter that carries the name of a placeholder.  When the
  path is bound there is no other one, so binding succeeds and picks the parameter that
  the check counted (`bindPath_eq_ok`).
-/
import ClientGen.Proofs.Imports
import ClientGen.Proofs.Model.Extraction
import ClientGen.Proofs.Path.Tokens
import ClientGen.Proofs.Validation.PathBinding
import ClientGen.Request.Url

namespace ClientGen.Request

open ClientGen.Code ClientGen.Path ClientGen.Text ClientGen.Validation

/-! ### Binding -/

/-- A placeholder stands for the only parameter that binds its name. -/
inductive BoundPart (f : FunctionModel) : Part → PathPiece → Prop
  | literal (text : String) : BoundPart f (.literal text) (.text text)
  | placeholder (name : String) (p : ParameterModel) (encoded : Bool)
      (only : f.parameters.filter (fun q => boundName? q == some name) = [p])
      (role : p.role? .path = some (.path name encoded)) :
      BoundPart f (.placeholder name) (.parameter p.name encoded)

theorem bindingOf?_eq_none {p : ParameterModel} {name : String} (h : boundName? p ≠ some name) :
    bindingOf? name p = none := by
  unfold bindingOf?
  rcases role?_path p with hrole | ⟨n, encoded, hrole⟩
  · rw [hrole]
  · have hne : n ≠ name := by
      rintro rfl
      exact h (boundName?_eq_some.mpr ⟨encoded, hrole⟩)
    rw [hrole]
    exact if_neg hne

theorem bindingOf?_eq_some {p : ParameterModel} {name : String} {encoded : Bool}
    (h : p.role? .path = some (.path name encoded)) :
    bindingOf? name p = some (p.name, encoded) := by
  unfold bindingOf?
  rw [h]
  exact if_pos rfl

/-- The first parameter that binds a name is the only one. -/
theorem binding?_eq_some {f : FunctionModel} {p : ParameterModel} {name : String}
    {encoded : Bool} (honly : f.parameters.filter (fun q => boundName? q == some name) = [p])
    (hrole : p.role? .path = some (.path name encoded)) :
    binding? f name = some (p.name, encoded) := by
  obtain ⟨front, back, hsplit, hfront, -, -⟩ := List.filter_eq_cons_iff.mp honly
  have hnone : front.findSome? (bindingOf? name) = none := by
    rw [List.findSome?_eq_none_iff]
    intro q hq
    apply bindingOf?_eq_none
    intro hname
    exact hfront q hq (by rw [hname]; exact beq_self_eq_true _)
  unfold binding?
  rw [hsplit, List.findSome?_append, hnone, Option.none_or, List.findSome?_cons,
    bindingOf?_eq_some hrole]

theorem bindPart_eq_ok {f : FunctionModel} {part : Part}
    (h : ∀ name, part = .placeholder name → (boundNames f).count name = 1) :
    ∃ piece, bindPart f part = .ok piece ∧ BoundPart f part piece := by
  cases part with
  | literal text => exact ⟨.text text, rfl, .literal text⟩
  | placeholder name =>
    have hcount : bindingCount f name = 1 := (bindingCount_eq_count f name).trans (h name rfl)
    obtain ⟨p, honly⟩ := List.length_eq_one_iff.mp hcount
    have hmem : p ∈ f.parameters.filter fun q => boundName? q == some name := by
      rw [honly]
      exact List.mem_singleton_self p
    obtain ⟨encoded, hrole⟩ :=
      boundName?_eq_some.mp (eq_of_beq (List.mem_filter.mp hmem).2)
    refine ⟨.parameter p.name encoded, ?_, .placeholder name p encoded honly hrole⟩
    simp only [bindPart, binding?_eq_some honly hrole]

theorem bindParts_eq_ok {f : FunctionModel} {parts : List Part}
    (h : ∀ name ∈ parts.filterMap Part.placeholder?, (boundNames f).count name = 1) :
    ∃ pieces, bindParts f parts = .ok pieces ∧ List.Forall₂ (BoundPart f) parts pieces := by
  induction parts with
  | nil => exact ⟨[], rfl, .nil⟩
  | cons part parts ih =>
    have hpart : ∀ name, part = .placeholder name → (boundNames f).count name = 1 := by
      rintro name rfl
      exact h name (List.mem_filterMap.mpr ⟨_, List.mem_cons_self, rfl⟩)
    have hparts : ∀ name ∈ parts.filterMap Part.placeholder?, (boundNames f).count name = 1 := by
      intro name hname
      obtain ⟨q, hq, hplaceholder⟩ := List.mem_filterMap.mp hname
      exact h name (List.mem_filterMap.mpr ⟨q, List.mem_cons_of_mem _ hq, hplaceholder⟩)
    obtain ⟨piece, hbind, hbound⟩ := bindPart_eq_ok hpart
    obtain ⟨pieces, hbinds, hbounds⟩ := ih hparts
    refine ⟨piece :: pieces, ?_, .cons hbound hbounds⟩
    simp only [bindParts, hbind, hbinds]
    rfl

/-- A bound path is bound part by part. -/
theorem bindPath_eq_ok {f : FunctionModel} (h : PathBound f) :
    ∃ pieces, bindPath f = .ok pieces ∧ List.Forall₂ (BoundPart f) f.path.parts pieces := by
  apply bindParts_eq_ok
  intro name hname
  have hperm := (bijection_iff f).mp h.bijection
  exact ((perm_iff_count h.distinct).mp hperm).1 name hname

theorem bindPath_congr {f f' : FunctionModel} (hpath : f'.path = f.path)
    (hpart : ∀ part, bindPart f' part = bindPart f part) : bindPath f' = bindPath f := by
  unfold bindPath
  rw [hpath]
  induction f.path.parts with
  | nil => rfl
  | cons part parts ih =>
    unfold bindParts
    rw [hpart, ih]

/-! ### Writing -/

/-- A piece of a path between the quotes of a literal. -/
def pieceText : PathPiece → String
  | .text content => escape content
  | .parameter name true => "$\x7b" ++ name ++ "\x7d"
  | .parameter name false => "$\x7b\"$" ++ name ++ "\".encodeURLPath()\x7d"

theorem writePathPiece_writes (piece : PathPiece) :
    Writes (writePathPiece piece) (· = pieceText piece) := by
  match piece with
  | .text content => exact Writes.pure rfl
  | .parameter name true => exact Writes.pure rfl
  | .parameter name false =>
    have hname : (splitLast Library.encodePath).map Prod.snd = some "encodeURLPath" := by
      decide
    refine (Writes.member hname).bind ?_
    rintro _ rfl
    apply Writes.pure
    simp only [pieceText, String.append_assoc]
    rfl

/-- The literal of a path. -/
def pathLiteral (pieces : List PathPiece) : String :=
  "\"" ++ String.join (pieces.map pieceText) ++ "\""

theorem writePath_writes (pieces : List PathPiece) :
    Writes (writePath pieces) (· = pathLiteral pieces) := by
  refine (Writes.mapM fun piece _ => writePathPiece_writes piece).bind ?_
  intro texts htexts
  have htexts : texts = pieces.map pieceText := by
    induction htexts with
    | nil => rfl
    | cons h _ ih => rw [List.map_cons, h, ih]
  exact Writes.pure (by rw [htexts, pathLiteral])

theorem writeTakeFrom_writes (url : String) :
    Writes (writeTakeFrom url) (· = .expression ("this.takeFrom(" ++ url ++ ")")) := by
  have hname : (splitLast Library.urlTakeFrom).map Prod.snd = some "takeFrom" := by
    decide
  refine (Writes.member hname).bind ?_
  rintro _ rfl
  exact Writes.pure rfl

/-- The path of a function is taken over unless it is empty. -/
def pathStatements (f : FunctionModel) (pieces : List PathPiece) : List Statement :=
  if f.path.isEmpty then [] else [.expression ("this.takeFrom(" ++ pathLiteral pieces ++ ")")]

theorem writeOwnPath_writes (f : FunctionModel) (pieces : List PathPiece) :
    Writes (writeOwnPath f pieces) (· = pathStatements f pieces) := by
  unfold writeOwnPath pathStatements
  by_cases hempty : f.path.isEmpty = true
  · simp only [if_pos hempty]
    exact Writes.pure rfl
  · simp only [if_neg hempty]
    refine (writePath_writes pieces).bind ?_
    rintro _ rfl
    refine (writeTakeFrom_writes _).bind ?_
    rintro _ rfl
    exact Writes.pure rfl

/-! ### Checked paths -/

/-- The check of a path reports nothing about a function exactly when its path is bound.
    A bound path is written with the only parameter of its name for every placeholder. -/
theorem path_binding {m : InterfaceModel} (hm : m.IsExtracted) (o : Options)
    {f : FunctionModel} (hf : f ∈ m.generatedFunctions) :
    f.path = Template.parse
        (effectivePath m.options.basePath f.httpMethod.path (f.hasRole .url))
      ∧ (errorsIn (pathFindings ⟨m, o⟩ f) = 0 ↔ PathBound f)
      ∧ (PathBound f → ∃ pieces, bindPath f = .ok pieces
          ∧ List.Forall₂ (BoundPart f) f.path.parts pieces
          ∧ ∀ names, ((writeOwnPath f pieces).run names).1 = pathStatements f pieces) := by
  refine ⟨(hm.isRead (List.mem_filter.mp hf).1).path, errorsIn_pathFindings _ f, ?_⟩
  intro hbound
  obtain ⟨pieces, hbind, hparts⟩ := bindPath_eq_ok hbound
  exact ⟨pieces, hbind, hparts, writeOwnPath_writes f pieces⟩

def InterfaceModel.ofPosts : InterfaceModel :=
  .holding "Posts" [.getting "users/\x7buser\x7d/posts/\x7bpost\x7d"
    [⟨"id", .named "kotlin.Int", false, [⟨"Path", [("value", .string "post")]⟩]⟩,
      ⟨"user", .named "kotlin.String", false, [⟨"Path", [("encoded", .bool true)]⟩]⟩]
    (.named "kotlin.String")]

theorem path_binding_of_posts : ∃ f ∈ InterfaceModel.ofPosts.generatedFunctions,
    PathBound f ∧ ∃ pieces, bindPath f = .ok pieces
      ∧ List.Forall₂ (BoundPart f) f.path.parts pieces := by
  have hm : InterfaceModel.ofPosts.IsExtracted :=
    InterfaceModel.holding_isExtracted (by decide +kernel)
  obtain ⟨f, hf⟩ := List.exists_mem_of_ne_nil InterfaceModel.ofPosts.generatedFunctions
    (List.isEmpty_eq_false_iff.mp (by decide +kernel))
  have hclean : (InterfaceModel.ofPosts.generatedFunctions.all fun f =>
      errorsIn (pathFindings ⟨InterfaceModel.ofPosts, .default⟩ f) == 0) = true := by
    decide +kernel
  obtain ⟨-, hchecked, hwritten⟩ := path_binding hm .default hf
  have hbound : PathBound f := hchecked.mp (eq_of_beq (List.all_eq_true.mp hclean f hf))
  obtain ⟨pieces, hbind, hparts, -⟩ := hwritten hbound
  exact ⟨f, hf, hbound, pieces, hbind, hparts⟩

end ClientGen.Request
