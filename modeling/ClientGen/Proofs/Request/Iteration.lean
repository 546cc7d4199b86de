/-
  ClientGen/Proofs/Request/Iteration.lean
  =======================================
  **A vararg is used as a collection of its elements.**

  How a request uses a parameter shows when the parameter gets another name: what changes
  are its uses.  Two populations that differ in the sources of iterations alone are related
  by `IteratesAll`.  Section by section, a vararg under another name gives such a pair, as
  long as no section takes the parameter as a whole.
-/
import ClientGen.Proofs.Request.Completeness

namespace ClientGen.Request

open ClientGen.Code ClientGen.Text

/-! ### Iterations -/

/-- What runs a block on the elements of an array that are not null. -/
def iterations : List String :=
  [".forEach", ".filterNotNull().forEach"]

mutual
/-- The statements are the same up to the sources of iterations: `old` here, `new` there. -/
inductive Iterates (old new : String) : Statement → Statement → Prop
  | same (s : Statement) : Iterates old new s s
  | source {iteration : String} (known : iteration ∈ iterations) (parameters : Option String)
      (body : List Statement) :
      Iterates old new (.block ⟨old ++ iteration, parameters, body, [], ""⟩)
        (.block ⟨new ++ iteration, parameters, body, [], ""⟩)
  | inside (opening : String) (parameters : Option String) {body body' : List Statement}
      (branches : List Branch) (closing : String) (inner : IteratesAll old new body body') :
      Iterates old new (.block ⟨opening, parameters, body, branches, closing⟩)
        (.block ⟨opening, parameters, body', branches, closing⟩)

/-- Statement by statement. -/
inductive IteratesAll (old new : String) : List Statement → List Statement → Prop
  | nil : IteratesAll old new [] []
  | cons {s s' : Statement} {ss ss' : List Statement} (first : Iterates old new s s')
      (rest : IteratesAll old new ss ss') : IteratesAll old new (s :: ss) (s' :: ss')
end

namespace IteratesAll

variable {old new : String} {ss ss' ts ts' : List Statement}

theorem refl (old new : String) (ss : List Statement) : IteratesAll old new ss ss := by
  induction ss with
  | nil => exact .nil
  | cons s ss ih => exact .cons (.same s) ih

theorem append (h : IteratesAll old new ss ss') (ht : IteratesAll old new ts ts') :
    IteratesAll old new (ss ++ ts) (ss' ++ ts') := by
  induction ss generalizing ss' with
  | nil =>
    cases h
    exact ht
  | cons s ss ih =>
    cases h with
    | cons first rest => exact .cons first (ih rest)

theorem isEmpty_eq (h : IteratesAll old new ss ss') : ss'.isEmpty = ss.isEmpty := by
  cases h <;> rfl

theorem ofForall₂ (h : List.Forall₂ (Iterates old new) ss ss') : IteratesAll old new ss ss' := by
  induction h with
  | nil => exact .nil
  | cons first _ ih => exact .cons first ih

end IteratesAll

theorem iterates_plain {old new : String} {body body' : List Statement} (opening : String)
    (h : IteratesAll old new body body') :
    Iterates old new (.block (.plain opening body)) (.block (.plain opening body')) :=
  .inside opening none [] "" h

/-! ### Another name -/

/-- The parameter under another name. -/
def withName (p : ParameterModel) (name : String) : ParameterModel :=
  { p with name := name }

/-- One function has a parameter under another name, and is the same otherwise. -/
def Renames (p : ParameterModel) (name : String) (f f' : FunctionModel) : Prop :=
  ∃ front back, f.parameters = front ++ p :: back
    ∧ f' = { f with parameters := front ++ withName p name :: back }

theorem role?_withName (p : ParameterModel) (name : String) (k : RoleKind) :
    (withName p name).role? k = p.role? k := rfl

section Values

variable {p : ParameterModel}

/-- A vararg is an array, so its name stands only in front of the loop over its elements. -/
theorem eachValue_iterates (hvararg : p.isVararg = true) (name : String)
    (write : Value → Statement) :
    Iterates p.name name (eachValue p.name p.shape write)
      (eachValue name (withName p name).shape write) := by
  have hshape : p.shape = ⟨.many, false, p.type, p.type.nullable⟩ := by
    unfold ParameterModel.shape
    rw [hvararg]
    rfl
  have hshape' : (withName p name).shape = ⟨.many, false, p.type, p.type.nullable⟩ := hshape
  rw [hshape, hshape']
  unfold eachValue elementsOf
  cases p.type.nullable with
  | false =>
    simp only [Bool.false_eq_true, if_false, String.append_empty]
    exact .source (by decide) none _
  | true =>
    simp only [Bool.false_eq_true, if_false, if_true, String.append_empty, String.append_assoc]
    exact .source (by decide) none _

theorem eachEntry_iterates (hvararg : p.isVararg = true) (name : String)
    (write : String → Value → Statement) :
    Iterates p.name name (eachEntry p write) (eachEntry (withName p name) write) := by
  unfold eachEntry withName
  rw [hvararg]
  dsimp only
  cases p.type.isPair with
  | true => exact .source (by decide) (some _) _
  | false => exact .source (by decide) (some _) _

end Values

/-! ### Lists of parameters -/

section Lists

variable {α : Type} {p : ParameterModel} {name : String} {f f' : FunctionModel}

/-- A walk of the parameters that passes over the renamed one gives the same. -/
theorem Renames.filter (h : Renames p name f f') {select : ParameterModel → Bool}
    (hp : select p = false) (hname : select (withName p name) = select p) :
    f'.parameters.filter select = f.parameters.filter select := by
  obtain ⟨front, back, hsplit, rfl⟩ := h
  rw [hsplit]
  simp only [List.filter_append, List.filter_cons, hname, hp, Bool.false_eq_true, if_false]

theorem Renames.any (h : Renames p name f f') {select : ParameterModel → Bool}
    (hname : select (withName p name) = select p) :
    f'.parameters.any select = f.parameters.any select := by
  obtain ⟨front, back, hsplit, rfl⟩ := h
  rw [hsplit]
  simp only [List.any_append, List.any_cons, hname]

theorem Renames.filterMap (h : Renames p name f f') {pick : ParameterModel → Option α}
    (hp : pick p = none) (hname : pick (withName p name) = none) :
    f'.parameters.filterMap pick = f.parameters.filterMap pick := by
  obtain ⟨front, back, hsplit, rfl⟩ := h
  rw [hsplit]
  simp only [List.filterMap_append, List.filterMap_cons, hname, hp]

theorem Renames.findSome? (h : Renames p name f f') {pick : ParameterModel → Option α}
    (hp : pick p = none) (hname : pick (withName p name) = none) :
    f'.parameters.findSome? pick = f.parameters.findSome? pick := by
  obtain ⟨front, back, hsplit, rfl⟩ := h
  rw [hsplit]
  simp only [List.findSome?_append, List.findSome?_cons, hname, hp]

/-- A walk that takes statements from every parameter differs where the renamed one is iterated. -/
theorem Renames.flatMap (h : Renames p name f f') {give : ParameterModel → List Statement}
    (hp : IteratesAll p.name name (give p) (give (withName p name))) :
    IteratesAll p.name name (f.parameters.flatMap give) (f'.parameters.flatMap give) := by
  obtain ⟨front, back, hsplit, rfl⟩ := h
  rw [hsplit]
  simp only [List.flatMap_append, List.flatMap_cons]
  exact (IteratesAll.refl _ _ _).append (hp.append (.refl _ _ _))

theorem Renames.forall₂ (h : Renames p name f f') {give : ParameterModel → List α}
    {R : α → α → Prop} (hrefl : ∀ a, R a a)
    (hp : List.Forall₂ R (give p) (give (withName p name))) :
    List.Forall₂ R (f.parameters.flatMap give) (f'.parameters.flatMap give) := by
  obtain ⟨front, back, hsplit, rfl⟩ := h
  rw [hsplit]
  simp only [List.flatMap_append, List.flatMap_cons]
  have hsame : ∀ as : List α, List.Forall₂ R as as :=
    fun as => List.forall₂_same.mpr fun a _ => hrefl a
  exact List.rel_append (hsame _) (List.rel_append hp (hsame _))

theorem Renames.statements (h : Renames p name f f')
    {pick : ParameterModel → Role → Option Statement}
    (hp : ∀ r, IteratesAll p.name name (pick p r).toList (pick (withName p name) r).toList) :
    IteratesAll p.name name (roleStatements f pick) (roleStatements f' pick) := by
  refine h.flatMap ?_
  rw [List.filterMap_eq_flatMap_toList, List.filterMap_eq_flatMap_toList]
  change IteratesAll _ _ (p.roles.flatMap _) (p.roles.flatMap _)
  induction p.roles with
  | nil => exact .nil
  | cons r rs ih =>
    rw [List.flatMap_cons, List.flatMap_cons]
    exact (hp r).append ih

end Lists

/-! ### Written alike -/

/-- In every file both write the same names, and what they write is related. -/
def Matches {α β : Type} (R : α → β → Prop) (w : NameM α) (w' : NameM β) : Prop :=
  ∀ names, R (w.run names).1 (w'.run names).1 ∧ (w'.run names).2 = (w.run names).2

namespace Matches

variable {α β γ δ : Type} {R : α → β → Prop} {S : γ → δ → Prop} {w : NameM α} {w' : NameM β}

theorem pure {a : α} {b : β} (h : R a b) : Matches R (pure a) (pure b) :=
  fun _ => ⟨h, rfl⟩

theorem of_eq {w w' : NameM α} (h : w' = w) : Matches (· = ·) w w' := by
  intro names
  rw [h]
  exact ⟨rfl, rfl⟩

theorem refl {R : α → α → Prop} (hR : ∀ a, R a a) (w : NameM α) : Matches R w w :=
  fun _ => ⟨hR _, rfl⟩

theorem bind {k : α → NameM γ} {k' : β → NameM δ} (h : Matches R w w')
    (hk : ∀ a b, R a b → Matches S (k a) (k' b)) : Matches S (w >>= k) (w' >>= k') := by
  intro names
  obtain ⟨hwritten, hnames⟩ := h names
  have hrest := hk _ _ hwritten (w.run names).2
  change S ((k (w.run names).1).run (w.run names).2).1 ((k' (w'.run names).1).run (w'.run names).2).1
    ∧ ((k' (w'.run names).1).run (w'.run names).2).2 = ((k (w.run names).1).run (w.run names).2).2
  rw [hnames]
  exact hrest

theorem mapM {g : α → NameM γ} {g' : β → NameM δ} {as : List α} {bs : List β}
    (h : List.Forall₂ (fun a b => Matches S (g a) (g' b)) as bs) :
    Matches (List.Forall₂ S) (as.mapM g) (bs.mapM g') := by
  induction h with
  | nil => exact pure .nil
  | cons first _ ih =>
    rw [List.mapM_cons, List.mapM_cons]
    refine first.bind fun a b hab => ih.bind fun as bs hall => ?_
    exact pure (.cons hab hall)

end Matches

/-! ### Sections -/

section Sections

variable {p : ParameterModel} {name : String} {f f' : FunctionModel}

theorem role?_eq_none {k : RoleKind} (h : p.hasRole k = false) : p.role? k = none := by
  rw [← ParameterModel.isSome_role?, Option.isSome_eq_false_iff, Option.isNone_iff_eq_none] at h
  exact h

theorem bindPath_renames (h : Renames p name f f') (hpath : p.hasRole .path = false) :
    bindPath f' = bindPath f := by
  have hbinding : ∀ placeholder, binding? f' placeholder = binding? f placeholder := by
    intro placeholder
    refine h.findSome? ?_ ?_
    · rw [bindingOf?, role?_eq_none hpath]
    · rw [bindingOf?, role?_withName, role?_eq_none hpath]
  have hown : f'.path = f.path ∧ f'.name = f.name := by
    obtain ⟨front, back, -, rfl⟩ := h
    exact ⟨rfl, rfl⟩
  refine bindPath_congr hown.1 fun part => ?_
  cases part with
  | literal text => rfl
  | placeholder placeholder =>
    simp only [bindPart, unboundPlaceholder, hbinding, hown.2]

theorem writeBuilders_renames (h : Renames p name f f') (hbuilder : p.builder = none) :
    writeBuilders f' = writeBuilders f := by
  have hbuilders : ∀ kind, buildersOf f' kind = buildersOf f kind := by
    intro kind
    refine h.filter ?_ rfl
    rw [hbuilder]
    rfl
  unfold writeBuilders
  rw [hbuilders, hbuilders]

theorem parametersWith_renames (h : Renames p name f f') {k : RoleKind}
    (hp : p.hasRole k = false) : f'.parametersWith k = f.parametersWith k :=
  h.filter hp rfl

theorem hasRole_renames (h : Renames p name f f') (k : RoleKind) : f'.hasRole k = f.hasRole k :=
  h.any rfl

theorem marks_renames (h : Renames p name f f') : f'.marks = f.marks := by
  obtain ⟨front, back, -, rfl⟩ := h
  rfl

theorem isFormUrl_renames (h : Renames p name f f') : f'.isFormUrl = f.isFormUrl := by
  unfold FunctionModel.isFormUrl FunctionModel.hasFormMarker
  rw [marks_renames h, hasRole_renames h, hasRole_renames h]

theorem isMultipart_renames (h : Renames p name f f') : f'.isMultipart = f.isMultipart := by
  unfold FunctionModel.isMultipart FunctionModel.hasMultipartMarker
  rw [marks_renames h, hasRole_renames h, hasRole_renames h]

theorem queryStatement?_iterates (hvararg : p.isVararg = true) (name : String) (r : Role) :
    IteratesAll p.name name (queryStatement? p r).toList
      (queryStatement? (withName p name) r).toList := by
  unfold queryStatement?
  cases r with
  | query wire encoded => exact .cons (eachValue_iterates hvararg name _) .nil
  | queryName encoded => exact .cons (eachValue_iterates hvararg name _) .nil
  | queryMap encoded => exact .cons (eachEntry_iterates hvararg name _) .nil
  | _ => exact .nil

theorem fragmentStatement?_iterates (hvararg : p.isVararg = true) (name : String) :
    IteratesAll p.name name (fragmentStatement? p).toList
      (fragmentStatement? (withName p name)).toList := by
  unfold fragmentStatement?
  rw [role?_withName]
  split
  · exact .cons (eachValue_iterates hvararg name _) .nil
  · exact .nil

theorem writeUrlBody_renames (h : Renames p name f f') (hurl : p.hasRole .url = false)
    (hvararg : p.isVararg = true) (path : List PathPiece) :
    Matches (IteratesAll p.name name) (writeUrlBody f path) (writeUrlBody f' path) := by
  have hown : writeOwnPath f' path = writeOwnPath f path ∧ ownFragment f' = ownFragment f := by
    obtain ⟨front, back, -, rfl⟩ := h
    exact ⟨rfl, rfl⟩
  have hqueries := h.statements (queryStatement?_iterates hvararg name)
  have hfragments : IteratesAll p.name name
      (f.parameters.flatMap fun p => (fragmentStatement? p).toList)
      (f'.parameters.flatMap fun p => (fragmentStatement? p).toList) :=
    h.flatMap (fragmentStatement?_iterates hvararg name)
  unfold writeUrlBody
  rw [parametersWith_renames h hurl, hown.1, hown.2]
  refine (Matches.of_eq rfl).bind fun urls _ hurls => ?_
  refine (Matches.of_eq rfl).bind fun own _ howned => ?_
  rw [← hurls, ← howned, List.filterMap_eq_flatMap_toList, List.filterMap_eq_flatMap_toList]
  refine .pure (IteratesAll.append ?_ hfragments)
  exact ((IteratesAll.refl _ _ _).append hqueries).append (.refl _ _ _)

theorem iterates_blockUnlessEmpty {old new : String} {body body' : List Statement}
    (opening : String) (h : IteratesAll old new body body') :
    IteratesAll old new (blockUnlessEmpty opening body) (blockUnlessEmpty opening body') := by
  unfold blockUnlessEmpty
  rw [h.isEmpty_eq]
  split
  · exact .nil
  · exact .cons (iterates_plain opening h) .nil

theorem writeUrl_renames (h : Renames p name f f') (hurl : p.hasRole .url = false)
    (hvararg : p.isVararg = true) (path : List PathPiece) :
    Matches (IteratesAll p.name name) (writeUrl f path) (writeUrl f' path) := by
  unfold writeUrl
  refine (writeUrlBody_renames h hurl hvararg path).bind fun body body' hbody => ?_
  exact .pure (iterates_blockUnlessEmpty _ hbody)

theorem headerStatement?_iterates (hvararg : p.isVararg = true) (name : String) (r : Role) :
    IteratesAll p.name name (headerStatement? p r).toList
      (headerStatement? (withName p name) r).toList := by
  unfold headerStatement?
  cases r with
  | header wire => exact .cons (eachValue_iterates hvararg name _) .nil
  | headerMap => exact .cons (eachEntry_iterates hvararg name _) .nil
  | _ => exact .nil

theorem writeHeaders_renames (h : Renames p name f f') (hvararg : p.isVararg = true) :
    Matches (IteratesAll p.name name) (writeHeaders f) (writeHeaders f') := by
  have hbody : IteratesAll p.name name (headerBody f) (headerBody f') := by
    unfold headerBody FunctionModel.rawHeaders
    rw [marks_renames h]
    exact (h.statements (headerStatement?_iterates hvararg name)).append (.refl _ _ _)
  have htype : writeContentType f' = writeContentType f := by
    unfold writeContentType
    rw [isFormUrl_renames h, isMultipart_renames h]
  unfold writeHeaders
  refine (Matches.of_eq htype).bind fun contentType _ htypes => ?_
  rw [← htypes]
  have hblock : Matches (IteratesAll p.name name) (writeHeaderBlock (headerBody f))
      (writeHeaderBlock (headerBody f')) := by
    unfold writeHeaderBlock
    rw [hbody.isEmpty_eq]
    split
    · exact .pure .nil
    · refine (Matches.of_eq rfl).bind fun headers _ hheaders => ?_
      rw [← hheaders]
      exact .pure (.cons (iterates_plain _ hbody) .nil)
  exact hblock.bind fun block block' hwritten => .pure ((IteratesAll.refl _ _ _).append hwritten)

theorem writeParameterCookie_renames (hvararg : p.isVararg = true) (name : String) (c : Cookie) :
    Matches (Iterates p.name name) (writeParameterCookie p c)
      (writeParameterCookie (withName p name) c) := by
  unfold writeParameterCookie
  refine (Matches.of_eq rfl).bind fun statement _ hstatement => ?_
  rw [← hstatement]
  cases c.value with
  | literal value => exact .pure (.same _)
  | fromParameter => exact .pure (eachValue_iterates hvararg name _)

theorem writeCookies_renames (h : Renames p name f f') (hvararg : p.isVararg = true) :
    Matches (IteratesAll p.name name) (writeCookies f) (writeCookies f') := by
  have huses : List.Forall₂ (fun use use' : ParameterModel × Cookie => Matches (Iterates p.name name)
      (writeParameterCookie use.1 use.2) (writeParameterCookie use'.1 use'.2))
      (parameterCookies f) (parameterCookies f') := by
    refine h.forall₂ (fun use => .refl .same _) ?_
    change List.Forall₂ _ ((p.roles.filterMap cookieOf?).map _) ((p.roles.filterMap cookieOf?).map _)
    rw [List.forall₂_map_left_iff, List.forall₂_map_right_iff]
    exact List.forall₂_same.mpr fun c _ => writeParameterCookie_renames hvararg name c
  have hown : f'.cookies = f.cookies := by
    unfold FunctionModel.cookies
    rw [marks_renames h]
  unfold writeCookies
  rw [hown]
  refine (Matches.of_eq rfl).bind fun own _ howned => ?_
  rw [← howned]
  refine (Matches.mapM huses).bind fun others others' hothers => ?_
  exact .pure ((IteratesAll.refl _ _ _).append (.ofForall₂ hothers))

theorem partStatement?_iterates (hvararg : p.isVararg = true) (name : String) (r : Role) :
    IteratesAll p.name name (partStatement? p r).toList
      (partStatement? (withName p name) r).toList := by
  unfold partStatement?
  cases r with
  | part wire encoding =>
    change IteratesAll _ _ [if _ then _ else _]
      [if p.shape.element.is TypeName.partData then _ else _]
    split
    · exact .cons (eachValue_iterates hvararg name _) .nil
    · exact .cons (eachValue_iterates hvararg name _) .nil
  | partMap encoding => exact .cons (eachEntry_iterates hvararg name _) .nil
  | _ => exact .nil

theorem writeMultipart_renames (h : Renames p name f f') (hvararg : p.isVararg = true) :
    Matches (IteratesAll p.name name) (writeMultipart f) (writeMultipart f') := by
  have hparts := h.statements (partStatement?_iterates hvararg name)
  unfold writeMultipart
  refine (Matches.of_eq rfl).bind fun part _ hpart => ?_
  refine (Matches.of_eq rfl).bind fun collect _ hcollect => ?_
  refine (Matches.of_eq rfl).bind fun content _ hcontent => ?_
  refine (Matches.of_eq rfl).bind fun setBody _ hsetBody => ?_
  rw [← hpart, ← hcollect, ← hcontent, ← hsetBody]
  exact .pure (.cons (.same _) (.cons (iterates_plain _ hparts) (.refl _ _ _)))

theorem writeField?_renames (hvararg : p.isVararg = true) (name : String) (r : Role) :
    Matches (fun s s' => IteratesAll p.name name s.toList s'.toList) (writeField? p r)
      (writeField? (withName p name) r) := by
  unfold writeField?
  cases r with
  | field wire encoded =>
    refine (Matches.of_eq rfl).bind fun decode _ hdecode => ?_
    rw [← hdecode]
    exact .pure (.cons (eachValue_iterates hvararg name _) .nil)
  | fieldMap encoded =>
    refine (Matches.of_eq rfl).bind fun decode _ hdecode => ?_
    rw [← hdecode]
    exact .pure (.cons (eachEntry_iterates hvararg name _) .nil)
  | _ => exact .pure .nil

theorem writeFields_renames (h : Renames p name f f') (hvararg : p.isVararg = true) :
    Matches (IteratesAll p.name name) (writeFields f) (writeFields f') := by
  have huses : List.Forall₂ (fun use use' : ParameterModel × Role =>
      Matches (fun s s' => IteratesAll p.name name s.toList s'.toList)
        (writeField? use.1 use.2) (writeField? use'.1 use'.2)) (roleUses f) (roleUses f') := by
    refine h.forall₂ (fun use => .refl (fun s => .refl _ _ _) _) ?_
    change List.Forall₂ _ (p.roles.map _) (p.roles.map _)
    rw [List.forall₂_map_left_iff, List.forall₂_map_right_iff]
    exact List.forall₂_same.mpr fun r _ => writeField?_renames hvararg name r
  unfold writeFields
  refine (Matches.mapM huses).bind fun fields fields' hfields => .pure ?_
  rw [List.filterMap_eq_flatMap_toList, List.filterMap_eq_flatMap_toList]
  induction hfields with
  | nil => exact .nil
  | cons first _ ih =>
    rw [List.flatMap_cons, List.flatMap_cons]
    exact IteratesAll.append first ih

theorem writeForm_renames (h : Renames p name f f') (hvararg : p.isVararg = true) :
    Matches (IteratesAll p.name name) (writeForm f) (writeForm f') := by
  unfold writeForm
  refine (writeFields_renames h hvararg).bind fun fields fields' hfields => ?_
  refine (Matches.of_eq rfl).bind fun parameters _ hparameters => ?_
  refine (Matches.of_eq rfl).bind fun content _ hcontent => ?_
  refine (Matches.of_eq rfl).bind fun setBody _ hsetBody => ?_
  rw [← hparameters, ← hcontent, ← hsetBody]
  exact .pure (.cons (iterates_plain _ hfields) (.refl _ _ _))

theorem writeBody_renames (h : Renames p name f f') (hbody : p.hasRole .body = false)
    (hvararg : p.isVararg = true) :
    Matches (IteratesAll p.name name) (writeBody f) (writeBody f') := by
  have hstyle : BodyStyle.of f' = BodyStyle.of f := by
    unfold BodyStyle.of
    rw [parametersWith_renames h hbody, isFormUrl_renames h, isMultipart_renames h]
  unfold writeBody
  rw [hstyle]
  cases BodyStyle.of f with
  | parameter body => exact .refl (fun ss => .refl _ _ ss) _
  | multipart => exact writeMultipart_renames h hvararg
  | form => exact writeForm_renames h hvararg
  | absent => exact .pure .nil

theorem writeTags_renames (h : Renames p name f f') (htag : p.hasRole .tag = false) :
    writeTags f' = writeTags f := by
  have htagged : tagged f' = tagged f := by
    refine h.filterMap ?_ ?_
    · rw [tagName?, role?_eq_none htag]
      rfl
    · rw [tagName?, role?_withName, role?_eq_none htag]
      rfl
  unfold writeTags
  rw [htagged]

/-- The statements that stand before the tags. -/
def Population.beforeTags (r : Population) : List Statement :=
  r.builders ++ r.method ++ r.url ++ r.headers ++ r.cookies ++ r.body

/-- Of a vararg that neither replaces a section nor shapes the whole request, everything
    before the tags iterates. -/
theorem writePopulation_renames (h : Renames p name f f') (hvararg : p.isVararg = true)
    (hurl : p.hasRole .url = false) (hbody : p.hasRole .body = false) (hbuilder : p.builder = none)
    {T : List Statement → List Statement → Prop} (htags : Matches T (writeTags f) (writeTags f'))
    (path : List PathPiece) :
    Matches (fun r r' => IteratesAll p.name name r.beforeTags r'.beforeTags ∧ T r.tags r'.tags)
      (writePopulation f path) (writePopulation f' path) := by
  have hmethod : f'.httpMethod = f.httpMethod := by
    obtain ⟨front, back, -, rfl⟩ := h
    rfl
  unfold writePopulation
  refine (Matches.of_eq (writeBuilders_renames h hbuilder)).bind fun builders _ hbuilders => ?_
  rw [hmethod]
  refine (Matches.of_eq rfl).bind fun method _ hmethods => ?_
  refine (writeUrl_renames h hurl hvararg path).bind fun url url' hurls => ?_
  refine (writeHeaders_renames h hvararg).bind fun headers headers' hheaders => ?_
  refine (writeCookies_renames h hvararg).bind fun cookies cookies' hcookies => ?_
  refine (writeBody_renames h hbody hvararg).bind fun body body' hbodies => ?_
  refine htags.bind fun tags tags' htags => ?_
  rw [← hbuilders, ← hmethods]
  refine .pure ⟨?_, htags⟩
  have hfirst := (IteratesAll.refl p.name name (builders ++ method)).append hurls
  exact ((hfirst.append hheaders).append hcookies).append hbodies

end Sections

end ClientGen.Request
