/-
  ClientGen/Proofs/Declaration/RoundTrip.lean
  ===========================================
  **Reading undoes writing.**

  A table that is written and read again is the same table (`read_written`).  The readers
  try several forms in turn at two places, and there every written value has to be refused
  by the forms in front of its own: a type argument is a star or a type, and the value of an
  annotation argument is one of eight.  Records are read back field by field.

  Two things that a value of the model may be and a declaration never is are excluded by
  `WellFormed`: arguments out of order, and integers beyond 64 bits.
-/
import ClientGen.Declaration.Reader
import ClientGen.Declaration.Writer
import ClientGen.Proofs.Ascending
import ClientGen.Proofs.Json.Records

namespace ClientGen

open ClientGen.Json

variable {j : Json}

/-! ### Scalars -/

theorem reads_text (s : String) : Reads (readText (j := j)) (.str s) s :=
  fun _ => rfl

theorem reads_bool (b : Bool) : Reads (readBool (j := j)) (.bool b) b :=
  fun _ => rfl

theorem reads_texts (ss : List String) : Reads (readTexts (j := j)) (textsJson ss) ss :=
  Reads.each_map fun s _ => reads_text s

theorem readsOption_text (o : Option String) :
    ReadsOption (readText (j := j)) (optionalText o) o := by
  cases o with
  | none => rfl
  | some s => exact ⟨nofun, reads_text s⟩

/-- The keyword of a kind is that of no other kind. -/
theorem reads_kind (k : ClassKind) : Reads (readKind (j := j)) (.str k.keyword) k := by
  intro hlt
  cases k <;> rfl

theorem reads_visibility (v : Visibility) :
    Reads (readVisibility (j := j)) (.str v.keyword) v := by
  intro hlt
  cases v <;> rfl

/-- The modifier that stands for unknown ones has a keyword of its own. -/
theorem reads_modifier (m : Modifier) : Reads (readModifier (j := j)) (.str m.keyword) m := by
  intro hlt
  cases m <;> rfl

theorem reads_modifiers (ms : List Modifier) :
    Reads (readModifiers (j := j)) (modifiersJson ms) ms :=
  Reads.each_map fun m _ => reads_modifier m

/-! ### Types -/

mutual
theorem TypeRef.readable_toJson : ∀ t : TypeRef, t.toJson.readable = true
  | ⟨name, nullable, arguments, resolved, typeParameter, none⟩ => by
    simp [TypeRef.toJson, readable, membersReadable, FunctionType.members,
      TypeArgument.readable_toJsons arguments]
  | ⟨name, nullable, arguments, resolved, typeParameter, some f⟩ => by
    simp [TypeRef.toJson, readable, membersReadable, FunctionType.members,
      TypeArgument.readable_toJsons arguments, FunctionType.readable_toJson f]

theorem TypeArgument.readable_toJson : ∀ a : TypeArgument, a.toJson.readable = true
  | .star => rfl
  | .type t => by rw [TypeArgument.toJson, TypeRef.readable_toJson t]

theorem TypeArgument.readable_toJsons :
    ∀ as : List TypeArgument, allReadable (TypeArgument.toJsons as) = true
  | [] => rfl
  | a :: as => by
    simp [TypeArgument.toJsons, allReadable, TypeArgument.readable_toJson a,
      TypeArgument.readable_toJsons as]

theorem FunctionType.readable_toJson : ∀ f : FunctionType, f.toJson.readable = true
  | ⟨receiver, parameters, returnType, suspending⟩ => by
    simp [FunctionType.toJson, readable, membersReadable,
      TypeRef.readable_optionToJson receiver, TypeRef.readable_toJsons parameters,
      TypeRef.readable_toJson returnType]

theorem TypeRef.readable_optionToJson :
    ∀ o : Option TypeRef, (TypeRef.optionToJson o).readable = true
  | none => rfl
  | some t => by rw [TypeRef.optionToJson, TypeRef.readable_toJson t]

theorem TypeRef.readable_toJsons :
    ∀ ts : List TypeRef, allReadable (TypeRef.toJsons ts) = true
  | [] => rfl
  | t :: ts => by
    simp [TypeRef.toJsons, allReadable, TypeRef.readable_toJson t, TypeRef.readable_toJsons ts]
end

theorem TypeRef.toJson_ne_null (t : TypeRef) : t.toJson ≠ .null := by
  obtain ⟨name, nullable, arguments, resolved, typeParameter, function⟩ := t
  simp [TypeRef.toJson]

theorem FunctionType.toJson_ne_null (f : FunctionType) : f.toJson ≠ .null := by
  obtain ⟨receiver, parameters, returnType, suspending⟩ := f
  simp [FunctionType.toJson]

/-- A type is no text, so it is not taken for a star. -/
theorem TypeRef.text?_toJson (t : TypeRef) : t.toJson.text? = none := by
  obtain ⟨name, nullable, arguments, resolved, typeParameter, function⟩ := t
  simp [TypeRef.toJson, text?]

mutual
theorem TypeRef.ofJson?_toJson : ∀ t : TypeRef, TypeRef.ofJson? t.toJson = some t
  | ⟨name, nullable, arguments, resolved, typeParameter, none⟩ => by
    rw [TypeRef.toJson, TypeRef.ofJson?, slots?_obj (by simp [FunctionType.members])]
    simp only [List.map_cons, List.map_nil]
    rw [required_slot (reads_text name) rfl, orElse_slot (reads_bool nullable) false rfl,
      orElse_slot (Reads.each (TypeArgument.reads_toJsons arguments)) [] rfl,
      orElse_slot (reads_bool resolved) true rfl,
      orElse_slot (reads_bool typeParameter) false rfl, optional_slot_of_absent rfl]
    rfl
  | ⟨name, nullable, arguments, resolved, typeParameter, some f⟩ => by
    have hfunction : ∀ {j : Json}, ReadsOption
        (fun v : Part j => FunctionType.ofJson? v.1) f.toJson (some f) :=
      ⟨f.toJson_ne_null, fun _ => FunctionType.ofJson?_toJson f⟩
    rw [TypeRef.toJson, TypeRef.ofJson?, slots?_obj (by simp [FunctionType.members])]
    simp only [List.map_cons, List.map_nil]
    rw [required_slot (reads_text name) rfl, orElse_slot (reads_bool nullable) false rfl,
      orElse_slot (Reads.each (TypeArgument.reads_toJsons arguments)) [] rfl,
      orElse_slot (reads_bool resolved) true rfl,
      orElse_slot (reads_bool typeParameter) false rfl, optional_slot hfunction rfl]
    rfl

theorem TypeArgument.ofJson?_toJson :
    ∀ a : TypeArgument, TypeArgument.ofJson? a.toJson = some a
  | .star => by rw [TypeArgument.ofJson?]; rfl
  | .type t => by
    rw [TypeArgument.toJson, TypeArgument.ofJson?, if_pos t.readable_toJson, t.text?_toJson,
      TypeRef.ofJson?_toJson t]
    rfl

theorem TypeArgument.reads_toJsons :
    ∀ {j : Json} (as : List TypeArgument), List.Forall₂
      (Reads fun v : Part j => TypeArgument.ofJson? v.1) (TypeArgument.toJsons as) as
  | _, [] => .nil
  | _, a :: as =>
    .cons (fun _ => TypeArgument.ofJson?_toJson a) (TypeArgument.reads_toJsons as)

theorem FunctionType.ofJson?_toJson :
    ∀ f : FunctionType, FunctionType.ofJson? f.toJson = some f
  | ⟨receiver, parameters, returnType, suspending⟩ => by
    rw [FunctionType.toJson, FunctionType.ofJson?, slots?_obj (by simp)]
    simp only [List.map_cons, List.map_nil]
    have hreturn : ∀ {j : Json}, Reads
        (fun v : Part j => TypeRef.ofJson? v.1) returnType.toJson returnType :=
      fun _ => TypeRef.ofJson?_toJson returnType
    rw [optional_slot (TypeRef.readsOption receiver) rfl,
      orElse_slot (Reads.each (TypeRef.reads_toJsons parameters)) [] rfl,
      required_slot hreturn rfl, orElse_slot (reads_bool suspending) false rfl]
    rfl

theorem TypeRef.readsOption :
    ∀ {j : Json} (o : Option TypeRef),
      ReadsOption (fun v : Part j => TypeRef.ofJson? v.1) (TypeRef.optionToJson o) o
  | _, none => rfl
  | _, some t => ⟨t.toJson_ne_null, fun _ => TypeRef.ofJson?_toJson t⟩

theorem TypeRef.reads_toJsons :
    ∀ {j : Json} (ts : List TypeRef), List.Forall₂
      (Reads fun v : Part j => TypeRef.ofJson? v.1) (TypeRef.toJsons ts) ts
  | _, [] => .nil
  | _, t :: ts => .cons (fun _ => TypeRef.ofJson?_toJson t) (TypeRef.reads_toJsons ts)
end

theorem reads_type (t : TypeRef) : Reads (readType (j := j)) t.toJson t :=
  fun _ => t.ofJson?_toJson

theorem readsOption_type (o : Option TypeRef) :
    ReadsOption (readType (j := j)) (TypeRef.optionToJson o) o :=
  TypeRef.readsOption o

/-! ### Annotations -/

/-- The integer fits 64 bits with a sign. -/
def IsInteger64 (n : Int) : Prop :=
  -maxInteger - 1 ≤ n ∧ n ≤ maxInteger

mutual
/-- Integers fit 64 bits, and arguments are in ascending order of names, one value for each
    name, at every depth. -/
def AnnotationValue.WellFormed : AnnotationValue → Prop
  | .int n => IsInteger64 n
  | .array values => AnnotationValue.AllWellFormed values
  | .nested use => use.WellFormed
  | _ => True

def AnnotationValue.AllWellFormed : List AnnotationValue → Prop
  | [] => True
  | v :: vs => v.WellFormed ∧ AnnotationValue.AllWellFormed vs

/-- The arguments are a map of well-formed values. -/
def AnnotationUse.WellFormed : AnnotationUse → Prop
  | ⟨_, arguments⟩ =>
    Ascending.Strict (arguments.map Prod.fst) ∧ AnnotationUse.AllWellFormed arguments

def AnnotationUse.AllWellFormed : List (String × AnnotationValue) → Prop
  | [] => True
  | (_, value) :: rest => value.WellFormed ∧ AnnotationUse.AllWellFormed rest
end

mutual
theorem AnnotationValue.readable_toJson : ∀ v : AnnotationValue, v.toJson.readable = true
  | .bool b => rfl
  | .int n => rfl
  | .float x => rfl
  | .string s => rfl
  | .array values => by
    rw [AnnotationValue.toJson, readable, AnnotationValue.readable_toJsons values]
  | .classRef name => rfl
  | .enumEntry type entry => rfl
  | .nested use => by
    simp [AnnotationValue.toJson, readable, membersReadable, AnnotationUse.readable_toJson use]

theorem AnnotationValue.readable_toJsons :
    ∀ vs : List AnnotationValue, allReadable (AnnotationValue.toJsons vs) = true
  | [] => rfl
  | v :: vs => by
    simp [AnnotationValue.toJsons, allReadable, AnnotationValue.readable_toJson v,
      AnnotationValue.readable_toJsons vs]

theorem AnnotationUse.readable_toJson : ∀ a : AnnotationUse, a.toJson.readable = true
  | ⟨name, arguments⟩ => by
    simp [AnnotationUse.toJson, readable, membersReadable,
      AnnotationUse.readable_entries arguments]

theorem AnnotationUse.readable_entries :
    ∀ arguments : List (String × AnnotationValue),
      membersReadable (AnnotationUse.entries arguments) = true
  | [] => rfl
  | (_, value) :: rest => by
    simp [AnnotationUse.entries, membersReadable, AnnotationValue.readable_toJson value,
      AnnotationUse.readable_entries rest]
end

/-- An object without the member of a class reference is none. -/
theorem readClassRef_of_absent {ms : List (String × Json)} (hkeys : (ms.map Prod.fst).Nodup)
    (h : ms.lookup "class" = none) : readClassRef (.obj ms) = none := by
  rw [readClassRef, objectSlots?_obj hkeys]
  simp only [List.map_cons, List.map_nil]
  rw [required_slot_of_absent h]
  rfl

/-- An object without the type of an enum entry is none. -/
theorem readEnumEntry_of_absent {ms : List (String × Json)} (hkeys : (ms.map Prod.fst).Nodup)
    (h : ms.lookup "enum" = none) : readEnumEntry (.obj ms) = none := by
  rw [readEnumEntry, objectSlots?_obj hkeys]
  simp only [List.map_cons, List.map_nil]
  rw [required_slot_of_absent h]
  rfl

theorem readClassRef_written (name : String) :
    readClassRef (.obj [("class", .str name)]) = some (.classRef name) := by
  rw [readClassRef, objectSlots?_obj (by simp)]
  simp only [List.map_cons, List.map_nil]
  rw [required_slot (reads_text name) rfl]
  rfl

theorem readEnumEntry_written (type entry : String) :
    readEnumEntry (.obj [("enum", .str type), ("entry", .str entry)])
      = some (.enumEntry type entry) := by
  rw [readEnumEntry, objectSlots?_obj (by simp)]
  simp only [List.map_cons, List.map_nil]
  rw [required_slot (reads_text type) rfl, required_slot (reads_text entry) rfl]
  rfl

mutual
/-- No form in front of its own takes a written value. -/
theorem AnnotationValue.ofJson?_toJson :
    ∀ v : AnnotationValue, v.WellFormed → AnnotationValue.ofJson? v.toJson = some v
  | .bool b, _ => by rw [AnnotationValue.ofJson?]; rfl
  | .int n, h => by
    rw [AnnotationValue.ofJson?, if_pos (AnnotationValue.readable_toJson (.int n))]
    simp only [AnnotationValue.toJson, items?, members?, readScalar]
    rw [if_pos h.2]
  | .float x, _ => by rw [AnnotationValue.ofJson?]; rfl
  | .string s, _ => by rw [AnnotationValue.ofJson?]; rfl
  | .array values, h => by
    obtain ⟨items, hitems, hmap⟩ := mapM_items (AnnotationValue.reads_toJsons values h)
    rw [AnnotationValue.ofJson?, if_pos (AnnotationValue.readable_toJson (.array values))]
    simp only [AnnotationValue.toJson, hitems, hmap, Option.map_some]
  | .classRef name, _ => by
    rw [AnnotationValue.ofJson?, if_pos (AnnotationValue.readable_toJson (.classRef name))]
    simp only [AnnotationValue.toJson, items?, members?]
    rw [readClassRef_written, Option.some_or]
  | .enumEntry type entry, _ => by
    rw [AnnotationValue.ofJson?, if_pos (AnnotationValue.readable_toJson (.enumEntry type entry))]
    simp only [AnnotationValue.toJson, items?, members?]
    rw [readClassRef_of_absent (by simp) rfl, readEnumEntry_written, Option.none_or,
      Option.some_or]
  | .nested use, h => by
    rw [AnnotationValue.ofJson?, if_pos (AnnotationValue.readable_toJson (.nested use))]
    simp only [AnnotationValue.toJson, items?, members?]
    have hreads : ∀ {j : Json}, Reads (fun v : Part j => AnnotationUse.ofJson? v.1) use.toJson use :=
      fun _ => AnnotationUse.ofJson?_toJson use h
    rw [readClassRef_of_absent (by simp) rfl, readEnumEntry_of_absent (by simp) rfl,
      Option.none_or, Option.none_or, slots?_obj (by simp)]
    simp only [List.map_cons, List.map_nil]
    rw [required_slot hreads rfl]
    rfl

theorem AnnotationValue.reads_toJsons :
    ∀ {j : Json} (vs : List AnnotationValue), AnnotationValue.AllWellFormed vs →
      List.Forall₂ (Reads fun v : Part j => AnnotationValue.ofJson? v.1)
        (AnnotationValue.toJsons vs) vs
  | _, [], _ => .nil
  | _, v :: vs, h =>
    .cons (fun _ => AnnotationValue.ofJson?_toJson v h.1) (AnnotationValue.reads_toJsons vs h.2)

theorem AnnotationUse.ofJson?_toJson :
    ∀ a : AnnotationUse, a.WellFormed → AnnotationUse.ofJson? a.toJson = some a
  | ⟨name, arguments⟩, h => by
    obtain ⟨members, hmembers, hmap⟩ := mapM_members
      (f := fun m => do
        let value ← AnnotationValue.ofJson? m.2.1
        return (m.1, value))
      (AnnotationUse.reads_entries arguments h.2)
    rw [AnnotationUse.toJson, AnnotationUse.ofJson?, slots?_obj (by simp)]
    simp only [List.map_cons, List.map_nil]
    rw [required_slot (reads_text name) rfl]
    have hlookup : [("qualifiedName", Json.str name),
        ("arguments", .obj (AnnotationUse.entries arguments))].lookup "arguments"
          = some (.obj (AnnotationUse.entries arguments)) := rfl
    obtain ⟨hlt, hslot⟩ := slot_eq_some hlookup
    rw [hslot]
    simp only [Slot.orElse, hmembers]
    rw [hmap]
    simp only [Option.bind_eq_bind, Option.bind_some, Option.pure_def,
      Ascending.ofEntries_of_strict h.1]

theorem AnnotationUse.reads_entries :
    ∀ {j : Json} (arguments : List (String × AnnotationValue)),
      AnnotationUse.AllWellFormed arguments →
        List.Forall₂ (fun m e => Reads (fun v : Part j => do
          let value ← AnnotationValue.ofJson? v.1
          return (m.1, value)) m.2 e) (AnnotationUse.entries arguments) arguments
  | _, [], _ => .nil
  | _, (name, value) :: rest, h => by
    refine .cons ?_ (AnnotationUse.reads_entries rest h.2)
    intro hlt
    simp only [AnnotationValue.ofJson?_toJson value h.1]
    rfl
end

theorem reads_annotations {as : List AnnotationUse} (h : ∀ a ∈ as, a.WellFormed) :
    Reads (readAnnotations (j := j)) (annotationsJson as) as :=
  Reads.each_map fun a ha _ => a.ofJson?_toJson (h a ha)

/-! ### Members -/

def AllWellFormed (as : List AnnotationUse) : Prop :=
  ∀ a ∈ as, a.WellFormed

/-- The annotations of the function and of its parameters are well formed. -/
structure FunctionDeclaration.WellFormed (f : FunctionDeclaration) : Prop where
  annotations : AllWellFormed f.annotations
  parameters : ∀ p ∈ f.parameters, AllWellFormed p.annotations

theorem reads_file (f : FileRef) : Reads (readFile (j := j)) f.toJson f := by
  intro hlt
  unfold readFile
  simp only [FileRef.toJson]
  rw [slots?_obj (by simp)]
  simp only [List.map_cons, List.map_nil]
  rw [required_slot (reads_text f.path) rfl, orElse_slot (reads_texts f.imports) [] rfl]
  rfl

theorem readsOption_file (o : Option FileRef) :
    ReadsOption (readFile (j := j)) (optionalFile o) o := by
  cases o with
  | none => rfl
  | some f => exact ⟨nofun, reads_file f⟩

theorem ParameterDeclaration.ofJson?_toJson {p : ParameterDeclaration}
    (h : AllWellFormed p.annotations) : ParameterDeclaration.ofJson? p.toJson = some p := by
  rw [ParameterDeclaration.toJson, ParameterDeclaration.ofJson?, slots?_obj (by simp)]
  simp only [List.map_cons, List.map_nil]
  rw [required_slot (reads_text p.name) rfl, required_slot (reads_type p.type) rfl,
    orElse_slot (reads_bool p.isVararg) false rfl, orElse_slot (reads_annotations h) [] rfl]
  rfl

theorem PropertyDeclaration.ofJson?_toJson {p : PropertyDeclaration}
    (h : AllWellFormed p.annotations) : PropertyDeclaration.ofJson? p.toJson = some p := by
  rw [PropertyDeclaration.toJson, PropertyDeclaration.ofJson?, slots?_obj (by simp)]
  simp only [List.map_cons, List.map_nil]
  rw [required_slot (reads_text p.name) rfl, required_slot (reads_type p.type) rfl,
    orElse_slot (reads_bool p.mutable) false rfl, orElse_slot (reads_annotations h) [] rfl]
  rfl

theorem FunctionDeclaration.ofJson?_toJson {f : FunctionDeclaration} (h : f.WellFormed) :
    FunctionDeclaration.ofJson? f.toJson = some f := by
  have hparameters : ∀ {j : Json}, Reads
      (fun v : Part j => v.each fun w => ParameterDeclaration.ofJson? w.1)
      (.arr (f.parameters.map ParameterDeclaration.toJson)) f.parameters :=
    Reads.each_map fun p hp _ => ParameterDeclaration.ofJson?_toJson (h.parameters p hp)
  rw [FunctionDeclaration.toJson, FunctionDeclaration.ofJson?, slots?_obj (by simp)]
  simp only [List.map_cons, List.map_nil]
  rw [required_slot (reads_text f.name) rfl, optional_slot (readsOption_text f.packageName) rfl,
    orElse_slot (reads_visibility f.visibility) .publicScope rfl,
    orElse_slot (reads_modifiers f.modifiers) [] rfl,
    orElse_slot (reads_annotations h.annotations) [] rfl,
    orElse_slot (reads_texts f.typeParameters) [] rfl, orElse_slot hparameters [] rfl,
    optional_slot (readsOption_type f.returnType) rfl,
    optional_slot (readsOption_file f.file) rfl, optional_slot (readsOption_text f.doc) rfl]
  rfl

theorem reads_companion {c : CompanionDeclaration} (h : AllWellFormed c.annotations) :
    Reads (readCompanion (j := j)) c.toJson c := by
  intro hlt
  unfold readCompanion
  simp only [CompanionDeclaration.toJson]
  rw [slots?_obj (by simp)]
  simp only [List.map_cons, List.map_nil]
  rw [orElse_slot (reads_text c.name) defaultCompanionName rfl,
    orElse_slot (reads_annotations h) [] rfl]
  rfl

theorem readsOption_companion {o : Option CompanionDeclaration}
    (h : ∀ c ∈ o, AllWellFormed c.annotations) :
    ReadsOption (readCompanion (j := j)) (optionalCompanion o) o := by
  cases o with
  | none => rfl
  | some c => exact ⟨nofun, reads_companion (h c rfl)⟩

/-! ### Classes and tables -/

/-- The annotations of the class and of its members are well formed. -/
structure ClassDeclaration.WellFormed (c : ClassDeclaration) : Prop where
  annotations : AllWellFormed c.annotations
  properties : ∀ p ∈ c.properties, AllWellFormed p.annotations
  functions : ∀ f ∈ c.functions, f.WellFormed
  companion : ∀ k ∈ c.companion, AllWellFormed k.annotations

/-- The annotations of every declaration are well formed. -/
structure SymbolTable.WellFormed (t : SymbolTable) : Prop where
  classes : ∀ c ∈ t.classes, c.WellFormed
  functions : ∀ f ∈ t.functions, f.WellFormed

theorem reads_functions {fs : List FunctionDeclaration} (h : ∀ f ∈ fs, f.WellFormed) :
    Reads (fun v : Part j => v.each fun w => FunctionDeclaration.ofJson? w.1)
      (.arr (fs.map FunctionDeclaration.toJson)) fs :=
  Reads.each_map fun f hf _ => FunctionDeclaration.ofJson?_toJson (h f hf)

theorem ClassDeclaration.ofJson?_toJson {c : ClassDeclaration} (h : c.WellFormed) :
    ClassDeclaration.ofJson? c.toJson = some c := by
  have hsupertypes : ∀ {j : Json}, Reads (fun v : Part j => v.each readType)
      (.arr (c.supertypes.map TypeRef.toJson)) c.supertypes :=
    Reads.each_map fun t _ => reads_type t
  have hproperties : ∀ {j : Json}, Reads
      (fun v : Part j => v.each fun w => PropertyDeclaration.ofJson? w.1)
      (.arr (c.properties.map PropertyDeclaration.toJson)) c.properties :=
    Reads.each_map fun p hp _ => PropertyDeclaration.ofJson?_toJson (h.properties p hp)
  rw [ClassDeclaration.toJson, ClassDeclaration.ofJson?, slots?_obj (by simp)]
  simp only [List.map_cons, List.map_nil]
  rw [required_slot (reads_text c.qualifiedName) rfl,
    optional_slot (readsOption_text c.packageName) rfl,
    orElse_slot (reads_kind c.kind) .interfaceKind rfl,
    orElse_slot (reads_visibility c.visibility) .publicScope rfl,
    orElse_slot (reads_modifiers c.modifiers) [] rfl,
    orElse_slot (reads_annotations h.annotations) [] rfl, orElse_slot hsupertypes [] rfl,
    orElse_slot hproperties [] rfl, orElse_slot (reads_functions h.functions) [] rfl,
    optional_slot (readsOption_companion h.companion) rfl,
    optional_slot (readsOption_file c.file) rfl, optional_slot (readsOption_text c.doc) rfl]
  rfl

/-- A table that is written is read back. -/
theorem SymbolTable.read_written {t : SymbolTable} (h : t.WellFormed) :
    SymbolTable.ofJson? t.toJson = some t := by
  have hclasses : ∀ {j : Json}, Reads
      (fun v : Part j => v.each fun w => ClassDeclaration.ofJson? w.1)
      (.arr (t.classes.map ClassDeclaration.toJson)) t.classes :=
    Reads.each_map fun c hc _ => ClassDeclaration.ofJson?_toJson (h.classes c hc)
  rw [SymbolTable.toJson, SymbolTable.ofJson?, slots?_obj (by simp)]
  simp only [List.map_cons, List.map_nil]
  rw [orElse_slot hclasses [] rfl, orElse_slot (reads_functions h.functions) [] rfl]
  rfl

/-- An annotation with an argument of every form that is written as an object, one inside
    another. -/
def AnnotationUse.varied : AnnotationUse :=
  ⟨"demo.Marked", [("entry", .enumEntry "demo.Level" "HIGH"),
    ("inner", .nested ⟨"demo.Inner", [("limits", .array [.int (-1), .float ⟨false, 1, 0⟩])]⟩),
    ("type", .classRef "demo.Error")]⟩

def PropertyDeclaration.varied : PropertyDeclaration where
  name := "handler"
  type := ⟨"kotlin.Function1", true, [], true, false, some
    ⟨none, [⟨"kotlin.collections.Map", false, [.type (.named "kotlin.String"), .star], true, false,
      none⟩], .named "kotlin.Unit", true⟩⟩
  mutable := false
  annotations := [.varied]

def SymbolTable.varied : SymbolTable where
  classes := [{
    qualifiedName := "demo.Api"
    packageName := none
    kind := .interfaceKind
    visibility := .internalScope
    modifiers := [.sealedType, .other]
    annotations := []
    supertypes := [.named "demo.Base"]
    properties := [.varied]
    functions := []
    companion := some ⟨"Factory", []⟩
    file := some ⟨"Api.kt", ["demo.Error"]⟩
    doc := none }]
  functions := []

theorem AnnotationUse.varied_wellFormed : AnnotationUse.varied.WellFormed := by
  simp only [varied, WellFormed, AllWellFormed, AnnotationValue.WellFormed,
    AnnotationValue.AllWellFormed, IsInteger64, maxInteger, Ascending.Strict]
  decide

theorem SymbolTable.varied_wellFormed : SymbolTable.varied.WellFormed where
  classes := by
    intro c hc
    obtain rfl := List.mem_singleton.mp hc
    exact {
      annotations := nofun
      properties := by
        intro p hp a ha
        obtain rfl := List.mem_singleton.mp hp
        obtain rfl := List.mem_singleton.mp ha
        exact AnnotationUse.varied_wellFormed
      functions := nofun
      companion := by
        intro k hk
        obtain rfl := Option.some.inj hk
        exact nofun }
  functions := nofun

/-- The annotated property is read back with all that is nested in it. -/
theorem SymbolTable.read_written_of_varied :
    SymbolTable.varied.WellFormed
      ∧ SymbolTable.ofJson? SymbolTable.varied.toJson = some SymbolTable.varied :=
  ⟨SymbolTable.varied_wellFormed, SymbolTable.read_written SymbolTable.varied_wellFormed⟩

end ClientGen
