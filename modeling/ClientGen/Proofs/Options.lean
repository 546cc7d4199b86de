/-
  ClientGen/Proofs/Options.lean
  =============================
  **What options are read from texts.**

  A text is a key and a value around its first equals sign, and of the texts with one key
  the last counts (`lastValue`).  Every option accepts some texts (`IsValue`); the options
  are the default ones with every known key replaced by what its text spells
  (`Options.IsGivenBy`), or else the first refused key in ascending order is the error
  (`Options.ofPairs_exact`).
-/
import ClientGen.Options
import ClientGen.Proofs.Ascending
import ClientGen.Proofs.Text.Blank
import Mathlib.Data.Nat.Digits.Defs

namespace ClientGen.Options

open ClientGen.Text

/-! ### Texts -/

/-- The key of a text: what stands in front of its first equals sign. -/
def keyOf (pair : String) : String :=
  trim (String.ofList (pair.toList.takeWhile (· != '=')))

/-- The value of a text: what stands behind its first equals sign. -/
def valueOf (pair : String) : String :=
  trim (String.ofList ((pair.toList.dropWhile (· != '=')).drop 1))

def entryOf (pair : String) : String × String :=
  (keyOf pair, valueOf pair)

/-- The value of the last text with this key. -/
def lastValue (pairs : List String) (key : String) : Option String :=
  ((pairs.filter fun pair => keyOf pair == key).getLast?).map valueOf

def WellFormed (pairs : List String) : Prop :=
  ∀ pair ∈ pairs, '=' ∈ pair.toList

instance (pairs : List String) : Decidable (WellFormed pairs) :=
  inferInstanceAs (Decidable (∀ pair ∈ pairs, '=' ∈ pair.toList))

/-! ### Values -/

def knownKeys : List String :=
  [checkLevelKey, printCausesKey, experimentalKey, maxDeferredRoundsKey]

def utf8 (s : String) : List UInt8 :=
  s.toList.flatMap String.utf8EncodeChar

def SpellsLevel (text : String) (level : CheckLevel) : Prop :=
  (text, level) ∈ [("0", CheckLevel.off), ("1", .errors), ("2", .warnings)]

/-- Switches are spelled in letters of either case. -/
def SpellsSwitch (text : String) (on : Bool) : Prop :=
  (asciiLower text, on) ∈ [("true", true), ("1", true), ("yes", true),
    ("false", false), ("0", false), ("no", false)]

/-- The number that decimal digits stand for. -/
def decimal (digits : List Char) : Nat :=
  Nat.ofDigits 10 (digits.reverse.map fun c => c.toNat - '0'.toNat)

/-- A budget is a positive number of 32 bits in decimal digits, a plus in front of them or
    not. -/
structure SpellsBudget (text : String) (n : Nat) : Prop where
  spelled : ∃ digits, (text.toList = digits ∨ text.toList = '+' :: digits) ∧ digits ≠ []
    ∧ (∀ c ∈ digits, c.isDigit = true) ∧ n = decimal digits
  pos : 1 ≤ n
  bounded : n < 2 ^ 32

/-- The option of this key accepts the text; under other keys every text will do. -/
structure IsValue (key text : String) : Prop where
  checkLevel : key = checkLevelKey → ∃ level, SpellsLevel text level
  printCauses : key = printCausesKey → ∃ on, SpellsSwitch text on
  experimental : key = experimentalKey → ∃ on, SpellsSwitch text on
  maxDeferredRounds : key = maxDeferredRoundsKey → ∃ n, SpellsBudget text n

def expectation (key : String) : String :=
  if key = checkLevelKey then "0, 1 or 2"
  else if key = maxDeferredRoundsKey then "an integer >= 1"
  else "true or false"

/-- A setting is what its text spells, or what it was before without a text. -/
def Settles {α : Type} (Spells : String → α → Prop) (before : α) : Option String → α → Prop
  | some text, a => Spells text a
  | none, a => a = before

/-- The options are others with the settings replaced that a text is given for. -/
structure IsGivenBy (o : Options) (given : String → Option String) (before : Options) :
    Prop where
  checkLevel : Settles SpellsLevel before.checkLevel (given checkLevelKey) o.checkLevel
  printCauses : Settles SpellsSwitch before.printCauses (given printCausesKey) o.printCauses
  experimental : Settles SpellsSwitch before.experimental (given experimentalKey) o.experimental
  maxDeferredRounds : Settles SpellsBudget before.maxDeferredRounds (given maxDeferredRoundsKey)
    o.maxDeferredRounds

/-! ### Reading values -/

section Values

variable {text key : String}

/-- The reader gives what the text spells, and the error when it spells nothing. -/
inductive Reads {α : Type} (Spells : α → Prop) (e : OptionsError) : Except OptionsError α → Prop
  | value {a : α} (spells : Spells a) : Reads Spells e (.ok a)
  | refused (nothing : ∀ a, ¬ Spells a) : Reads Spells e (.error e)

theorem readCheckLevel_reads (h : trim text = text) :
    Reads (SpellsLevel text) (.invalidValue checkLevelKey text "0, 1 or 2")
      (readCheckLevel text) := by
  unfold readCheckLevel
  rw [h]
  split
  · exact .value (by simp [SpellsLevel])
  · exact .value (by simp [SpellsLevel])
  · exact .value (by simp [SpellsLevel])
  · rename_i hoff herrors hwarnings
    refine .refused fun level hlevel => ?_
    simp only [SpellsLevel, List.mem_cons, Prod.mk.injEq, List.not_mem_nil, or_false] at hlevel
    rcases hlevel with ⟨htext, -⟩ | ⟨htext, -⟩ | ⟨htext, -⟩
    · exact hoff htext
    · exact herrors htext
    · exact hwarnings htext

theorem readSwitch_reads (h : trim text = text) :
    Reads (SpellsSwitch text) (.invalidValue key text "true or false")
      (readSwitch key text) := by
  unfold readSwitch
  simp only [h]
  split
  · rename_i hon
    exact .value (by rcases hon with hon | hon | hon <;> simp [SpellsSwitch, hon])
  · split
    · rename_i hoff
      exact .value (by rcases hoff with hoff | hoff | hoff <;> simp [SpellsSwitch, hoff])
    · rename_i hon hoff
      refine .refused fun on hspells => ?_
      simp only [SpellsSwitch, List.mem_cons, Prod.mk.injEq, List.not_mem_nil, or_false] at hspells
      rcases hspells with ⟨htext, -⟩ | ⟨htext, -⟩ | ⟨htext, -⟩ | ⟨htext, -⟩ | ⟨htext, -⟩
        | ⟨htext, -⟩
      all_goals simp [htext] at hon hoff

theorem foldl_eq_decimal (digits : List Char) :
    digits.foldl (fun n c => n * 10 + (c.toNat - '0'.toNat)) 0 = decimal digits := by
  rw [decimal, Nat.ofDigits_eq_foldr, List.foldr_map, List.foldr_reverse]
  congr 1
  funext n c
  simp only [Nat.cast_id]
  omega

theorem digitsNat?_eq_some {digits : List Char} {n : Nat} : digitsNat? digits = some n ↔
    digits ≠ [] ∧ (∀ c ∈ digits, c.isDigit = true) ∧ n = decimal digits := by
  unfold digitsNat?
  rw [foldl_eq_decimal]
  cases hbad : digits.isEmpty || !digits.all Char.isDigit with
  | true =>
    simp only [Bool.or_eq_true, List.isEmpty_iff, Bool.not_eq_true', List.all_eq_false] at hbad
    refine iff_of_false (by simp) ?_
    rintro ⟨hne, hall, -⟩
    rcases hbad with hnil | ⟨c, hc, hno⟩
    · exact hne hnil
    · exact hno (hall c hc)
  | false =>
    simp only [Bool.or_eq_false_iff, List.isEmpty_eq_false_iff, Bool.not_eq_false',
      List.all_eq_true] at hbad
    rw [if_neg Bool.false_ne_true, Option.some.injEq]
    constructor
    · intro hn
      exact ⟨hbad.1, hbad.2, hn.symm⟩
    · rintro ⟨-, -, hn⟩
      exact hn.symm

theorem natural?_eq_some {n : Nat} : natural? text = some n ↔
    ∃ digits, (text.toList = digits ∨ text.toList = '+' :: digits) ∧ digits ≠ []
      ∧ (∀ c ∈ digits, c.isDigit = true) ∧ n = decimal digits := by
  unfold natural?
  split
  · rename_i cs hplus
    rw [digitsNat?_eq_some]
    constructor
    · intro hcs
      exact ⟨cs, .inr hplus, hcs⟩
    · rintro ⟨digits, hshape, hne, hall, hn⟩
      rw [hplus] at hshape
      rcases hshape with rfl | hshape
      · -- a plus is no digit
        exact absurd (hall '+' List.mem_cons_self) (by decide)
      · rw [(List.cons.inj hshape).2]
        exact ⟨hne, hall, hn⟩
  · rename_i hplus
    rw [digitsNat?_eq_some]
    constructor
    · intro hcs
      exact ⟨text.toList, .inl rfl, hcs⟩
    · rintro ⟨digits, hshape, hrest⟩
      rcases hshape with rfl | hshape
      · exact hrest
      · exact absurd hshape (hplus digits)

theorem readBudget_reads (h : trim text = text) :
    Reads (SpellsBudget text) (.invalidValue maxDeferredRoundsKey text "an integer >= 1")
      (readBudget text) := by
  have hbound : ∀ n, n ≤ maxBudget ↔ n < 2 ^ 32 := by
    intro n
    have hmax : maxBudget + 1 = 2 ^ 32 := by decide
    omega
  unfold readBudget
  rw [h]
  cases hnumber : natural? text with
  | none =>
    refine .refused fun n hspells => ?_
    rw [natural?_eq_some.mpr hspells.spelled] at hnumber
    cases hnumber
  | some n =>
    have hspelled := natural?_eq_some.mp hnumber
    by_cases hrange : 1 ≤ n ∧ n ≤ maxBudget
    · simp only [if_pos hrange]
      exact .value ⟨hspelled, hrange.1, (hbound n).mp hrange.2⟩
    · simp only [if_neg hrange]
      refine .refused fun n' hspells => hrange ?_
      have hsame := natural?_eq_some.mpr hspells.spelled
      rw [hnumber] at hsame
      cases hsame
      exact ⟨hspells.pos, (hbound n).mpr hspells.bounded⟩

end Values

/-! ### Reading entries -/

section Entries

variable {o o' before : Options} {key text : String} {given given' : String → Option String}

/-- What one more entry makes of options. -/
inductive Takes (o : Options) (text : String) : String → Except OptionsError Options → Prop
  | checkLevel {level : CheckLevel} (spells : SpellsLevel text level) :
      Takes o text checkLevelKey (.ok { o with checkLevel := level })
  | printCauses {on : Bool} (spells : SpellsSwitch text on) :
      Takes o text printCausesKey (.ok { o with printCauses := on })
  | experimental {on : Bool} (spells : SpellsSwitch text on) :
      Takes o text experimentalKey (.ok { o with experimental := on })
  | maxDeferredRounds {n : Nat} (spells : SpellsBudget text n) :
      Takes o text maxDeferredRoundsKey (.ok { o with maxDeferredRounds := n })
  | unknown {key : String} (unknown : key ∉ knownKeys) : Takes o text key (.ok o)
  | refused {key : String} (refused : ¬ IsValue key text) :
      Takes o text key (.error (.invalidValue key text (expectation key)))

theorem Reads.takes {α : Type} {Spells : α → Prop} {result : Except OptionsError α}
    {update : α → Options}
    (h : Reads Spells (.invalidValue key text (expectation key)) result)
    (hvalue : ∀ a, Spells a → Takes o text key (.ok (update a)))
    (hspelled : IsValue key text → ∃ a, Spells a) : Takes o text key (result.map update) := by
  cases h with
  | value spells => exact hvalue _ spells
  | refused nothing =>
    refine .refused fun hisValue => ?_
    obtain ⟨a, hspells⟩ := hspelled hisValue
    exact nothing a hspells

theorem set_takes (h : trim text = text) (o : Options) (key : String) :
    Takes o text key (o.set key text) := by
  unfold set
  -- the keys are tried in the order of the definition; each reader settles its own
  by_cases hlevel : key = checkLevelKey
  · subst hlevel
    rw [if_pos rfl]
    exact (readCheckLevel_reads h).takes (fun _ => .checkLevel) fun hvalue => hvalue.checkLevel rfl
  · rw [if_neg hlevel]
    by_cases hcauses : key = printCausesKey
    · subst hcauses
      rw [if_pos rfl]
      exact (readSwitch_reads h).takes (fun _ => .printCauses) fun hvalue =>
        hvalue.printCauses rfl
    · rw [if_neg hcauses]
      by_cases hexperimental : key = experimentalKey
      · subst hexperimental
        rw [if_pos rfl]
        exact (readSwitch_reads h).takes (fun _ => .experimental) fun hvalue =>
          hvalue.experimental rfl
      · rw [if_neg hexperimental]
        by_cases hbudget : key = maxDeferredRoundsKey
        · subst hbudget
          rw [if_pos rfl]
          exact (readBudget_reads h).takes (fun _ => .maxDeferredRounds) fun hvalue =>
            hvalue.maxDeferredRounds rfl
        · rw [if_neg hbudget]
          exact .unknown (by simp [knownKeys, hlevel, hcauses, hexperimental, hbudget])

theorem isValue_of_unknown (h : key ∉ knownKeys) (text : String) : IsValue key text := by
  simp only [knownKeys, List.mem_cons, List.not_mem_nil, or_false, not_or] at h
  obtain ⟨hlevel, hcauses, hexperimental, hbudget⟩ := h
  exact ⟨fun h => absurd h hlevel, fun h => absurd h hcauses, fun h => absurd h hexperimental,
    fun h => absurd h hbudget⟩

theorem mem_knownKeys (h : ¬ IsValue key text) : key ∈ knownKeys := by
  by_contra hunknown
  exact h (isValue_of_unknown hunknown text)

/-- One more text is given, under a key that had none. -/
structure Adds (key text : String) (given given' : String → Option String) : Prop where
  absent : given key = none
  here : given' key = some text
  elsewhere : ∀ x, x ≠ key → given' x = given x

theorem Settles.here {α : Type} {Spells : String → α → Prop} {was a b : α}
    (hadds : Adds key text given given') (hspells : Spells text b)
    (h : Settles Spells b (given key) a) : Settles Spells was (given' key) a := by
  rw [hadds.absent] at h
  rw [hadds.here]
  subst h
  exact hspells

theorem Settles.elsewhere {α : Type} {Spells : String → α → Prop} {was a : α} {x : String}
    (hadds : Adds key text given given') (hx : x ≠ key)
    (h : Settles Spells was (given x) a) : Settles Spells was (given' x) a := by
  rwa [hadds.elsewhere x hx]

/-- Options that are given by the remaining texts behind one more entry are given by all. -/
theorem Takes.isGivenBy (htakes : Takes before text key (.ok o))
    (hadds : Adds key text given given') (h : IsGivenBy o' given o) :
    IsGivenBy o' given' before := by
  obtain ⟨hlevel, hcauses, hexperimental, hbudget⟩ := h
  cases htakes with
  | checkLevel spells =>
    exact ⟨.here hadds spells hlevel, .elsewhere hadds (by decide) hcauses,
      .elsewhere hadds (by decide) hexperimental, .elsewhere hadds (by decide) hbudget⟩
  | printCauses spells =>
    exact ⟨.elsewhere hadds (by decide) hlevel, .here hadds spells hcauses,
      .elsewhere hadds (by decide) hexperimental, .elsewhere hadds (by decide) hbudget⟩
  | experimental spells =>
    exact ⟨.elsewhere hadds (by decide) hlevel, .elsewhere hadds (by decide) hcauses,
      .here hadds spells hexperimental, .elsewhere hadds (by decide) hbudget⟩
  | maxDeferredRounds spells =>
    exact ⟨.elsewhere hadds (by decide) hlevel, .elsewhere hadds (by decide) hcauses,
      .elsewhere hadds (by decide) hexperimental, .here hadds spells hbudget⟩
  | unknown unknown =>
    have hne : ∀ x ∈ knownKeys, x ≠ key := by
      rintro x hx rfl
      exact unknown hx
    exact ⟨.elsewhere hadds (hne _ (by decide)) hlevel,
      .elsewhere hadds (hne _ (by decide)) hcauses,
      .elsewhere hadds (hne _ (by decide)) hexperimental,
      .elsewhere hadds (hne _ (by decide)) hbudget⟩

theorem IsGivenBy.isValue (h : IsGivenBy o given before) (hgiven : given key = some text) :
    IsValue key text := by
  obtain ⟨hlevel, hcauses, hexperimental, hbudget⟩ := h
  constructor
  · rintro rfl
    rw [hgiven] at hlevel
    exact ⟨_, hlevel⟩
  · rintro rfl
    rw [hgiven] at hcauses
    exact ⟨_, hcauses⟩
  · rintro rfl
    rw [hgiven] at hexperimental
    exact ⟨_, hexperimental⟩
  · rintro rfl
    rw [hgiven] at hbudget
    exact ⟨_, hbudget⟩

/-- A text that is taken is all that is given when no others are. -/
theorem Takes.isValue (h : Takes o text key (.ok o')) : IsValue key text := by
  have hadds : Adds key text (fun _ => none) fun x => if x = key then some text else none :=
    ⟨rfl, if_pos rfl, fun x hx => if_neg hx⟩
  have hnothing : IsGivenBy o' (fun _ => none) o' := ⟨rfl, rfl, rfl, rfl⟩
  exact (h.isGivenBy hadds hnothing).isValue (if_pos rfl)

/-- What texts give: options, or the refusal of the first key whose text is no value. -/
inductive Gives (given : String → Option String) (before : Options) :
    Except OptionsError Options → Prop
  | options {o : Options} (isGiven : IsGivenBy o given before) : Gives given before (.ok o)
  | refused {key text : String} (isGiven : given key = some text) (refused : ¬ IsValue key text)
      (first : ∀ key' text', given key' = some text' → ¬ IsValue key' text' →
        key = key' ∨ key < key') :
      Gives given before (.error (.invalidValue key text (expectation key)))

/-- The remaining texts have greater keys, so the first refusal stays the first. -/
theorem Takes.gives {result : Except OptionsError Options} (htakes : Takes before text key (.ok o))
    (hadds : Adds key text given given') (h : Gives given o result) :
    Gives given' before result := by
  cases h with
  | options isGiven => exact .options (htakes.isGivenBy hadds isGiven)
  | @refused key₁ text₁ isGiven refused first =>
    have hne : key₁ ≠ key := by
      rintro rfl
      rw [hadds.absent] at isGiven
      cases isGiven
    refine .refused ((hadds.elsewhere key₁ hne).trans isGiven) refused ?_
    intro key' text' hgiven hrefused
    by_cases hkey : key' = key
    · subst hkey
      rw [hadds.here, Option.some.injEq] at hgiven
      subst hgiven
      exact absurd htakes.isValue hrefused
    · rw [hadds.elsewhere key' hkey] at hgiven
      exact first key' text' hgiven hrefused

theorem adds_lookup {rest : List (String × String)}
    (h : ∀ e ∈ rest, key < e.1) :
    Adds key text (fun x => rest.lookup x) (fun x => ((key, text) :: rest).lookup x) := by
  refine ⟨?_, List.lookup_cons_self, fun x hx => ?_⟩
  · rw [List.lookup_eq_none_iff]
    intro e he
    rw [bne_iff_ne]
    intro heq
    exact String.lt_irrefl key (heq ▸ h e he)
  · simp only [List.lookup_cons, beq_eq_false_iff_ne.mpr hx]

/-- Entries in ascending order are set one after another. -/
theorem setAll_gives {entries : List (String × String)}
    (hstrict : Ascending.Strict (entries.map Prod.fst))
    (htrim : ∀ e ∈ entries, trim e.2 = e.2) (before : Options) :
    Gives (fun x => entries.lookup x) before (before.setAll entries) := by
  induction entries generalizing before with
  | nil => exact .options ⟨rfl, rfl, rfl, rfl⟩
  | cons entry rest ih =>
    obtain ⟨key, text⟩ := entry
    obtain ⟨hhead, hrest⟩ := List.pairwise_cons.mp hstrict
    have hbelow : ∀ e ∈ rest, key < e.1 := fun e he => hhead e.1 (List.mem_map_of_mem he)
    have hadds : Adds key text (fun x => rest.lookup x) fun x => ((key, text) :: rest).lookup x :=
      adds_lookup hbelow
    have htakes := set_takes (htrim _ List.mem_cons_self) before key
    unfold setAll
    cases hset : before.set key text with
    | ok o =>
      rw [hset] at htakes
      exact htakes.gives hadds (ih hrest (fun e he => htrim e (List.mem_cons_of_mem _ he)) o)
    | error e =>
      rw [hset] at htakes
      cases htakes with
      | refused hrefused =>
        -- the keys still to come are larger, so no refused one stands in front of this one
        refine .refused hadds.here hrefused fun x text' hx _ => ?_
        by_cases hkey : key = x
        · exact .inl hkey
        · right
          rw [hadds.elsewhere x (Ne.symm hkey)] at hx
          obtain ⟨front, back, rfl, -⟩ := List.lookup_eq_some_iff.mp hx
          exact hbelow (x, text') (by simp)

theorem Settles.unique {α : Type} {Spells : String → α → Prop} {was a b : α}
    {given? : Option String} (hunique : ∀ text a b, Spells text a → Spells text b → a = b)
    (h : Settles Spells was given? a) (h' : Settles Spells was given? b) : a = b := by
  cases given? with
  | none => exact Eq.trans h (Eq.symm h')
  | some text => exact hunique text a b h h'

theorem eq_of_table {α : Type} {table : List (String × α)} (hnodup : (table.map Prod.fst).Nodup)
    {a b : α} (ha : (text, a) ∈ table) (hb : (text, b) ∈ table) : a = b :=
  congrArg Prod.snd (List.inj_on_of_nodup_map hnodup ha hb rfl)

theorem IsGivenBy.unique (h : IsGivenBy o given before) (h' : IsGivenBy o' given before) :
    o = o' := by
  have hlevels : ∀ text a b, SpellsLevel text a → SpellsLevel text b → a = b := by
    intro text a b ha hb
    exact eq_of_table (by decide) ha hb
  have hswitches : ∀ text a b, SpellsSwitch text a → SpellsSwitch text b → a = b := by
    intro text a b ha hb
    exact eq_of_table (by decide) ha hb
  have hbudgets : ∀ text a b, SpellsBudget text a → SpellsBudget text b → a = b := by
    intro text a b ha hb
    apply Option.some.inj
    rw [← natural?_eq_some.mpr ha.spelled, ← natural?_eq_some.mpr hb.spelled]
  have hlevel := h.checkLevel.unique hlevels h'.checkLevel
  have hcauses := h.printCauses.unique hswitches h'.printCauses
  have hexperimental := h.experimental.unique hswitches h'.experimental
  have hbudget := h.maxDeferredRounds.unique hbudgets h'.maxDeferredRounds
  cases o
  cases o'
  simp only at hlevel hcauses hexperimental hbudget
  rw [hlevel, hcauses, hexperimental, hbudget]

theorem Gives.unique {result result' : Except OptionsError Options}
    (h : Gives given before result) (h' : Gives given before result') : result = result' := by
  cases h with
  | options isGiven =>
    cases h' with
    | options isGiven' => rw [isGiven.unique isGiven']
    | refused isGiven' refused' _ => exact absurd (isGiven.isValue isGiven') refused'
  | @refused key text isGiven refused first =>
    cases h' with
    | options isGiven' => exact absurd (isGiven'.isValue isGiven) refused
    | @refused key' text' isGiven' refused' first' =>
      have hkey : key = key' := by
        rcases first key' text' isGiven' refused' with hsame | hlt
        · exact hsame
        · rcases first' key text isGiven refused with hsame | hlt'
          · exact hsame.symm
          · exact absurd (String.lt_trans hlt hlt') (String.lt_irrefl key)
      subst hkey
      rw [isGiven, Option.some.injEq] at isGiven'
      rw [isGiven']

theorem Gives.ok_iff {result : Except OptionsError Options} (h : Gives given before result) :
    result = .ok o ↔ IsGivenBy o given before := by
  constructor
  · rintro rfl
    cases h with
    | options isGiven => exact isGiven
  · intro hgiven
    exact h.unique (.options hgiven)

theorem Gives.error_iff {result : Except OptionsError Options} (h : Gives given before result) :
    (∃ e, result = .error e) ↔ ∃ key text, given key = some text ∧ ¬ IsValue key text := by
  cases h with
  | options isGiven =>
    refine iff_of_false (by simp) ?_
    rintro ⟨key, text, hgiven, hrefused⟩
    exact hrefused (isGiven.isValue hgiven)
  | refused isGiven refused _ => exact iff_of_true ⟨_, rfl⟩ ⟨_, _, isGiven, refused⟩

/-- The bytes of the known keys are in the order of their characters. -/
theorem utf8_le {key key' : String} (h : key ∈ knownKeys) (h' : key' ∈ knownKeys)
    (hle : key = key' ∨ key < key') : utf8 key ≤ utf8 key' := by
  have hall : ∀ k ∈ knownKeys, ∀ k' ∈ knownKeys, k = k' ∨ k < k' → utf8 k ≤ utf8 k' := by
    decide
  exact hall key h key' h' hle

theorem Gives.of_error {result : Except OptionsError Options} {e : OptionsError}
    (h : Gives given before result) (he : result = .error e) :
    ∃ key text, e = .invalidValue key text (expectation key) ∧ given key = some text
      ∧ ¬ IsValue key text ∧ ∀ key' text', given key' = some text' → ¬ IsValue key' text' →
        utf8 key ≤ utf8 key' := by
  cases h with
  | options isGiven => cases he
  | refused isGiven refused first =>
    cases he
    refine ⟨_, _, rfl, isGiven, refused, fun key' text' hgiven hrefused => ?_⟩
    exact utf8_le (mem_knownKeys refused) (mem_knownKeys hrefused)
      (first key' text' hgiven hrefused)

theorem IsGivenBy.bounds (h : IsGivenBy o given Options.default) :
    1 ≤ o.maxDeferredRounds ∧ o.maxDeferredRounds < 2 ^ 32 := by
  have hbudget := h.maxDeferredRounds
  cases hgiven : given maxDeferredRoundsKey with
  | none =>
    rw [hgiven] at hbudget
    have hdefault : o.maxDeferredRounds = 3 := hbudget
    rw [hdefault]
    decide
  | some text =>
    rw [hgiven] at hbudget
    exact ⟨hbudget.pos, hbudget.bounded⟩

/-- Only the texts of known keys are looked at. -/
theorem Gives.congr {result : Except OptionsError Options} (h : Gives given before result)
    (hsame : ∀ key ∈ knownKeys, given' key = given key) : Gives given' before result := by
  have hknown : ∀ {key text}, ¬ IsValue key text → given' key = given key := by
    intro key text hrefused
    exact hsame key (mem_knownKeys hrefused)
  cases h with
  | options isGiven =>
    obtain ⟨hlevel, hcauses, hexperimental, hbudget⟩ := isGiven
    refine .options ⟨?_, ?_, ?_, ?_⟩
    · rwa [hsame _ (by decide)]
    · rwa [hsame _ (by decide)]
    · rwa [hsame _ (by decide)]
    · rwa [hsame _ (by decide)]
  | refused isGiven refused first =>
    refine .refused ((hknown refused).trans isGiven) refused ?_
    intro key' text' hgiven hrefused
    exact first key' text' ((hknown hrefused).symm.trans hgiven) hrefused

end Entries

/-! ### Reading texts -/

section Texts

variable {pair : String} {pairs pairs' : List String}

theorem readPair_of_mem (h : '=' ∈ pair.toList) : readPair pair = .ok (entryOf pair) := by
  obtain ⟨front, back, hpair, hfront⟩ := List.eq_append_cons_of_mem h
  have hplain : ∀ c ∈ front, (c != '=') = true := by
    intro c hc
    rw [bne_iff_ne]
    rintro rfl
    exact hfront hc
  have htake : pair.toList.takeWhile (· != '=') = front := by
    rw [hpair, List.takeWhile_append_of_pos hplain]
    simp
  have hdrop : pair.toList.dropWhile (· != '=') = '=' :: back := by
    rw [hpair, List.dropWhile_append_of_pos hplain]
    simp
  rw [readPair, splitOnce, entryOf, keyOf, valueOf, htake, hdrop, hpair,
    splitFirst_append hfront]
  rfl

theorem readPair_of_not_mem (h : '=' ∉ pair.toList) :
    readPair pair = .error (.malformedPair pair) := by
  unfold readPair
  cases hsplit : splitOnce '=' pair with
  | none => rfl
  | some e =>
    obtain ⟨hpair, -⟩ := splitOnce_eq_some hsplit
    refine absurd ?_ h
    rw [hpair]
    simp

theorem readPairs_of_wellFormed (h : WellFormed pairs) :
    readPairs pairs = .ok (pairs.map entryOf) := by
  induction pairs with
  | nil => rfl
  | cons pair rest ih =>
    obtain ⟨hpair, hrest⟩ := List.forall_mem_cons.mp h
    rw [readPairs, readPair_of_mem hpair, ih hrest]
    rfl

theorem readPairs_of_malformed (h : pairs.find? (fun pair => '=' ∉ pair.toList) = some pair) :
    readPairs pairs = .error (.malformedPair pair) := by
  induction pairs with
  | nil => cases h
  | cons other rest ih =>
    rw [List.find?_cons] at h
    by_cases hother : '=' ∈ other.toList
    · rw [readPairs, readPair_of_mem hother, ih (by simpa [hother] using h)]
      rfl
    · have hsame : other = pair := by simpa [hother] using h
      rw [readPairs, readPair_of_not_mem hother, hsame]

theorem ofPairs_gives (h : WellFormed pairs) :
    Gives (lastValue pairs) Options.default (ofPairs pairs) := by
  have hlookup : ∀ x, (Ascending.ofEntries (pairs.map entryOf)).lookup x
      = lastValue pairs x := by
    intro x
    rw [Ascending.lookup_ofEntries, List.filter_map, List.getLast?_map, Option.map_map]
    rfl
  have hstrict := Ascending.strict_ofEntries (pairs.map entryOf)
  have hgives := setAll_gives hstrict ?_ .default
  · rw [funext hlookup] at hgives
    rw [ofPairs, readPairs_of_wellFormed h]
    exact hgives
  · intro e he
    have hvalue := Ascending.lookup_of_mem hstrict he
    rw [hlookup] at hvalue
    obtain ⟨pair, -, hpair⟩ := Option.map_eq_some_iff.mp hvalue
    rw [← hpair, valueOf, trim_trim]

theorem ofPairs_congr (h : WellFormed pairs) (h' : WellFormed pairs')
    (hsame : ∀ key ∈ knownKeys, lastValue pairs' key = lastValue pairs key) :
    ofPairs pairs' = ofPairs pairs :=
  (ofPairs_gives h').unique ((ofPairs_gives h).congr hsame)

theorem wellFormed_iff :
    WellFormed pairs ↔ pairs.find? (fun pair => '=' ∉ pair.toList) = none := by
  simp [WellFormed]

theorem ofPairs_malformed :
    ofPairs pairs = .error (.malformedPair pair)
      ↔ pairs.find? (fun pair => '=' ∉ pair.toList) = some pair := by
  constructor
  · intro h
    cases hfind : pairs.find? (fun pair => '=' ∉ pair.toList) with
    | none =>
      have hgives := ofPairs_gives (wellFormed_iff.mpr hfind)
      rw [h] at hgives
      cases hgives
    | some other =>
      rw [ofPairs, readPairs_of_malformed hfind] at h
      cases h
      rfl
  · intro h
    rw [ofPairs, readPairs_of_malformed h]
    rfl

theorem lastValue_known {key : String} (h : key ∈ knownKeys) :
    lastValue (pairs.filter fun pair => keyOf pair ∈ knownKeys) key = lastValue pairs key := by
  have hfilter : ∀ pair ∈ pairs, (keyOf pair == key && decide (keyOf pair ∈ knownKeys))
      = (keyOf pair == key) := by
    intro pair _
    by_cases hkey : keyOf pair = key
    · simp [hkey, h]
    · simp [hkey]
  rw [lastValue, List.filter_filter, List.filter_congr hfilter, lastValue]

/-- Neighbours with different keys may change places. -/
theorem filter_swap {first second : String} (h : keyOf first ≠ keyOf second)
    (rest : List String) (key : String) :
    (second :: first :: rest).filter (fun pair => keyOf pair == key)
      = (first :: second :: rest).filter fun pair => keyOf pair == key := by
  by_cases hkey : keyOf first = key
  · have hother : keyOf second ≠ key := fun hsecond => h (hkey.trans hsecond.symm)
    simp [hkey, hother]
  · simp [List.filter_cons, hkey]

end Texts

/-- The first text without an equals sign is the error.  When every text has one, the last
    value of each key counts: if a known key has one that its option does not accept, the
    error names the smallest such key in the order of bytes, with the value and what is
    expected; otherwise the options are the default ones with the values of the known keys,
    and the budget is positive and of 32 bits.  Texts of unknown keys make no difference, nor
    does the order of texts with different keys. -/
theorem ofPairs_exact (pairs : List String) :
    (∀ pair, ofPairs pairs = .error (.malformedPair pair)
        ↔ pairs.find? (fun pair => '=' ∉ pair.toList) = some pair)
      ∧ (WellFormed pairs →
        ((∃ e, ofPairs pairs = .error e)
            ↔ ∃ key text, lastValue pairs key = some text ∧ ¬ IsValue key text)
          ∧ (∀ e, ofPairs pairs = .error e → ∃ key text,
              e = .invalidValue key text (expectation key)
                ∧ lastValue pairs key = some text ∧ ¬ IsValue key text
                ∧ ∀ key' text', lastValue pairs key' = some text' → ¬ IsValue key' text' →
                  utf8 key ≤ utf8 key')
          ∧ (∀ o, ofPairs pairs = .ok o ↔ IsGivenBy o (lastValue pairs) Options.default)
          ∧ (∀ o, ofPairs pairs = .ok o →
              1 ≤ o.maxDeferredRounds ∧ o.maxDeferredRounds < 2 ^ 32)
          ∧ ofPairs (pairs.filter fun pair => keyOf pair ∈ knownKeys) = ofPairs pairs
          ∧ ∀ pairs', pairs'.Perm pairs →
              (∀ key, pairs'.filter (fun pair => keyOf pair == key)
                = pairs.filter fun pair => keyOf pair == key) →
              ofPairs pairs' = ofPairs pairs) := by
  refine ⟨fun pair => ofPairs_malformed, fun hwell => ?_⟩
  have hgives := ofPairs_gives hwell
  refine ⟨hgives.error_iff, fun e => hgives.of_error, fun o => hgives.ok_iff, ?_, ?_, ?_⟩
  · intro o h
    exact (hgives.ok_iff.mp h).bounds
  · refine ofPairs_congr hwell ?_ fun key => lastValue_known
    intro pair hpair
    exact hwell pair (List.mem_filter.mp hpair).1
  · intro pairs' hperm hfilter
    refine ofPairs_congr hwell (fun pair hpair => hwell pair (hperm.mem_iff.mp hpair)) ?_
    intro key _
    rw [lastValue, hfilter, lastValue]

def someTexts : List String :=
  ["ktorgen_check_type=7", " ktorgen_experimental = YES", "other=1",
    "ktorgen_max_deferred_rounds=+07", "ktorgen_check_type = 2"]

theorem ofPairs_exact_of_some :
    WellFormed someTexts
      ∧ IsGivenBy ⟨.warnings, false, true, 7⟩ (lastValue someTexts) Options.default
      ∧ ofPairs (" ktorgen_experimental = YES" :: "ktorgen_check_type=7" :: someTexts.drop 2)
        = .ok ⟨.warnings, false, true, 7⟩ := by
  have hwell : WellFormed someTexts := by decide
  have hread : ofPairs someTexts = .ok ⟨.warnings, false, true, 7⟩ := by decide +kernel
  obtain ⟨-, -, hgiven, -, -, horder⟩ := (ofPairs_exact someTexts).2 hwell
  refine ⟨hwell, (hgiven _).mp hread, ?_⟩
  rw [← hread]
  apply horder
  · exact .swap ..
  · exact filter_swap (by decide) _

example : ofPairs ["ktorgen_max_deferred_rounds=0", "ktorgen_check_type=7"]
    = .error (.invalidValue checkLevelKey "7" "0, 1 or 2") := by
  decide +kernel

end ClientGen.Options
