import Arazzo.Inputs
import Arazzo.Proofs.Document.Entries
import Arazzo.Proofs.Document.Keys
import Arazzo.Proofs.Document.Named
import Arazzo.Proofs.Except
import Arazzo.Proofs.Json.RoundTrip
import Arazzo.Proofs.Text.Trim

/-!
# What a workflow gets as inputs

Under a name a workflow gets the value of the last text for that name, and else what the inputs document
holds for the workflow. Nothing is changed under the identifiers of other workflows.
-/

namespace Arazzo

namespace Named

variable {α : Type}

theorem find?_put (name other : String) (value : α) (named : Named α) :
    (put name value named).find? other = if name = other then some value else named.find? other := by
  unfold find?
  induction named with
  | nil => by_cases h : name = other <;> simp [put, h]
  | cons p rest ih =>
    rw [put]
    split_ifs with hname hother hother <;> by_cases hp : p.1 = other <;> simp_all

/-- A name that is not set keeps its value. -/
theorem find?_overlay_of_not_mem {name : String} {changed : Named α}
    (h : name ∉ changed.map Prod.fst) (named : Named α) :
    (overlay named changed).find? name = named.find? name := by
  induction changed generalizing named with
  | nil => rfl
  | cons p rest ih =>
    rw [List.map_cons, List.mem_cons, not_or] at h
    rw [overlay_cons, ih h.2, find?_put, if_neg (Ne.symm h.1)]

end Named

theorem Scalar.text_same_iff (s : String) (k : Scalar) :
    (Scalar.text s).same k = true ↔ k = .text s := by
  rw [Scalar.same_iff, eq_comm, ← Scalar.same_iff, Scalar.same_text_iff]

namespace Entries

theorem hasDistinctKeys_ofTexts {pairs : List (String × Value)} (h : (pairs.map Prod.fst).Nodup) :
    HasDistinctKeys (ofTexts pairs) := by
  unfold HasDistinctKeys ofTexts
  rw [List.pairwise_map]
  refine (List.pairwise_map.mp h).imp fun {a b} hne => ?_
  rw [Bool.eq_false_iff]
  exact fun hsame => hne (Scalar.text.inj ((Scalar.same_text_iff _ _).mp hsame))

theorem find?_ofTexts (name : String) (pairs : Named Value) :
    find? (.text name) (ofTexts pairs) = pairs.find? name := by
  unfold ofTexts Named.find?
  induction pairs with
  | nil => rfl
  | cons p rest ih =>
    rw [List.map_cons, find?]
    by_cases hp : p.1 = name <;> simp [hp, ih]

theorem find?_ofTexts_of_ne {key : Scalar} (h : ∀ name, key ≠ .text name) (pairs : Named Value) :
    find? key (ofTexts pairs) = none := by
  refine find?_eq_none key fun entry hentry => ?_
  obtain ⟨p, -, rfl⟩ := List.mem_map.mp hentry
  rw [Bool.eq_false_iff]
  exact fun hsame => h p.1 ((Scalar.text_same_iff _ _).mp hsame)

end Entries

namespace Inputs

open Text (strip)

/-! ## Texts -/

/-- The JSON value that characters denote, or the characters themselves if they denote none. -/
inductive IsValueOf (cs : List Char) : Value → Prop
  | json {v : Value} : Json.read? cs = some v → IsValueOf cs v
  | verbatim : Json.read? cs = none → IsValueOf cs (.text (String.ofList cs))

/-- A text with a value for a name. The name stands in front of the first equals sign, with or without
space around it, and all that follows is the value. -/
inductive Gives (name : String) (v : Value) (text : String) : Prop
  | intro {front back : List Char} : text.toList = front ++ '=' :: back → '=' ∉ front →
      String.ofList (strip front) = name → IsValueOf back v → Gives name v text

/-- The last text for a name has this value. -/
inductive GivesLast (texts : List String) (name : String) (v : Value) : Prop
  | intro {before after : List String} {text : String} : texts = before ++ text :: after →
      Gives name v text → (∀ later ∈ after, ∀ w, ¬ Gives name w later) → GivesLast texts name v

theorem isValueOf_iff {cs : List Char} {v : Value} : IsValueOf cs v ↔ valueOf cs = v := by
  unfold valueOf
  constructor
  · rintro (h | h)
    · rw [h, Option.getD_some]
    · rw [h, Option.getD_none]
  · rintro rfl
    cases h : Json.read? cs with
    | none => exact .verbatim h
    | some v => exact .json h

/-- What is written as JSON stands for the value that was written. -/
theorem isValueOf_write {v : Value} (hv : v.IsData) {text : String}
    (h : Json.write .spaced v = .ok text) : IsValueOf text.toList v :=
  .json (Json.read?_write hv h)

theorem parse_ok_iff {text : String} {p : String × Value} :
    parse text = .ok p ↔ Gives p.1 p.2 text := by
  unfold parse
  constructor
  · intro h
    split at h
    · next front back hcut =>
      obtain rfl := Except.ok.inj h
      obtain ⟨htext, hfront⟩ := Text.eq_of_cutAt hcut
      exact .intro htext hfront rfl (isValueOf_iff.mpr rfl)
    · cases h
  · rintro ⟨htext, hfront, hname, hvalue⟩
    simp only [htext, Text.cutAt_append hfront, hname, isValueOf_iff.mp hvalue]

/-- A text is for one name. -/
theorem Gives.name_eq {name name' text : String} {v v' : Value} (h : Gives name v text)
    (h' : Gives name' v' text) : name = name' := by
  have hpairs := (parse_ok_iff (p := (name, v)).mpr h).symm.trans
    (parse_ok_iff (p := (name', v')).mpr h')
  exact (Prod.mk.inj (Except.ok.inj hpairs)).1

theorem exists_parse_ok {text : String} (h : '=' ∈ text.toList) : ∃ p, parse text = .ok p := by
  obtain ⟨front, back, htext, hfront⟩ := List.eq_append_cons_of_mem h
  exact ⟨(_, valueOf back), parse_ok_iff.mpr (.intro htext hfront rfl (isValueOf_iff.mpr rfl))⟩

/-- Among texts there is a last one for a name, or none is for it. -/
theorem exists_givesLast_or (texts : List String) (name : String) :
    (∃ v, GivesLast texts name v) ∨ ∀ text ∈ texts, ∀ v, ¬ Gives name v text := by
  induction texts with
  | nil => exact .inr fun text htext => absurd htext List.not_mem_nil
  | cons text rest ih =>
    rcases ih with ⟨v, ⟨rfl, hgives, hlast⟩⟩ | hnone
    · exact .inl ⟨v, .intro (List.cons_append).symm hgives hlast⟩
    · by_cases hgives : ∃ v, Gives name v text
      · obtain ⟨v, hgives⟩ := hgives
        exact .inl ⟨v, .intro (List.nil_append _).symm hgives hnone⟩
      · exact .inr (List.forall_mem_cons.mpr ⟨not_exists.mp hgives, hnone⟩)

section
variable {texts : List String} {pairs : Named Value}

theorem not_mem_of_forall {name : String}
    (hpairs : List.Forall₂ (fun text p => parse text = .ok p) texts pairs)
    (h : ∀ text ∈ texts, ∀ v, ¬ Gives name v text) : name ∉ pairs.map Prod.fst := by
  induction hpairs with
  | nil => exact List.not_mem_nil
  | cons hparse _ ih =>
    rw [List.forall_mem_cons] at h
    rw [List.map_cons, List.mem_cons, not_or]
    refine ⟨?_, ih h.2⟩
    rintro rfl
    exact h.1 _ (parse_ok_iff.mp hparse)

/-- What texts set under a name is the value of the last of them for that name. -/
theorem find?_overlay_of_givesLast {name : String} {v : Value}
    (hpairs : List.Forall₂ (fun text p => parse text = .ok p) texts pairs)
    (h : GivesLast texts name v) (named : Named Value) :
    (Named.overlay named pairs).find? name = some v := by
  induction hpairs generalizing named with
  | nil =>
    obtain ⟨htexts, -, -⟩ := h
    simp at htexts
  | @cons text p rest pairs hparse hrest ih =>
    rw [Named.overlay_cons]
    by_cases hlater : GivesLast rest name v
    · exact ih hlater _
    · obtain ⟨htexts, hgives, hlast⟩ := h
      rename_i before after _
      cases before with
      | nil =>
        obtain ⟨rfl, rfl⟩ := List.cons.inj htexts
        obtain rfl := Except.ok.inj (hparse.symm.trans (parse_ok_iff (p := (name, v)).mpr hgives))
        rw [Named.find?_overlay_of_not_mem (not_mem_of_forall hrest hlast), Named.find?_put,
          if_pos rfl]
      | cons first before =>
        exact absurd (.intro (List.cons.inj htexts).2 hgives hlast) hlater

theorem find?_overlay_of_forall {name : String}
    (hpairs : List.Forall₂ (fun text p => parse text = .ok p) texts pairs)
    (h : ∀ text ∈ texts, ∀ v, ¬ Gives name v text) : (Named.overlay [] pairs).find? name = none :=
  Named.find?_overlay_of_not_mem (not_mem_of_forall hpairs h) []

end

/-! ## Overriding -/

/-- A mapping of mappings. -/
def AreMappings (inputs : Entries) : Prop := ∀ entry ∈ inputs, ∃ held, entry.2 = .map held

/-- What stands under a key among the inputs of a workflow. -/
def inputOf (inputs : Entries) (workflowId : String) (key : Scalar) : Option Value :=
  ((Entries.get? inputs workflowId).bind Value.map?).bind (Entries.find? key)

section
variable {overrides : Named Value} {inputs : Entries}

theorem find?_override_of_ne {key : Scalar} {workflowId : String} (h : key ≠ .text workflowId) :
    Entries.find? key (override overrides inputs workflowId) = Entries.find? key inputs := by
  rw [override, Entries.find?_insert, if_neg fun hsame => h ((Scalar.text_same_iff _ _).mp hsame)]

theorem AreMappings.override (h : AreMappings inputs) (workflowId : String) :
    AreMappings (override overrides inputs workflowId) := by
  intro entry hentry
  rcases Entries.mem_of_mem_insert hentry with hvalue | hentry
  · exact ⟨_, hvalue⟩
  · exact h entry hentry

/-- One workflow gets the overrides over what it has, and no other gets anything. -/
theorem inputOf_override (hdistinct : (overrides.map Prod.fst).Nodup) (id workflowId : String)
    (key : Scalar) : inputOf (override overrides inputs id) workflowId key =
      if id = workflowId then
        (Entries.find? key (Entries.ofTexts overrides)).or (inputOf inputs workflowId key)
      else inputOf inputs workflowId key := by
  unfold inputOf Entries.get?
  split_ifs with hid
  · subst hid
    rw [override, Entries.find?_insert, if_pos ((Scalar.text_same_iff _ _).mpr rfl)]
    simp only [Option.bind_some, Value.map?]
    rw [Entries.find?_insertAll (Entries.hasDistinctKeys_ofTexts hdistinct), ofWorkflow, Entries.get?]
    cases (Entries.find? (.text id) inputs).bind Value.map? <;> rfl
  · rw [find?_override_of_ne fun heq => hid (Scalar.text.inj heq).symm]

/-- Any number of workflows, also with one identifier, get the overrides once. -/
theorem inputOf_foldl (hdistinct : (overrides.map Prod.fst).Nodup) (ids : List String)
    (workflowId : String) (key : Scalar) :
    inputOf (ids.foldl (override overrides) inputs) workflowId key =
      if workflowId ∈ ids then
        (Entries.find? key (Entries.ofTexts overrides)).or (inputOf inputs workflowId key)
      else inputOf inputs workflowId key := by
  induction ids generalizing inputs with
  | nil => rfl
  | cons id rest ih =>
    rw [List.foldl_cons, ih, inputOf_override hdistinct]
    by_cases hid : id = workflowId
    · cases Entries.find? key (Entries.ofTexts overrides) <;> simp [hid]
    · simp [hid, Ne.symm hid]

theorem find?_foldl_of_not_mem {key : Scalar} {ids : List String}
    (h : ∀ id ∈ ids, key ≠ .text id) (inputs : Entries) :
    Entries.find? key (ids.foldl (override overrides) inputs) = Entries.find? key inputs := by
  induction ids generalizing inputs with
  | nil => rfl
  | cons id rest ih =>
    rw [List.forall_mem_cons] at h
    rw [List.foldl_cons, ih h.2, find?_override_of_ne h.1]

end

theorem AreMappings.foldl {inputs : Entries} (h : AreMappings inputs) (overrides : Named Value)
    (ids : List String) : AreMappings (ids.foldl (Inputs.override overrides) inputs) := by
  induction ids generalizing inputs with
  | nil => exact h
  | cons id rest ih => exact ih (h.override id)

/-- The inputs that a run of a workflow gets are those under its identifier. -/
theorem find?_named {inputs : Entries} (h : AreMappings inputs) (workflowId : String) :
    (named inputs).find? workflowId = (Entries.get? inputs workflowId).bind Value.map? := by
  induction inputs with
  | nil => rfl
  | cons entry rest ih =>
    obtain ⟨⟨held, hheld⟩, hrest⟩ := List.forall_mem_cons.mp h
    obtain ⟨k, v⟩ := entry
    obtain rfl : v = .map held := hheld
    have hih := ih hrest
    unfold named Entries.get? Named.find? at hih ⊢
    rw [Entries.find?]
    by_cases hk : k = .text workflowId
    · subst hk
      simp [Value.map?]
    · rw [if_neg ((Scalar.same_text_iff k workflowId).not.mpr hk), ← hih]
      cases k with
      | text id =>
        have hne : id ≠ workflowId := fun heq => hk (congrArg Scalar.text heq)
        simp [hne]
      | _ => rfl

/-! ## Collecting -/

/-- An inputs document and what it holds: it is missing, or a mapping of mappings. -/
inductive Holds : Option Value → Entries → Prop
  | missing : Holds none []
  | mapping {inputs : Entries} : AreMappings inputs → Holds (some (.map inputs)) inputs

section
variable {document : Option Value} {held : Entries} {overrides : Named Value}

theorem Holds.areMappings (h : Holds document held) : AreMappings held := by
  cases h with
  | missing => exact fun entry hentry => absurd hentry List.not_mem_nil
  | mapping h => exact h

theorem Holds.collect_eq (h : Holds document held) {texts : List String} {pairs : Named Value}
    (hpairs : texts.mapM parse = .ok pairs) (workflows : List Workflow) :
    collect workflows document texts = .ok (overrideAll workflows (Named.overlay [] pairs) held) := by
  unfold collect
  cases h with
  | missing => rw [hpairs]; rfl
  | mapping h =>
    have hall : (held.all fun entry => entry.2.map?.isSome) = true := by
      refine List.all_eq_true.mpr fun entry hentry => ?_
      obtain ⟨inputs, hinputs⟩ := h entry hentry
      rw [hinputs]
      rfl
    rw [hpairs]
    simp only [ofDocument, hall, if_true]
    rfl

/-- Setting nothing is the same as setting it over every workflow. -/
theorem inputOf_overrideAll (hdistinct : (overrides.map Prod.fst).Nodup) {workflows : List Workflow}
    {workflowId : String} (h : workflowId ∈ workflows.map Workflow.workflowId) (inputs : Entries)
    (key : Scalar) : inputOf (overrideAll workflows overrides inputs) workflowId key =
      (Entries.find? key (Entries.ofTexts overrides)).or (inputOf inputs workflowId key) := by
  unfold overrideAll
  cases overrides with
  | nil => rfl
  | cons p rest => rw [List.isEmpty_cons, if_neg Bool.false_ne_true, inputOf_foldl hdistinct, if_pos h]

theorem find?_overrideAll_of_forall {key : Scalar} {workflows : List Workflow}
    (h : ∀ id ∈ workflows.map Workflow.workflowId, key ≠ .text id) (inputs : Entries) :
    Entries.find? key (overrideAll workflows overrides inputs) = Entries.find? key inputs := by
  unfold overrideAll
  split_ifs
  · rfl
  · exact find?_foldl_of_not_mem h inputs

theorem AreMappings.overrideAll {inputs : Entries} (h : AreMappings inputs)
    (workflows : List Workflow) (overrides : Named Value) :
    AreMappings (overrideAll workflows overrides inputs) := by
  unfold Inputs.overrideAll
  split_ifs
  · exact h
  · exact h.foldl overrides _

end

/-- Under a name a workflow of the document gets the value of the last text for that name, else what
the inputs document holds for it, else nothing. Other identifiers keep their inputs. What is found
under an identifier is what its workflow is run with. -/
theorem collect_spec (workflows : List Workflow) {document : Option Value} {held : Entries}
    (hdocument : Holds document held) {texts : List String}
    (htexts : ∀ text ∈ texts, '=' ∈ text.toList) :
    ∃ inputs, collect workflows document texts = .ok inputs ∧
      (∀ id ∈ workflows.map Workflow.workflowId,
        (∀ name v, GivesLast texts name v → inputOf inputs id (.text name) = some v) ∧
        (∀ name, (∃ v, GivesLast texts name v) ∨ (∀ text ∈ texts, ∀ v, ¬ Gives name v text) ∧
          inputOf inputs id (.text name) = inputOf held id (.text name)) ∧
        ∀ key, (∀ name, key ≠ .text name) → inputOf inputs id key = inputOf held id key) ∧
      (∀ key, (∀ id ∈ workflows.map Workflow.workflowId, key ≠ .text id) →
        Entries.find? key inputs = Entries.find? key held) ∧
      (texts = [] → inputs = held) ∧
      ∀ id, (named inputs).find? id = (Entries.get? inputs id).bind Value.map? := by
  obtain ⟨pairs, hmapM⟩ : ∃ pairs, texts.mapM parse = .ok pairs :=
    exists_mapM_ok.mpr fun text htext => exists_parse_ok (htexts text htext)
  have hpairs := mapM_ok_iff.mp hmapM
  have hdistinct : ((Named.overlay [] pairs).map Prod.fst).Nodup :=
    Named.nodup_overlay pairs List.nodup_nil
  refine ⟨_, hdocument.collect_eq hmapM workflows, fun id hid => ⟨fun name v hlast => ?_,
    fun name => (exists_givesLast_or texts name).imp_right fun hnone => ⟨hnone, ?_⟩,
    fun key hkey => ?_⟩, fun key hkey => find?_overrideAll_of_forall hkey held, ?_,
    find?_named (hdocument.areMappings.overrideAll workflows _)⟩
  · rw [inputOf_overrideAll hdistinct hid, Entries.find?_ofTexts,
      find?_overlay_of_givesLast hpairs hlast, Option.some_or]
  · rw [inputOf_overrideAll hdistinct hid, Entries.find?_ofTexts,
      find?_overlay_of_forall hpairs hnone, Option.none_or]
  · rw [inputOf_overrideAll hdistinct hid, Entries.find?_ofTexts_of_ne hkey, Option.none_or]
  · rintro rfl
    cases hpairs
    rfl

namespace Stated

def workflow : Workflow := ⟨"w", none, none, none, none, [], none, none, none, none, []⟩

/-- Inputs of a workflow that is there and of one that is not. -/
def held : Entries :=
  [(.text "w", .map [(.text "a", .int 0), (.text "c", .int 5)]),
    (.text "v", .map [(.text "a", .int 7)])]

/-- Two texts for one name, of which the later is no JSON and holds a further equals sign. -/
def texts : List String := ["a=1", " a =2=3", "b=[true]"]

theorem holds_held : Holds (some (.map held)) held := by
  refine .mapping fun entry hentry => ?_
  simp only [held, List.mem_cons, List.not_mem_nil, or_false] at hentry
  rcases hentry with rfl | rfl
  · exact ⟨_, rfl⟩
  · exact ⟨_, rfl⟩

end Stated

/-- The workflow is there twice, which makes no difference. -/
theorem collect_spec_stated : Holds (some (.map Stated.held)) Stated.held ∧
    (∀ text ∈ Stated.texts, '=' ∈ text.toList) ∧
    ∃ inputs, collect [Stated.workflow, Stated.workflow] (some (.map Stated.held)) Stated.texts =
        .ok inputs ∧
      inputOf inputs "w" (.text "a") = some (.text "2=3") ∧
      inputOf inputs "w" (.text "b") = some (.list [.bool true]) ∧
      Entries.find? (.text "v") inputs = Entries.find? (.text "v") Stated.held := by
  have htexts : ∀ text ∈ Stated.texts, '=' ∈ text.toList := by decide
  obtain ⟨inputs, hcollect, hids, hothers, -⟩ :=
    collect_spec [Stated.workflow, Stated.workflow] Stated.holds_held htexts
  obtain ⟨hlast, -⟩ := hids "w" (by decide)
  have hb : Gives "b" (.list [.bool true]) "b=[true]" :=
    @Gives.intro _ _ _ ['b'] "[true]".toList rfl (by decide) (by decide) (.json rfl)
  have ha : Gives "a" (.text "2=3") " a =2=3" :=
    @Gives.intro _ _ _ [' ', 'a', ' '] "2=3".toList rfl (by decide) (by decide) (.verbatim rfl)
  refine ⟨Stated.holds_held, htexts, inputs, hcollect, hlast _ _ ?_, hlast _ _ ?_,
    hothers _ (by decide)⟩
  · refine @GivesLast.intro _ _ _ ["a=1"] ["b=[true]"] _ rfl ha ?_
    intro later hlater w hgives
    obtain rfl := List.mem_singleton.mp hlater
    exact absurd (hgives.name_eq hb) (by decide)
  · refine @GivesLast.intro _ _ _ ["a=1", " a =2=3"] [] _ rfl hb ?_
    intro later hlater
    exact absurd hlater List.not_mem_nil

end Inputs
end Arazzo
