import Arazzo.Proofs.Expression.Defects
import Arazzo.Proofs.Expression.PathTokens

/-!
# Paths that lead nowhere

A path that is read has a parent in it only if a backquote stands in its text, and an intersection only
if an ampersand does. Without an intersection it can fail in two ways: its evaluation comes to a value
that nothing is around, and asks for the parent of this value, or it goes through the mapping of steps
while this mapping holds itself. What it comes to first counts.
-/

namespace Arazzo
namespace Path

variable {cs : List Char} {path : Path} {tokens : List Token}

/-! ## What a path that is read consists of -/

/-- The characters that a path cannot do without stand in a text. -/
inductive IsWritten (cs : List Char) : Path → Prop
  | root : IsWritten cs .root
  | this : IsWritten cs .this
  | parent : backquote ∈ cs → IsWritten cs .parent
  | fields (names : List String) : IsWritten cs (.fields names)
  | every : IsWritten cs .every
  | index (positions : List Int) : IsWritten cs (.index positions)
  | slice (start stop step : Option Int) : IsWritten cs (.slice start stop step)
  | child {outer inner : Path} : IsWritten cs outer → IsWritten cs inner →
      IsWritten cs (.child outer inner)
  | descendants {outer inner : Path} : IsWritten cs outer → IsWritten cs inner →
      IsWritten cs (.descendants outer inner)
  | union {left right : Path} : IsWritten cs left → IsWritten cs right →
      IsWritten cs (.union left right)
  | intersection {left right : Path} : '&' ∈ cs → IsWritten cs left → IsWritten cs right →
      IsWritten cs (.intersection left right)
  | having {outer inner : Path} : IsWritten cs outer → IsWritten cs inner →
      IsWritten cs (.having outer inner)
  | lacking {outer inner : Path} : IsWritten cs outer → IsWritten cs inner →
      IsWritten cs (.lacking outer inner)

def Joint.IsWritten (cs : List Char) (joint : Joint) : Prop := joint = .intersection → '&' ∈ cs

theorem Joint.IsWritten.apply {joint : Joint} (hjoint : joint.IsWritten cs) {left right : Path}
    (hleft : left.IsWritten cs) (hright : right.IsWritten cs) : (joint.apply left right).IsWritten cs := by
  cases joint with
  | descendants => exact .descendants hleft hright
  | child => exact .child hleft hright
  | union => exact .union hleft hright
  | intersection => exact .intersection (hjoint rfl) hleft hright
  | having => exact .having hleft hright
  | lacking => exact .lacking hleft hright

theorem Joint.ofToken?_mark (c : Char) : ofToken? (.mark c) =
    if c = '.' then some .child
    else if c = '|' then some .union
    else if c = '&' then some .intersection
    else none := rfl

theorem Joint.isWritten_of_ofToken? {token : Token} {joint : Joint} (htoken : token.IsWritten cs)
    (h : ofToken? token = some joint) : joint.IsWritten cs := by
  rintro rfl
  cases htoken with
  | @mark c hc =>
    rw [ofToken?_mark] at h
    split_ifs at h with _ _ hand
    · cases h
    · cases h
    · exact hand ▸ hc
  | _ => cases h

/-- Everything that is read so far is written in a text. -/
structure Level.IsWritten (cs : List Char) (level : Level) : Prop where
  waiting : ∀ entry ∈ level.waiting, entry.1.IsWritten cs ∧ entry.2.IsWritten cs
  operand : ∀ path, level.operand = .complete path → path.IsWritten cs

namespace Level

variable {level next : Level}

theorem isWritten_empty : Level.empty.IsWritten cs := ⟨nofun, nofun⟩

theorem isWritten_reduce (rank : Nat) {waiting : List (Path × Joint)}
    (hwaiting : ∀ entry ∈ waiting, entry.1.IsWritten cs ∧ entry.2.IsWritten cs)
    (hpath : path.IsWritten cs) :
    (∀ entry ∈ (reduce rank waiting path).1, entry.1.IsWritten cs ∧ entry.2.IsWritten cs) ∧
      (reduce rank waiting path).2.IsWritten cs := by
  induction waiting generalizing path with
  | nil => exact ⟨hwaiting, hpath⟩
  | cons entry rest ih =>
    obtain ⟨left, joint⟩ := entry
    obtain ⟨⟨hleft, hjoint⟩, hrest⟩ := List.forall_mem_cons.mp hwaiting
    rw [reduce]
    split_ifs
    · exact ih hrest (hjoint.apply hleft hpath)
    · exact ⟨hwaiting, hpath⟩

theorem IsWritten.operand_path? (h : level.IsWritten cs) (hpath : level.operand.path? = some path) :
    path.IsWritten cs := by
  cases hoperand : level.operand with
  | complete found =>
    rw [hoperand] at hpath
    cases hpath
    exact h.operand _ hoperand
  | names taken =>
    rw [hoperand] at hpath
    cases hpath
    exact .fields _
  | missing =>
    rw [hoperand] at hpath
    cases hpath
  | namesOpen taken =>
    rw [hoperand] at hpath
    cases hpath

theorem IsWritten.close? (h : level.IsWritten cs) (hclose : level.close? = some path) :
    path.IsWritten cs := by
  obtain ⟨operand, hoperand, rfl⟩ := Option.map_eq_some_iff.mp hclose
  exact (isWritten_reduce 0 h.waiting (h.operand_path? hoperand)).2

theorem IsWritten.put? (h : level.IsWritten cs) (hpath : path.IsWritten cs)
    (hput : level.put? path = some next) : next.IsWritten cs := by
  unfold Level.put? at hput
  split at hput
  · cases hput
    exact ⟨h.waiting, fun _ heq => Operand.complete.inj heq ▸ hpath⟩
  · cases hput

theorem IsWritten.join? (h : level.IsWritten cs) {joint : Joint} (hjoint : joint.IsWritten cs)
    (hjoin : level.join? joint = some next) : next.IsWritten cs := by
  obtain ⟨operand, hoperand, rfl⟩ := Option.map_eq_some_iff.mp hjoin
  obtain ⟨hwaiting, hleft⟩ := isWritten_reduce joint.rank h.waiting (h.operand_path? hoperand)
  exact ⟨List.forall_mem_cons.mpr ⟨⟨hleft, hjoint⟩, hwaiting⟩, nofun⟩

theorem IsWritten.name? (h : level.IsWritten cs) {s : String} (hname : level.name? s = some next) :
    next.IsWritten cs := by
  unfold Level.name? at hname
  split at hname
  · cases hname
    exact ⟨h.waiting, nofun⟩
  · cases hname
    exact ⟨h.waiting, nofun⟩
  · cases hname

theorem IsWritten.comma? (h : level.IsWritten cs) (hcomma : level.comma? = some next) :
    next.IsWritten cs := by
  unfold Level.comma? at hcomma
  split at hcomma
  · cases hcomma
    exact ⟨h.waiting, nofun⟩
  · cases hcomma

theorem IsWritten.bracket? (h : level.IsWritten cs) (hpath : path.IsWritten cs)
    (hbracket : level.bracket? path = some next) : next.IsWritten cs := by
  unfold Level.bracket? at hbracket
  split at hbracket
  · exact h.put? hpath hbracket
  · obtain ⟨outer, houter, rfl⟩ := Option.map_eq_some_iff.mp hbracket
    exact ⟨nofun, fun _ heq => Operand.complete.inj heq ▸ .child (h.close? houter) hpath⟩

end Level

/-- Nothing but steps down stands between brackets. -/
theorem isWritten_of_bracketed? (h : bracketed? tokens = some path) : path.IsWritten cs := by
  unfold bracketed? at h
  split_ifs at h
  · cases h
    exact .every
  · split at h
    · cases h
      exact .index _
    · split at h
      · cases h
        exact .fields _
      · unfold slice? at h
        split at h
        · simp only [Option.bind_eq_bind, Option.bind_eq_some_iff, Option.some.injEq] at h
          obtain ⟨start, -, stop, -, rfl⟩ := h
          exact .slice ..
        · simp only [Option.bind_eq_bind, Option.bind_eq_some_iff, Option.some.injEq] at h
          obtain ⟨start, -, stop, -, step, -, rfl⟩ := h
          exact .slice ..
        · cases h

/-- The reader stands behind what is written in a text. -/
structure Progress.IsWritten (cs : List Char) (progress : Progress) : Prop where
  level : progress.level.IsWritten cs
  outer : ∀ level ∈ progress.outer, level.IsWritten cs

namespace Progress

variable {progress next : Progress} {token : Token}

theorem IsWritten.step? (h : progress.IsWritten cs) (htoken : token.IsWritten cs)
    (hstep : progress.step? token = some next) : next.IsWritten cs := by
  have hcontinue {level? : Option Level} (hlevel : ∀ level, level? = some level → level.IsWritten cs)
      (hmap : level?.map (fun level => { progress with level := level }) = some next) :
      next.IsWritten cs := by
    obtain ⟨level, hsome, rfl⟩ := Option.map_eq_some_iff.mp hmap
    exact ⟨hlevel level hsome, h.outer⟩
  cases hjoint : Joint.ofToken? token with
  | some joint =>
    simp only [Progress.step?, hjoint] at hstep
    exact hcontinue (fun _ => h.level.join? (Joint.isWritten_of_ofToken? htoken hjoint)) hstep
  | none =>
    simp only [Progress.step?, hjoint] at hstep
    split at hstep
    · exact hcontinue (fun _ => h.level.name?) hstep
    · exact hcontinue (fun _ => h.level.put? (.fields _)) hstep
    · cases htoken with
      | operator _ hquote =>
        split_ifs at hstep
        · exact hcontinue (fun _ => h.level.put? .this) hstep
        · exact hcontinue (fun _ => h.level.put? (.parent hquote)) hstep
    · exact hcontinue (fun _ => h.level.put? .root) hstep
    · exact hcontinue (fun _ => h.level.put? .every) hstep
    · exact hcontinue (fun _ => h.level.comma?) hstep
    -- An opening bracket leaves the level as it is.
    · split at hstep
      · cases hstep
      · cases hstep
        exact ⟨h.level, h.outer⟩
    -- An opening parenthesis begins a level, a closing one puts what it holds into the level around it.
    · split at hstep
      · cases hstep
        exact ⟨Level.isWritten_empty, List.forall_mem_cons.mpr ⟨h.level, h.outer⟩⟩
      · cases hstep
    · split at hstep
      · next level outer houter =>
        simp only [Option.bind_eq_bind, Option.bind_eq_some_iff, Option.some.injEq] at hstep
        obtain ⟨path, hclose, filled, hput, rfl⟩ := hstep
        have hallOuter := h.outer
        rw [houter] at hallOuter
        obtain ⟨hlevel, hrest⟩ := List.forall_mem_cons.mp hallOuter
        exact ⟨hlevel.put? (h.level.close? hclose) hput, hrest⟩
      · cases hstep
    · cases hstep

theorem IsWritten.read? (h : progress.IsWritten cs) (htoken : token.IsWritten cs)
    (hread : progress.read? token = some next) : next.IsWritten cs := by
  unfold Progress.read? at hread
  split at hread
  · exact h.step? htoken hread
  · split_ifs at hread
    · simp only [Option.bind_eq_bind, Option.bind_eq_some_iff, Option.some.injEq] at hread
      obtain ⟨inner, hinner, level, hlevel, rfl⟩ := hread
      exact ⟨h.level.bracket? (isWritten_of_bracketed? hinner) hlevel, h.outer⟩
    · cases hread
      exact ⟨h.level, h.outer⟩

theorem IsWritten.foldlM_read? (h : progress.IsWritten cs) (htokens : ∀ t ∈ tokens, t.IsWritten cs)
    (hread : tokens.foldlM Progress.read? progress = some next) : next.IsWritten cs := by
  induction tokens generalizing progress with
  | nil =>
    cases hread
    exact h
  | cons token rest ih =>
    rw [List.foldlM_cons] at hread
    obtain ⟨behind, hbehind, hrest⟩ := Option.bind_eq_some_iff.mp hread
    obtain ⟨htoken, htokens⟩ := List.forall_mem_cons.mp htokens
    exact ih (h.read? htoken hbehind) htokens hrest

end Progress

/-- What the text of a path does not hold the path does not ask for. -/
theorem isWritten_of_read? (h : read? cs = some path) : path.IsWritten cs := by
  obtain ⟨tokens, htokens, h⟩ := Option.bind_eq_some_iff.mp h
  obtain ⟨done, hdone, h⟩ := Option.bind_eq_some_iff.mp h
  have hstart : Progress.IsWritten cs ⟨.empty, [], none⟩ := ⟨Level.isWritten_empty, nofun⟩
  have hwritten := hstart.foldlM_read? (isWritten_of_tokens? htokens) hdone
  split at h
  · exact hwritten.level.close? h
  · cases h

theorem IsWritten.not_hasIntersection (h : path.IsWritten cs) (hand : '&' ∉ cs) :
    ¬ path.HasIntersection := by
  induction h with
  | intersection hmem => exact absurd hmem hand
  | child _ _ ihouter ihinner => exact not_or.mpr ⟨ihouter, ihinner⟩
  | descendants _ _ ihouter ihinner => exact not_or.mpr ⟨ihouter, ihinner⟩
  | union _ _ ihleft ihright => exact not_or.mpr ⟨ihleft, ihright⟩
  | having _ _ ihouter ihinner => exact not_or.mpr ⟨ihouter, ihinner⟩
  | lacking _ _ ihouter ihinner => exact not_or.mpr ⟨ihouter, ihinner⟩
  | _ => exact id

/-! ## What a path fails with -/

/-- A member has a property, and all in front of it have another one. -/
def ComesFirst {α : Type} (before here : α → Prop) (as : List α) : Prop :=
  ∃ (i : ℕ) (a : α), as[i]? = some a ∧ here a ∧ ∀ j < i, ∀ a', as[j]? = some a' → before a'

theorem ComesFirst.exists_mem {α : Type} {before here : α → Prop} {as : List α}
    (h : ComesFirst before here as) : ∃ a ∈ as, here a := by
  obtain ⟨i, a, ha, hhere, -⟩ := h
  exact ⟨a, List.mem_of_getElem? ha, hhere⟩

/-- A selection works for what is come to. -/
def Works {α : Type} (select : α → Except Defect (List Found)) (a : α) : Prop :=
  ∃ found, select a = .ok found

/-- The path asks for the parent of a value that nothing is around, for everything inside the mapping of
steps while it holds itself, or for an intersection; and this is the first thing that stops it. -/
def FailsWith (d : Defect) : Path → Found → Prop
  | .parent, found => d = .parentOfRoot ∧ found.around = []
  | .child outer inner, found => outer.FailsWith d found ∨
      ∃ selected, outer.select found = .ok selected ∧
        ComesFirst (Works inner.select) (inner.FailsWith d) selected
  | .descendants outer inner, found => outer.FailsWith d found ∨
      ∃ selected, outer.select found = .ok selected ∧
        ComesFirst (Works (Visit.select inner.select))
          (fun visit => visit = .steps ∧ d = .endlessValue ∨
            ∃ f, visit = .value f ∧ inner.FailsWith d f)
          (selected.flatMap Found.descendants)
  | .union left right, found => left.FailsWith d found ∨
      Works left.select found ∧ right.FailsWith d found
  | .intersection .., _ => d = .pathIntersection
  | .having outer inner, found => outer.FailsWith d found ∨
      ∃ selected, outer.select found = .ok selected ∧
        ComesFirst (Works inner.select) (inner.FailsWith d) selected
  | .lacking outer inner, found => outer.FailsWith d found ∨
      ∃ selected, outer.select found = .ok selected ∧
        ComesFirst (Works inner.select) (inner.FailsWith d) selected
  | _, _ => False

/-- Without a parent in it a path never asks for the parent of the root. -/
theorem IsWritten.not_failsWith_parentOfRoot (h : path.IsWritten cs) (hquote : backquote ∉ cs)
    (found : Found) : ¬ path.FailsWith .parentOfRoot found := by
  induction h generalizing found with
  | parent hmem => exact absurd hmem hquote
  | child _ _ ihouter ihinner =>
    rintro (hfails | ⟨_, -, hfirst⟩)
    · exact ihouter found hfails
    · obtain ⟨f, -, hfails⟩ := hfirst.exists_mem
      exact ihinner f hfails
  | descendants _ _ ihouter ihinner =>
    rintro (hfails | ⟨_, -, hfirst⟩)
    · exact ihouter found hfails
    · obtain ⟨visit, -, ⟨-, heq⟩ | ⟨f, -, hfails⟩⟩ := hfirst.exists_mem
      · cases heq
      · exact ihinner f hfails
  | union _ _ ihleft ihright =>
    rintro (hfails | ⟨-, hfails⟩)
    · exact ihleft found hfails
    · exact ihright found hfails
  | intersection => exact nofun
  | having _ _ ihouter ihinner =>
    rintro (hfails | ⟨_, -, hfirst⟩)
    · exact ihouter found hfails
    · obtain ⟨f, -, hfails⟩ := hfirst.exists_mem
      exact ihinner f hfails
  | lacking _ _ ihouter ihinner =>
    rintro (hfails | ⟨_, -, hfirst⟩)
    · exact ihouter found hfails
    · obtain ⟨f, -, hfails⟩ := hfirst.exists_mem
      exact ihinner f hfails
  | _ => exact id

section
variable {d : Defect}

theorem onEach_error_iff {α : Type} {select : α → Except Defect (List Found)} {as : List α} :
    onEach select as = .error d ↔ ComesFirst (Works select) (select · = .error d) as := by
  have hnil : ∃ there, onEach select [] = .ok there := ⟨[], rfl⟩
  exact traverse_error_iff select hnil fun a rest e => both_error_iff

theorem sift_error_iff {select : Found → Except Defect (List Found)} {wanted : Bool}
    {found : List Found} :
    sift select wanted found = .error d ↔ ComesFirst (Works select) (select · = .error d) found := by
  have hnil : ∃ kept, sift select wanted [] = .ok kept := ⟨[], rfl⟩
  exact traverse_error_iff select hnil fun a rest e => both_error_iff

theorem Visit.select_error_iff {select : Found → Except Defect (List Found)} {visit : Visit} :
    visit.select select = .error d ↔ visit = .steps ∧ d = .endlessValue ∨
      ∃ f, visit = .value f ∧ select f = .error d := by
  cases visit with
  | value f => simp [Visit.select]
  | steps => simp [Visit.select, eq_comm]

/-- What a path fails with. -/
theorem select_error_iff (found : Found) : path.select found = .error d ↔ path.FailsWith d found := by
  induction path generalizing found with
  | parent =>
    obtain ⟨value, around, steps⟩ := found
    cases around with
    | nil => simp [select, FailsWith, eq_comm]
    | cons outer around => simp [select, FailsWith]
  | child outer inner ihouter ihinner =>
    simp only [select, FailsWith, bind_error_iff, ihouter, onEach_error_iff, ihinner]
  | descendants outer inner ihouter ihinner =>
    simp only [select, FailsWith, bind_error_iff, ihouter, onEach_error_iff, ihinner,
      Visit.select_error_iff]
  | union left right ihleft ihright =>
    simp only [select, FailsWith, Works, both_error_iff, ihleft, ihright]
  | intersection left right => simp [select, FailsWith, eq_comm]
  | having outer inner ihouter ihinner =>
    simp only [select, FailsWith, bind_error_iff, ihouter, sift_error_iff, ihinner]
  | lacking outer inner ihouter ihinner =>
    simp only [select, FailsWith, bind_error_iff, ihouter, sift_error_iff, ihinner]
  | _ =>
    constructor
    · intro h
      cases h
    · exact False.elim

end

theorem first_error_iff {document : Document} {d : Defect} :
    path.first document = .error d ↔ path.FailsWith d (.whole document) := by
  rw [first, map_error_iff, select_error_iff]

/-- Where it asks for no intersection, a path fails in two ways. -/
theorem FailsWith.eq_of_not_hasIntersection {found : Found} {d : Defect}
    (h : path.FailsWith d found) (hpath : ¬ path.HasIntersection) :
    d = .parentOfRoot ∨ d = .endlessValue := by
  have herrors : ErrorsIn (fun d => d = .parentOfRoot ∨ d = .endlessValue) (path.select found) :=
    select_errors (.inl rfl) (.inr rfl) (fun hmem => absurd hmem hpath) found
  exact herrors d ((select_error_iff found).mpr h)

end Path
end Arazzo
