import Arazzo.Proofs.Document.Entries
import Arazzo.Proofs.Document.Keys
import Arazzo.Proofs.Document.Named
import Arazzo.Proofs.Except
import Arazzo.Workflow.Operation
import Mathlib.Data.Prod.Lex
import Mathlib.Order.Bounds.Basic

/-!
# Looking operations up

Among the operations that carry an identifier, an identifier names the one that comes first: by the
position of its document, then by that of its path, then by that of its method in the fixed order. So
there is one exactly if any operation carries the identifier, and what is no mapping where a path or an
operation should be changes nothing.
-/

namespace Arazzo

/-! ## First things found -/

section
variable {ι α β : Type}

/-- What is found among things with positions is the one at the least position, and nothing only if
there is nothing. -/
structure FindsFirst [LE ι] (At : ι → α → Prop) (found : Option α) : Prop where
  absent : found = none → ∀ i a, ¬ At i a
  least : ∀ a, found = some a → ∃ i, At i a ∧ ∀ j b, At j b → i ≤ j

theorem FindsFirst.congr [LE ι] {At At' : ι → α → Prop} {found : Option α}
    (h : FindsFirst At found) (hiff : ∀ i a, At i a ↔ At' i a) : FindsFirst At' found := by
  obtain rfl : At = At' := funext₂ fun i a => propext (hiff i a)
  exact h

theorem FindsFirst.none [LE ι] {At : ι → α → Prop} (h : ∀ i a, ¬ At i a) : FindsFirst At none :=
  ⟨fun _ => h, by simp⟩

theorem findsFirst_findSome? (search : β → Option α) (xs : List β) :
    FindsFirst (fun (i : ℕ) a => ∃ x, xs[i]? = some x ∧ search x = some a) (xs.findSome? search) := by
  constructor
  · rintro hnone i a ⟨x, hx, ha⟩
    simp [List.findSome?_eq_none_iff.mp hnone x (List.mem_of_getElem? hx)] at ha
  · intro a hfound
    obtain ⟨front, x, back, rfl, ha, hfront⟩ := List.findSome?_eq_some_iff.mp hfound
    refine ⟨front.length, ⟨x, by simp, ha⟩, ?_⟩
    rintro j b ⟨y, hy, hb⟩
    by_contra hlt
    rw [List.getElem?_append_left (by omega)] at hy
    simp [hfront y (List.mem_of_getElem? hy)] at hb

/-- If each of several searches finds what comes first, so do they in turn. -/
theorem FindsFirst.findSome? [Preorder ι] {At : β → ι → α → Prop} {search : β → Option α}
    {xs : List β} (h : ∀ x ∈ xs, FindsFirst (At x) (search x)) :
    FindsFirst (fun (p : ℕ ×ₗ ι) a => ∃ x, xs[(ofLex p).1]? = some x ∧ At x (ofLex p).2 a)
      (xs.findSome? search) := by
  have houter := findsFirst_findSome? search xs
  constructor
  · rintro hnone p a ⟨x, hx, ha⟩
    have hmem := List.mem_of_getElem? hx
    exact (h x hmem).absent (List.findSome?_eq_none_iff.mp hnone x hmem) _ _ ha
  · intro a hfound
    obtain ⟨i, ⟨x, hx, hsearch⟩, hleast⟩ := houter.least a hfound
    obtain ⟨j, hj, hinner⟩ := (h x (List.mem_of_getElem? hx)).least a hsearch
    refine ⟨toLex (i, j), ⟨x, hx, hj⟩, ?_⟩
    rintro p b ⟨y, hy, hb⟩
    -- The search that finds something at `p` is not the one before the first that finds anything.
    obtain ⟨c, hc⟩ : ∃ c, search y = some c := by
      rw [← Option.ne_none_iff_exists']
      exact fun hnone => (h y (List.mem_of_getElem? hy)).absent hnone _ _ hb
    rcases (hleast _ c ⟨y, hy, hc⟩).lt_or_eq with hlt | heq
    · exact Prod.Lex.le_iff.mpr (.inl hlt)
    · obtain rfl := Option.some.inj ((heq ▸ hx : xs[(ofLex p).1]? = some x).symm.trans hy)
      exact Prod.Lex.le_iff.mpr (.inr ⟨heq, hinner _ b hb⟩)

end

namespace Operation

/-- What the paths of a document may be: a mapping, nothing at all, or something empty. -/
inductive HasPaths : Value → Prop
  | mapping {document paths : Entries} : Entries.get? document "paths" = some (.map paths) →
      HasPaths (.map document)
  | absent {document : Entries} : Entries.get? document "paths" = none → HasPaths (.map document)
  | empty {document : Entries} {v : Value} : Entries.get? document "paths" = some v →
      v.truthy = false → HasPaths (.map document)

/-- An operation of a path item that carries an identifier, at the position of its method. -/
inductive StandsInPath (id source : String) (document : Entries) (path : Scalar) :
    Value → ℕ → Operation → Prop
  | intro {item declaration : Entries} {k : ℕ} {method : String} :
      methods[k]? = some method → Entries.get? item method = some (.map declaration) →
      Entries.get? declaration "operationId" = some (.text id) →
      StandsInPath id source document path (.map item) k
        ⟨method, path, declaration, document, source⟩

/-- An operation of a document that carries an identifier, at the positions of its path and of its
method, in lexicographic order. -/
inductive StandsInDocument (id source : String) : Value → ℕ ×ₗ ℕ → Operation → Prop
  | intro {document declared : Entries} {j k : ℕ} {path : Scalar} {item : Value}
      {operation : Operation} :
      Entries.get? document "paths" = some (.map declared) → declared[j]? = some (path, item) →
      StandsInPath id source document path item k operation →
      StandsInDocument id source (.map document) (toLex (j, k)) operation

/-- An operation that carries an identifier, at the position of its document in front of those in the
document. -/
inductive StandsAt (documents : ApiDocuments) (id : String) : ℕ ×ₗ ℕ ×ₗ ℕ → Operation → Prop
  | intro {i : ℕ} {p : ℕ ×ₗ ℕ} {source : String} {document : Value} {operation : Operation} :
      documents[i]? = some (source, document) → StandsInDocument id source document p operation →
      StandsAt documents id (toLex (i, p)) operation

section
variable {documents : ApiDocuments} {id source : String} {document : Entries} {path : Scalar}

/-! ## The first operation -/

theorem declared?_eq_some_iff {item declaration : Entries} {method : String} :
    declared? id item method = some declaration ↔
      Entries.get? item method = some (.map declaration) ∧
        Entries.get? declaration "operationId" = some (.text id) := by
  unfold declared?
  constructor
  · intro h
    split at h
    · next found hfound =>
      split_ifs at h with hid
      obtain rfl := Option.some.inj h
      obtain ⟨v, hv, htext⟩ := Option.bind_eq_some_iff.mp hid
      exact ⟨hfound, by rw [hv, Value.text?_eq_some_iff.mp htext]⟩
    · cases h
  · rintro ⟨hmethod, hid⟩
    simp [hmethod, hid, Value.text?]

theorem findsFirst_inPath? (item : Value) :
    FindsFirst (StandsInPath id source document path item)
      (inPath? id source document path item) := by
  cases item with
  | map item =>
    rw [inPath?]
    refine (findsFirst_findSome? _ methods).congr ?_
    intro k operation
    constructor
    · rintro ⟨method, hmethod, hfound⟩
      obtain ⟨declaration, hdeclared, rfl⟩ := Option.map_eq_some_iff.mp hfound
      obtain ⟨hget, hid⟩ := declared?_eq_some_iff.mp hdeclared
      exact .intro hmethod hget hid
    · rintro ⟨hmethod, hget, hid⟩
      exact ⟨_, hmethod, by rw [declared?_eq_some_iff.mpr ⟨hget, hid⟩]; rfl⟩
  | _ => exact .none nofun

/-- Where the paths are no mapping there is no path. -/
theorem HasPaths.exists_paths {v : Value} (h : HasPaths v) : ∃ document declared,
    v = .map document ∧ paths document = .ok declared ∧
      ∀ (j : ℕ) (entry : Scalar × Value), declared[j]? = some entry ↔
        ∃ mapped, Entries.get? document "paths" = some (.map mapped) ∧ mapped[j]? = some entry := by
  cases h with
  | @mapping document declared hget =>
    exact ⟨document, declared, rfl, by simp [paths, hget], by simp [hget]⟩
  | @absent document hget =>
    exact ⟨document, [], rfl, by simp [paths, hget], by simp [hget]⟩
  | @empty document v hget hempty =>
    refine ⟨document, [], rfl, ?_, ?_⟩
    · rw [paths, hget]
      cases v with
      | map entries => simpa [Value.truthy] using hempty
      | _ => simp [hempty]
    · intro j entry
      simp only [List.getElem?_nil, reduceCtorEq, false_iff]
      rintro ⟨mapped, hmapped, hentry⟩
      obtain rfl := Option.some.inj (hget.symm.trans hmapped)
      obtain rfl : mapped = [] := by simpa [Value.truthy] using hempty
      simp at hentry

theorem exists_inDocument? {v : Value} (h : HasPaths v) (id source : String) :
    ∃ found, inDocument? id source v = .ok found ∧
      FindsFirst (StandsInDocument id source v) found := by
  obtain ⟨document, declared, rfl, hpaths, hdeclared⟩ := h.exists_paths
  refine ⟨declared.findSome? fun entry => inPath? id source document entry.1 entry.2, ?_, ?_⟩
  · rw [inDocument?, hpaths]
    rfl
  · have hsearch : FindsFirst (fun (p : ℕ ×ₗ ℕ) operation => ∃ entry,
        declared[(ofLex p).1]? = some entry ∧
          StandsInPath id source document entry.1 entry.2 (ofLex p).2 operation)
        (declared.findSome? fun entry => inPath? id source document entry.1 entry.2) := by
      apply FindsFirst.findSome?
      intro entry _
      exact findsFirst_inPath? entry.2
    refine hsearch.congr ?_
    intro p operation
    constructor
    · rintro ⟨⟨path, item⟩, hentry, hin⟩
      obtain ⟨mapped, hmapped, hentry⟩ := (hdeclared _ _).mp hentry
      exact .intro hmapped hentry hin
    · rintro ⟨hmapped, hentry, hin⟩
      exact ⟨_, (hdeclared _ _).mpr ⟨_, hmapped, hentry⟩, hin⟩

/-- Documents are searched one after the other. -/
theorem find?_eq (h : ∀ entry ∈ documents, ∃ found, inDocument? id entry.1 entry.2 = .ok found) :
    find? id documents =
      .ok (documents.findSome? fun entry => (inDocument? id entry.1 entry.2).toOption.join) := by
  induction documents with
  | nil => rfl
  | cons first rest ih =>
    obtain ⟨⟨found, hfound⟩, hrest⟩ := List.forall_mem_cons.mp h
    rw [find?, hfound, List.findSome?_cons, hfound]
    cases found with
    | none => exact ih hrest
    | some operation => rfl

theorem exists_find?_first (h : ∀ entry ∈ documents, HasPaths entry.2) (id : String) :
    ∃ found, find? id documents = .ok found ∧ FindsFirst (StandsAt documents id) found := by
  have hinside := fun entry hentry => exists_inDocument? (h entry hentry) id entry.1
  refine ⟨_, find?_eq fun entry hentry => (hinside entry hentry).imp fun _ hfound => hfound.1, ?_⟩
  have hsearch : FindsFirst (fun (p : ℕ ×ₗ ℕ ×ₗ ℕ) operation => ∃ entry,
      documents[(ofLex p).1]? = some entry ∧
        StandsInDocument id entry.1 entry.2 (ofLex p).2 operation)
      (documents.findSome? fun entry => (inDocument? id entry.1 entry.2).toOption.join) := by
    apply FindsFirst.findSome?
    intro entry hentry
    obtain ⟨found, hfound, hfirst⟩ := hinside entry hentry
    rwa [hfound]
  refine hsearch.congr ?_
  intro p operation
  constructor
  · rintro ⟨entry, hentry, hin⟩
    exact .intro hentry hin
  · rintro ⟨hentry, hin⟩
    exact ⟨_, hentry, hin⟩

theorem StandsInPath.unique {item : Value} {k : ℕ} {operation other : Operation}
    (h : StandsInPath id source document path item k operation)
    (hother : StandsInPath id source document path item k other) : operation = other := by
  obtain ⟨hmethod, hget, -⟩ := h
  obtain ⟨hmethod', hget', -⟩ := hother
  obtain rfl := Option.some.inj (hmethod.symm.trans hmethod')
  cases hget.symm.trans hget'
  rfl

theorem StandsInDocument.unique {v : Value} {p : ℕ ×ₗ ℕ} {operation other : Operation}
    (h : StandsInDocument id source v p operation) (hother : StandsInDocument id source v p other) :
    operation = other := by
  obtain ⟨hpaths, hentry, hin⟩ := h
  obtain ⟨hpaths', hentry', hin'⟩ := hother
  cases hpaths.symm.trans hpaths'
  cases hentry.symm.trans hentry'
  exact hin.unique hin'

theorem StandsAt.unique {p : ℕ ×ₗ ℕ ×ₗ ℕ} {operation other : Operation}
    (h : StandsAt documents id p operation) (hother : StandsAt documents id p other) :
    operation = other := by
  obtain ⟨hentry, hin⟩ := h
  obtain ⟨hentry', hin'⟩ := hother
  cases hentry.symm.trans hentry'
  exact hin.unique hin'

/-! ## Names -/

/-- Sources, paths and the keys of path items are there once each. -/
structure HasDistinctNames (documents : ApiDocuments) : Prop where
  sources : (documents.map Prod.fst).Nodup
  paths : ∀ source document declared, (source, .map document) ∈ documents →
    Entries.get? document "paths" = some (.map declared) → Entries.HasDistinctKeys declared
  methods : ∀ source document declared path item, (source, .map document) ∈ documents →
    Entries.get? document "paths" = some (.map declared) → (path, .map item) ∈ declared →
    Entries.HasDistinctKeys item

/-- An operation is what is found under its source, its path and its method. -/
structure IsFoundIn (documents : ApiDocuments) (operation : Operation) : Prop where
  document : documents.find? operation.source = some (.map operation.document)
  declaration : ∃ declared item,
    Entries.get? operation.document "paths" = some (.map declared) ∧
    Entries.find? operation.path declared = some (.map item) ∧ operation.method ∈ methods ∧
    Entries.get? item operation.method = some (.map operation.declaration)

theorem StandsAt.isFoundIn {p : ℕ ×ₗ ℕ ×ₗ ℕ} {operation : Operation}
    (h : StandsAt documents id p operation) (hnames : HasDistinctNames documents) :
    IsFoundIn documents operation := by
  obtain ⟨hentry, hin⟩ := h
  obtain ⟨hpaths, hpath, hitem⟩ := hin
  obtain ⟨hmethod, hget, -⟩ := hitem
  have hmem := List.mem_of_getElem? hentry
  refine ⟨Named.find?_of_mem hnames.sources hmem, _, _, hpaths, ?_, ?_, hget⟩
  · exact (hnames.paths _ _ _ hmem hpaths).find?_of_mem (List.mem_of_getElem? hpath)
  · exact List.mem_of_getElem? hmethod

/-! ## What is no mapping -/

/-- The entries whose values are mappings. -/
def mappings (entries : Entries) : Entries := entries.filter fun entry => entry.2.map?.isSome

/-- A path item with the entries that may be operations only. -/
def clearItem : Value → Value
  | .map item => .map (mappings item)
  | v => v

/-- Paths with the path items only, and these with the entries that may be operations only. -/
def clearPaths : Value → Value
  | .map declared => .map ((mappings declared).map fun entry => (entry.1, clearItem entry.2))
  | v => v

/-- A document without what is no mapping where a path or an operation should be. -/
def clear (document : Entries) : Entries :=
  document.map fun entry =>
    if entry.1 = .text "paths" then (entry.1, clearPaths entry.2) else entry

def clearDocument : Value → Value
  | .map document => .map (clear document)
  | v => v

/-- The same operation in a document that has been cleared. -/
def cleared (operation : Operation) : Operation :=
  { operation with document := clear operation.document }

theorem get?_clear (document : Entries) :
    Entries.get? (clear document) "paths" = (Entries.get? document "paths").map clearPaths := by
  unfold Entries.get? clear
  induction document with
  | nil => rfl
  | cons entry rest ih =>
    obtain ⟨k, v⟩ := entry
    by_cases hk : k = .text "paths"
    · simp [Entries.find?, hk]
    · simp [Entries.find?, hk, ih]

theorem paths_clear (document : Entries) : paths (clear document) =
    (paths document).map fun declared =>
      (mappings declared).map fun entry => (entry.1, clearItem entry.2) := by
  rw [paths, paths, get?_clear]
  cases Entries.get? document "paths" with
  | none => rfl
  | some v =>
    cases v with
    | map declared => rfl
    | _ =>
      simp only [Option.map_some, clearPaths]
      split_ifs <;> rfl

theorem declared?_mappings {item : Entries} (h : item.HasDistinctKeys) (method : String) :
    declared? id (mappings item) method = declared? id item method := by
  have hdistinct : Entries.HasDistinctKeys (mappings item) := h.filter _
  have hmem : ∀ declaration, (.text method, .map declaration) ∈ mappings item ↔
      (.text method, .map declaration) ∈ item := by
    simp [mappings, Value.map?]
  ext declaration
  rw [declared?_eq_some_iff, declared?_eq_some_iff]
  refine and_congr_left fun _ => ⟨fun hget => ?_, fun hget => ?_⟩
  · exact h.find?_of_mem ((hmem _).mp (Entries.mem_of_get? hget))
  · exact hdistinct.find?_of_mem ((hmem _).mpr (Entries.mem_of_get? hget))

theorem inPath?_clearItem {item : Value}
    (h : ∀ entries : Entries, item = .map entries → entries.HasDistinctKeys) :
    inPath? id source (clear document) path (clearItem item) =
      (inPath? id source document path item).map cleared := by
  cases item with
  | map entries =>
    simp only [inPath?, clearItem, declared?_mappings (h entries rfl), List.map_findSome?]
    congr 1
    funext method
    rw [Function.comp_apply, Option.map_map]
    rfl
  | _ => rfl

theorem findSome?_clear {declared : Entries} (h : ∀ path item, (path, .map item) ∈ declared →
      Entries.HasDistinctKeys item) :
    ((mappings declared).map fun entry => (entry.1, clearItem entry.2)).findSome?
        (fun entry => inPath? id source (clear document) entry.1 entry.2) =
      (declared.findSome? fun entry => inPath? id source document entry.1 entry.2).map cleared := by
  unfold mappings
  induction declared with
  | nil => rfl
  | cons entry rest ih =>
    have hrest := ih fun path item hmem => h path item (List.mem_cons_of_mem _ hmem)
    obtain ⟨path, v⟩ := entry
    cases v with
    | map item =>
      have hitem : inPath? id source (clear document) path (clearItem (.map item)) =
          (inPath? id source document path (.map item)).map cleared := by
        refine inPath?_clearItem fun entries heq => ?_
        cases heq
        exact h path item List.mem_cons_self
      have hkept : List.filter (fun entry => entry.2.map?.isSome) ((path, .map item) :: rest) =
          (path, .map item) :: rest.filter fun entry => entry.2.map?.isSome := rfl
      rw [hkept, List.map_cons, List.findSome?_cons, List.findSome?_cons, hitem]
      cases inPath? id source document path (.map item) with
      | none => exact hrest
      | some operation => rfl
    | _ => exact hrest

theorem inDocument?_clearDocument {v : Value}
    (h : ∀ document declared path item, v = .map document →
      Entries.get? document "paths" = some (.map declared) → (path, .map item) ∈ declared →
      Entries.HasDistinctKeys item) :
    inDocument? id source (clearDocument v) = (inDocument? id source v).map (Option.map cleared) := by
  cases v with
  | map document =>
    have hsearch : ∀ declared, paths document = .ok declared →
        ((mappings declared).map fun entry => (entry.1, clearItem entry.2)).findSome?
            (fun entry => inPath? id source (clear document) entry.1 entry.2) =
          (declared.findSome? fun entry => inPath? id source document entry.1 entry.2).map
            cleared := by
      intro declared hpaths
      refine findSome?_clear fun path item hmem => ?_
      refine h document declared path item rfl ?_ hmem
      unfold paths at hpaths
      split at hpaths
      · cases hpaths
        simp at hmem
      · cases hpaths
        assumption
      · split_ifs at hpaths
        cases hpaths
        simp at hmem
    simp only [inDocument?, clearDocument, paths_clear]
    cases hpaths : paths document with
    | error d => rfl
    | ok declared => exact congrArg Except.ok (hsearch declared hpaths)
  | _ => rfl

theorem find?_clear (h : HasDistinctNames documents) :
    find? id (documents.map fun entry => (entry.1, clearDocument entry.2)) =
      (find? id documents).map (Option.map cleared) := by
  have hmethods := h.methods
  clear h
  induction documents with
  | nil => rfl
  | cons entry rest ih =>
    obtain ⟨source, v⟩ := entry
    have hrest := ih fun source document declared path item hmem =>
      hmethods source document declared path item (List.mem_cons_of_mem _ hmem)
    have hfirst : inDocument? id source (clearDocument v) =
        (inDocument? id source v).map (Option.map cleared) := by
      refine inDocument?_clearDocument fun document declared path item heq => ?_
      exact hmethods source document declared path item (heq ▸ List.mem_cons_self)
    rw [List.map_cons, find?, find?, hfirst]
    cases inDocument? id source v with
    | error d => rfl
    | ok found =>
      cases found with
      | none => exact hrest
      | some operation => rfl

/-! ## The operation of an identifier -/

/-- An identifier names the first of the operations that carry it, and none exactly if none carries
it. The operation is what is found under its source, its path and its method; and whatever is no
mapping where a path or an operation should be may as well not be there. -/
theorem named_first (h : ∀ entry ∈ documents, HasPaths entry.2) (id : String) (site : Site) :
    (named documents id site = .error (.failure (.unknownOperation id site)) ↔
      ∀ p operation, ¬ StandsAt documents id p operation) ∧
    (∀ operation, named documents id site = .ok operation ↔
      ∃ p, StandsAt documents id p operation ∧
        IsLeast {q | ∃ other, StandsAt documents id q other} p) ∧
    (HasDistinctNames documents →
      (∀ operation, named documents id site = .ok operation → IsFoundIn documents operation) ∧
      named (documents.map fun entry => (entry.1, clearDocument entry.2)) id site =
        (named documents id site).map cleared) := by
  obtain ⟨found, hfind, hfirst⟩ := exists_find?_first h id
  have hok : ∀ operation, named documents id site = .ok operation ↔ found = some operation := by
    intro operation
    rw [named, hfind]
    cases found <;> simp
  have hleast : ∀ operation, found = some operation ↔ ∃ p, StandsAt documents id p operation ∧
      IsLeast {q | ∃ other, StandsAt documents id q other} p := by
    intro operation
    constructor
    · intro hfound
      obtain ⟨p, hat, hle⟩ := hfirst.least operation hfound
      refine ⟨p, hat, ⟨operation, hat⟩, ?_⟩
      rintro q ⟨other, hother⟩
      exact hle q other hother
    · rintro ⟨p, hat, -, hle⟩
      obtain ⟨other, hfound⟩ : ∃ other, found = some other := by
        rw [← Option.ne_none_iff_exists']
        exact fun hnone => hfirst.absent hnone p operation hat
      obtain ⟨q, hq, hqle⟩ := hfirst.least other hfound
      obtain rfl := le_antisymm (hle ⟨other, hq⟩) (hqle p operation hat)
      rw [hfound, hat.unique hq]
  refine ⟨?_, fun operation => (hok operation).trans (hleast operation), ?_⟩
  · constructor
    · intro herror
      refine hfirst.absent ?_
      rw [named, hfind] at herror
      cases found with
      | none => rfl
      | some operation => cases herror
    · intro hnone
      cases hfound : found with
      | none => rw [named, hfind, hfound]
      | some operation =>
        obtain ⟨p, hat, -⟩ := hfirst.least operation hfound
        exact absurd hat (hnone p operation)
  · intro hnames
    refine ⟨?_, ?_⟩
    · intro operation hnamed
      obtain ⟨p, hat, -⟩ := (hleast operation).mp ((hok operation).mp hnamed)
      exact hat.isFoundIn hnames
    · rw [named, named, find?_clear hnames, hfind]
      cases found <;> rfl

end

namespace Scattered

def ask : Value := .map [(.text "operationId", .text "ask")]

/-- A path item in which the first key is not the first method, and an entry for a method is text. -/
def item : Entries := [(.text "delete", ask), (.text "post", ask), (.text "get", .text "ask")]

def declared : Entries := [(.text "/x", .int 1), (.text "/y", .map item)]

def document : Entries := [(.text "paths", .map declared)]

/-- Two documents with the same identifier behind one without paths. -/
def documents : ApiDocuments :=
  [("none", .map []), ("first", .map document),
    ("second", .map [(.text "paths", .map [(.text "/z", .map [(.text "get", ask)])])])]

def operation : Operation :=
  ⟨"post", .text "/y", [(.text "operationId", .text "ask")], document, "first"⟩

theorem hasPaths_documents : ∀ entry ∈ documents, HasPaths entry.2 := by
  intro entry hentry
  simp only [documents, List.mem_cons, List.not_mem_nil, or_false] at hentry
  rcases hentry with rfl | rfl | rfl
  · exact .absent rfl
  · exact .mapping rfl
  · exact .mapping rfl

theorem hasDistinctNames_documents : HasDistinctNames documents := by
  have hshape : ∀ source document declared, (source, .map document) ∈ documents →
      Entries.get? document "paths" = some (.map declared) → declared = Scattered.declared ∨
        declared = [(.text "/z", .map [(.text "get", ask)])] := by
    intro source document declared hmem hget
    simp only [documents, List.mem_cons, List.not_mem_nil, or_false] at hmem
    rcases hmem with heq | heq | heq
    · cases heq
      cases hget
    · cases heq
      exact .inl (Value.map.inj (Option.some.inj hget)).symm
    · cases heq
      exact .inr (Value.map.inj (Option.some.inj hget)).symm
  constructor
  · decide
  · intro source document declared hmem hget
    rcases hshape source document declared hmem hget with rfl | rfl
    · decide
    · decide
  · intro source document declared path item hmem hget hitem
    rcases hshape source document declared hmem hget with rfl | rfl
    · obtain ⟨-, rfl⟩ : path = .text "/y" ∧ item = Scattered.item := by
        simpa [Scattered.declared] using hitem
      decide
    · obtain ⟨-, rfl⟩ : path = .text "/z" ∧ item = [(.text "get", ask)] := by simpa using hitem
      decide

end Scattered

theorem named_first_scattered : (∀ entry ∈ Scattered.documents, HasPaths entry.2) ∧
    named Scattered.documents "ask" default = .ok Scattered.operation ∧
    (∃ p, StandsAt Scattered.documents "ask" p Scattered.operation ∧
      IsLeast {q | ∃ other, StandsAt Scattered.documents "ask" q other} p) ∧
    HasDistinctNames Scattered.documents ∧ IsFoundIn Scattered.documents Scattered.operation := by
  have hnamed : named Scattered.documents "ask" default = .ok Scattered.operation := rfl
  obtain ⟨-, hfirst, hnames⟩ := named_first Scattered.hasPaths_documents "ask" default
  have hfound := (hnames Scattered.hasDistinctNames_documents).1 Scattered.operation hnamed
  exact ⟨Scattered.hasPaths_documents, hnamed, (hfirst Scattered.operation).mp hnamed,
    Scattered.hasDistinctNames_documents, hfound⟩

end Operation
end Arazzo
