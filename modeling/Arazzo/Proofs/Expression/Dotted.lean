import Arazzo.Context
import Arazzo.Proofs.Document.Entries

/-!
# Dotted paths

A path made of identifiers with dots between them looks names up in nested mappings, one after the
other. The proof follows the reader of paths: the text is cut into names and dots, the names become
fields that are children of each other, and each child selects at most one value.
-/

namespace Arazzo

/-- The value of a name in a mapping, given the mapping of steps; other values have none. -/
def Value.field? (steps : Entries) : Value → String → Option Value
  | .map entries, name => Entries.get? entries name
  | .scalar .steps, name => Entries.get? steps name
  | _, _ => none

/-- The value that names lead to, each in the mapping before it. -/
def Value.lookup? (steps : Entries) (value : Value) (names : List String) : Option Value :=
  names.foldlM (Value.field? steps) value

def Document.lookup? (document : Document) (names : List String) : Option Value :=
  document.root.lookup? document.steps names

/-- In a value that has been settled the mapping of steps is nowhere to be looked into. -/
theorem Value.field?_unfold_null (steps : Entries) (value : Value) (name : String) :
    (unfold .null value).field? steps name = (value.field? [] name).map (unfold .null) := by
  cases value with
  | scalar s => cases s <;> rfl
  | map entries => exact Entries.get?_unfoldEntries .null entries name
  | _ => rfl

theorem Value.lookup?_unfold_null (steps : Entries) (value : Value) (names : List String) :
    (unfold .null value).lookup? steps names = (value.lookup? [] names).map (unfold .null) := by
  unfold lookup?
  induction names generalizing value with
  | nil => rfl
  | cons name names ih =>
    rw [List.foldlM_cons, List.foldlM_cons, field?_unfold_null]
    cases value.field? [] name with
    | none => rfl
    | some inner => exact ih inner

namespace Path

/-- A name that needs no quotes in a path. -/
def isIdentifier (s : String) : Bool :=
  match s.toList with
  | [] => false
  | c :: cs => isLetter c && cs.all isNameChar && s != "where" && s != "wherenot"

/-- The text of names with dots in front of them. -/
def behindDots (names : List String) : List Char := names.flatMap fun s => '.' :: s.toList

/-- The path that names with dots in front of them prolong. -/
def prolong (path : Path) (names : List String) : Path :=
  names.foldl (fun outer s => .child outer (.fields [s])) path

/-- The token of the characters of an identifier is its name. -/
theorem exists_of_isIdentifier {s : String} (h : isIdentifier s = true) :
    ∃ c cs, s.toList = c :: cs ∧ isLetter c = true ∧ cs.all isNameChar = true ∧
      wordToken (cs.reverse ++ [c]) = .name s := by
  unfold isIdentifier at h
  split at h
  · cases h
  · rename_i c cs hs
    simp only [Bool.and_eq_true, bne_iff_ne] at h
    obtain ⟨⟨⟨hletter, hall⟩, hwhere⟩, hwherenot⟩ := h
    have htext : String.ofList (cs.reverse ++ [c]).reverse = s := by
      rw [List.reverse_append, List.reverse_reverse, List.reverse_singleton,
        List.singleton_append, ← hs, String.ofList_toList]
    refine ⟨c, cs, hs, hletter, hall, ?_⟩
    simp only [wordToken, htext]
    rw [if_neg hwhere, if_neg hwherenot]

theorem ne_of_isLetter {c d : Char} (h : isLetter c = true) (hd : isLetter d = false) : c ≠ d := by
  rintro rfl
  rw [h] at hd
  cases hd

theorem begin?_letter {c : Char} (h : isLetter c = true) : begin? c = some ([], .word [c]) := by
  have hspace : c ≠ ' ' := ne_of_isLetter h (by decide)
  have htab : c ≠ '\t' := ne_of_isLetter h (by decide)
  have hline : c ≠ '\n' := ne_of_isLetter h (by decide)
  simp [begin?, h, hspace, htab, hline]

theorem begin?_dot : begin? '.' = some ([], .dot) := rfl

theorem tokensFrom?_cons {reading next : Reading} {c : Char} {done : List Token}
    (h : advance? reading c = some (done, next)) (cs : List Char) :
    tokensFrom? reading (c :: cs) = (tokensFrom? next cs).map (done ++ ·) := by
  rw [tokensFrom?, h]
  cases hrest : tokensFrom? next cs with
  | none => simp [hrest]
  | some tokens => simp [hrest]

/-- A word goes on as long as the characters of names do. -/
theorem tokensFrom?_word {cs : List Char} (h : cs.all isNameChar = true) (taken rest : List Char) :
    tokensFrom? (.word taken) (cs ++ rest) = tokensFrom? (.word (cs.reverse ++ taken)) rest := by
  induction cs generalizing taken with
  | nil => rfl
  | cons c cs ih =>
    rw [List.all_cons, Bool.and_eq_true] at h
    have hfirst : advance? (.word taken) c = some ([], .word (c :: taken)) := by
      rw [advance?, if_pos h.1]
    rw [List.cons_append, tokensFrom?_cons hfirst, ih h.2, List.reverse_cons, List.append_assoc]
    exact Option.map_id_apply

/-- A dot and a letter end a word and begin the next one. -/
theorem tokensFrom?_word_dot {c : Char} (h : isLetter c = true) (taken rest : List Char) :
    tokensFrom? (.word taken) ('.' :: c :: rest) =
      (tokensFrom? (.word [c]) rest).map fun tokens =>
        wordToken taken :: .mark '.' :: tokens := by
  have hdot : isNameChar '.' = false := by decide
  have hne : c ≠ '.' := ne_of_isLetter h (by decide)
  have hfirst : advance? (.word taken) '.' = some ([wordToken taken], .dot) := by
    simp [advance?, hdot, restart?, finish?, begin?_dot]
  have hsecond : advance? .dot c = some ([.mark '.'], .word [c]) := by
    simp [advance?, hne, restart?, finish?, begin?_letter h]
  rw [tokensFrom?_cons hfirst, tokensFrom?_cons hsecond, Option.map_map]
  rfl

theorem tokensFrom?_behindDots {names : List String} (h : ∀ s ∈ names, isIdentifier s = true)
    (taken : List Char) :
    tokensFrom? (.word taken) (behindDots names) =
      some (wordToken taken :: names.flatMap fun s => [.mark '.', .name s]) := by
  induction names generalizing taken with
  | nil => rfl
  | cons s names ih =>
    obtain ⟨c, cs, hs, hletter, hall, hword⟩ := exists_of_isIdentifier (h s List.mem_cons_self)
    have htext : behindDots (s :: names) = '.' :: c :: (cs ++ behindDots names) := by
      simp [behindDots, hs]
    rw [htext, tokensFrom?_word_dot hletter, tokensFrom?_word hall,
      ih fun t ht => h t (List.mem_cons_of_mem s ht), hword]
    rfl

/-- The tokens of a dotted path are its names and the dots between them. -/
theorem tokens?_dotted {name : String} {names : List String} (h : isIdentifier name = true)
    (hnames : ∀ s ∈ names, isIdentifier s = true) :
    tokens? (name.toList ++ behindDots names) =
      some (.name name :: names.flatMap fun s => [.mark '.', .name s]) := by
  obtain ⟨c, cs, hs, hletter, hall, hword⟩ := exists_of_isIdentifier h
  have hfirst : advance? .nothing c = some ([], .word [c]) := begin?_letter hletter
  rw [tokens?, hs, List.cons_append, tokensFrom?_cons hfirst,
    tokensFrom?_word hall, tokensFrom?_behindDots hnames, hword]
  rfl

/-- The reader stands behind a complete path, which is all that it has read. -/
structure Level.Holds (level : Level) (path : Path) : Prop where
  close?_eq : level.close? = some path
  join?_eq : level.join? .child = some ⟨[(path, .child)], .missing⟩

theorem Level.holds_first (s : String) : Level.Holds ⟨[], .names [s]⟩ (.fields [s]) :=
  ⟨rfl, rfl⟩

theorem Level.holds_child (path : Path) (s : String) :
    Level.Holds ⟨[(path, .child)], .names [s]⟩ (.child path (.fields [s])) :=
  ⟨rfl, rfl⟩

theorem Progress.read?_name (waiting : List (Path × Joint)) (s : String) :
    Progress.read? ⟨⟨waiting, .missing⟩, [], none⟩ (.name s) =
      some ⟨⟨waiting, .names [s]⟩, [], none⟩ := rfl

theorem Progress.read?_dot {level : Level} {path : Path} (h : level.Holds path) :
    Progress.read? ⟨level, [], none⟩ (.mark '.') =
      some ⟨⟨[(path, .child)], .missing⟩, [], none⟩ := by
  have hjoint : Joint.ofToken? (.mark '.') = some .child := rfl
  simp only [Progress.read?, Progress.step?, hjoint, h.join?_eq, Option.map_some]

/-- A dot and a name prolong the path that has been read by a child. -/
theorem foldlM_behindDots {level : Level} {path : Path} (h : level.Holds path)
    (names : List String) :
    ∃ last : Level, last.Holds (prolong path names) ∧
      (names.flatMap fun s => [Token.mark '.', .name s]).foldlM Progress.read? ⟨level, [], none⟩ =
        some ⟨last, [], none⟩ := by
  induction names generalizing level path with
  | nil => exact ⟨level, h, rfl⟩
  | cons s names ih =>
    obtain ⟨last, hlast, hrest⟩ := ih (Level.holds_child path s)
    refine ⟨last, hlast, ?_⟩
    rw [List.flatMap_cons, List.foldlM_append, List.foldlM_cons, Progress.read?_dot h,
      Option.bind_eq_bind, Option.bind_some, List.foldlM_cons, Progress.read?_name,
      Option.bind_eq_bind, Option.bind_some, List.foldlM_nil]
    exact hrest

theorem read?_dotted {name : String} {names : List String} (h : isIdentifier name = true)
    (hnames : ∀ s ∈ names, isIdentifier s = true) :
    read? (name.toList ++ behindDots names) = some (prolong (.fields [name]) names) := by
  obtain ⟨last, hlast, hrest⟩ := foldlM_behindDots (Level.holds_first name) names
  have hall : (Token.name name :: names.flatMap fun s => [Token.mark '.', Token.name s]).foldlM
      Progress.read? ⟨.empty, [], none⟩ = some ⟨last, [], none⟩ := by
    rw [List.foldlM_cons, Level.empty, Progress.read?_name, Option.bind_eq_bind, Option.bind_some, hrest]
  rw [read?, tokens?_dotted h hnames, Option.bind_eq_bind, Option.bind_some, hall,
    Option.bind_eq_bind, Option.bind_some]
  exact hlast.close?_eq

/-- A path selects a value and nothing else, or nothing at all. -/
def Selects (path : Path) (document : Document) (value : Option Value) : Prop :=
  ∃ found : Option Found, path.select (.whole document) = .ok found.toList ∧
    found.map Found.value = value ∧ ∀ f ∈ found, f.steps = document.steps

theorem Found.field_value (found : Found) (name : String) :
    (found.field name).map Found.value = found.value.field? found.steps name := by
  obtain ⟨value, around, steps⟩ := found
  rw [Found.field, Option.map_map]
  cases value with
  | map entries => exact Option.map_id_apply
  | scalar s =>
    cases s with
    | steps => exact Option.map_id_apply
    | _ => rfl
  | _ => rfl

theorem Found.field_steps {found f : Found} {name : String} (h : found.field name = some f) :
    f.steps = found.steps := by
  obtain ⟨value, -, rfl⟩ := Option.map_eq_some_iff.mp h
  rfl

theorem selects_fields (document : Document) (name : String) :
    Selects (.fields [name]) document (document.root.field? document.steps name) := by
  refine ⟨(Found.whole document).field name, ?_, Found.field_value _ name, ?_⟩
  · rw [select]
    cases hfield : (Found.whole document).field name <;> simp [hfield]
  · exact fun f hf => Found.field_steps hf

/-- A child looks its name up in what the outer path selects. -/
theorem Selects.child {path : Path} {document : Document} {value : Option Value}
    (h : Selects path document value) (name : String) :
    Selects (.child path (.fields [name])) document
      (value.bind (·.field? document.steps name)) := by
  obtain ⟨found, hselect, rfl, hsteps⟩ := h
  -- Where the outer path selects nothing or one value, there is at most one value to look into.
  refine ⟨found.bind (·.field name), ?_, ?_, ?_⟩
  · rw [select, hselect]
    cases found with
    | none => rfl
    | some f => cases hf : f.field name <;> simp [onEach, select, hf, bind, Except.bind]
  · cases found with
    | none => rfl
    | some f =>
      rw [Option.bind_some, Option.map_some, Option.bind_some, Found.field_value, hsteps f rfl]
  · intro g hg
    obtain ⟨f, hf, hg⟩ := Option.bind_eq_some_iff.mp hg
    exact (Found.field_steps hg).trans (hsteps f hf)

theorem Selects.prolong {path : Path} {document : Document} {value : Option Value}
    (h : Selects path document value) (names : List String) :
    Selects (prolong path names) document (value.bind (·.lookup? document.steps names)) := by
  induction names generalizing path value with
  | nil => simpa [Path.prolong, Value.lookup?] using h
  | cons s names ih =>
    have hrest := ih (h.child s)
    rw [Option.bind_assoc] at hrest
    simpa [Path.prolong, Value.lookup?] using hrest

theorem Selects.first_eq {path : Path} {document : Document} {value : Option Value}
    (h : Selects path document value) : path.first document = .ok (value.getD .null) := by
  obtain ⟨found, hselect, rfl, -⟩ := h
  rw [first, hselect]
  cases found <;> rfl

end Path

/-- A reference with a dotted path finds the value that its names lead to, or null. -/
theorem Scope.find_dotted (scope : Scope) {name : String} {names : List String}
    (h : Path.isIdentifier name = true) (hnames : ∀ s ∈ names, Path.isIdentifier s = true)
    {text : String} (htext : text.toList = '$' :: (name.toList ++ Path.behindDots names)) :
    scope.find text = .ok ((scope.document.lookup? (name :: names)).getD .null) := by
  have hread := Path.read?_dotted h hnames
  have hselects := (Path.selects_fields scope.document name).prolong names
  rw [find, htext, List.drop_succ_cons, List.drop_zero, hread]
  simp only [hselects.first_eq]
  rfl

/-- Used as an operand, the value has the mapping of steps in the place of each scalar for it. -/
theorem Scope.operand_dotted (scope : Scope) {name : String} {names : List String}
    (h : Path.isIdentifier name = true) (hnames : ∀ s ∈ names, Path.isIdentifier s = true)
    {text : String} (htext : text.toList = '$' :: (name.toList ++ Path.behindDots names)) :
    scope.operand text = .ok (.unfold (.map scope.document.steps)
      ((scope.document.lookup? (name :: names)).getD .null)) := by
  rw [operand, denoted, htext, List.head?_cons, if_pos rfl, query, scope.find_dotted h hnames htext]
  rfl

/-- A reference to an input is settled by the inputs, whatever has been recorded. -/
theorem Context.operand_input (context : Context) (site : Site) {names : List String}
    (hnames : ∀ s ∈ names, Path.isIdentifier s = true) {text : String}
    (htext : text.toList = '$' :: ("inputs".toList ++ Path.behindDots names)) :
    (context.scope site).operand text =
      .ok ((((Value.map context.inputs).lookup? [] names).map (.unfold .null)).getD .null) := by
  have hinputs : context.document.root.field? context.steps "inputs" =
      some (.unfold .null (.map context.inputs)) := by
    simp [document, Value.field?, Entries.get?, Entries.find?]
  have hlookup : (context.scope site).document.lookup? ("inputs" :: names) =
      ((Value.map context.inputs).lookup? [] names).map (.unfold .null) := by
    change Value.lookup? context.steps context.document.root _ = _
    rw [Value.lookup?, List.foldlM_cons, hinputs]
    exact Value.lookup?_unfold_null context.steps (.map context.inputs) names
  rw [Scope.operand_dotted _ (by decide) hnames htext, hlookup]
  cases (Value.map context.inputs).lookup? [] names with
  | none => rfl
  | some v => exact congrArg Except.ok (Value.isSettled_unfold Value.isSettled_null v _)

end Arazzo
