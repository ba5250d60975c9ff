import Arazzo.Loading.Document
import Arazzo.Proofs.Document.Stopping
import Arazzo.Proofs.Text.Utf8
import Arazzo.Proofs.Yaml.Building

/-!
# What can come of a document

A document that is read from a file is a value, or its loading fails. There are five ways to slip past
this: a path without a form in bytes, one that holds a zero, bytes that are not UTF-8, YAML text with a
part from which no value can be built, and a reference that leads into a list by digits that are no
position.
-/

namespace Arazzo

/-- Paths under which files can be looked up. -/
structure FilePath.IsUsable (path : FilePath) : Prop where
  bytes : Files.hasBytes path = true
  zero : '\x00' ∉ path.text.toList

namespace Files

open Reference (dereference Stops)

/-! ## Texts -/

/-- The text of a file is the one whose bytes it holds, with its lines ended alike. -/
inductive HasText (files : Files) (path : FilePath) : List Char → Prop
  | intro {cs : List Char} : path.IsUsable → files path = some (Text.utf8 cs) →
      HasText files path (plainBreaks cs)

variable {files : Files} {path : FilePath}

theorem text_of_isUsable (h : path.IsUsable) : files.text path = match files path with
    | none => .error .unreadable
    | some bytes => match Text.readUtf8? bytes with
      | some cs => .ok (plainBreaks cs)
      | none => .error (.defect .undecodableFile) := by
  have hzero : path.text.toList.contains '\x00' = false := by
    rw [← Bool.not_eq_true, List.contains_iff_mem]
    exact h.zero
  rw [text, h.bytes, hzero]
  rfl

theorem text_of_none (h : path.IsUsable) (hnone : files path = none) :
    files.text path = .error .unreadable := by
  rw [text_of_isUsable h, hnone]

theorem text_of_not_hasBytes (h : hasBytes path = false) :
    files.text path = .error (.defect .unencodableText) := by
  rw [text, h]
  rfl

theorem text_of_zero (hbytes : hasBytes path = true) (h : '\x00' ∈ path.text.toList) :
    files.text path = .error (.defect .unusablePath) := by
  rw [text, hbytes, List.contains_iff_mem.mpr h]
  rfl

theorem text_of_undecodable (h : path.IsUsable) {bytes : List UInt8} (hsome : files path = some bytes)
    (hbytes : ∀ cs, Text.utf8 cs ≠ bytes) : files.text path = .error (.defect .undecodableFile) := by
  have hnone : Text.readUtf8? bytes = none := by
    rw [Option.eq_none_iff_forall_ne_some]
    exact fun cs hcs => hbytes cs (Text.readUtf8?_eq_some_iff.mp hcs)
  rw [text_of_isUsable h, hsome]
  dsimp only
  rw [hnone]

theorem HasText.text_eq {cs : List Char} (h : HasText files path cs) : files.text path = .ok cs := by
  cases h with
  | intro husable hsome =>
    rw [text_of_isUsable husable, hsome]
    dsimp only
    rw [Text.readUtf8?_eq_some_iff.mpr rfl]

/-! ## Values -/

/-- A text is read as YAML if the name says so, or if it says nothing and the text is not JSON. -/
inductive IsYaml (path : FilePath) (cs : List Char) : Prop
  | named : Format.ofName? path.name = some .yaml → IsYaml path cs
  | unnamed : Format.ofName? path.name = none → Json.read? cs = none → IsYaml path cs

/-- The value that a text denotes. -/
inductive Denotes (path : FilePath) (cs : List Char) : Value → Prop
  | json {v : Value} : Format.ofName? path.name ≠ some .yaml → Json.read? cs = some v →
      Denotes path cs v
  | yaml {v : Value} : IsYaml path cs → Yaml.read cs = .ok v → Denotes path cs v

section
variable {cs : List Char} {source : Option String}

theorem IsYaml.read_eq (h : IsYaml path cs) :
    Format.read (Format.ofName? path.name) source cs = Format.readYaml source cs := by
  cases h with
  | named hname => rw [hname, Format.read]
  | unnamed hname hjson =>
    rw [hname, Format.read]
    simp only [hjson]

theorem Denotes.read_eq {v : Value} (h : Denotes path cs v) :
    Format.read (Format.ofName? path.name) source cs = .ok v := by
  cases h with
  | json hname hjson =>
    rcases hformat : Format.ofName? path.name with _ | _ | _
    · simp only [Format.read, hjson]
    · simp only [Format.read, hjson]
    · exact absurd hformat hname
  | yaml hyaml hread =>
    rw [hyaml.read_eq, Format.readYaml]
    simp only [hread]

/-- A text is read in one of the formats, or is a malformed JSON text. -/
theorem denotes_or_isYaml (path : FilePath) (cs : List Char) : (∃ v, Denotes path cs v) ∨
    IsYaml path cs ∨ Format.ofName? path.name = some .json ∧ Json.read? cs = none := by
  rcases hformat : Format.ofName? path.name with _ | _ | _
  · cases hjson : Json.read? cs with
    | none => exact .inr (.inl (.unnamed hformat hjson))
    | some v => exact .inl ⟨v, .json (by rw [hformat]; decide) hjson⟩
  · cases hjson : Json.read? cs with
    | none => exact .inr (.inr ⟨rfl, rfl⟩)
    | some v => exact .inl ⟨v, .json (by rw [hformat]; decide) hjson⟩
  · exact .inr (.inl (.named hformat))

end

theorem HasText.document_eq {cs : List Char} (h : HasText files path cs) :
    files.document path =
      Format.read (Format.ofName? path.name) (some path.text) cs >>= dereference := by
  rw [document, h.text_eq]

theorem HasText.document_of_denotes {cs : List Char} {root : Value} (h : HasText files path cs)
    (hroot : Denotes path cs root) : files.document path = dereference root := by
  rw [h.document_eq, hroot.read_eq]
  rfl

theorem HasText.document_of_isYaml {cs : List Char} (h : HasText files path cs)
    (hyaml : IsYaml path cs) :
    files.document path = Format.readYaml (some path.text) cs >>= dereference := by
  rw [h.document_eq, hyaml.read_eq]

/-! ## Documents -/

/-- What may come of a file: the value that its text denotes, without references, or a failure that
names the file or a reference. -/
inductive Loads (files : Files) (path : FilePath) : Except Fault Value → Prop
  | value {cs : List Char} {root v : Value} : HasText files path cs → Denotes path cs root →
      dereference root = .ok v → Loads files path (.ok v)
  | unreadable : path.IsUsable → files path = none →
      Loads files path (.error (Format.loading .unreadableFile (some path.text)))
  | notJson {cs : List Char} : HasText files path cs → Format.ofName? path.name = some .json →
      Json.read? cs = none → Loads files path (.error (Format.loading .invalidJson (some path.text)))
  | notYaml {cs : List Char} : HasText files path cs → IsYaml path cs →
      Yaml.read cs = .error .malformed →
      Loads files path (.error (Format.loading .invalidYaml (some path.text)))
  | reference {cs : List Char} {root : Value} {cause : LoadingCause} : HasText files path cs →
      Denotes path cs root → Stops root (Format.loading cause none) →
      Loads files path (.error (Format.loading cause none))

/-- What else comes of a file. A text may have several flaws, so the one that YAML is not read for stands
beside the outcome. -/
inductive Breaks (files : Files) (path : FilePath) : Defect → Prop
  | unencodable : hasBytes path = false → Breaks files path .unencodableText
  | zero : hasBytes path = true → '\x00' ∈ path.text.toList → Breaks files path .unusablePath
  | undecodable {bytes : List UInt8} : path.IsUsable → files path = some bytes →
      (∀ cs, Text.utf8 cs ≠ bytes) → Breaks files path .undecodableFile
  | unbuildable {cs : List Char} {d : Defect} : HasText files path cs → IsYaml path cs →
      Yaml.Spoils cs d → Yaml.read cs = .error (.defect d) → Breaks files path d
  | position {cs : List Char} {root : Value} : HasText files path cs → Denotes path cs root →
      Stops root (.defect .pointerDigit) → Breaks files path .pointerDigit

theorem Breaks.document_eq {d : Defect} (h : Breaks files path d) :
    files.document path = .error (.defect d) := by
  cases h with
  | unencodable hbytes => rw [document, text_of_not_hasBytes hbytes]
  | zero hbytes hzero => rw [document, text_of_zero hbytes hzero]
  | undecodable husable hsome hbytes => rw [document, text_of_undecodable husable hsome hbytes]
  | unbuildable htext hyaml _ hread =>
    rw [htext.document_of_isYaml hyaml, Format.readYaml]
    simp only [hread]
    rfl
  | position htext hroot hstops =>
    rw [htext.document_of_denotes hroot, Reference.dereference_error_iff.mpr hstops]

/-- A file whose text denotes a value is loaded, unless a reference breaks it. -/
theorem HasText.loads_or_breaks_of_denotes {cs : List Char} {root : Value}
    (h : HasText files path cs) (hroot : Denotes path cs root) :
    Loads files path (files.document path) ∨ ∃ d, Breaks files path d := by
  rw [h.document_of_denotes hroot]
  cases hderef : dereference root with
  | ok v => exact .inl (.value h hroot hderef)
  | error f =>
    have hstops := Reference.dereference_error_iff.mp hderef
    obtain ⟨reference, hrefuses⟩ := hstops.exists_refuses
    cases hrefuses with
    | external => exact .inl (.reference h hroot hstops)
    | unresolvable => exact .inl (.reference h hroot hstops)
    | pointer => exact .inr ⟨_, .position h hroot hstops⟩

theorem HasText.loads_or_breaks {cs : List Char} (h : HasText files path cs) :
    Loads files path (files.document path) ∨ ∃ d, Breaks files path d := by
  rcases denotes_or_isYaml path cs with ⟨root, hroot⟩ | hyaml | ⟨hname, hjson⟩
  · exact h.loads_or_breaks_of_denotes hroot
  · cases hread : Yaml.read cs with
    | ok root => exact h.loads_or_breaks_of_denotes (.yaml hyaml hread)
    | error refusal =>
      cases refusal with
      | malformed =>
        rw [h.document_of_isYaml hyaml, Format.readYaml]
        simp only [hread]
        exact .inl (.notYaml h hyaml hread)
      | defect d => exact .inr ⟨d, .unbuildable h hyaml (Yaml.spoils_of_read hread) hread⟩
  · rw [h.document_eq, hname, Format.read]
    simp only [hjson]
    exact .inl (.notJson h hname hjson)

theorem loads_or_breaks (files : Files) (path : FilePath) :
    Loads files path (files.document path) ∨ ∃ d, Breaks files path d := by
  cases hbytes : hasBytes path with
  | false => exact .inr ⟨_, .unencodable hbytes⟩
  | true =>
    by_cases hzero : '\x00' ∈ path.text.toList
    · exact .inr ⟨_, .zero hbytes hzero⟩
    · have husable : path.IsUsable := ⟨hbytes, hzero⟩
      cases hfile : files path with
      | none =>
        rw [document, text_of_none husable hfile]
        exact .inl (.unreadable husable hfile)
      | some bytes =>
        by_cases hutf8 : ∃ cs, Text.utf8 cs = bytes
        · obtain ⟨cs, rfl⟩ := hutf8
          exact (HasText.intro husable hfile).loads_or_breaks
        · exact .inr ⟨_, .undecodable husable hfile (not_exists.mp hutf8)⟩

theorem Loads.not_defect {d : Defect} : ¬ Loads files path (.error (.defect d)) := by
  intro h
  cases h

/-- The document in a file is the value that its text denotes, or its loading fails, exactly if nothing
breaks it; and what breaks it comes of it. -/
theorem document_loads_iff (files : Files) (path : FilePath) :
    (Loads files path (files.document path) ↔ ∀ d, ¬ Breaks files path d) ∧
      ∀ d, Breaks files path d → files.document path = .error (.defect d) := by
  refine ⟨⟨fun hloads d hbreaks => ?_, fun hnone => ?_⟩, fun d => Breaks.document_eq⟩
  · rw [hbreaks.document_eq] at hloads
    exact Loads.not_defect hloads
  · exact (loads_or_breaks files path).resolve_right fun ⟨d, hd⟩ => hnone d hd

/-- One byte that is not UTF-8. -/
def undecodable : Files := fun path => if path.text = "d.yaml" then some [0xFF] else none

theorem document_undecodable :
    undecodable.document (.ofText "d.yaml") = .error (.defect .undecodableFile) ∧
      ¬ Loads undecodable (.ofText "d.yaml") (undecodable.document (.ofText "d.yaml")) := by
  have husable : (FilePath.ofText "d.yaml").IsUsable := ⟨by decide +kernel, by decide +kernel⟩
  have hfile : undecodable (.ofText "d.yaml") = some [0xFF] := by decide +kernel
  have hdocument : undecodable.document (.ofText "d.yaml") = .error (.defect .undecodableFile) := by
    rw [document, text_of_isUsable husable, hfile]
    have hnone : Text.readUtf8? [0xFF] = none := by decide +kernel
    simp only [hnone]
  refine ⟨hdocument, ?_⟩
  rw [hdocument]
  exact Loads.not_defect

end Files
end Arazzo
