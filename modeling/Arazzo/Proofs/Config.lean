import Arazzo.Config
import Arazzo.Proofs.Document.Entries
import Arazzo.Proofs.Document.Keys
import Arazzo.Proofs.Except
import Arazzo.Proofs.Number.Rounding
import Arazzo.Proofs.Toml.Reading

/-!
# What settings can be

Settings that are read have a positive timeout, or the text is refused. There are five ways to slip past
this: a timeout that is not a number, one that is too large for a binary number, one that is refused but
cannot be displayed, a `runner` that is no table, and an integer that is too long to be read.
-/

namespace Arazzo

/-- A text, a timeout or headers that are refused as such. -/
inductive ConfigFault.IsRefusal : ConfigFault → Prop
  | text : IsRefusal .invalidToml
  | timeout (v : Value) : IsRefusal (.invalidTimeout v)
  | headers : IsRefusal .invalidHeaders

namespace Config

/-! ## Timeouts -/

theorem isNotPositive_ofInt (i : ℤ) : isNotPositive (.ofInt i) = false ↔ 0 < i := by
  have horder : Exact.order? (.ofInt i) (.ofInt 0) = some (compare i 0) :=
    congrArg some (Binary64.compareScaled_zero i 0)
  rw [isNotPositive, horder, ← @compare_gt_iff_gt ℤ _ i 0]
  cases compare i 0 <;> decide

/-- The order of a number and zero is known unless it is not a number. -/
theorem isNotPositive_ofBinary (x : Binary64) :
    isNotPositive (.ofBinary x) = false ↔ x.IsPositive ∨ ∃ payload, x = .nan payload := by
  have horder : ∀ o, Exact.order? (.ofBinary x) (.ofInt 0) = some o →
      (isNotPositive (.ofBinary x) = false ↔ x.IsPositive) := by
    intro o ho
    rw [isNotPositive, Binary64.IsPositive, ho]
    cases o <;> decide
  cases x with
  | nan payload => exact ⟨fun _ => .inr ⟨payload, rfl⟩, fun _ => rfl⟩
  | infinity negative => simpa using horder _ rfl
  | finite negative m e => simpa using horder _ (Binary64.order?_finite negative m e)

/-- A positive number of seconds. -/
inductive IsSeconds : Value → Prop
  | int {i : ℤ} : 0 < i → IsSeconds (.int i)
  | float {x : Binary64} : x.IsPositive → IsSeconds (.float x)

/-- What is not refused is positive, or not a number. -/
theorem isTimeout_iff {v : Value} :
    isTimeout v = true ↔ IsSeconds v ∨ ∃ payload, v = .float (.nan payload) := by
  have hint : ∀ i : ℤ, isTimeout (.int i) = true ↔ 0 < i := by
    intro i
    rw [← isNotPositive_ofInt, isTimeout, Bool.not_eq_true']
  have hfloat : ∀ x : Binary64, isTimeout (.float x) = true ↔
      x.IsPositive ∨ ∃ payload, x = .nan payload := by
    intro x
    rw [← isNotPositive_ofBinary, isTimeout, Bool.not_eq_true']
  constructor
  · intro h
    unfold isTimeout at h
    split at h
    · exact .inl (.int ((hint _).mp h))
    · rcases (hfloat _).mp h with hpos | ⟨payload, rfl⟩
      · exact .inl (.float hpos)
      · exact .inr ⟨payload, rfl⟩
    · cases h
  · rintro ((hpos | hpos) | ⟨payload, rfl⟩)
    · exact (hint _).mpr hpos
    · exact (hfloat _).mpr (.inl hpos)
    · exact (hfloat _).mpr (.inr ⟨payload, rfl⟩)

/-! ## Header lines -/

/-- Header lines as a table of texts. -/
def tableOf (lines : Named String) : Entries :=
  lines.map fun line => (.text line.1, .text line.2)

theorem lines?_eq_some_iff {entries : Entries} {lines : Named String} :
    lines? entries = some lines ↔ entries = tableOf lines := by
  induction entries generalizing lines with
  | nil =>
    rw [lines?, Option.some.injEq, eq_comm]
    exact List.map_eq_nil_iff.symm.trans eq_comm
  | cons entry rest ih =>
    constructor
    · intro h
      unfold lines? at h
      split at h
      · next heq => cases heq
      · next name value rest' heq =>
        obtain ⟨rfl, rfl⟩ := List.cons.inj heq
        obtain ⟨others, hothers, rfl⟩ := Option.map_eq_some_iff.mp h
        rw [ih.mp hothers]
        rfl
      · cases h
    · intro h
      cases lines with
      | nil => cases h
      | cons line others =>
        obtain ⟨rfl, rfl⟩ := List.cons.inj h
        rw [lines?, ih.mpr rfl]
        rfl

theorem headersOf_ok_iff {v : Value} {lines : Named String} :
    headersOf v = .ok lines ↔ v = .map (tableOf lines) := by
  unfold headersOf
  constructor
  · intro h
    split at h
    · next hlines =>
      obtain rfl := Except.ok.inj h
      obtain ⟨entries, hentries, hlines⟩ := Option.bind_eq_some_iff.mp hlines
      rw [← lines?_eq_some_iff.mp hlines]
      cases v with
      | map found => exact congrArg Value.map (Option.some.inj hentries)
      | _ => cases hentries
    · cases h
  · rintro rfl
    rw [Value.map?, Option.bind_some, lines?_eq_some_iff.mpr rfl]

theorem headersOf_error {v : Value} {f : ConfigFault} (h : headersOf v = .error f) :
    f = .invalidHeaders := by
  unfold headersOf at h
  split at h
  · cases h
  · exact (Except.error.inj h).symm

/-! ## Settings -/

/-- The table of settings in a text. It is empty if it is missing. -/
inductive HasTable (cs : List Char) : Entries → Prop
  | missing {document : Entries} : Toml.read cs = .ok document →
      Entries.get? document "runner" = none → HasTable cs []
  | stated {document table : Entries} : Toml.read cs = .ok document →
      Entries.get? document "runner" = some (.map table) → HasTable cs table

/-- What a table says about a setting, or what holds if it says nothing. -/
def setting (table : Entries) (name : String) (default : Value) : Value :=
  (Entries.get? table name).getD default

def timeoutOf (table : Entries) : Value := setting table "timeout" (.float defaultTimeout)

/-- A number of seconds, rounded if it is an integer. -/
inductive IsTime : Value → Binary64 → Prop
  | int (i : ℤ) : IsTime (.int i) (.ofInt i)
  | float (x : Binary64) : IsTime (.float x) x

/-- Settings as a table states them. -/
structure Agrees (table : Entries) (config : Config) : Prop where
  timeout : IsTime (timeoutOf table) config.timeout
  headers : setting table "headers" (.map []) = .map (tableOf config.headers)
  verifySsl : config.verifySsl = (setting table "verify_ssl" (.bool true)).truthy
  followRedirects : config.followRedirects = (setting table "follow_redirects" (.bool true)).truthy

/-- What may come of a text: it is refused, or its settings have a positive timeout. -/
inductive Keeps (cs : List Char) : Except ConfigFault Config → Prop
  | refused {f : ConfigFault} : f.IsRefusal → Keeps cs (.error f)
  | settled {table : Entries} {config : Config} : HasTable cs table → Agrees table config →
      config.timeout.IsPositive → Keeps cs (.ok config)

/-- What else comes of a text. An integer that is too long may stand in a comment or behind what is
malformed, so it stands beside the outcome of reading. -/
inductive Slips (cs : List Char) : Except ConfigFault Config → Prop
  | unbuildable {d : Defect} : Toml.read cs = .error (.defect d) → Toml.StopsAt cs (.defect d) →
      Slips cs (.error (.defect d))
  | noTable {document : Entries} {v : Value} : Toml.read cs = .ok document →
      Entries.get? document "runner" = some v → v.map? = none →
      Slips cs (.error (.defect .notAMapping))
  | undisplayed {table : Entries} : HasTable cs table → ¬ IsSeconds (timeoutOf table) →
      (timeoutOf table).hasLong = true → Slips cs (.error (.defect .numberTooLong))
  | tooLarge {table : Entries} {i : ℤ} {lines : Named String} : HasTable cs table →
      timeoutOf table = .int i → 0 < i → Binary64.ofInt i = .infinity false →
      setting table "headers" (.map []) = .map (tableOf lines) →
      Slips cs (.error (.defect .numberTooLarge))
  | notANumber {table : Entries} {config : Config} {payload : ℕ} : HasTable cs table →
      Agrees table config → config.timeout = .nan payload → Slips cs (.ok config)

theorem HasTable.ofText_eq {cs : List Char} {table : Entries} (h : HasTable cs table) :
    ofText cs = ofValue (.map table) := by
  cases h with
  | missing hread hnone => rw [ofText, hread]; simp only [ofDocument, hnone, Option.getD_none]
  | stated hread hsome => rw [ofText, hread]; simp only [ofDocument, hsome, Option.getD_some]

theorem ofValue_of_isTimeout {table : Entries} (h : isTimeout (timeoutOf table) = true) :
    ofValue (.map table) = (headersOf (setting table "headers" (.map []))).bind fun lines =>
      (seconds (timeoutOf table)).map fun timeout =>
        ⟨timeout, (setting table "verify_ssl" (.bool true)).truthy, lines,
          (setting table "follow_redirects" (.bool true)).truthy⟩ :=
  if_pos h

theorem ofValue_of_not_isTimeout {table : Entries} (h : isTimeout (timeoutOf table) ≠ true) :
    ofValue (.map table) = if (timeoutOf table).hasLong then .error (.defect .numberTooLong)
      else .error (.invalidTimeout (timeoutOf table)) :=
  if_neg h

theorem seconds_int {i : ℤ} (h : 0 < i) :
    (Binary64.ofInt i = .infinity false ∧ seconds (.int i) = .error (.defect .numberTooLarge)) ∨
      seconds (.int i) = .ok (.ofInt i) := by
  have hpos := Binary64.isPositive_ofInt h
  rw [seconds]
  generalize Binary64.ofInt i = x at hpos
  cases x with
  | nan payload => cases hpos
  | infinity negative =>
    cases negative with
    | true => cases hpos
    | false => exact .inl ⟨rfl, rfl⟩
  | finite negative m e => exact .inr rfl

/-- A table of settings is refused, or they are as it states them, or it slips past the checks. -/
theorem HasTable.keeps_or_slips {cs : List Char} {table : Entries} (h : HasTable cs table) :
    Keeps cs (ofText cs) ∨ Slips cs (ofText cs) := by
  rw [h.ofText_eq]
  by_cases htimeout : isTimeout (timeoutOf table) = true
  · rw [ofValue_of_isTimeout htimeout]
    cases hheaders : headersOf (setting table "headers" (.map [])) with
    | error f =>
      rw [headersOf_error hheaders]
      exact .inl (.refused .headers)
    | ok lines =>
      have hlines := headersOf_ok_iff.mp hheaders
      have hagrees : ∀ x, IsTime (timeoutOf table) x → Agrees table ⟨x, _, lines, _⟩ :=
        fun x hx => ⟨hx, hlines, rfl, rfl⟩
      rcases isTimeout_iff.mp htimeout with hseconds | ⟨payload, hnan⟩
      · generalize hv : timeoutOf table = v at hseconds
        cases hseconds with
        | int hpos =>
          rcases seconds_int hpos with ⟨hlarge, hseconds⟩ | hseconds
          · rw [hseconds]
            exact .inr (.tooLarge h hv hpos hlarge hlines)
          · rw [hseconds]
            exact .inl (.settled h (hagrees _ (hv ▸ .int _)) (Binary64.isPositive_ofInt hpos))
        | float hpos => exact .inl (.settled h (hagrees _ (hv ▸ .float _)) hpos)
      · rw [hnan]
        exact .inr (.notANumber h (hagrees _ (hnan ▸ .float _)) rfl)
  · rw [ofValue_of_not_isTimeout htimeout]
    split_ifs with hlong
    · exact .inr (.undisplayed h (fun hseconds => htimeout (isTimeout_iff.mpr (.inl hseconds))) hlong)
    · exact .inl (.refused (.timeout _))

/-- What slips past the checks is what comes of the text. -/
theorem Slips.ofText_eq {cs : List Char} {outcome : Except ConfigFault Config}
    (h : Slips cs outcome) : ofText cs = outcome := by
  cases h with
  | unbuildable hread _ => rw [ofText, hread]
  | noTable hread hsome hnone =>
    rw [ofText, hread]
    simp only [ofDocument, hsome, Option.getD_some]
    rename_i v
    cases v with
    | map table => cases hnone
    | _ => rfl
  | undisplayed htable hseconds hlong =>
    rw [htable.ofText_eq, ofValue_of_not_isTimeout, if_pos hlong]
    rw [ne_eq, isTimeout_iff, not_or]
    refine ⟨hseconds, ?_⟩
    rintro ⟨payload, hnan⟩
    rw [hnan] at hlong
    cases hlong
  | tooLarge htable htimeout hpos hlarge hlines =>
    rename_i table i lines
    have hseconds : isTimeout (timeoutOf table) = true := by
      rw [htimeout]
      exact isTimeout_iff.mpr (.inl (.int hpos))
    rw [htable.ofText_eq, ofValue_of_isTimeout hseconds, headersOf_ok_iff.mpr hlines, htimeout,
      seconds, hlarge]
    rfl
  | notANumber htable hagrees hnan =>
    obtain ⟨htime, hheaders, hverify, hfollow⟩ := hagrees
    rename_i table config payload
    have htimeout : timeoutOf table = .float (.nan payload) := by
      rw [hnan] at htime
      generalize timeoutOf table = v at htime
      generalize hx : Binary64.nan payload = x at htime
      cases htime with
      | int i =>
        have hrounded := Binary64.isRounded_ofRatio (i < 0) i.natAbs 1
        rw [← Binary64.ofInt, ← hx] at hrounded
        cases hrounded
      | float => rfl
    rw [htable.ofText_eq, ofValue_of_isTimeout (isTimeout_iff.mpr (.inr ⟨payload, htimeout⟩)),
      headersOf_ok_iff.mpr hheaders, htimeout, ← hverify, ← hfollow, ← hnan]
    rfl

theorem keeps_or_slips (cs : List Char) : Keeps cs (ofText cs) ∨ Slips cs (ofText cs) := by
  cases hread : Toml.read cs with
  | error refusal =>
    rw [ofText, hread]
    cases refusal with
    | malformed => exact .inl (.refused .text)
    | defect d => exact .inr (.unbuildable hread (Toml.read_stopsAt cs _ hread))
  | ok document =>
    cases hrunner : Entries.get? document "runner" with
    | none => exact (HasTable.missing hread hrunner).keeps_or_slips
    | some v =>
      cases hv : v.map? with
      | none =>
        have hslips := Slips.noTable hread hrunner hv
        exact .inr (hslips.ofText_eq ▸ hslips)
      | some table =>
        cases v with
        | map entries => exact (HasTable.stated hread hrunner).keeps_or_slips
        | _ => cases hv

/-- Nothing that slips past the checks is kept. -/
theorem Slips.not_keeps {cs : List Char} {outcome : Except ConfigFault Config}
    (h : Slips cs outcome) : ¬ Keeps cs outcome := by
  intro hkeeps
  cases h with
  | notANumber _ _ hnan =>
    cases hkeeps with
    | settled _ _ hpos =>
      rw [hnan] at hpos
      cases hpos
  | _ =>
    cases hkeeps with
    | refused h => cases h

/-- A text is refused, or gives the settings that it states with a positive timeout, exactly if nothing
slips past the checks; and what slips past them comes of the text. -/
theorem ofText_keeps_iff (cs : List Char) :
    (Keeps cs (ofText cs) ↔ ∀ outcome, ¬ Slips cs outcome) ∧
      ∀ outcome, Slips cs outcome → ofText cs = outcome := by
  refine ⟨⟨fun hkeeps outcome hslips => ?_, fun hnone => ?_⟩, fun outcome => Slips.ofText_eq⟩
  · exact hslips.not_keeps (hslips.ofText_eq ▸ hkeeps)
  · exact (keeps_or_slips cs).resolve_right (hnone _)

/-- A timeout that is not a number passes the check. -/
theorem ofText_notANumber : ∃ config payload,
    ofText "[runner]\ntimeout = nan".toList = .ok config ∧ config.timeout = .nan payload ∧
      ¬ Keeps "[runner]\ntimeout = nan".toList (ofText "[runner]\ntimeout = nan".toList) := by
  have hread : (ofText "[runner]\ntimeout = nan".toList).toOption.map Config.timeout =
      some (.nan 0) := by decide +kernel
  obtain ⟨config, hok, htimeout⟩ := exists_ok_of_toOption hread
  refine ⟨config, 0, hok, htimeout, fun hkeeps => ?_⟩
  rw [hok] at hkeeps
  cases hkeeps with
  | settled _ _ hpos =>
    rw [htimeout] at hpos
    cases hpos

end Config
end Arazzo
