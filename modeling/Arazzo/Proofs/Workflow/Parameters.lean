import Arazzo.Proofs.Document.Named
import Arazzo.Proofs.Workflow.Building

/-!
# Parameters of two levels

The values of a list of parameters are set one after the other, location by location. So the values of
a step over those of its workflow are the values of one list, in which the parameters of the workflow
stand in front.
-/

namespace Arazzo

/-- The parameters of a list that stand in a location. -/
def Parameters.inLocation (parameters : Parameters) (location : Location) : List Parameter :=
  parameters.filterMap fun item => match item with
    | .given p => if p.location = location then some p else none
    | .reference _ => none

theorem Parameters.inLocation_given (p : Parameter) (rest : Parameters) (location : Location) :
    Parameters.inLocation (.given p :: rest) location =
      if p.location = location then p :: Parameters.inLocation rest location
      else Parameters.inLocation rest location := by
  by_cases hlocation : p.location = location
  · simp [inLocation, hlocation]
  · simp [inLocation, hlocation]

namespace ParameterValues

/-- The values in a location. -/
def inLocation (values : ParameterValues) : Location → Named Value
  | .path => values.path
  | .query => values.query
  | .header => values.header
  | _ => []

/-- In each location a name has one value. -/
def HasDistinctNames (values : ParameterValues) : Prop :=
  ∀ location, ((values.inLocation location).map Prod.fst).Nodup

theorem hasDistinctNames_empty : HasDistinctNames empty := by
  intro location
  cases location <;> exact List.nodup_nil

theorem inLocation_merge (shared own : ParameterValues) (location : Location) :
    (merge shared own).inLocation location =
      Named.overlay (shared.inLocation location) (own.inLocation location) := by
  cases location <;> rfl

variable {scope : Scope} {site : Site}

theorem merge_empty (shared : ParameterValues) : merge shared empty = shared := rfl

/-- Setting a value changes its location only. -/
theorem inLocation_put {values result : ParameterValues} {location : Location} {name : String}
    {value : Value} (h : put site values location name value = .ok result) (other : Location) :
    result.inLocation other =
      if location = other then Named.put name value (values.inLocation other)
      else values.inLocation other := by
  cases location <;> cases h <;> cases other <;> rfl

theorem HasDistinctNames.put {values result : ParameterValues} {location : Location}
    {name : String} {value : Value} (hdistinct : values.HasDistinctNames)
    (h : put site values location name value = .ok result) : result.HasDistinctNames := by
  intro other
  rw [inLocation_put h]
  split_ifs
  · exact Named.nodup_put value (hdistinct other)
  · exact hdistinct other

theorem put_merge {own : ParameterValues} (shared : ParameterValues) (location : Location)
    (name : String) (value : Value) (hdistinct : own.HasDistinctNames) :
    put site (merge shared own) location name value =
      (put site own location name value).map (merge shared) := by
  have hput := fun l => Named.overlay_put (shared.inLocation l) name value (hdistinct l)
  cases location with
  | path => simpa [put, merge, Except.map, inLocation] using (hput .path).symm
  | query => simpa [put, merge, Except.map, inLocation] using (hput .query).symm
  | header => simpa [put, merge, Except.map, inLocation] using (hput .header).symm
  | _ => rfl

theorem add_given_ok_iff {values result : ParameterValues} {p : Parameter} :
    add scope site values (.given p) = .ok result ↔ isSupported p.location = true ∧
      ∃ value, scope.value p.value = .ok value ∧
        put site values p.location p.name value = .ok result := by
  rw [add]
  split_ifs with hsupported
  · rw [bind_ok_iff]
    simp [hsupported]
  · simp [hsupported]

theorem HasDistinctNames.add {values result : ParameterValues} {item : OrReference Parameter}
    (hdistinct : values.HasDistinctNames) (h : add scope site values item = .ok result) :
    result.HasDistinctNames := by
  cases item with
  | reference r => cases h
  | given p =>
    obtain ⟨-, value, -, hput⟩ := add_given_ok_iff.mp h
    exact hdistinct.put hput

theorem add_merge {own : ParameterValues} (shared : ParameterValues)
    (item : OrReference Parameter) (hdistinct : own.HasDistinctNames) :
    add scope site (merge shared own) item = (add scope site own item).map (merge shared) := by
  cases item with
  | reference r => rfl
  | given p =>
    simp only [add]
    split_ifs
    · cases hvalue : scope.value p.value with
      | error f => rfl
      | ok value => exact put_merge shared p.location p.name value hdistinct
    · rfl

theorem foldlM_add_merge {own : ParameterValues} (shared : ParameterValues)
    (parameters : Parameters) (hdistinct : own.HasDistinctNames) :
    parameters.foldlM (add scope site) (merge shared own) =
      (parameters.foldlM (add scope site) own).map (merge shared) := by
  induction parameters generalizing own with
  | nil => rfl
  | cons item rest ih =>
    rw [List.foldlM_cons, List.foldlM_cons, add_merge shared item hdistinct]
    cases hadd : add scope site own item with
    | error f => rfl
    | ok next => exact ih (hdistinct.add hadd)

/-- The values of two lists in a row are those of the second one over those of the first one. -/
theorem ofParameters_append (scope : Scope) (site : Site) (first second : Parameters) :
    ofParameters scope site (first ++ second) = (do
      let shared ← ofParameters scope site first
      let own ← ofParameters scope site second
      .ok (merge shared own)) := by
  rw [ofParameters, List.foldlM_append]
  refine bind_congr fun shared => ?_
  rw [← merge_empty shared, foldlM_add_merge shared second hasDistinctNames_empty]
  cases hown : second.foldlM (add scope site) empty with
  | error f => simp [ofParameters, hown, bind, Except.bind, Except.map]
  | ok own => simp [ofParameters, hown, bind, Except.bind, Except.map, merge_empty]

/-- Nothing is set before the values of a list. -/
theorem empty_merge {own : ParameterValues} {parameters : Parameters}
    (h : ofParameters scope site parameters = .ok own) : merge empty own = own := by
  have happend := ofParameters_append scope site [] parameters
  rw [List.nil_append, h] at happend
  exact (Except.ok.inj happend).symm

/-- What is set in a location is what the parameters there have for values, in their order. -/
theorem exists_set_of_ofParameters {parameters : Parameters} {values : ParameterValues}
    (h : ofParameters scope site parameters = .ok values) (location : Location) :
    ∃ set : Named Value, values.inLocation location = Named.overlay [] set ∧
      List.Forall₂ (fun p entry => entry.1 = p.name ∧ scope.value p.value = .ok entry.2)
        (parameters.inLocation location) set := by
  have hempty : empty.inLocation location = [] := by cases location <;> rfl
  rw [← hempty]
  unfold ofParameters at h
  generalize empty = past at h ⊢
  induction parameters generalizing past with
  | nil =>
    cases h
    exact ⟨[], rfl, .nil⟩
  | cons item rest ih =>
    rw [List.foldlM_cons] at h
    obtain ⟨next, hadd, hrest⟩ := bind_eq_ok h
    obtain ⟨set, hset, hall⟩ := ih next hrest
    cases item with
    | reference r => cases hadd
    | given p =>
      obtain ⟨-, value, hvalue, hput⟩ := add_given_ok_iff.mp hadd
      rw [inLocation_put hput] at hset
      rw [Parameters.inLocation_given]
      split_ifs at hset ⊢
      · exact ⟨(p.name, value) :: set, hset, .cons ⟨rfl, hvalue⟩ hall⟩
      · exact ⟨set, hset, hall⟩

end ParameterValues
end Arazzo
