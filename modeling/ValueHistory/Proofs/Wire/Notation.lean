import ValueHistory.Proofs.Time.Notation
import ValueHistory.Wire.Request

/-! Only times can lack a notation: an observation is written if its time is, and a response if the
observations that it shows are.
-/

namespace ValueHistory

/-- An observation whose time, if it has one, has a notation. -/
def Observation.HasNotation (value : Observation) : Prop :=
  ∀ time, value.time = some time → Rfc3339.HasNotation time

theorem Observation.HasNotation.exists_toJson? {value : Observation} (has : value.HasNotation)
    : ∃ json, value.toJson? = some json := by
  cases known : value.time with
  | none => exact ⟨_, by simp only [toJson?, known, Timestamp.orNull?]; rfl⟩
  | some time =>
      have written := Rfc3339.write?_of_hasNotation (has time known)
      exact ⟨_, by simp only [toJson?, known, Timestamp.orNull?, Timestamp.toJson?, written]; rfl⟩

theorem Page.exists_mapM_toJson? {values : List Observation}
    (has : ∀ value ∈ values, value.HasNotation)
    : ∃ jsons, values.mapM Observation.toJson? = some jsons := by
  induction values with
  | nil => exact ⟨[], rfl⟩
  | cons value later ih =>
      obtain ⟨json, written⟩ := (has value List.mem_cons_self).exists_toJson?
      obtain ⟨jsons, rest⟩ := ih fun other member => has other (List.mem_cons_of_mem value member)
      exact ⟨json :: jsons, by simp only [List.mapM_cons, written, rest]; rfl⟩

/-- The values that a response shows. -/
def Response.values : Response → List Observation
  | .value found _ => found.toList
  | .page content => content.values
  | .cursor _ | .released | .error _ => []

/-- A response whose values have a notation has one, too. -/
theorem Response.exists_toJson? {response : Response}
    (has : ∀ value ∈ response.values, value.HasNotation)
    : ∃ json, response.toJson? = some json := by
  cases response with
  | cursor key => exact ⟨_, rfl⟩
  | released => exact ⟨_, rfl⟩
  | error message => exact ⟨_, rfl⟩
  | value found valid =>
      cases found with
      | none => exact ⟨_, rfl⟩
      | some value =>
          obtain ⟨json, written⟩ := (has value (List.mem_singleton.mpr rfl)).exists_toJson?
          exact ⟨_, by simp only [toJson?, Observation.orNull?, written]; rfl⟩
  | page content =>
      obtain ⟨values, written⟩ := @Page.exists_mapM_toJson? content.values has
      exact ⟨_, by simp only [toJson?, Page.members?, written]; rfl⟩

end ValueHistory
