import ShaderGraph.Failure

/-!
# Outcomes of attempts

An attempt ends with a value or a failure, whatever its trace. It ends with a
value only if all of its steps do.
-/

namespace ShaderGraph
namespace Attempt

/-- What an attempt ends with. -/
def outcome (attempt : Attempt Value) : Except Failure Value :=
  attempt.run.value

@[simp] theorem outcome_pure (value : Value) :
    outcome (pure value) = .ok value := rfl

@[simp] theorem outcome_throw (failure : Failure) :
    outcome (throw failure : Attempt Value) = .error failure := rfl

@[simp] theorem outcome_liftTraced (computation : Traced Value) :
    outcome (liftM computation) = .ok computation.value := rfl

@[simp] theorem outcome_liftExcept (result : Except Failure Value) :
    outcome (liftM result) = result := rfl

/-- An attempt has a value if its first step has one and so has what follows. -/
theorem outcome_bind_eq_ok_iff
    {first : Attempt Value}
    {next : Value -> Attempt Result}
    {result : Result} :
    outcome (first >>= next) = .ok result ↔
      ∃ value, outcome first = .ok value ∧ outcome (next value) = .ok result := by
  have bound : outcome (first >>= next) =
      match outcome first with
      | .ok value => outcome (next value)
      | .error failure => .error failure := by
    change Traced.value (ExceptT.bindCont next (outcome first)) = _
    cases outcome first <;> rfl
  rw [bound]
  cases outcome first with
  | error failure => simp
  | ok value => simp

/-- What is described one by one has one description for each text, in the same order. -/
theorem getElem?_of_mapM
    {step : Value -> Attempt Result}
    {values : List Value}
    {results : List Result}
    (success : outcome (values.mapM step) = .ok results) :
    results.length = values.length ∧
      ∀ (index : Nat) (value : Value), values[index]? = some value ->
        ∃ result, results[index]? = some result ∧ outcome (step value) = .ok result := by
  induction values generalizing results with
  | nil =>
      cases success
      simp
  | cons value rest inductionHypothesis =>
      rw [List.mapM_cons] at success
      obtain ⟨first, firstOutcome, restSuccess⟩ := outcome_bind_eq_ok_iff.mp success
      obtain ⟨others, othersOutcome, joined⟩ := outcome_bind_eq_ok_iff.mp restSuccess
      cases joined
      obtain ⟨sameLength, later⟩ := inductionHypothesis othersOutcome
      refine ⟨congrArg Nat.succ sameLength, fun index source found => ?_⟩
      cases index with
      | zero =>
          cases found
          exact ⟨first, rfl, firstOutcome⟩
      | succ index => exact later index source found

/-- What is described one by one comes from its own text. -/
theorem exists_of_mem_mapM
    {step : Value -> Attempt Result}
    {values : List Value}
    {results : List Result}
    (success : outcome (values.mapM step) = .ok results)
    {result : Result}
    (listed : result ∈ results) :
    ∃ value ∈ values, outcome (step value) = .ok result := by
  obtain ⟨sameLength, described⟩ := getElem?_of_mapM success
  obtain ⟨index, bound, rfl⟩ := List.mem_iff_getElem.mp listed
  rw [sameLength] at bound
  obtain ⟨_, found, outcome⟩ := described index _ (List.getElem?_eq_getElem bound)
  obtain ⟨_, rfl⟩ := List.getElem?_eq_some_iff.mp found
  exact ⟨_, List.getElem_mem bound, outcome⟩

/-- Each text of a list that is described has a description in the result. -/
theorem exists_outcome_of_mapM
    {step : Value -> Attempt Result}
    {values : List Value}
    {results : List Result}
    (success : outcome (values.mapM step) = .ok results)
    {value : Value}
    (listed : value ∈ values) :
    ∃ result ∈ results, outcome (step value) = .ok result := by
  obtain ⟨index, found⟩ := List.mem_iff_getElem?.mp listed
  obtain ⟨result, present, outcome⟩ := (getElem?_of_mapM success).2 index value found
  exact ⟨result, List.mem_of_getElem? present, outcome⟩

end Attempt
end ShaderGraph
