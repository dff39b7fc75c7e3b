import MonitoringStackOperator.Pass

/-! The loop both component controllers end their `Reconcile` with: apply each
component in order, requeue after 2s if an apply reports AlreadyExists or
Conflict, return any other error, and return the zero result when every apply
succeeds.

`ComponentsRun` lists the runs of the loop under every sequence of apply
outcomes: complete applies of a prefix of the components, all but the last
returning nil. It is stated over what one apply does, so that each controller
states its loop with the calls of its own apply. -/

namespace MonitoringStackOperator

open Pass

/-- What `Reconcile` returns when an apply fails: a requeue after 2s without an error for
AlreadyExists or Conflict, which a stale cache explains, and the error otherwise. -/
def componentFailure (err : Error) : Result × Option Error :=
  if isAlreadyExists (some err) || isConflict (some err) then ({ requeueAfter := 2 * second }, none)
  else ({}, some err)

variable {Call : Type} {Reply : Call → Type} {Component : Type}

/-- The runs of the loop, given what one apply does (`attempt component part outcome`: the
calls `part` and the outcome): each component applied in order, the next one only after the
previous returned nil, and the result of the first failure or the zero result. -/
inductive ComponentsRun (attempt : Component → List (Exchange Call Reply) → Option Error → Prop) :
    List Component → List (Exchange Call Reply) → Result × Option Error → Prop
  | applied : ComponentsRun attempt [] [] ({}, none)
  | failed {component rest trace err} :
      attempt component trace (some err) →
        ComponentsRun attempt (component :: rest) trace (componentFailure err)
  | next {component rest trace later out} :
      attempt component trace none → ComponentsRun attempt rest later out →
        ComponentsRun attempt (component :: rest) (trace ++ later) out

/-- Every exchange of a run of the loop belongs to the apply of one of the components. -/
theorem ComponentsRun.exchange_of_mem
    {attempt : Component → List (Exchange Call Reply) → Option Error → Prop}
    {components : List Component} {trace : List (Exchange Call Reply)} {out : Result × Option Error}
    (run : ComponentsRun attempt components trace out) :
    ∀ x ∈ trace, ∃ component ∈ components, ∃ part outcome, attempt component part outcome ∧ x ∈ part := by
  induction run with
  | applied => exact fun _ member => nomatch member
  | failed applied => exact fun _ member => ⟨_, .head _, _, _, applied, member⟩
  | next applied _ ih =>
      intro x member
      rcases List.mem_append.mp member with inFirst | inLater
      · exact ⟨_, .head _, _, _, applied, inFirst⟩
      · obtain ⟨component, inRest, part, outcome, partApplied, inPart⟩ := ih x inLater
        exact ⟨component, .tail _ inRest, part, outcome, partApplied, inPart⟩

section Loop

variable (apply : Component → Pass Call Reply (Option Error))

/-- The `for _, c := range components` loop of both `Reconcile`s. -/
def applyComponents : List Component → Pass Call Reply (Result × Option Error)
  | [] => pure ({}, none)
  | component :: rest => do
      let err ← apply component
      if isAlreadyExists err || isConflict err then return ({ requeueAfter := 2 * second }, none)
      else
        match err with
        | some err => return ({}, some err)
        | none => applyComponents rest

theorem applyComponents_cons (component : Component) (rest : List Component) :
    applyComponents apply (component :: rest) =
      apply component >>= fun err =>
        match err with
        | some err => pure (componentFailure err)
        | none => applyComponents apply rest := by
  simp only [applyComponents]
  congr 1
  funext err
  rcases err with _ | err
  · rfl
  · simp only [componentFailure]
    split <;> rfl

/-- The runs of the loop, from what the runs of one apply are. -/
theorem run_applyComponents_iff
    {attempt : Component → List (Exchange Call Reply) → Option Error → Prop}
    (attempts : ∀ component part outcome, Run (apply component) part outcome ↔ attempt component part outcome)
    {components : List Component} {trace : List (Exchange Call Reply)} {out : Result × Option Error} :
    Run (applyComponents apply components) trace out ↔ ComponentsRun attempt components trace out := by
  induction components generalizing trace with
  | nil =>
      rw [applyComponents, pure_eq, run_done_iff]
      constructor
      · rintro ⟨rfl, rfl⟩
        exact .applied
      · rintro ⟨⟩
        exact ⟨rfl, rfl⟩
  | cons component rest ih =>
      rw [applyComponents_cons, run_bind_iff]
      constructor
      · rintro ⟨first, (_ | err), later, applyRun, restRun, rfl⟩
        · exact .next ((attempts _ _ _).mp applyRun) (ih.mp restRun)
        · obtain ⟨rfl, rfl⟩ := run_done_iff.mp restRun
          rw [List.append_nil]
          exact .failed ((attempts _ _ _).mp applyRun)
      · rintro (_ | ⟨applied⟩ | ⟨applied, restRun⟩)
        · exact ⟨_, _, [], (attempts _ _ _).mpr applied, .done _, (List.append_nil _).symm⟩
        · exact ⟨_, _, _, (attempts _ _ _).mpr applied, ih.mpr restRun, rfl⟩

end Loop

end MonitoringStackOperator
