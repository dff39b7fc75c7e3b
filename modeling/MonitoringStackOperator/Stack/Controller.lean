import MonitoringStackOperator.ComponentLoop
import MonitoringStackOperator.Api

/-! The monitoring-stack controller of `controller.go`: it reads the stack named
by the request and runs the reconciler of each of its components in order.

`stackComponentReconcilers` is not in the repository: the components a stack
expands to are a parameter, and running a component's reconciler is one call
whose reply is the error it returns. -/

namespace MonitoringStackOperator.Stack

open Api Pass

/-- `strings.Split` of `Options.InstanceSelector` at `=`, which must give two parts. -/
def parseInstanceSelector (instanceSelector : String) : Except Error (String × String) :=
  match instanceSelector.splitOn "=" with
  | [key, value] => .ok (key, value)
  | _ => .error (.other ("invalid InstanceSelector: " ++ instanceSelector))

/-- The calls of `Reconcile`: the `Get` of the stack, and one run of a component reconciler,
which reports an error or nil. -/
inductive Call (Component : Type) where
  | getMonitoringStack (key : NamespacedName)
  | reconcileComponent (component : Component)

def Call.Reply {Component : Type} : Call Component → Type
  | .getMonitoringStack _ => Except Error MonitoringStack
  | .reconcileComponent _ => Option Error

abbrev StackPass (Component α : Type) := Pass (Call Component) Call.Reply α

section Reconcile

variable {Component : Type}

/-- `getStack`: the stack, none if it is not found, or the error of the `Get`. -/
def getStack (req : NamespacedName) : StackPass Component (Except Error (Option MonitoringStack)) := do
  match ← Pass.send (Call.getMonitoringStack req : Call Component) with
  | .error err => if isNotFound (some err) then return .ok none else return .error err
  | .ok ms => return .ok (some ms)

/-- One run of a component's reconciler. -/
def runReconciler (component : Component) : StackPass Component (Option Error) :=
  Pass.send (Call.reconcileComponent component)

/-- What a run of a component's reconciler does: its one call, whose reply is the outcome. -/
def Reconciled (component : Component) (part : List (Exchange (Call Component) Call.Reply))
    (outcome : Option Error) : Prop :=
  part = [⟨.reconcileComponent component, outcome⟩]

theorem run_runReconciler_iff {component : Component}
    {part : List (Exchange (Call Component) Call.Reply)} {outcome : Option Error} :
    Run (runReconciler component) part outcome ↔ Reconciled component part outcome :=
  run_send_iff

/-- `Reconcile`; `stackComponentReconcilers` takes the stack and the instance selector. -/
def reconcile (stackComponentReconcilers : MonitoringStack → String → String → List Component)
    (instanceSelectorKey instanceSelectorValue : String) (req : NamespacedName) :
    StackPass Component (Result × Option Error) := do
  match ← getStack req with
  | .error err => return ({}, some err)
  | .ok none => return ({}, none)
  | .ok (some ms) =>
      if !isZeroTime ms.metadata.deletionTimestamp then return ({}, none)
      else
        applyComponents runReconciler
          (stackComponentReconcilers ms instanceSelectorKey instanceSelectorValue)

/-- The runs of `Reconcile` under every reply of the store and every outcome of the component
reconcilers: no component is run when the stack is not found, cannot be read or is being
deleted, and otherwise the component loop runs on the stack's components, one reconciler call
each up to the first error. -/
inductive ReconcileRun (stackComponentReconcilers : MonitoringStack → String → String → List Component)
    (key value : String) (req : NamespacedName) :
    List (Exchange (Call Component) Call.Reply) → Result × Option Error → Prop
  | notFound {err : Error} : isNotFound (some err) = true →
      ReconcileRun stackComponentReconcilers key value req
        [⟨.getMonitoringStack req, .error err⟩] ({}, none)
  | getFailed {err : Error} : isNotFound (some err) = false →
      ReconcileRun stackComponentReconcilers key value req
        [⟨.getMonitoringStack req, .error err⟩] ({}, some err)
  | deleting {ms : MonitoringStack} : isZeroTime ms.metadata.deletionTimestamp = false →
      ReconcileRun stackComponentReconcilers key value req
        [⟨.getMonitoringStack req, .ok ms⟩] ({}, none)
  | components {ms : MonitoringStack} {rest out} : isZeroTime ms.metadata.deletionTimestamp = true →
      ComponentsRun Reconciled (stackComponentReconcilers ms key value) rest out →
      ReconcileRun stackComponentReconcilers key value req
        (⟨.getMonitoringStack req, .ok ms⟩ :: rest) out

theorem run_reconcile_iff {stackComponentReconcilers : MonitoringStack → String → String → List Component}
    {key value : String} {req : NamespacedName} {trace : List (Exchange (Call Component) Call.Reply)}
    {out : Result × Option Error} :
    Run (reconcile stackComponentReconcilers key value req) trace out ↔
      ReconcileRun stackComponentReconcilers key value req trace out := by
  rw [reconcile, getStack, bind_assoc, run_send_bind_iff]
  constructor
  · rintro ⟨err | ms, rest, rfl, run⟩
    · cases notFound : isNotFound (some err) <;>
        simp only [notFound, Bool.false_eq_true, if_true, if_false, pure_eq, done_bind,
          run_done_iff] at run <;>
        obtain ⟨rfl, rfl⟩ := run
      · exact .getFailed notFound
      · exact .notFound notFound
    · cases zero : isZeroTime ms.metadata.deletionTimestamp <;>
        simp only [zero, Bool.not_false, Bool.not_true, Bool.false_eq_true, if_true, if_false,
          pure_eq, done_bind, run_done_iff] at run
      · obtain ⟨rfl, rfl⟩ := run
        exact .deleting zero
      · exact .components zero ((run_applyComponents_iff _ fun _ _ _ => run_runReconciler_iff).mp run)
  · rintro (⟨notFound⟩ | ⟨notFound⟩ | ⟨zero⟩ | ⟨zero, loop⟩) <;> refine ⟨_, _, rfl, ?_⟩ <;>
      simp only [*, Bool.not_false, Bool.not_true, Bool.false_eq_true, if_true, if_false, pure_eq,
        done_bind, run_done_iff, and_self]
    exact (run_applyComponents_iff _ fun _ _ _ => run_runReconciler_iff).mpr loop

end Reconcile

end MonitoringStackOperator.Stack
