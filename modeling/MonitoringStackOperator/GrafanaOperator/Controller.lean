import MonitoringStackOperator.Pass
import MonitoringStackOperator.GrafanaOperator.Objects

/-! The bootstrap controller of package `grafana_operator`, as `controller.go`
writes it: five phases, each a `Get` of one fixed object followed by a `Create`
or an `Update`, threaded by `reconcileResult`.

`Reconcile` ignores its request apart from logging, so it is a single pass. The
informers, the ticker and the logger are not modelled. -/

namespace MonitoringStackOperator.GrafanaOperator

def «namespace» : String := "monitoring-stack-operator"
def subscriptionName : String := "monitoring-stack-operator-grafana-operator"
def operatorGroupName : String := "monitoring-stack-operator-grafana-operator"
def grafanaName : String := "monitoring-stack-operator-grafana"

/-- The objects the controller creates and updates. -/
inductive Object where
  | «namespace» (object : Core.Namespace)
  | operatorGroup (object : Operators.OperatorGroup)
  | subscription (object : Operators.Subscription)
  | grafana (object : Integreatly.Grafana)

/-- The calls the controller makes through `client.Client`. -/
inductive Call where
  | getNamespace (key : NamespacedName)
  | getOperatorGroup (key : NamespacedName)
  | getSubscription (key : NamespacedName)
  | getCustomResourceDefinition (key : NamespacedName)
  | getGrafana (key : NamespacedName)
  | create (object : Object)
  | update (object : Object)

/-- A `Get` fills its object or fails; `Create` and `Update` return an error or nil. -/
def Call.Reply : Call → Type
  | .getNamespace _ => Except Error Core.Namespace
  | .getOperatorGroup _ => Except Error Operators.OperatorGroup
  | .getSubscription _ => Except Error Operators.Subscription
  | .getCustomResourceDefinition _ => Except Error Apiextensions.CustomResourceDefinition
  | .getGrafana _ => Except Error Integreatly.Grafana
  | .create _ => Option Error
  | .update _ => Option Error

abbrev ClientPass := Pass Call Call.Reply

abbrev Exchange := Pass.Exchange Call Call.Reply

abbrev getNamespace (key : NamespacedName) : ClientPass (Except Error Core.Namespace) :=
  Pass.send (Call.getNamespace key)

abbrev getOperatorGroup (key : NamespacedName) : ClientPass (Except Error Operators.OperatorGroup) :=
  Pass.send (Call.getOperatorGroup key)

abbrev getSubscription (key : NamespacedName) : ClientPass (Except Error Operators.Subscription) :=
  Pass.send (Call.getSubscription key)

abbrev getCustomResourceDefinition (key : NamespacedName) :
    ClientPass (Except Error Apiextensions.CustomResourceDefinition) :=
  Pass.send (Call.getCustomResourceDefinition key)

abbrev getGrafana (key : NamespacedName) : ClientPass (Except Error Integreatly.Grafana) :=
  Pass.send (Call.getGrafana key)

abbrev create (object : Object) : ClientPass (Option Error) := Pass.send (Call.create object)

abbrev update (object : Object) : ClientPass (Option Error) := Pass.send (Call.update object)

/-! ### Desired objects -/

def newNamespace : Core.Namespace :=
  { typeMeta := { apiVersion := "v1", kind := "Namespace" }
    metadata := { name := «namespace» } }

def newSubscription : Operators.Subscription :=
  { typeMeta := { apiVersion := "operators.coreos.com/v1alpha1", kind := "Subscription" }
    metadata := { name := subscriptionName, «namespace» := «namespace» }
    spec := some
      { catalogSource := ""
        catalogSourceNamespace := ""
        package := "grafana-operator"
        channel := "v4"
        installPlanApproval := Operators.approvalAutomatic
        startingCSV := "grafana-operator.v4.0.1" } }

def newOperatorGroup : Operators.OperatorGroup :=
  { typeMeta := { apiVersion := "operators.coreos.com/operatorsv1", kind := "OperatorGroup" }
    metadata := { name := operatorGroupName, «namespace» := «namespace» }
    spec := { targetNamespaces := [«namespace»] } }

def newGrafana : Integreatly.Grafana :=
  { typeMeta := { apiVersion := "integreatly.org/v1alpha1", kind := "Grafana" }
    metadata := { name := grafanaName, «namespace» := «namespace» }
    spec :=
      { ingress := some { enabled := true, pathType := "Prefix", path := "/" }
        deployment := some
          { replicas := some 1
            strategy := some
              { type := "RollingUpdate"
                rollingUpdate := some
                  { maxUnavailable := some (.int 0), maxSurge := some (.int 1) } } }
        dashboardLabelSelector :=
          [{ matchLabels := mapOf [("app.kubernetes.io/part-of", "monitoring-stack-operator")] }]
        config :=
          { log := some { mode := "console", level := "error" }
            auth := some { disableLoginForm := some true, disableSignoutMenu := some true }
            authAnonymous := some { enabled := some true }
            users := some { viewersCanEdit := some true } } } }

/-! ### Phase results -/

/-- `reconcileResult`: the embedded `ctrl.Result`, an error, and whether to stop the pass. -/
structure ReconcileResult where
  result : Result := {}
  err : Option Error := none
  stop : Bool := false
deriving DecidableEq

def next : ReconcileResult := { stop := false }

def requeue (d : Duration) (err : Option Error) : ReconcileResult :=
  { stop := true, err := err, result := { requeueAfter := d, requeue := true } }

def reconcileError (err : Option Error) : ReconcileResult :=
  { stop := true, err := err }

@[simp] theorem next_stop : next.stop = false := rfl
@[simp] theorem next_err : next.err = none := rfl
@[simp] theorem requeue_stop (d : Duration) (err : Option Error) : (requeue d err).stop = true := rfl
@[simp] theorem requeue_err (d : Duration) (err : Option Error) : (requeue d err).err = err := rfl
@[simp] theorem reconcileError_stop (err : Option Error) : (reconcileError err).stop = true := rfl
@[simp] theorem reconcileError_err (err : Option Error) : (reconcileError err).err = err := rfl

/-- Requeue after a successful create; an object that already exists lets the pass go on. -/
def creationResult (d : Duration) (err : Option Error) : ReconcileResult :=
  match err with
  | none => requeue d none
  | some _ => if isAlreadyExists err then next else reconcileError err

/-- A successful update lets the pass go on; a conflict requeues without an error. -/
def updationResult (err : Option Error) : ReconcileResult :=
  match err with
  | none => next
  | some _ => if isConflict err then requeue (2 * second) none else reconcileError err

/-! ### Phases -/

def reconcileNamespace : ClientPass ReconcileResult := do
  match ← getNamespace { name := «namespace» } with
  | .error err =>
      if isNotFound (some err) then
        return creationResult 0 (← create (.namespace newNamespace))
      else return reconcileError (some err)
  | .ok found =>
      if found.status.phase ≠ Core.namespaceActive then return requeue (5 * second) none
      else return next

/-- The shape of `reconcileOperatorGroup`, `reconcileSubscription` and `reconcileGrafana`:
get the object, create it if it is not found, otherwise update it with the desired spec. -/
def createOrUpdate {T : Type} (get : ClientPass (Except Error T)) (desired : Object)
    (delay : Duration) (withDesiredSpec : T → Object) : ClientPass ReconcileResult := do
  match ← get with
  | .error err =>
      if isNotFound (some err) then return creationResult delay (← create desired)
      else return reconcileError (some err)
  | .ok existing => return updationResult (← update (withDesiredSpec existing))

def reconcileOperatorGroup : ClientPass ReconcileResult :=
  createOrUpdate (getOperatorGroup { name := operatorGroupName, «namespace» := «namespace» })
    (.operatorGroup newOperatorGroup) (5 * second)
    (fun operatorGroup => .operatorGroup { operatorGroup with spec := newOperatorGroup.spec })

def reconcileSubscription : ClientPass ReconcileResult :=
  createOrUpdate (getSubscription { name := subscriptionName, «namespace» := «namespace» })
    (.subscription newSubscription) (15 * second)
    (fun subscription => .subscription { subscription with spec := newSubscription.spec })

def reconcileGrafana : ClientPass ReconcileResult :=
  createOrUpdate (getGrafana { name := grafanaName, «namespace» := «namespace» })
    (.grafana newGrafana) (20 * second)
    (fun grafana => .grafana { grafana with spec := newGrafana.spec })

/-- The condition loop of `reconcileGrafanaCRD`. -/
def established (crd : Apiextensions.CustomResourceDefinition) : Bool :=
  crd.status.conditions.any fun c =>
    c.type == Apiextensions.established && c.status == Apiextensions.conditionTrue

def grafanaCRDKey : NamespacedName := { name := "grafanas.integreatly.org" }

def reconcileGrafanaCRD : ClientPass ReconcileResult := do
  match ← getCustomResourceDefinition grafanaCRDKey with
  | .error err =>
      if isNotFound (some err) then return requeue (10 * second) none
      else return reconcileError (some err)
  | .ok crd => if established crd then return next else return requeue (2 * second) none

/-! ### Reconcile -/

/-- The closure `result` of `Reconcile`: it logs the requeue delay, then returns a zero
`ctrl.Result` with the phase's error. -/
def result (res : ReconcileResult) : Result × Option Error :=
  ({}, res.err)

/-- `if res := phase; res.stop { return result(res) }`, then the rest of `Reconcile`. -/
def stopOr (res : ReconcileResult) (rest : ClientPass (Result × Option Error)) :
    ClientPass (Result × Option Error) :=
  if res.stop then pure (result res) else rest

def reconcile : ClientPass (Result × Option Error) :=
  reconcileNamespace >>= fun res => stopOr res <|
  reconcileOperatorGroup >>= fun res => stopOr res <|
  reconcileSubscription >>= fun res => stopOr res <|
  reconcileGrafanaCRD >>= fun res => stopOr res <|
  reconcileGrafana >>= fun res => stopOr res <|
  pure ({}, none)

/-! ### What one phase can do

One inversion lemma per phase lists every run it has under any store replies. -/

section Inversion

open Pass

variable {trace : List Exchange} {res : ReconcileResult}

theorem run_reconcileNamespace (run : Run reconcileNamespace trace res) :
    (∃ err, isNotFound (some err) = false ∧
        trace = [⟨.getNamespace { name := «namespace» }, .error err⟩] ∧ res = reconcileError (some err)) ∨
      (∃ err reply, isNotFound (some err) = true ∧
        trace = [⟨.getNamespace { name := «namespace» }, .error err⟩,
          ⟨.create (.namespace newNamespace), reply⟩] ∧ res = creationResult 0 reply) ∨
      (∃ found, trace = [⟨.getNamespace { name := «namespace» }, .ok found⟩] ∧
        res = if found.status.phase ≠ Core.namespaceActive then requeue (5 * second) none
          else next) := by
  obtain ⟨got, rest, rfl, restRun⟩ := run_send_bind_iff.mp run
  cases got with
  | error err =>
      dsimp only at restRun
      by_cases notFound : isNotFound (some err) = true
      · rw [if_pos notFound] at restRun
        obtain ⟨reply, _, rfl, doneRun⟩ := run_send_bind_iff.mp restRun
        obtain ⟨rfl, rfl⟩ := run_done_iff.mp doneRun
        exact .inr (.inl ⟨err, reply, notFound, rfl, rfl⟩)
      · rw [if_neg notFound, pure_eq, run_done_iff] at restRun
        obtain ⟨rfl, rfl⟩ := restRun
        exact .inl ⟨err, by simpa using notFound, rfl, rfl⟩
  | ok found =>
      dsimp only at restRun
      refine .inr (.inr ⟨found, ?_⟩)
      split at restRun <;> obtain ⟨rfl, rfl⟩ := run_done_iff.mp restRun <;> simp_all

theorem run_createOrUpdate {T : Type} {get : ClientPass (Except Error T)} {desired : Object}
    {delay : Duration} {withDesiredSpec : T → Object}
    (run : Run (createOrUpdate get desired delay withDesiredSpec) trace res) :
    ∃ first got, Run get first got ∧
      ((∃ err, got = .error err ∧ isNotFound (some err) = false ∧ trace = first ∧
          res = reconcileError (some err)) ∨
        (∃ err reply, got = .error err ∧ isNotFound (some err) = true ∧
          trace = first ++ [⟨.create desired, reply⟩] ∧ res = creationResult delay reply) ∨
        (∃ existing reply, got = .ok existing ∧
          trace = first ++ [⟨.update (withDesiredSpec existing), reply⟩] ∧
          res = updationResult reply)) := by
  obtain ⟨first, got, rest, getRun, restRun, rfl⟩ := run_bind_iff.mp run
  refine ⟨first, got, getRun, ?_⟩
  cases got with
  | error err =>
      dsimp only at restRun
      by_cases notFound : isNotFound (some err) = true
      · rw [if_pos notFound] at restRun
        obtain ⟨reply, _, rfl, doneRun⟩ := run_send_bind_iff.mp restRun
        obtain ⟨rfl, rfl⟩ := run_done_iff.mp doneRun
        exact .inr (.inl ⟨err, reply, rfl, notFound, rfl, rfl⟩)
      · rw [if_neg notFound, pure_eq, run_done_iff] at restRun
        obtain ⟨rfl, rfl⟩ := restRun
        exact .inl ⟨err, rfl, by simpa using notFound, by simp, rfl⟩
  | ok existing =>
      dsimp only at restRun
      obtain ⟨reply, _, rfl, doneRun⟩ := run_send_bind_iff.mp restRun
      obtain ⟨rfl, rfl⟩ := run_done_iff.mp doneRun
      exact .inr (.inr ⟨existing, reply, rfl, rfl, rfl⟩)

theorem run_reconcileGrafanaCRD (run : Run reconcileGrafanaCRD trace res) :
    (∃ err, isNotFound (some err) = false ∧
        trace = [⟨.getCustomResourceDefinition grafanaCRDKey, .error err⟩] ∧
        res = reconcileError (some err)) ∨
      (∃ err, isNotFound (some err) = true ∧
        trace = [⟨.getCustomResourceDefinition grafanaCRDKey, .error err⟩] ∧
        res = requeue (10 * second) none) ∨
      (∃ crd, trace = [⟨.getCustomResourceDefinition grafanaCRDKey, .ok crd⟩] ∧
        res = if established crd then next else requeue (2 * second) none) := by
  obtain ⟨got, rest, rfl, restRun⟩ := run_send_bind_iff.mp run
  cases got with
  | error err =>
      dsimp only at restRun
      by_cases notFound : isNotFound (some err) = true
      · rw [if_pos notFound, pure_eq, run_done_iff] at restRun
        obtain ⟨rfl, rfl⟩ := restRun
        exact .inr (.inl ⟨err, notFound, rfl, rfl⟩)
      · rw [if_neg notFound, pure_eq, run_done_iff] at restRun
        obtain ⟨rfl, rfl⟩ := restRun
        exact .inl ⟨err, by simpa using notFound, rfl, rfl⟩
  | ok crd =>
      dsimp only at restRun
      refine .inr (.inr ⟨crd, ?_⟩)
      split at restRun <;> obtain ⟨rfl, rfl⟩ := run_done_iff.mp restRun <;> simp_all

end Inversion

end MonitoringStackOperator.GrafanaOperator
