import MonitoringStackOperator.GrafanaOperator.PhaseEngine

/-! Successive passes of the bootstrap controller against a store that behaves.

The store answers every `Get` with the object at the key or NotFound, inserts what a
`Create` sends at the object's own key (a namespace becomes Active), and gives the stored
object the spec an `Update` sends. The Grafana CRD is installed by OLM, outside the
controller: the CRDs are a function of the store, established whenever the Subscription
exists.

From any such store whose namespace, if present, is Active, a pass that does not run
through all five phases creates the first missing object and puts the desired spec on
every object before it, and a pass that runs through all five puts the desired spec on
all of them. So one more pass than there are missing objects reaches the desired state,
and every pass after that reads and rewrites the same objects. -/

namespace MonitoringStackOperator.GrafanaOperator

open Pass

/-- The reply of a `Get` to what the store holds at the key. -/
def lookup {T : Type} : Option T → Except Error T
  | some object => .ok object
  | none => .error (.status .notFound "")

/-- The objects of one kind in the store, each at the key its own metadata names. -/
@[ext]
structure Bucket (T : Type) (meta : T → ObjectMeta) where
  find : NamespacedName → Option T
  keyed : ∀ key object, find key = some object → (meta object).key = key

namespace Bucket

variable {T : Type} {meta : T → ObjectMeta}

/-- Store `object` at its own key. -/
def put (bucket : Bucket T meta) (object : T) : Bucket T meta where
  find key := if key = (meta object).key then some object else bucket.find key
  keyed key stored found := by
    dsimp only at found
    split at found
    · next here => rw [← Option.some_inj.mp found, here]
    · exact bucket.keyed key stored found

/-- The empty bucket. -/
def empty : Bucket T meta where
  find _ := none
  keyed _ _ absent := Option.noConfusion absent

/-- `Create`: AlreadyExists if the key is taken, otherwise the object is inserted. -/
def create (bucket : Bucket T meta) (object : T) : Option Error × Bucket T meta :=
  match bucket.find (meta object).key with
  | some _ => (some (.status .alreadyExists ""), bucket)
  | none => (none, bucket.put object)

/-- `Update`: NotFound if the key is free, otherwise the stored object takes what `withSpec`
keeps of the sent one. -/
def update (bucket : Bucket T meta) (withSpec : T → T → T) (object : T) :
    Option Error × Bucket T meta :=
  match bucket.find (meta object).key with
  | some stored => (none, bucket.put (withSpec stored object))
  | none => (some (.status .notFound ""), bucket)

theorem find_put (bucket : Bucket T meta) (object : T) (key : NamespacedName) :
    (bucket.put object).find key = if key = (meta object).key then some object else bucket.find key :=
  rfl

@[simp] theorem find_put_self (bucket : Bucket T meta) (object : T) :
    (bucket.put object).find (meta object).key = some object :=
  if_pos rfl

theorem find_put_of_key {bucket : Bucket T meta} {object : T} {key : NamespacedName}
    (same : (meta object).key = key) : (bucket.put object).find key = some object := by
  rw [← same, find_put_self]

theorem put_find {bucket : Bucket T meta} {key : NamespacedName} {object : T}
    (found : bucket.find key = some object) : bucket.put object = bucket := by
  ext1
  funext other
  rw [find_put, bucket.keyed key object found]
  split
  · subst other
    exact found.symm
  · rfl

theorem create_absent {bucket : Bucket T meta} {object : T}
    (absent : bucket.find (meta object).key = none) :
    bucket.create object = (none, bucket.put object) := by
  rw [create, absent]

theorem update_found {bucket : Bucket T meta} {withSpec : T → T → T} {object stored : T}
    (found : bucket.find (meta object).key = some stored) :
    bucket.update withSpec object = (none, bucket.put (withSpec stored object)) := by
  rw [update, found]

end Bucket

/-- The objects `Reconcile` reads and writes, by kind. -/
structure Store where
  namespaces : Bucket Core.Namespace Core.Namespace.metadata
  operatorGroups : Bucket Operators.OperatorGroup Operators.OperatorGroup.metadata
  subscriptions : Bucket Operators.Subscription Operators.Subscription.metadata
  grafanas : Bucket Integreatly.Grafana Integreatly.Grafana.metadata

/-- The store before the operator is installed. -/
def Store.empty : Store :=
  ⟨.empty, .empty, .empty, .empty⟩

/-- What the namespace controller makes of a created namespace. -/
def activate (ns : Core.Namespace) : Core.Namespace :=
  { ns with status := { ns.status with phase := Core.namespaceActive } }

/-! Each object the controller creates is stored at the key it reads the object back from. -/

@[simp] theorem activate_newNamespace_key :
    (activate newNamespace).metadata.key = { name := «namespace» } := rfl

@[simp] theorem newOperatorGroup_key :
    newOperatorGroup.metadata.key = { name := operatorGroupName, «namespace» := «namespace» } := rfl

@[simp] theorem newSubscription_key :
    newSubscription.metadata.key = { name := subscriptionName, «namespace» := «namespace» } := rfl

@[simp] theorem newGrafana_key :
    newGrafana.metadata.key = { name := grafanaName, «namespace» := «namespace» } := rfl

namespace Store

variable (crds : Store → NamespacedName → Option Apiextensions.CustomResourceDefinition)

/-- The store's reply to each call, and the store after it. -/
def answer (store : Store) : (call : Call) → call.Reply × Store
  | .getNamespace key => (lookup (store.namespaces.find key), store)
  | .getOperatorGroup key => (lookup (store.operatorGroups.find key), store)
  | .getSubscription key => (lookup (store.subscriptions.find key), store)
  | .getCustomResourceDefinition key => (lookup (crds store key), store)
  | .getGrafana key => (lookup (store.grafanas.find key), store)
  | .create (.namespace ns) =>
      (store.namespaces.create (activate ns)).map id ({ store with namespaces := · })
  | .create (.operatorGroup og) =>
      (store.operatorGroups.create og).map id ({ store with operatorGroups := · })
  | .create (.subscription sub) =>
      (store.subscriptions.create sub).map id ({ store with subscriptions := · })
  | .create (.grafana grafana) =>
      (store.grafanas.create grafana).map id ({ store with grafanas := · })
  | .update (.namespace ns) =>
      (store.namespaces.update (fun stored sent => { stored with spec := sent.spec }) ns).map id
        ({ store with namespaces := · })
  | .update (.operatorGroup og) =>
      (store.operatorGroups.update (fun stored sent => { stored with spec := sent.spec }) og).map
        id ({ store with operatorGroups := · })
  | .update (.subscription sub) =>
      (store.subscriptions.update (fun stored sent => { stored with spec := sent.spec }) sub).map
        id ({ store with subscriptions := · })
  | .update (.grafana grafana) =>
      (store.grafanas.update (fun stored sent => { stored with spec := sent.spec }) grafana).map
        id ({ store with grafanas := · })

/-- One `Reconcile` pass against the store. -/
def pass (store : Store) : Execution Call Call.Reply (Result × Option Error) Store :=
  exec (answer crds) reconcile store

/-- The store after one pass. -/
def step (store : Store) : Store :=
  (pass crds store).store

/-- The namespace, if present, is Active. -/
def NamespaceActive (store : Store) : Prop :=
  ∀ ns, store.namespaces.find { name := «namespace» } = some ns →
    ns.status.phase = Core.namespaceActive

/-- How many of the four objects `Reconcile` manages are missing. -/
def absent (store : Store) : Nat :=
  (store.namespaces.find { name := «namespace» }).isNone.toNat +
    (store.operatorGroups.find { name := operatorGroupName, «namespace» := «namespace» }).isNone.toNat +
    (store.subscriptions.find { name := subscriptionName, «namespace» := «namespace» }).isNone.toNat +
    (store.grafanas.find { name := grafanaName, «namespace» := «namespace» }).isNone.toNat

/-- The desired state: all four objects exist, the namespace is Active and the others carry
the spec `Reconcile` writes. -/
structure Converged (store : Store) : Prop where
  namespace_active : ∃ ns, store.namespaces.find { name := «namespace» } = some ns ∧
    ns.status.phase = Core.namespaceActive
  operatorGroup_desired : ∃ og,
    store.operatorGroups.find { name := operatorGroupName, «namespace» := «namespace» } = some og ∧
      og.spec = newOperatorGroup.spec
  subscription_desired : ∃ sub,
    store.subscriptions.find { name := subscriptionName, «namespace» := «namespace» } = some sub ∧
      sub.spec = newSubscription.spec
  grafana_desired : ∃ grafana,
    store.grafanas.find { name := grafanaName, «namespace» := «namespace» } = some grafana ∧
      grafana.spec = newGrafana.spec

end Store

/-- A `Create` call. -/
def Call.isCreate : Call → Bool
  | .create _ => true
  | _ => false

/-! ### Executing the engine against a store -/

section Execute

variable {σ : Type} {answer : σ → (call : Call) → call.Reply × σ} {store after : σ}
  {trace : List Exchange} {phase : ClientPass ReconcileResult}
  {rest : List (ClientPass ReconcileResult)} {res : ReconcileResult}

theorem exec_runPhases_stop (stops : (exec answer phase store).result.stop = true) :
    exec answer (runPhases (phase :: rest)) store =
      ⟨some (exec answer phase store).result, (exec answer phase store).store,
        (exec answer phase store).trace⟩ := by
  simp [runPhases, exec_bind, stops]

theorem exec_runPhases_continue (continues : (exec answer phase store).result.stop = false) :
    exec answer (runPhases (phase :: rest)) store =
      let later := exec answer (runPhases rest) (exec answer phase store).store
      ⟨later.result, later.store, (exec answer phase store).trace ++ later.trace⟩ := by
  simp [runPhases, exec_bind, continues]

theorem exec_reconcile (store : σ) :
    exec answer reconcile store =
      ⟨finish (exec answer (runPhases phases) store).result,
        (exec answer (runPhases phases) store).store,
        (exec answer (runPhases phases) store).trace⟩ := by
  simp [reconcile_eq_runPhases, exec_bind]

end Execute

/-! ### Each phase against the store -/

section Phases

variable (crds : Store → NamespacedName → Option Apiextensions.CustomResourceDefinition)
  {store : Store}

@[simp] theorem exec_reconcileNamespace :
    exec (Store.answer crds) reconcileNamespace store =
      match store.namespaces.find { name := «namespace» } with
      | none => ⟨requeue 0 none,
          { store with namespaces := store.namespaces.put (activate newNamespace) },
          [⟨.getNamespace { name := «namespace» }, .error (.status .notFound "")⟩,
            ⟨.create (.namespace newNamespace), none⟩]⟩
      | some ns => ⟨if ns.status.phase ≠ Core.namespaceActive then requeue (5 * second) none
          else next, store, [⟨.getNamespace { name := «namespace» }, .ok ns⟩]⟩ := by
  cases found : store.namespaces.find { name := «namespace» } with
  | none =>
      simp [reconcileNamespace, exec_bind, Store.answer, found, lookup, isNotFound,
        Bucket.create_absent, creationResult]
  | some ns =>
      by_cases active : ns.status.phase = Core.namespaceActive <;>
        simp [reconcileNamespace, exec_bind, Store.answer, found, lookup, active]

@[simp] theorem exec_reconcileOperatorGroup :
    exec (Store.answer crds) reconcileOperatorGroup store =
      match store.operatorGroups.find { name := operatorGroupName, «namespace» := «namespace» } with
      | none => ⟨requeue (5 * second) none,
          { store with operatorGroups := store.operatorGroups.put newOperatorGroup },
          [⟨.getOperatorGroup { name := operatorGroupName, «namespace» := «namespace» },
            .error (.status .notFound "")⟩, ⟨.create (.operatorGroup newOperatorGroup), none⟩]⟩
      | some og =>
          let desired := { og with spec := newOperatorGroup.spec }
          ⟨next, { store with operatorGroups := store.operatorGroups.put desired },
            [⟨.getOperatorGroup { name := operatorGroupName, «namespace» := «namespace» }, .ok og⟩,
              ⟨.update (.operatorGroup desired), none⟩]⟩ := by
  cases found : store.operatorGroups.find { name := operatorGroupName, «namespace» := «namespace» } with
  | none =>
      simp [reconcileOperatorGroup, createOrUpdate, exec_bind, Store.answer, found, lookup,
        isNotFound, Bucket.create_absent, creationResult]
  | some og =>
      simp [reconcileOperatorGroup, createOrUpdate, exec_bind, Store.answer, found, lookup,
        store.operatorGroups.keyed _ og found, Bucket.update_found, updationResult]

@[simp] theorem exec_reconcileSubscription :
    exec (Store.answer crds) reconcileSubscription store =
      match store.subscriptions.find { name := subscriptionName, «namespace» := «namespace» } with
      | none => ⟨requeue (15 * second) none,
          { store with subscriptions := store.subscriptions.put newSubscription },
          [⟨.getSubscription { name := subscriptionName, «namespace» := «namespace» },
            .error (.status .notFound "")⟩, ⟨.create (.subscription newSubscription), none⟩]⟩
      | some sub =>
          let desired := { sub with spec := newSubscription.spec }
          ⟨next, { store with subscriptions := store.subscriptions.put desired },
            [⟨.getSubscription { name := subscriptionName, «namespace» := «namespace» }, .ok sub⟩,
              ⟨.update (.subscription desired), none⟩]⟩ := by
  cases found : store.subscriptions.find { name := subscriptionName, «namespace» := «namespace» } with
  | none =>
      simp [reconcileSubscription, createOrUpdate, exec_bind, Store.answer, found, lookup,
        isNotFound, Bucket.create_absent, creationResult]
  | some sub =>
      simp [reconcileSubscription, createOrUpdate, exec_bind, Store.answer, found, lookup,
        store.subscriptions.keyed _ sub found, Bucket.update_found, updationResult]

@[simp] theorem exec_reconcileGrafanaCRD :
    exec (Store.answer crds) reconcileGrafanaCRD store =
      match crds store grafanaCRDKey with
      | none => ⟨requeue (10 * second) none, store,
          [⟨.getCustomResourceDefinition grafanaCRDKey, .error (.status .notFound "")⟩]⟩
      | some crd => ⟨if established crd then next else requeue (2 * second) none, store,
          [⟨.getCustomResourceDefinition grafanaCRDKey, .ok crd⟩]⟩ := by
  cases found : crds store grafanaCRDKey with
  | none => simp [reconcileGrafanaCRD, exec_bind, Store.answer, found, lookup, isNotFound]
  | some crd =>
      cases ready : established crd <;>
        simp [reconcileGrafanaCRD, exec_bind, Store.answer, found, lookup, ready]

@[simp] theorem exec_reconcileGrafana :
    exec (Store.answer crds) reconcileGrafana store =
      match store.grafanas.find { name := grafanaName, «namespace» := «namespace» } with
      | none => ⟨requeue (20 * second) none,
          { store with grafanas := store.grafanas.put newGrafana },
          [⟨.getGrafana { name := grafanaName, «namespace» := «namespace» },
            .error (.status .notFound "")⟩, ⟨.create (.grafana newGrafana), none⟩]⟩
      | some grafana =>
          let desired := { grafana with spec := newGrafana.spec }
          ⟨next, { store with grafanas := store.grafanas.put desired },
            [⟨.getGrafana { name := grafanaName, «namespace» := «namespace» }, .ok grafana⟩,
              ⟨.update (.grafana desired), none⟩]⟩ := by
  cases found : store.grafanas.find { name := grafanaName, «namespace» := «namespace» } with
  | none =>
      simp [reconcileGrafana, createOrUpdate, exec_bind, Store.answer, found, lookup,
        isNotFound, Bucket.create_absent, creationResult]
  | some grafana =>
      simp [reconcileGrafana, createOrUpdate, exec_bind, Store.answer, found, lookup,
        store.grafanas.keyed _ grafana found, Bucket.update_found, updationResult]

end Phases

/-! ### Where a pass stops

A pass stops at the first phase that finds its object missing and creates it. -/

section Stops

variable (crds : Store → NamespacedName → Option Apiextensions.CustomResourceDefinition)
  {store : Store} {ns : Core.Namespace} {og : Operators.OperatorGroup}
  {sub : Operators.Subscription} {crd : Apiextensions.CustomResourceDefinition}

theorem step_eq_runPhases (store : Store) :
    Store.step crds store = (exec (Store.answer crds) (runPhases phases) store).store := by
  simp [Store.step, Store.pass, exec_reconcile]

theorem step_of_namespace_absent (nsFound : store.namespaces.find { name := «namespace» } = none) :
    Store.step crds store = { store with namespaces := store.namespaces.put (activate newNamespace) } := by
  rw [step_eq_runPhases, phases, exec_runPhases_stop] <;> simp [nsFound]

theorem step_of_operatorGroup_absent (nsFound : store.namespaces.find { name := «namespace» } = some ns)
    (active : ns.status.phase = Core.namespaceActive)
    (ogFound : store.operatorGroups.find { name := operatorGroupName, «namespace» := «namespace» } =
      none) :
    Store.step crds store = { store with operatorGroups := store.operatorGroups.put newOperatorGroup } := by
  rw [step_eq_runPhases, phases, exec_runPhases_continue, exec_runPhases_stop] <;>
    simp [nsFound, active, ogFound]

theorem step_of_subscription_absent (nsFound : store.namespaces.find { name := «namespace» } = some ns)
    (active : ns.status.phase = Core.namespaceActive)
    (ogFound : store.operatorGroups.find { name := operatorGroupName, «namespace» := «namespace» } =
      some og)
    (subFound : store.subscriptions.find { name := subscriptionName, «namespace» := «namespace» } =
      none) :
    Store.step crds store =
      { store with
        operatorGroups := store.operatorGroups.put { og with spec := newOperatorGroup.spec }
        subscriptions := store.subscriptions.put newSubscription } := by
  rw [step_eq_runPhases, phases, exec_runPhases_continue, exec_runPhases_continue,
    exec_runPhases_stop] <;> simp [nsFound, active, ogFound, subFound]

theorem step_of_grafana_absent (nsFound : store.namespaces.find { name := «namespace» } = some ns)
    (active : ns.status.phase = Core.namespaceActive)
    (ogFound : store.operatorGroups.find { name := operatorGroupName, «namespace» := «namespace» } =
      some og)
    (subFound : store.subscriptions.find { name := subscriptionName, «namespace» := «namespace» } =
      some sub)
    (crdFound : crds { store with
        operatorGroups := store.operatorGroups.put { og with spec := newOperatorGroup.spec }
        subscriptions := store.subscriptions.put { sub with spec := newSubscription.spec } }
      grafanaCRDKey = some crd)
    (ready : established crd = true)
    (grafanaFound : store.grafanas.find { name := grafanaName, «namespace» := «namespace» } = none) :
    Store.step crds store =
      { store with
        operatorGroups := store.operatorGroups.put { og with spec := newOperatorGroup.spec }
        subscriptions := store.subscriptions.put { sub with spec := newSubscription.spec }
        grafanas := store.grafanas.put newGrafana } := by
  rw [step_eq_runPhases, phases, exec_runPhases_continue, exec_runPhases_continue,
    exec_runPhases_continue, exec_runPhases_continue, exec_runPhases_stop] <;>
    simp [nsFound, active, ogFound, subFound, crdFound, ready, grafanaFound]

/-- A pass that finds the `OperatorGroup` and the `Subscription` with the desired spec, and the
Grafana CRD missing or not established, stops at the CRD and returns the zero result, with the
store as it was. -/
theorem pass_of_crd_pending (nsFound : store.namespaces.find { name := «namespace» } = some ns)
    (active : ns.status.phase = Core.namespaceActive)
    (ogFound : store.operatorGroups.find { name := operatorGroupName, «namespace» := «namespace» } =
      some og)
    (ogDesired : og.spec = newOperatorGroup.spec)
    (subFound : store.subscriptions.find { name := subscriptionName, «namespace» := «namespace» } =
      some sub)
    (subDesired : sub.spec = newSubscription.spec)
    (pending : ∀ crd, crds store grafanaCRDKey = some crd → established crd = false) :
    (Store.pass crds store).result = ({}, none) ∧ Store.step crds store = store := by
  have unchanged : { store with
      operatorGroups := store.operatorGroups.put { og with spec := newOperatorGroup.spec }
      subscriptions := store.subscriptions.put { sub with spec := newSubscription.spec } } = store := by
    rw [← ogDesired, ← subDesired, Bucket.put_find ogFound, Bucket.put_find subFound]
  simp only [Store.step, Store.pass, exec_reconcile, phases]
  rw [exec_runPhases_continue, exec_runPhases_continue, exec_runPhases_continue,
      exec_runPhases_stop] <;>
    rcases crdFound : crds store grafanaCRDKey with _ | crd <;>
    simp [nsFound, active, ogFound, subFound, unchanged, crdFound, pending, finish, result, requeue]

end Stops

/-! ### Successive passes -/

section Passes

variable (crds : Store → NamespacedName → Option Apiextensions.CustomResourceDefinition)
  (installed : ∀ store sub,
    store.subscriptions.find { name := subscriptionName, «namespace» := «namespace» } = some sub →
      ∃ crd, crds store grafanaCRDKey = some crd ∧ established crd = true)
  {store : Store}

include installed

/-- With all four objects present, a pass runs through all five phases: it gives the
`OperatorGroup`, the `Subscription` and the Grafana instance the desired spec, creates
nothing, and returns the zero result. -/
theorem pass_of_present {ns : Core.Namespace} {og : Operators.OperatorGroup}
    {sub : Operators.Subscription} {grafana : Integreatly.Grafana}
    (nsFound : store.namespaces.find { name := «namespace» } = some ns)
    (active : ns.status.phase = Core.namespaceActive)
    (ogFound : store.operatorGroups.find { name := operatorGroupName, «namespace» := «namespace» } =
      some og)
    (subFound : store.subscriptions.find { name := subscriptionName, «namespace» := «namespace» } =
      some sub)
    (grafanaFound : store.grafanas.find { name := grafanaName, «namespace» := «namespace» } =
      some grafana) :
    (Store.pass crds store).result = ({}, none) ∧
      Store.step crds store =
        { store with
          operatorGroups := store.operatorGroups.put { og with spec := newOperatorGroup.spec }
          subscriptions := store.subscriptions.put { sub with spec := newSubscription.spec }
          grafanas := store.grafanas.put { grafana with spec := newGrafana.spec } } ∧
      ∀ x ∈ (Store.pass crds store).trace, Call.isCreate x.1 = false := by
  obtain ⟨crd, crdFound, ready⟩ := installed
    { store with
      operatorGroups := store.operatorGroups.put { og with spec := newOperatorGroup.spec }
      subscriptions := store.subscriptions.put { sub with spec := newSubscription.spec } } _
    (Bucket.find_put_of_key (store.subscriptions.keyed _ sub subFound))
  simp [Store.step, Store.pass, exec_reconcile, phases, runPhases, exec_bind, nsFound, active,
    ogFound, subFound, crdFound, ready, grafanaFound, finish, next, Call.isCreate]

/-- A pass from a store with a missing object creates the first missing one, and the
namespace stays Active. -/
theorem step_progress (active : store.NamespaceActive) (missing : 0 < store.absent) :
    (Store.step crds store).NamespaceActive ∧ (Store.step crds store).absent + 1 = store.absent := by
  rcases nsFound : store.namespaces.find { name := «namespace» } with _ | ns
  · rw [step_of_namespace_absent crds nsFound]
    refine ⟨fun ns found => ?_, ?_⟩
    · rw [Bucket.find_put_of_key activate_newNamespace_key, Option.some_inj] at found
      rw [← found]
      rfl
    · simp [Store.absent, Bucket.find_put, nsFound]
      omega
  have nsActive := active ns nsFound
  rcases ogFound : store.operatorGroups.find
      { name := operatorGroupName, «namespace» := «namespace» } with _ | og
  · rw [step_of_operatorGroup_absent crds nsFound nsActive ogFound]
    refine ⟨active, ?_⟩
    simp [Store.absent, Bucket.find_put, nsFound, ogFound]
    omega
  have ogKey := store.operatorGroups.keyed _ og ogFound
  rcases subFound : store.subscriptions.find
      { name := subscriptionName, «namespace» := «namespace» } with _ | sub
  · rw [step_of_subscription_absent crds nsFound nsActive ogFound subFound]
    refine ⟨active, ?_⟩
    simp [Store.absent, Bucket.find_put, ogKey, nsFound, ogFound, subFound]
    omega
  have subKey := store.subscriptions.keyed _ sub subFound
  rcases grafanaFound : store.grafanas.find
      { name := grafanaName, «namespace» := «namespace» } with _ | grafana
  · obtain ⟨crd, crdFound, ready⟩ := installed
      { store with
        operatorGroups := store.operatorGroups.put { og with spec := newOperatorGroup.spec }
        subscriptions := store.subscriptions.put { sub with spec := newSubscription.spec } } _
      (Bucket.find_put_of_key subKey)
    rw [step_of_grafana_absent crds nsFound nsActive ogFound subFound crdFound ready grafanaFound]
    refine ⟨active, ?_⟩
    simp [Store.absent, Bucket.find_put, ogKey, subKey, nsFound, ogFound, subFound, grafanaFound]
  · simp [Store.absent, nsFound, ogFound, subFound, grafanaFound] at missing

/-- A pass from a store with no missing object reaches the desired state. -/
theorem converged_step (active : store.NamespaceActive) (complete : store.absent = 0) :
    (Store.step crds store).Converged := by
  simp only [Store.absent, Nat.add_eq_zero, Bool.toNat_eq_zero, Option.isNone_eq_false_iff,
    Option.isSome_iff_exists] at complete
  obtain ⟨⟨⟨⟨ns, nsFound⟩, og, ogFound⟩, sub, subFound⟩, grafana, grafanaFound⟩ := complete
  obtain ⟨-, stepped, -⟩ :=
    pass_of_present crds installed nsFound (active ns nsFound) ogFound subFound grafanaFound
  rw [stepped]
  exact ⟨⟨ns, nsFound, active ns nsFound⟩,
    ⟨_, Bucket.find_put_of_key (store.operatorGroups.keyed _ og ogFound), rfl⟩,
    ⟨_, Bucket.find_put_of_key (store.subscriptions.keyed _ sub subFound), rfl⟩,
    ⟨_, Bucket.find_put_of_key (store.grafanas.keyed _ grafana grafanaFound), rfl⟩⟩

/-- A pass from the desired state creates nothing, leaves the store as it is, and returns the
zero result. -/
theorem pass_of_converged (converged : store.Converged) :
    (Store.pass crds store).result = ({}, none) ∧ Store.step crds store = store ∧
      ∀ x ∈ (Store.pass crds store).trace, Call.isCreate x.1 = false := by
  obtain ⟨⟨ns, nsFound, active⟩, ⟨og, ogFound, ogSpec⟩, ⟨sub, subFound, subSpec⟩,
    ⟨grafana, grafanaFound, grafanaSpec⟩⟩ := converged
  obtain ⟨result, stepped, nothingCreated⟩ :=
    pass_of_present crds installed nsFound active ogFound subFound grafanaFound
  refine ⟨result, ?_, nothingCreated⟩
  rw [stepped, ← ogSpec, ← subSpec, ← grafanaSpec, Bucket.put_find ogFound,
    Bucket.put_find subFound, Bucket.put_find grafanaFound]

/-- One pass more than there are missing objects reaches the desired state. -/
theorem converged_after_absent (active : store.NamespaceActive) :
    ((Store.step crds)^[store.absent + 1] store).Converged := by
  obtain ⟨k, missing⟩ : ∃ k, store.absent = k := ⟨_, rfl⟩
  rw [missing]
  induction k generalizing store with
  | zero => exact converged_step crds installed active missing
  | succ k ih =>
      obtain ⟨stepActive, fewer⟩ := step_progress crds installed active (by omega)
      rw [Function.iterate_succ_apply]
      exact ih stepActive (by omega)

end Passes

theorem Store.absent_le (store : Store) : store.absent ≤ 4 := by
  simp only [Store.absent]
  have := Bool.toNat_le (store.namespaces.find { name := «namespace» }).isNone
  have := Bool.toNat_le
    (store.operatorGroups.find { name := operatorGroupName, «namespace» := «namespace» }).isNone
  have := Bool.toNat_le
    (store.subscriptions.find { name := subscriptionName, «namespace» := «namespace» }).isNone
  have := Bool.toNat_le (store.grafanas.find { name := grafanaName, «namespace» := «namespace» }).isNone
  omega

/-- From any store whose namespace, if present, is Active, at most five passes reach the
desired state; every pass from then on creates nothing, leaves the store unchanged and
returns the zero result with a nil error. -/
theorem reconcile_converges_within_five_passes
    (crds : Store → NamespacedName → Option Apiextensions.CustomResourceDefinition)
    (installed : ∀ store sub,
      store.subscriptions.find { name := subscriptionName, «namespace» := «namespace» } = some sub →
        ∃ crd, crds store grafanaCRDKey = some crd ∧ established crd = true)
    (store : Store) (active : store.NamespaceActive) :
    ∃ n ≤ 5, ((Store.step crds)^[n] store).Converged ∧
      ∀ m, n ≤ m →
        (Store.pass crds ((Store.step crds)^[m] store)).result = ({}, none) ∧
          Store.step crds ((Store.step crds)^[m] store) = (Store.step crds)^[m] store ∧
          ∀ x ∈ (Store.pass crds ((Store.step crds)^[m] store)).trace, Call.isCreate x.1 = false := by
  have converged := converged_after_absent crds installed active
  have stays := (pass_of_converged crds installed converged).2.1
  refine ⟨store.absent + 1, by have := store.absent_le; omega, converged, fun m later => ?_⟩
  obtain ⟨j, rfl⟩ := Nat.exists_eq_add_of_le later
  rw [Nat.add_comm, Function.iterate_add_apply, Function.iterate_fixed stays]
  exact pass_of_converged crds installed converged

/-- From the empty store, with the Grafana CRD established from the start. -/
theorem reconcile_converges_from_empty_store :
    let crds : Store → NamespacedName → Option Apiextensions.CustomResourceDefinition :=
      fun _ _ => some { status := { conditions :=
        [{ type := Apiextensions.established, status := Apiextensions.conditionTrue }] } }
    (∀ store sub,
      store.subscriptions.find { name := subscriptionName, «namespace» := «namespace» } = some sub →
        ∃ crd, crds store grafanaCRDKey = some crd ∧ established crd = true) ∧
      Store.empty.NamespaceActive ∧
      ∃ n ≤ 5, ((Store.step crds)^[n] Store.empty).Converged ∧
        ∀ m, n ≤ m →
          (Store.pass crds ((Store.step crds)^[m] Store.empty)).result = ({}, none) ∧
            Store.step crds ((Store.step crds)^[m] Store.empty) = (Store.step crds)^[m] Store.empty ∧
            ∀ x ∈ (Store.pass crds ((Store.step crds)^[m] Store.empty)).trace,
              Call.isCreate x.1 = false :=
  have installed := fun _ _ _ => ⟨_, rfl, rfl⟩
  have active : Store.empty.NamespaceActive := fun _ absent => Option.noConfusion absent
  ⟨installed, active, reconcile_converges_within_five_passes _ installed _ active⟩

/-! ### No faster than one object a pass -/

namespace Bucket

variable {T : Type} {meta : T → ObjectMeta}

/-- A key a `Create` frees or takes is paid for by the `Create` being accepted. -/
theorem isNone_create_le (bucket : Bucket T meta) (object : T) (key : NamespacedName) :
    (bucket.find key).isNone.toNat ≤
      ((bucket.create object).2.find key).isNone.toNat + (bucket.create object).1.isNone.toNat := by
  unfold create
  split
  · simp
  · have := Bool.toNat_le (bucket.find key).isNone
    simp only [Option.isNone_none, Bool.toNat_true]
    omega

/-- An `Update` that keeps the stored object's key neither takes nor frees a key. -/
theorem find_update_isNone {withSpec : T → T → T}
    (keeps : ∀ stored sent, (meta (withSpec stored sent)).key = (meta stored).key)
    (bucket : Bucket T meta) (object : T) (key : NamespacedName) :
    ((bucket.update withSpec object).2.find key).isNone = (bucket.find key).isNone := by
  unfold update
  split
  · next stored found =>
      rw [find_put]
      split
      · next same => rw [same, keeps, bucket.keyed _ stored found, found]; rfl
      · rfl
  · rfl

end Bucket

section Lower

variable (crds : Store → NamespacedName → Option Apiextensions.CustomResourceDefinition)

/-- One call lowers the number of missing objects only by a `Create` the store accepts. -/
theorem Store.absent_answer_le (store : Store) (call : Call) :
    store.absent ≤ (Store.answer crds store call).2.absent +
      (createSucceeded ⟨call, (Store.answer crds store call).1⟩).toNat := by
  cases call with
  | create object =>
      cases object <;> simp only [Store.answer, Prod.map, id, createSucceeded, Store.absent]
      · have := Bucket.isNone_create_le store.namespaces (activate ‹_›) { name := «namespace» }
        omega
      · have := Bucket.isNone_create_le store.operatorGroups ‹_›
          { name := operatorGroupName, «namespace» := «namespace» }
        omega
      · have := Bucket.isNone_create_le store.subscriptions ‹_›
          { name := subscriptionName, «namespace» := «namespace» }
        omega
      · have := Bucket.isNone_create_le store.grafanas ‹_›
          { name := grafanaName, «namespace» := «namespace» }
        omega
  | update object =>
      cases object <;>
        simp [Store.answer, Store.absent, Bucket.find_update_isNone, createSucceeded]
  | _ => simp [Store.answer]

/-- Over a whole pass, the missing objects fall by no more than the creates the store accepts. -/
theorem Store.absent_exec_le {α : Type} (pass : ClientPass α) (store : Store) :
    store.absent ≤ (exec (Store.answer crds) pass store).store.absent +
      ((exec (Store.answer crds) pass store).trace.filter createSucceeded).length := by
  induction pass generalizing store with
  | done result => simp
  | call request next ih =>
      have first := Store.absent_answer_le crds store request
      have rest := ih (Store.answer crds store request).1 (Store.answer crds store request).2
      simp only [exec, List.filter_cons]
      split <;> rename_i created <;> simp only [created, Bool.toNat_true, Bool.toNat_false,
        List.length_cons] at first ⊢ <;> omega

/-- A pass stops after the first create the store accepts, so it lowers the number of missing
objects by at most one. -/
theorem Store.absent_le_step (store : Store) : store.absent ≤ (Store.step crds store).absent + 1 := by
  have run : Run reconcile (Store.pass crds store).trace (Store.pass crds store).result :=
    exec_run _ _ _
  obtain ⟨stopped, engineRun, -⟩ := run_reconcile_iff.mp run
  have once := (engineRun.nothingAfterCreate phases_createStops).count_le
  have counted := Store.absent_exec_le crds reconcile store
  exact counted.trans (Nat.add_le_add_left once _)

theorem Store.Converged.absent_eq_zero {store : Store} (converged : store.Converged) :
    store.absent = 0 := by
  obtain ⟨⟨_, nsFound, -⟩, ⟨_, ogFound, -⟩, ⟨_, subFound, -⟩, ⟨_, grafanaFound, -⟩⟩ := converged
  simp [Store.absent, nsFound, ogFound, subFound, grafanaFound]

theorem Store.absent_le_iterate (store : Store) (k : Nat) :
    store.absent ≤ ((Store.step crds)^[k] store).absent + k := by
  induction k with
  | zero => rfl
  | succ k ih =>
      have := Store.absent_le_step crds ((Store.step crds)^[k] store)
      rw [Function.iterate_succ_apply']
      omega

/-- Whatever the CRD does, no fewer passes than there are missing objects reach the desired
state: a pass creates at most one object and an update never frees a key. -/
theorem reconcile_needs_absent_passes (store : Store) :
    ∀ k < store.absent, ¬ ((Store.step crds)^[k] store).Converged := by
  intro k fewer converged
  have := Store.absent_le_iterate crds store k
  rw [converged.absent_eq_zero] at this
  omega

/-- From the empty store, with the Grafana CRD established from the start, three passes are
too few. -/
theorem reconcile_needs_absent_passes_from_empty_store :
    let crds : Store → NamespacedName → Option Apiextensions.CustomResourceDefinition :=
      fun _ _ => some { status := { conditions :=
        [{ type := Apiextensions.established, status := Apiextensions.conditionTrue }] } }
    3 < Store.empty.absent ∧ ¬ ((Store.step crds)^[3] Store.empty).Converged :=
  ⟨by decide, reconcile_needs_absent_passes _ Store.empty 3 (by decide)⟩

end Lower

end MonitoringStackOperator.GrafanaOperator
