import MonitoringStackOperator.GrafanaOperator.Convergence
import MonitoringStackOperator.Querier.Events

/-! The event sources `RegisterWithManager` gives the bootstrap controller, and the passes the
events of the store trigger on their own.

The controller watches a ticker every 30 minutes and one informer per managed object, each
listing a single resource under a field selector on `metadata.name`, with
`GenerationChangedPredicate`. `Reconcile` drops the result of its phases, so a requeue a phase
asks for never runs; what starts the next pass is an event. An informer reports an object it
has not seen as added, which every predicate accepts, and a changed object as modified. The
informers and the event handlers are client-go's and controller-runtime's, modelled as the
controller uses them. -/

namespace MonitoringStackOperator.GrafanaOperator

open Pass

/-! ### Watches -/

/-- What `singleResourceInformer` lists and watches: the objects of one resource whose
`metadata.name` is the given one, in one namespace, or in all when it is empty. -/
structure Informer where
  name : String
  «namespace» : String
  resource : String
deriving DecidableEq

def singleResourceInformer (name «namespace» resource : String) : Informer :=
  { name, «namespace», resource }

def namespaceInformer : Informer := singleResourceInformer «namespace» "" "namespaces"

def subscriptionInformer : Informer :=
  singleResourceInformer subscriptionName «namespace» "subscriptions"

def operatorGroupInformer : Informer :=
  singleResourceInformer operatorGroupName «namespace» "operatorgroups"

def grafanaInformer : Informer := singleResourceInformer grafanaName «namespace» "grafanas"

def minute : Duration := 60 * second

/-- The source of a watch. -/
inductive Source where
  | ticker (period : Duration)
  | informer (informer : Informer)

/-- A `c.Watch`: the source, with `EnqueueRequestForObject`, and the predicates. -/
structure Watch where
  source : Source
  predicates : List Querier.Predicate := []

/-- The watches of `RegisterWithManager`, in order. -/
def watches : List Watch :=
  [{ source := .ticker (30 * minute) },
    { source := .informer namespaceInformer, predicates := [Querier.generationChangedPredicate] },
    { source := .informer operatorGroupInformer, predicates := [Querier.generationChangedPredicate] },
    { source := .informer subscriptionInformer, predicates := [Querier.generationChangedPredicate] },
    { source := .informer grafanaInformer, predicates := [Querier.generationChangedPredicate] }]

/-- An event of an informer: an object of a resource was added, or modified from the old
metadata to the new. -/
inductive Event where
  | added (resource : String) (meta : ObjectMeta)
  | modified (resource : String) (objectOld objectNew : ObjectMeta)

/-- The informer lists the object: its resource, its name, and its namespace if it has one. -/
def Informer.sees (informer : Informer) (resource : String) (meta : ObjectMeta) : Bool :=
  resource == informer.resource && meta.name == informer.name &&
    (informer.«namespace» == "" || meta.«namespace» == informer.«namespace»)

/-- The watch passes the event to its handler: its informer sees the object, and for a
modification every predicate accepts it. -/
def Watch.admits (watch : Watch) : Event → Bool
  | .added resource meta =>
      match watch.source with
      | .informer informer => informer.sees resource meta
      | .ticker _ => false
  | .modified resource objectOld objectNew =>
      match watch.source with
      | .informer informer =>
          informer.sees resource objectNew && watch.predicates.all fun p => p.update objectOld objectNew
      | .ticker _ => false

/-! ### The events of a pass -/

section Events

variable {T : Type} {meta : T → ObjectMeta}

/-- The event an informer reports for one key, from the bucket before a pass and after it. -/
def bucketEvents [DecidableEq T] (resource : String) (key : NamespacedName) (before after : Bucket T meta) :
    List Event :=
  match before.find key, after.find key with
  | none, some object => [.added resource (meta object)]
  | some objectOld, some objectNew =>
      if objectOld = objectNew then [] else [.modified resource (meta objectOld) (meta objectNew)]
  | _, _ => []

@[simp] theorem bucketEvents_self [DecidableEq T] (resource : String) (key : NamespacedName) (bucket : Bucket T meta) :
    bucketEvents resource key bucket bucket = [] := by
  unfold bucketEvents
  split <;> simp_all

theorem bucketEvents_of_added [DecidableEq T] {resource : String} {key : NamespacedName}
    {before after : Bucket T meta} {object : T} (absent : before.find key = none)
    (present : after.find key = some object) :
    bucketEvents resource key before after = [.added resource (meta object)] := by
  rw [bucketEvents, absent, present]

/-- A key that stops missing is an added object. -/
theorem bucketEvents_of_lt [DecidableEq T] {before after : Bucket T meta}
    (resource : String) {key : NamespacedName}
    (fewer : (after.find key).isNone.toNat < (before.find key).isNone.toNat) :
    ∃ object, after.find key = some object ∧
      bucketEvents resource key before after = [.added resource (meta object)] := by
  cases found : before.find key with
  | some object => simp [found] at fewer
  | none =>
      cases present : after.find key with
      | none => simp [found, present] at fewer
      | some object => exact ⟨object, rfl, bucketEvents_of_added found present⟩

end Events

/-- The events the four informers report for a pass from `store` to `store'`. Their field
selectors see no other object. -/
def Store.events (store store' : Store) : List Event :=
  bucketEvents namespaceInformer.resource { name := «namespace» } store.namespaces store'.namespaces ++
    bucketEvents operatorGroupInformer.resource { name := operatorGroupName, «namespace» := «namespace» }
      store.operatorGroups store'.operatorGroups ++
    bucketEvents subscriptionInformer.resource { name := subscriptionName, «namespace» := «namespace» }
      store.subscriptions store'.subscriptions ++
    bucketEvents grafanaInformer.resource { name := grafanaName, «namespace» := «namespace» }
      store.grafanas store'.grafanas

@[simp] theorem Store.events_self (store : Store) : store.events store = [] := by
  simp [Store.events]

/-- The informer of an object's name and namespace admits its addition. -/
theorem Watch.admits_added {informer : Informer} {predicates : List Querier.Predicate}
    {meta : ObjectMeta} (named : meta.key = { name := informer.name, «namespace» := informer.«namespace» }) :
    Watch.admits { source := .informer informer, predicates } (.added informer.resource meta) = true := by
  simp only [ObjectMeta.key, NamespacedName.mk.injEq] at named
  simp [Watch.admits, Informer.sees, named]

/-- A pass that leaves fewer objects missing adds one of the four, and the informer of that
object admits the addition. -/
theorem Store.admitted_of_fewer {store store' : Store}
    (fewer : store'.absent < store.absent) :
    ∃ watch ∈ watches, ∃ event ∈ store.events store', watch.admits event = true := by
  simp only [Store.absent] at fewer
  rcases Nat.lt_or_ge (store'.namespaces.find { name := «namespace» }).isNone.toNat
      (store.namespaces.find { name := «namespace» }).isNone.toNat with added | kept
  · obtain ⟨ns, present, events⟩ := bucketEvents_of_lt namespaceInformer.resource added
    exact ⟨_, .tail _ (.head _), _, by simp [Store.events, events],
      Watch.admits_added (store'.namespaces.keyed _ ns present)⟩
  rcases Nat.lt_or_ge
      (store'.operatorGroups.find { name := operatorGroupName, «namespace» := «namespace» }).isNone.toNat
      (store.operatorGroups.find { name := operatorGroupName, «namespace» := «namespace» }).isNone.toNat
    with added | keptOperatorGroup
  · obtain ⟨og, present, events⟩ := bucketEvents_of_lt operatorGroupInformer.resource added
    exact ⟨_, .tail _ (.tail _ (.head _)), _, by simp [Store.events, events],
      Watch.admits_added (store'.operatorGroups.keyed _ og present)⟩
  rcases Nat.lt_or_ge
      (store'.subscriptions.find { name := subscriptionName, «namespace» := «namespace» }).isNone.toNat
      (store.subscriptions.find { name := subscriptionName, «namespace» := «namespace» }).isNone.toNat
    with added | keptSubscription
  · obtain ⟨sub, present, events⟩ := bucketEvents_of_lt subscriptionInformer.resource added
    exact ⟨_, .tail _ (.tail _ (.tail _ (.head _))), _, by simp [Store.events, events],
      Watch.admits_added (store'.subscriptions.keyed _ sub present)⟩
  rcases Nat.lt_or_ge
      (store'.grafanas.find { name := grafanaName, «namespace» := «namespace» }).isNone.toNat
      (store.grafanas.find { name := grafanaName, «namespace» := «namespace» }).isNone.toNat
    with added | keptGrafana
  · obtain ⟨grafana, present, events⟩ := bucketEvents_of_lt grafanaInformer.resource added
    exact ⟨_, .tail _ (.tail _ (.tail _ (.tail _ (.head _)))), _, by simp [Store.events, events],
      Watch.admits_added (store'.grafanas.keyed _ grafana present)⟩
  omega

/-! ### Passes triggered by events -/

section Triggered

variable (crds : Store → NamespacedName → Option Apiextensions.CustomResourceDefinition)
  (installed : ∀ store sub,
    store.subscriptions.find { name := subscriptionName, «namespace» := «namespace» } = some sub →
      ∃ crd, crds store grafanaCRDKey = some crd ∧ established crd = true)
  {store : Store}

include installed

/-- Each of the first passes creates one missing object, keeping the namespace Active. -/
theorem iterate_progress (active : store.NamespaceActive) :
    ∀ k ≤ store.absent, ((Store.step crds)^[k] store).NamespaceActive ∧
      ((Store.step crds)^[k] store).absent + k = store.absent := by
  intro k
  induction k with
  | zero => exact fun _ => ⟨active, rfl⟩
  | succ k ih =>
      intro within
      obtain ⟨stepActive, counted⟩ := ih (by omega)
      obtain ⟨nextActive, fewer⟩ := step_progress crds installed stepActive (by omega)
      rw [Function.iterate_succ_apply']
      exact ⟨nextActive, by omega⟩

/-- No requeue is needed for the bootstrap to complete: from any store whose namespace, if
present, is Active, with the Grafana CRD established once the `Subscription` exists, each of
the first passes adds one of the four objects, an event one of the controller's informers
admits and that triggers the next pass; the pass after the last addition reaches the desired
state, and from then on no pass changes a watched object, so the informers fall silent. -/
theorem watch_events_drive_convergence (active : store.NamespaceActive) :
    (∀ k < store.absent, ∃ watch ∈ watches,
      ∃ event ∈ ((Store.step crds)^[k] store).events ((Store.step crds)^[k + 1] store),
        watch.admits event = true) ∧
      ((Store.step crds)^[store.absent + 1] store).Converged ∧
      ∀ m, store.absent < m →
        ((Store.step crds)^[m] store).events ((Store.step crds)^[m + 1] store) = [] := by
  have converged := converged_after_absent crds installed active
  have stays := (pass_of_converged crds installed converged).2.1
  refine ⟨fun k before => ?_, converged, fun m later => ?_⟩
  · obtain ⟨stepActive, counted⟩ := iterate_progress crds installed active k before.le
    obtain ⟨-, fewer⟩ := step_progress crds installed stepActive (by omega)
    rw [Function.iterate_succ_apply']
    exact Store.admitted_of_fewer (by omega)
  · have fixed : ∀ i, (Store.step crds)^[i + (store.absent + 1)] store =
        (Store.step crds)^[store.absent + 1] store := fun i => by
      rw [Function.iterate_add_apply, Function.iterate_fixed stays]
    obtain ⟨j, rfl⟩ := Nat.exists_eq_add_of_le later
    rw [show store.absent.succ + j = j + (store.absent + 1) by omega,
      show j + (store.absent + 1) + 1 = j + 1 + (store.absent + 1) by omega, fixed, fixed,
      Store.events_self]

end Triggered

/-- From the empty store, with the Grafana CRD established from the start. -/
theorem watch_events_drive_convergence_from_empty_store :
    let crds : Store → NamespacedName → Option Apiextensions.CustomResourceDefinition :=
      fun _ _ => some { status := { conditions :=
        [{ type := Apiextensions.established, status := Apiextensions.conditionTrue }] } }
    (∀ store sub,
      store.subscriptions.find { name := subscriptionName, «namespace» := «namespace» } = some sub →
        ∃ crd, crds store grafanaCRDKey = some crd ∧ established crd = true) ∧
      Store.empty.NamespaceActive ∧
      (∀ k < Store.empty.absent, ∃ watch ∈ watches,
        ∃ event ∈ ((Store.step crds)^[k] Store.empty).events ((Store.step crds)^[k + 1] Store.empty),
          watch.admits event = true) ∧
      ((Store.step crds)^[Store.empty.absent + 1] Store.empty).Converged ∧
      ∀ m, Store.empty.absent < m →
        ((Store.step crds)^[m] Store.empty).events ((Store.step crds)^[m + 1] Store.empty) = [] :=
  have installed := fun _ _ _ => ⟨_, rfl, rfl⟩
  have active : Store.empty.NamespaceActive := fun _ absent => Option.noConfusion absent
  ⟨installed, active, watch_events_drive_convergence _ installed active⟩

/-! ### A CRD established after the `Subscription` -/

/-- When the `Subscription` exists before OLM has established the Grafana CRD, the pass stops
at the CRD and asks to be requeued, which `Reconcile` drops: it returns the zero result and
changes no watched object, so no informer reports an event. With the CRD still pending, every
later pass is the same one, and the Grafana instance is never created; only the 30-minute
ticker starts a pass that can see the CRD once it is established. -/
theorem bootstrap_stalls_until_crd_established
    (crds : Store → NamespacedName → Option Apiextensions.CustomResourceDefinition) {store : Store}
    {ns : Core.Namespace} {og : Operators.OperatorGroup} {sub : Operators.Subscription}
    (nsFound : store.namespaces.find { name := «namespace» } = some ns)
    (active : ns.status.phase = Core.namespaceActive)
    (ogFound : store.operatorGroups.find { name := operatorGroupName, «namespace» := «namespace» } =
      some og)
    (ogDesired : og.spec = newOperatorGroup.spec)
    (subFound : store.subscriptions.find { name := subscriptionName, «namespace» := «namespace» } =
      some sub)
    (subDesired : sub.spec = newSubscription.spec)
    (grafanaMissing : store.grafanas.find { name := grafanaName, «namespace» := «namespace» } = none)
    (pending : ∀ crd, crds store grafanaCRDKey = some crd → established crd = false) :
    store.events (Store.step crds store) = [] ∧
      ∀ n, (Store.step crds)^[n] store = store ∧
        (Store.pass crds ((Store.step crds)^[n] store)).result = ({}, none) ∧
        ¬ ((Store.step crds)^[n] store).Converged := by
  obtain ⟨stopped, stays⟩ :=
    pass_of_crd_pending crds nsFound active ogFound ogDesired subFound subDesired pending
  have fixed : ∀ n, (Store.step crds)^[n] store = store := fun n => Function.iterate_fixed stays n
  refine ⟨by rw [stays, Store.events_self], fun n => ⟨fixed n, by rw [fixed n, stopped], ?_⟩⟩
  rw [fixed n]
  rintro ⟨-, -, -, ⟨grafana, grafanaFound, -⟩⟩
  rw [grafanaMissing] at grafanaFound
  exact Option.noConfusion grafanaFound

/-- The namespace, the `OperatorGroup` and the `Subscription` created, and no CRD yet. -/
theorem bootstrap_stalls_until_crd_established_of_no_crd :
    let crds : Store → NamespacedName → Option Apiextensions.CustomResourceDefinition :=
      fun _ _ => none
    let store : Store := ⟨Bucket.empty.put (activate newNamespace),
      Bucket.empty.put newOperatorGroup, Bucket.empty.put newSubscription, Bucket.empty⟩
    store.events (Store.step crds store) = [] ∧
      ∀ n, (Store.step crds)^[n] store = store ∧
        (Store.pass crds ((Store.step crds)^[n] store)).result = ({}, none) ∧
        ¬ ((Store.step crds)^[n] store).Converged :=
  bootstrap_stalls_until_crd_established _ (Bucket.find_put_of_key activate_newNamespace_key) rfl
    (Bucket.find_put_of_key newOperatorGroup_key) rfl (Bucket.find_put_of_key newSubscription_key)
    rfl rfl fun _ absent => Option.noConfusion absent

end MonitoringStackOperator.GrafanaOperator
