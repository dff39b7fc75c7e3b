import Mathlib.Data.Finset.NoncommProd
import MonitoringStackOperator.Stack.Controller

/-! The thanos-querier controller of `controller.go`: the relationship resolver
between queriers and monitoring stacks in both directions, and `Reconcile`,
which applies the querier's components by server-side apply.

`thanosComponents`, `(*ThanosQuerier).MatchesNamespace` and
`controllerutil.SetControllerReference` are not in the repository; they are the
fields of `External`. -/

namespace MonitoringStackOperator.Querier

open Api Pass

/-- A `client.Object` that `thanosComponents` builds: the controller reads its metadata and
passes the rest through. -/
structure Component where
  typeMeta : TypeMeta := {}
  metadata : ObjectMeta := {}
  content : Fields := []
deriving DecidableEq

structure External where
  matchesNamespace : ThanosQuerier → String → Bool
  thanosComponents : ThanosQuerier → List String → List Component
  setControllerReference : ThanosQuerier → Component → Except Error Component

/-- The calls the controller makes through `client.Client`, and a runtime panic. Listing the
stacks with a selector that failed to convert passes a nil selector, and the reply is then
every stack the cache holds. -/
inductive Call where
  | getThanosQuerier (key : NamespacedName)
  | listMonitoringStacks (selector : Option Selector)
  | listThanosQueriers
  | patch (object : Component) (fieldOwner : String)
  | panic (message : String)

/-- No reply answers a panic. -/
def Call.Reply : Call → Type
  | .getThanosQuerier _ => Except Error ThanosQuerier
  | .listMonitoringStacks _ => Except Error (List MonitoringStack)
  | .listThanosQueriers => Except Error (List ThanosQuerier)
  | .patch _ _ => Option Error
  | .panic _ => Empty

abbrev QuerierPass := Pass Call Call.Reply

abbrev Exchange := Pass.Exchange Call Call.Reply

/-! ### Relationship resolver -/

def getEndpointUrl (serviceName «namespace» : String) : String :=
  "dnssrv+_grpc._tcp." ++ serviceName ++ "." ++ «namespace» ++ ".svc.cluster.local"

/-- The loop of `findSidecarServices` over the listed stacks. -/
def sidecarUrls (ext : External) (tQuerier : ThanosQuerier) (items : List MonitoringStack) :
    List String :=
  (items.filter fun ms => ext.matchesNamespace tQuerier ms.metadata.«namespace»).map fun ms =>
    getEndpointUrl (ms.metadata.name ++ "-thanos-sidecar") ms.metadata.«namespace»

/-- A Go runtime panic: the pass does not return. -/
def runtimePanic {α : Type} (message : String) : QuerierPass α :=
  Pass.call (Call.panic message) fun reply => nomatch (reply : Empty)

def nilDereference : String := "runtime error: invalid memory address or nil pointer dereference"

/-- `findSidecarServices`: the endpoints of the stacks the querier selects, or the error of
the `List`. The error of the selector conversion is discarded, and the cache then calls
`Matches` of the nil selector on each stack it holds. -/
def findSidecarServices (ext : External) (tQuerier : ThanosQuerier) :
    QuerierPass (List String × Option Error) := do
  let selector := labelSelectorAsSelector tQuerier.spec.selector
  match ← Pass.send (Call.listMonitoringStacks selector) with
  | .error err => return ([], some err)
  | .ok items =>
      if selector.isNone && !items.isEmpty then runtimePanic nilDereference
      else return (sidecarUrls ext tQuerier items, none)

def requestFor (item : ThanosQuerier) : NamespacedName :=
  { name := item.metadata.name, «namespace» := item.metadata.«namespace» }

/-- The loop of `findQueriersForMonitoringStack`, with the requests collected so far: a
selector that does not convert ends it with no request at all. -/
def collectRequests (labels : StringMap) :
    List ThanosQuerier → List NamespacedName → List NamespacedName
  | [], requests => requests
  | item :: rest, requests =>
      match labelSelectorAsSelector item.spec.selector with
      | none => []
      | some sel =>
          if sel.Matches labels then collectRequests labels rest (requests ++ [requestFor item])
          else collectRequests labels rest requests

/-- `findQueriersForMonitoringStack`: no request when the queriers cannot be listed. -/
def findQueriersForMonitoringStack (ms : MonitoringStack) : QuerierPass (List NamespacedName) := do
  match ← Pass.send Call.listThanosQueriers with
  | .error _ => return []
  | .ok queriers => return collectRequests ms.metadata.labelSet queriers []

/-! ### Reconcile -/

/-- The body of the loop of `ensureLabels`: a wanted label is added when its key is
missing. -/
def addMissingLabel (labels : StringMap) (name val : String) : StringMap :=
  if name ∈ labels then labels else labels.insert name val

theorem lookup_addMissingLabel (labels : StringMap) (name val key : String) :
    (addMissingLabel labels name val).lookup key =
      (labels.lookup key).or (if key = name then some val else none) := by
  unfold addMissingLabel
  by_cases same : key = name
  · subst same
    by_cases present : key ∈ labels
    · obtain ⟨found, foundAt⟩ := Finmap.mem_iff.mp present
      simp [present, foundAt]
    · simp [present, Finmap.lookup_eq_none.mpr present]
  · split <;> simp [same, Finmap.lookup_insert_of_ne _ same]

/-- The body commutes on two labels of distinct keys. -/
theorem addMissingLabel_left_comm (labels : StringMap) {name name' : String} (val val' : String)
    (distinct : name ≠ name') :
    addMissingLabel (addMissingLabel labels name' val') name val =
      addMissingLabel (addMissingLabel labels name val) name' val' := by
  refine Finmap.ext_lookup fun key => ?_
  simp only [lookup_addMissingLabel, Option.or_assoc]
  by_cases same : key = name
  · subst same
    simp [distinct]
  · by_cases same' : key = name'
    · subst same'
      simp [same]
    · simp [same, same']

/-- The keys of a map are distinct, so the body commutes on any two of its labels. -/
theorem addMissingLabel_pairwise_comm (wantLabels : StringMap) :
    {entry | entry ∈ wantLabels.entries}.Pairwise fun entry entry' =>
      ∀ labels, addMissingLabel (addMissingLabel labels entry'.1 entry'.2) entry.1 entry.2 =
        addMissingLabel (addMissingLabel labels entry.1 entry.2) entry'.1 entry'.2 := by
  induction wantLabels using Finmap.induction_on with
  | H list =>
      intro entry member entry' member' distinct labels
      exact addMissingLabel_left_comm labels _ _
        fun same => distinct (list.nodupKeys.eq_of_fst_eq member member' same)

/-- The loop `for name, val := range wantLabels` of `ensureLabels`. Go visits a map in no
fixed order; the fold takes the labels in any order, which it may since the body commutes on
them. -/
def addMissingLabels (existingLabels wantLabels : StringMap) : StringMap :=
  wantLabels.entries.noncommFoldr
    (fun (entry : (_ : String) × String) labels => addMissingLabel labels entry.1 entry.2)
    (addMissingLabel_pairwise_comm wantLabels) existingLabels

/-- `ensureLabels`: nil labels are replaced by the wanted ones, and otherwise the loop adds
each wanted label whose key is missing. -/
def ensureLabels (obj : Component) (wantLabels : StringMap) : Component :=
  match obj.metadata.labels with
  | none => { obj with metadata := { obj.metadata with labels := some wantLabels } }
  | some existingLabels =>
      { obj with
        metadata := { obj.metadata with labels := some (addMissingLabels existingLabels wantLabels) } }

/-- `reconcileComponent`: set the controller reference on a component in the querier's
namespace, then apply it with forced ownership. -/
def reconcileComponent (ext : External) (thanos : ThanosQuerier) (component : Component) :
    QuerierPass (Option Error) :=
  let owned :=
    if thanos.metadata.«namespace» = component.metadata.«namespace» then
      ext.setControllerReference thanos component
    else .ok component
  match owned with
  | .error err => pure (some err)
  | .ok component => Pass.send (Call.patch component "thanos-querier-controller")

def componentLabels (querier : ThanosQuerier) : StringMap :=
  mapOf [("app.kubernetes.io/instance", querier.metadata.name),
    ("app.kubernetes.io/part-of", "ThanosQuerier"),
    ("app.kubernetes.io/managed-by", "observability-operator")]

/-- The apply of one component in the loop of `Reconcile`. -/
def applyComponent (ext : External) (querier : ThanosQuerier) (component : Component) :
    QuerierPass (Option Error) :=
  reconcileComponent ext querier (ensureLabels component (componentLabels querier))

def reconcile (ext : External) (req : NamespacedName) : QuerierPass (Result × Option Error) := do
  match ← Pass.send (Call.getThanosQuerier req) with
  | .error err => if isNotFound (some err) then return ({}, none) else return ({}, some err)
  | .ok querier =>
      let (sidecarServices, err) ← findSidecarServices ext querier
      if (ignoreNotFound err).isSome then return ({ requeueAfter := 10 * second }, err)
      else applyComponents (applyComponent ext querier) (ext.thanosComponents querier sidecarServices)

/-! ### Queriers of a stack -/

/-- The querier's selector converts and matches the labels. -/
def selects (querier : ThanosQuerier) (labels : StringMap) : Bool :=
  match labelSelectorAsSelector querier.spec.selector with
  | some sel => decide (sel.Matches labels)
  | none => false

/-- When every selector converts, the loop appends one request per querier that selects the
labels, in the order of the list. -/
theorem collectRequests_of_converts {labels : StringMap} {queriers : List ThanosQuerier}
    (converts : ∀ q ∈ queriers, (labelSelectorAsSelector q.spec.selector).isSome)
    (requests : List NamespacedName) :
    collectRequests labels queriers requests =
      requests ++ (queriers.filter (selects · labels)).map requestFor := by
  induction queriers generalizing requests with
  | nil => simp [collectRequests]
  | cons item rest ih =>
      obtain ⟨sel, converted⟩ := Option.isSome_iff_exists.mp (converts item (.head _))
      have later := ih fun q member => converts q (.tail _ member)
      by_cases matching : sel.Matches labels <;>
        simp [collectRequests, converted, matching, selects, later]

/-- One selector that does not convert makes the loop return no request at all. -/
theorem collectRequests_of_malformed {labels : StringMap} {queriers : List ThanosQuerier}
    (malformed : ∃ q ∈ queriers, labelSelectorAsSelector q.spec.selector = none)
    (requests : List NamespacedName) : collectRequests labels queriers requests = [] := by
  induction queriers generalizing requests with
  | nil => simp at malformed
  | cons item rest ih =>
      rcases converted : labelSelectorAsSelector item.spec.selector with _ | sel
      · simp [collectRequests, converted]
      · simp only [List.mem_cons, exists_eq_or_imp, converted, reduceCtorEq, false_or] at malformed
        simp only [collectRequests, converted]
        split <;> exact ih malformed _

/-- A querier whose selector has `matchLabels` alone selects exactly the label maps that hold
each of its labels, and only while every key is a qualified name and every value a label
value: one invalid label makes it select nothing. -/
theorem selects_labels_only {querier : ThanosQuerier}
    (labelsOnly : querier.spec.selector.matchExpressions = []) (labels : StringMap) :
    selects querier labels = true ↔ ∀ key value,
      querier.spec.selector.matchLabels.lookup key = some value →
        isQualifiedName key = true ∧ isValidLabelValue value = true ∧ labels.lookup key = some value := by
  obtain ⟨converts, semantics⟩ := labelSelectorAsSelector_labels_only labelsOnly
  unfold selects
  split
  · next sel converted =>
      have valid := converts.mp (by simp [converted])
      rw [decide_eq_true_iff, semantics sel converted labels]
      exact ⟨fun holds key value found => ⟨(valid key value found).1, (valid key value found).2,
        holds key value found⟩, fun all key value found => (all key value found).2.2⟩
  · next failed =>
      refine ⟨nofun, fun all => ?_⟩
      have converted := converts.mpr fun key value found =>
        ⟨(all key value found).1, (all key value found).2.1⟩
      rw [failed] at converted
      cases converted

/-- The querier of team `a` and the stacks it selects. -/
theorem selects_labels_only_of_team :
    let querier : ThanosQuerier := { spec := { selector := { matchLabels := mapOf [("team", "a")] } } }
    querier.spec.selector.matchExpressions = [] ∧
      (selects querier (mapOf [("team", "a"), ("app", "web")]) = true ↔ ∀ key value,
        (mapOf [("team", "a")]).lookup key = some value → isQualifiedName key = true ∧
          isValidLabelValue value = true ∧ (mapOf [("team", "a"), ("app", "web")]).lookup key = some value) :=
  ⟨rfl, selects_labels_only rfl _⟩

/-- A querier whose selector matches the stack is dropped when a querier after it in the list
has a selector that does not convert: the store lists a matching querier and a querier with
an unknown operator, and the stack gets no request. -/
theorem findQueriersForMonitoringStack_drops_matching_querier :
    let matching : ThanosQuerier :=
      { metadata := { name := "q1", «namespace» := "ns" }
        spec := { selector := { matchLabels := mapOf [("team", "a")] } } }
    let malformed : ThanosQuerier :=
      { metadata := { name := "q2", «namespace» := "ns" }
        spec := { selector := { matchExpressions := [{ key := "team", operator := "Foo" }] } } }
    let ms : MonitoringStack :=
      { metadata := { name := "foo", «namespace» := "ns", labels := some (mapOf [("team", "a")]) } }
    selects matching ms.metadata.labelSet = true ∧
      labelSelectorAsSelector malformed.spec.selector = none ∧
      Run (findQueriersForMonitoringStack ms) [⟨.listThanosQueriers, .ok [matching, malformed]⟩] [] := by
  intro matching malformed ms
  have bad : labelSelectorAsSelector malformed.spec.selector = none := by decide
  refine ⟨by decide, bad, .call _ ?_⟩
  rw [← collectRequests_of_malformed ⟨malformed, .tail _ (.head _), bad⟩ []]
  exact .done _

/-! ### Labels of the components -/

/-- The loop gives each key the existing label if there is one, and the wanted one otherwise. -/
theorem lookup_addMissingLabels (existingLabels wantLabels : StringMap) (key : String) :
    (addMissingLabels existingLabels wantLabels).lookup key =
      (existingLabels.lookup key).or (wantLabels.lookup key) := by
  induction wantLabels using Finmap.induction_on with
  | H list =>
      simp only [addMissingLabels, AList.toFinmap_entries, Multiset.noncommFoldr_coe,
        Finmap.lookup_toFinmap, AList.lookup]
      obtain ⟨entries, nodup⟩ := list
      dsimp only
      induction entries with
      | nil => simp
      | cons entry rest ih =>
          rw [List.foldr_cons, lookup_addMissingLabel, ih nodup.of_cons, Option.or_assoc]
          congr 1
          obtain ⟨name, val⟩ := entry
          by_cases same : key = name
          · subst same
            have absent : List.dlookup key rest = none :=
              List.dlookup_eq_none.mpr (List.nodupKeys_cons.mp nodup).1
            simp [absent, List.dlookup_cons_eq]
          · simp [same, List.dlookup_cons_ne rest ⟨name, val⟩ same]

/-- The union of label maps is left-biased. -/
theorem lookup_union_labels (labels labels' : StringMap) (key : String) :
    (labels ∪ labels').lookup key = (labels.lookup key).or (labels'.lookup key) := by
  by_cases present : key ∈ labels
  · obtain ⟨val, found⟩ := Finmap.mem_iff.mp present
    simp [Finmap.lookup_union_left present, found]
  · simp [Finmap.lookup_union_right present, Finmap.lookup_eq_none.mpr present]

/-- The loop computes the left-biased union. -/
theorem addMissingLabels_eq_union (existingLabels wantLabels : StringMap) :
    addMissingLabels existingLabels wantLabels = existingLabels ∪ wantLabels :=
  Finmap.ext_lookup fun key => by rw [lookup_addMissingLabels, lookup_union_labels]

theorem ensureLabels_of_labels {obj : Component} {existingLabels : StringMap}
    (labelled : obj.metadata.labels = some existingLabels) (wantLabels : StringMap) :
    ensureLabels obj wantLabels =
      { obj with
        metadata := { obj.metadata with labels := some (addMissingLabels existingLabels wantLabels) } } := by
  rw [ensureLabels, labelled]

/-- The labels `ensureLabels` leaves on a component are the left-biased union of its labels
and the wanted ones: an existing label keeps its value, a wanted label whose key is missing is
added, and no other key appears. Applying it twice gives what applying it once does, and the
loop run on an empty map gives the wanted labels that the nil branch sets. -/
theorem ensureLabels_left_biased_union (obj : Component) (wantLabels : StringMap) :
    (ensureLabels obj wantLabels).metadata.labels = some (obj.metadata.labelSet ∪ wantLabels) ∧
      (∀ key, (ensureLabels obj wantLabels).metadata.labelSet.lookup key =
        (obj.metadata.labelSet.lookup key).or (wantLabels.lookup key)) ∧
      ensureLabels (ensureLabels obj wantLabels) wantLabels = ensureLabels obj wantLabels ∧
      addMissingLabels ∅ wantLabels = wantLabels := by
  have labelsEq : (ensureLabels obj wantLabels).metadata.labels =
      some (obj.metadata.labelSet ∪ wantLabels) := by
    unfold ensureLabels ObjectMeta.labelSet
    cases obj.metadata.labels with
    | none => simp [Finmap.empty_union]
    | some existingLabels => simp [addMissingLabels_eq_union]
  refine ⟨labelsEq, fun key => ?_, ?_, by rw [addMissingLabels_eq_union, Finmap.empty_union]⟩
  · rw [ObjectMeta.labelSet, labelsEq, Option.getD_some, lookup_union_labels]
  · have again : addMissingLabels (obj.metadata.labelSet ∪ wantLabels) wantLabels =
        obj.metadata.labelSet ∪ wantLabels :=
      Finmap.ext_lookup fun key => by
        rw [lookup_addMissingLabels, lookup_union_labels, Option.or_assoc, Option.or_self]
    rw [ensureLabels_of_labels labelsEq, again, ← labelsEq]

/-! ### Runs of Reconcile -/

@[simp] theorem ensureLabels_namespace (obj : Component) (wantLabels : StringMap) :
    (ensureLabels obj wantLabels).metadata.«namespace» = obj.metadata.«namespace» := by
  unfold ensureLabels
  split <;> rfl

theorem ensureLabels_labels (obj : Component) (wantLabels : StringMap) :
    (ensureLabels obj wantLabels).metadata.labels = some (obj.metadata.labelSet ∪ wantLabels) := by
  unfold ensureLabels ObjectMeta.labelSet
  cases obj.metadata.labels with
  | none => simp [Finmap.empty_union]
  | some existingLabels => simp [addMissingLabels_eq_union]

/-- What a run of the apply of one component does: the patch, under the controller's field
owner, of the component with the querier's labels, owned by the querier when the two share a
namespace, whose reply is the outcome; or, with no call, the error of
`SetControllerReference`. -/
def Patched (ext : External) (querier : ThanosQuerier) (component : Component)
    (part : List Exchange) (outcome : Option Error) : Prop :=
  match if querier.metadata.«namespace» = component.metadata.«namespace» then
      ext.setControllerReference querier (ensureLabels component (componentLabels querier))
    else .ok (ensureLabels component (componentLabels querier)) with
  | .error err => part = [] ∧ outcome = some err
  | .ok owned => part = [⟨.patch owned "thanos-querier-controller", outcome⟩]

theorem run_applyComponent_iff {ext : External} {querier : ThanosQuerier} {component : Component}
    {part : List Exchange} {outcome : Option Error} :
    Run (applyComponent ext querier component) part outcome ↔
      Patched ext querier component part outcome := by
  unfold applyComponent reconcileComponent Patched
  simp only [ensureLabels_namespace]
  split
  · simp only [pure_eq, run_done_iff, eq_comm]
  · exact run_send_iff

/-- The runs of `findSidecarServices`: the error of the `List`, or the endpoints of the listed
stacks. The second needs the selector to have converted or the cache to hold no stack; any
other run panics. -/
theorem run_findSidecarServices_iff {ext : External} {tQuerier : ThanosQuerier}
    {trace : List Exchange} {out : List String × Option Error} :
    Run (findSidecarServices ext tQuerier) trace out ↔
      (∃ err, trace = [⟨.listMonitoringStacks (labelSelectorAsSelector tQuerier.spec.selector),
          .error err⟩] ∧ out = ([], some err)) ∨
        ∃ items, ((labelSelectorAsSelector tQuerier.spec.selector).isSome ∨ items = []) ∧
          trace = [⟨.listMonitoringStacks (labelSelectorAsSelector tQuerier.spec.selector),
            .ok items⟩] ∧ out = (sidecarUrls ext tQuerier items, none) := by
  rw [findSidecarServices, run_send_bind_iff]
  constructor
  · rintro ⟨err | items, rest, rfl, run⟩ <;> dsimp only at run
    · obtain ⟨rfl, rfl⟩ := run_done_iff.mp run
      exact .inl ⟨err, rfl, rfl⟩
    · split at run
      · exact absurd run (Reaches.here.not_run (fun reply => nomatch (reply : Empty)) _ _)
      · next allowed =>
          obtain ⟨rfl, rfl⟩ := run_done_iff.mp run
          refine .inr ⟨items, ?_, rfl, rfl⟩
          simpa [Option.isSome_iff_ne_none, or_iff_not_imp_left] using allowed
  · rintro (⟨err, rfl, rfl⟩ | ⟨items, allowed, rfl, rfl⟩)
    · exact ⟨_, _, rfl, .done _⟩
    · have returns : ¬((labelSelectorAsSelector tQuerier.spec.selector).isNone &&
          !items.isEmpty) = true := by
        rcases allowed with converted | rfl <;> simp_all [Option.isSome_iff_ne_none]
      exact ⟨_, _, rfl, by simpa [returns] using Run.done (sidecarUrls ext tQuerier items, none)⟩

/-- The runs of `Reconcile` under every reply of the store and every outcome of the applies:
no component is applied when the querier is not found or cannot be read, or when listing the
stacks fails with an error other than NotFound; otherwise the component loop runs on the
querier's components, built from the endpoints of the listed stacks, or from none when the
list is NotFound, with one patch per component it reaches. A selector that does not convert,
with stacks in the cache, leaves no run at all. -/
inductive ReconcileRun (ext : External) (req : NamespacedName) :
    List Exchange → Result × Option Error → Prop
  | notFound {err : Error} : isNotFound (some err) = true →
      ReconcileRun ext req [⟨.getThanosQuerier req, .error err⟩] ({}, none)
  | getFailed {err : Error} : isNotFound (some err) = false →
      ReconcileRun ext req [⟨.getThanosQuerier req, .error err⟩] ({}, some err)
  | listFailed {querier : ThanosQuerier} {err : Error} : isNotFound (some err) = false →
      ReconcileRun ext req
        [⟨.getThanosQuerier req, .ok querier⟩,
          ⟨.listMonitoringStacks (labelSelectorAsSelector querier.spec.selector), .error err⟩]
        ({ requeueAfter := 10 * second }, some err)
  | listed {querier : ThanosQuerier} {items : List MonitoringStack} {rest out} :
      ((labelSelectorAsSelector querier.spec.selector).isSome ∨ items = []) →
      ComponentsRun (Patched ext querier)
          (ext.thanosComponents querier (sidecarUrls ext querier items)) rest out →
      ReconcileRun ext req
        (⟨.getThanosQuerier req, .ok querier⟩ ::
          ⟨.listMonitoringStacks (labelSelectorAsSelector querier.spec.selector), .ok items⟩ :: rest)
        out
  | listNotFound {querier : ThanosQuerier} {err : Error} {rest out} : isNotFound (some err) = true →
      ComponentsRun (Patched ext querier) (ext.thanosComponents querier []) rest out →
      ReconcileRun ext req
        (⟨.getThanosQuerier req, .ok querier⟩ ::
          ⟨.listMonitoringStacks (labelSelectorAsSelector querier.spec.selector), .error err⟩ :: rest)
        out

/-- The component loop of a querier, by the patches of its applies. -/
theorem run_applyComponents_patched {ext : External} {querier : ThanosQuerier}
    {components : List Component} {rest : List Exchange} {out : Result × Option Error} :
    Run (applyComponents (applyComponent ext querier) components) rest out ↔
      ComponentsRun (Patched ext querier) components rest out :=
  run_applyComponents_iff _ fun _ _ _ => run_applyComponent_iff

theorem run_reconcile_iff {ext : External} {req : NamespacedName} {trace : List Exchange}
    {out : Result × Option Error} : Run (reconcile ext req) trace out ↔ ReconcileRun ext req trace out := by
  rw [reconcile, run_send_bind_iff]
  constructor
  · rintro ⟨err | querier, rest, rfl, run⟩
    · cases notFound : isNotFound (some err) <;>
        simp only [notFound, Bool.false_eq_true, if_true, if_false, pure_eq, run_done_iff] at run <;>
        obtain ⟨rfl, rfl⟩ := run
      · exact .getFailed notFound
      · exact .notFound notFound
    · obtain ⟨first, ⟨urls, listErr⟩, later, listRun, run, rfl⟩ := run_bind_iff.mp run
      rcases run_findSidecarServices_iff.mp listRun with ⟨err, rfl, found⟩ | ⟨items, allowed, rfl, found⟩ <;>
        obtain ⟨rfl, rfl⟩ := Prod.mk.inj found
      · cases notFound : isNotFound (some err) <;>
          simp only [ignoreNotFound, notFound, Bool.false_eq_true, if_true, if_false,
            Option.isSome_some, Option.isSome_none, pure_eq, run_done_iff] at run
        · obtain ⟨rfl, rfl⟩ := run
          exact .listFailed notFound
        · exact .listNotFound notFound (run_applyComponents_patched.mp run)
      · simp only [ignoreNotFound, isNotFound_none, Bool.false_eq_true, if_false,
          Option.isSome_none] at run
        exact .listed allowed (run_applyComponents_patched.mp run)
  · rintro (⟨notFound⟩ | ⟨notFound⟩ | ⟨notFound⟩ | ⟨allowed, loop⟩ | ⟨notFound, loop⟩)
    · exact ⟨_, _, rfl, by simp [notFound, run_done_iff]⟩
    · exact ⟨_, _, rfl, by simp [notFound, run_done_iff]⟩
    · refine ⟨_, _, rfl, run_bind_iff.mpr ⟨_, _, [], run_findSidecarServices_iff.mpr
        (.inl ⟨_, rfl, rfl⟩), ?_, rfl⟩⟩
      simp [ignoreNotFound, notFound, run_done_iff]
    · refine ⟨_, _, rfl, run_bind_iff.mpr ⟨_, _, _, run_findSidecarServices_iff.mpr
        (.inr ⟨_, allowed, rfl, rfl⟩), ?_, rfl⟩⟩
      simpa [ignoreNotFound] using run_applyComponents_patched.mpr loop
    · refine ⟨_, _, rfl, run_bind_iff.mpr ⟨_, _, _, run_findSidecarServices_iff.mpr
        (.inl ⟨_, rfl, rfl⟩), ?_, rfl⟩⟩
      simpa [ignoreNotFound, notFound] using run_applyComponents_patched.mpr loop

/-- What the component loop of a querier applies: each patch is of one of the components,
relabelled, under the controller's field owner, and owned by the querier only when the two
share a namespace. -/
theorem componentsRun_patch_labelled {ext : External}
    (ownerOnly : ∀ q c owned, ext.setControllerReference q c = .ok owned →
      owned = { c with metadata := { c.metadata with ownerReferences := owned.metadata.ownerReferences } })
    {querier : ThanosQuerier} {components : List Component} {rest : List Exchange}
    {out : Result × Option Error} (loop : ComponentsRun (Patched ext querier) components rest out) :
    ∀ x ∈ rest, ∀ object fieldOwner, x.1 = .patch object fieldOwner →
      fieldOwner = "thanos-querier-controller" ∧
        ∃ component ∈ components,
          let labelled := ensureLabels component (componentLabels querier)
          object = { labelled with
            metadata := { labelled.metadata with ownerReferences := object.metadata.ownerReferences } } ∧
          labelled.metadata.labels = some (component.metadata.labelSet ∪ componentLabels querier) ∧
          (component.metadata.«namespace» ≠ querier.metadata.«namespace» → object = labelled) := by
  intro x inRest object fieldOwner patched
  obtain ⟨component, inComponents, part, outcome, applied, inPart⟩ := loop.exchange_of_mem x inRest
  unfold Patched at applied
  split at applied
  · rw [applied.1] at inPart
    cases inPart
  · next owned' owned =>
      rw [applied, List.mem_singleton] at inPart
      rw [inPart, Call.patch.injEq] at patched
      obtain ⟨rfl, rfl⟩ := patched
      refine ⟨rfl, component, inComponents, ?_, ensureLabels_labels _ _, fun apart => ?_⟩
      · split at owned
        · exact ownerOnly _ _ _ owned
        · cases owned
          rfl
      · rw [if_neg (Ne.symm apart)] at owned
        cases owned
        rfl

/-- In every run of `Reconcile`, under every reply of the store, each object applied is a
component of the querier the run read, applied under the field owner
`thanos-querier-controller`: the component with the three querier labels added where its own
labels lack the key, and with an owner reference only when it is in the querier's namespace.
`SetControllerReference` is taken to change nothing but the owner references. -/
theorem reconcile_applies_labelled_components (ext : External)
    (ownerOnly : ∀ q c owned, ext.setControllerReference q c = .ok owned →
      owned = { c with metadata := { c.metadata with ownerReferences := owned.metadata.ownerReferences } })
    {req : NamespacedName} {trace : List Exchange} {out : Result × Option Error}
    (run : Run (reconcile ext req) trace out) :
    ∀ x ∈ trace, ∀ object fieldOwner, x.1 = .patch object fieldOwner →
      fieldOwner = "thanos-querier-controller" ∧
        ∃ querier urls, (⟨.getThanosQuerier req, .ok querier⟩ : Exchange) ∈ trace ∧
          ∃ component ∈ ext.thanosComponents querier urls,
            let labelled := ensureLabels component (componentLabels querier)
            object = { labelled with
              metadata := { labelled.metadata with ownerReferences := object.metadata.ownerReferences } } ∧
            labelled.metadata.labels = some (component.metadata.labelSet ∪ componentLabels querier) ∧
            (component.metadata.«namespace» ≠ querier.metadata.«namespace» → object = labelled) := by
  intro x member object fieldOwner patched
  rcases run_reconcile_iff.mp run with _ | _ | _ | ⟨_, loop⟩ | ⟨_, loop⟩ <;>
    simp only [List.mem_cons, List.mem_singleton, List.not_mem_nil, or_false] at member <;>
    rcases member with rfl | rfl | inRest <;>
    first
      | cases patched
      | obtain ⟨owner, applied⟩ :=
          componentsRun_patch_labelled ownerOnly loop x inRest object fieldOwner patched
        exact ⟨owner, _, _, .head _, applied⟩

/-- A querier `q1` with one component in its namespace, and a store that lists no stack: the
run that applies the component. -/
theorem reconcile_applies_labelled_components_of_one_component :
    let ext : External :=
      { matchesNamespace := fun _ _ => true
        thanosComponents := fun _ _ => [{ metadata := { name := "thanos-querier-q1", «namespace» := "ns" } }]
        setControllerReference := fun _ component => .ok component }
    let querier : ThanosQuerier := { metadata := { name := "q1", «namespace» := "ns" } }
    let req : NamespacedName := { name := "q1", «namespace» := "ns" }
    let trace : List Exchange :=
      [⟨.getThanosQuerier req, .ok querier⟩,
        ⟨.listMonitoringStacks (labelSelectorAsSelector querier.spec.selector), .ok []⟩,
        ⟨.patch (ensureLabels { metadata := { name := "thanos-querier-q1", «namespace» := "ns" } }
          (componentLabels querier)) "thanos-querier-controller", none⟩]
    (∀ q c owned, ext.setControllerReference q c = .ok owned →
      owned = { c with metadata := { c.metadata with ownerReferences := owned.metadata.ownerReferences } }) ∧
      Run (reconcile ext req) trace ({}, none) ∧
      ∀ x ∈ trace, ∀ object fieldOwner, x.1 = .patch object fieldOwner →
        fieldOwner = "thanos-querier-controller" ∧
          ∃ querier urls, (⟨.getThanosQuerier req, .ok querier⟩ : Exchange) ∈ trace ∧
            ∃ component ∈ ext.thanosComponents querier urls,
              let labelled := ensureLabels component (componentLabels querier)
              object = { labelled with
                metadata := { labelled.metadata with ownerReferences := object.metadata.ownerReferences } } ∧
              labelled.metadata.labels = some (component.metadata.labelSet ∪ componentLabels querier) ∧
              (component.metadata.«namespace» ≠ querier.metadata.«namespace» → object = labelled) := by
  intro ext querier req trace
  have ownerOnly : ∀ q c owned, ext.setControllerReference q c = .ok owned →
      owned = { c with metadata := { c.metadata with ownerReferences := owned.metadata.ownerReferences } } := by
    rintro q c owned ⟨⟩
    rfl
  have applies : Patched ext querier
      { metadata := { name := "thanos-querier-q1", «namespace» := "ns" } }
      [⟨.patch (ensureLabels { metadata := { name := "thanos-querier-q1", «namespace» := "ns" } }
        (componentLabels querier)) "thanos-querier-controller", none⟩] none :=
    rfl
  have run : Run (reconcile ext req) trace ({}, none) :=
    run_reconcile_iff.mpr (.listed (.inr rfl) (.next applies .applied))
  exact ⟨ownerOnly, run, reconcile_applies_labelled_components ext ownerOnly run⟩

/-! ### Both component controllers -/

/-- The runs of both component controllers. A run of the monitoring-stack reconciler of a
component is its one `reconcileComponent` call, whose reply is the outcome; a run of the
thanos-querier apply of a component is the patch `Patched` describes, or the error of
`SetControllerReference` with no call. Each `Reconcile` runs these attempts over its
components in list order, up to the first error, through the loop of `ComponentsRun`, and
stops before the loop in the other cases of its `ReconcileRun`. -/
theorem reconcilers_apply_components_in_order {Component : Type}
    (stackComponentReconcilers : MonitoringStack → String → String → List Component)
    (key value : String) (ext : External) (stackReq querierReq : NamespacedName) :
    (∀ (component : Component) part outcome, Run (Stack.runReconciler component) part outcome ↔
        part = [⟨.reconcileComponent component, outcome⟩]) ∧
      (∀ trace out, Run (Stack.reconcile stackComponentReconcilers key value stackReq) trace out ↔
        Stack.ReconcileRun stackComponentReconcilers key value stackReq trace out) ∧
      (∀ querier component part outcome, Run (applyComponent ext querier component) part outcome ↔
        Patched ext querier component part outcome) ∧
      ∀ trace out, Run (reconcile ext querierReq) trace out ↔ ReconcileRun ext querierReq trace out :=
  ⟨fun _ _ _ => Stack.run_runReconciler_iff, fun _ _ => Stack.run_reconcile_iff,
    fun _ _ _ _ => run_applyComponent_iff, fun _ _ => run_reconcile_iff⟩

end MonitoringStackOperator.Querier
