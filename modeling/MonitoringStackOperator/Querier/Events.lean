import MonitoringStackOperator.Querier.Controller

/-! The watches `RegisterWithManager` sets up for the thanos-querier controller, and the
requests an update of a `MonitoringStack` enqueues.

The builder and the event sources are controller-runtime's and not in the repository; they
are modelled as the builder uses them. The predicates given to `WithEventFilter` are global,
and every watch, the one added by `Watches` included, is registered with the global
predicates followed by its own. An update reaches the handler only when every predicate
passes, and `EnqueueRequestsFromMapFunc` enqueues the requests of the old object and then
those of the new one, each once. An informer's update always carries both objects. -/

namespace MonitoringStackOperator.Querier

open Api Pass

/-! ### Predicates -/

/-- The update check of a `predicate.Predicate`, on the metadata of the old and the new
object. -/
structure Predicate where
  update : ObjectMeta → ObjectMeta → Bool

/-- The update check `GenerationChangedPredicate` and `ResourceVersionChangedPredicate` share:
a field of the metadata differs between the old and the new object. -/
def fieldChangedPredicate {α : Type} [DecidableEq α] (field : ObjectMeta → α) : Predicate where
  update objectOld objectNew := field objectNew != field objectOld

/-- `predicate.GenerationChangedPredicate`. -/
def generationChangedPredicate : Predicate := fieldChangedPredicate ObjectMeta.generation

/-- `predicate.ResourceVersionChangedPredicate`. -/
def resourceVersionChangedPredicate : Predicate := fieldChangedPredicate ObjectMeta.resourceVersion

@[simp] theorem fieldChangedPredicate_update {α : Type} [DecidableEq α] (field : ObjectMeta → α)
    (objectOld objectNew : ObjectMeta) :
    (fieldChangedPredicate field).update objectOld objectNew = !decide (field objectNew = field objectOld) :=
  rfl

/-! ### The builder -/

/-- A watch the builder registers: the kind it watches and its own predicates. -/
structure WatchInput where
  kind : String
  predicates : List Predicate := []

/-- What `builder.Builder` records before `Complete`. -/
structure Builder where
  forInput : Option WatchInput := none
  ownsInput : List WatchInput := []
  watchesInput : List WatchInput := []
  globalPredicates : List Predicate := []

def Builder.«for» (blder : Builder) (kind : String) : Builder :=
  { blder with forInput := some { kind } }

def Builder.owns (blder : Builder) (kind : String) : Builder :=
  { blder with ownsInput := blder.ownsInput ++ [{ kind }] }

def Builder.withEventFilter (blder : Builder) (p : Predicate) : Builder :=
  { blder with globalPredicates := blder.globalPredicates ++ [p] }

def Builder.watches (blder : Builder) (kind : String) (predicates : List Predicate) : Builder :=
  { blder with watchesInput := blder.watchesInput ++ [{ kind, predicates }] }

/-- `doWatch`: each watch with the predicates it is registered with, the global ones first. -/
def Builder.watchPredicates (blder : Builder) : List (String × List Predicate) :=
  (blder.forInput.toList ++ blder.ownsInput ++ blder.watchesInput).map fun input =>
    (input.kind, blder.globalPredicates ++ input.predicates)

/-- The builder chain of `RegisterWithManager`. -/
def registerWithManager : Builder :=
  let p := generationChangedPredicate
  (((((((({} : Builder).«for» "ThanosQuerier").owns "Deployment").withEventFilter p).owns
    "ServiceAccount").withEventFilter p).owns "Service").withEventFilter p).watches
    "MonitoringStack" [resourceVersionChangedPredicate]

/-- The predicates the `MonitoringStack` watch is registered with. -/
def monitoringStackPredicates : List Predicate :=
  (registerWithManager.watchPredicates.lookup "MonitoringStack").getD []

theorem monitoringStackPredicates_eq :
    monitoringStackPredicates = [generationChangedPredicate, generationChangedPredicate,
      generationChangedPredicate, resourceVersionChangedPredicate] :=
  rfl

/-! ### Updates of a stack -/

/-- The update handler of the `MonitoringStack` watch: `Kind` passes the event on only when
every predicate accepts it, and `EnqueueRequestsFromMapFunc(findQueriersForMonitoringStack)`
maps the old object and then the new one and enqueues each request once. -/
def onUpdate (predicates : List Predicate) (objectOld objectNew : MonitoringStack) :
    QuerierPass (List NamespacedName) :=
  if predicates.all fun p => p.update objectOld.metadata objectNew.metadata then do
    let oldRequests ← findQueriersForMonitoringStack objectOld
    let newRequests ← findQueriersForMonitoringStack objectNew
    return (oldRequests ++ newRequests).eraseDups
  else return []

variable {objectOld objectNew : MonitoringStack}

/-- An update one predicate rejects makes no call and enqueues nothing. -/
theorem onUpdate_of_rejected {predicates : List Predicate} {p : Predicate} (member : p ∈ predicates)
    (rejects : p.update objectOld.metadata objectNew.metadata = false) :
    onUpdate predicates objectOld objectNew = pure [] := by
  have notAll : (predicates.all fun p => p.update objectOld.metadata objectNew.metadata) = false :=
    List.all_eq_false.mpr ⟨p, member, by simp [rejects]⟩
  simp only [onUpdate, notAll, Bool.false_eq_true, if_false]

/-- The stack watch drops every update that leaves the generation unchanged. -/
theorem onUpdate_of_same_generation (same : objectNew.metadata.generation = objectOld.metadata.generation) :
    onUpdate monitoringStackPredicates objectOld objectNew = pure [] :=
  onUpdate_of_rejected (p := generationChangedPredicate) (by simp [monitoringStackPredicates_eq])
    (by simp [generationChangedPredicate, same])

/-- An update that changes the generation and the resource version is mapped. -/
theorem onUpdate_of_changed
    (generationChanged : objectNew.metadata.generation ≠ objectOld.metadata.generation)
    (versionChanged : objectNew.metadata.resourceVersion ≠ objectOld.metadata.resourceVersion) :
    onUpdate monitoringStackPredicates objectOld objectNew = do
      let oldRequests ← findQueriersForMonitoringStack objectOld
      let newRequests ← findQueriersForMonitoringStack objectNew
      return (oldRequests ++ newRequests).eraseDups := by
  simp [onUpdate, monitoringStackPredicates_eq, generationChangedPredicate,
    resourceVersionChangedPredicate, generationChanged, versionChanged]

/-- A stack relabelled so that a querier's selector now matches it, with its generation
unchanged as on every update of the metadata alone: the watch's own
`ResourceVersionChangedPredicate` accepts the update, the global `GenerationChangedPredicate`
drops it, and the controller makes no call and enqueues no request, the querier's included. -/
theorem relabelled_monitoringStack_enqueues_nothing :
    let querier : ThanosQuerier :=
      { metadata := { name := "q1", «namespace» := "ns" }
        spec := { selector := { matchLabels := mapOf [("team", "a")] } } }
    let objectOld : MonitoringStack :=
      { metadata :=
          { name := "foo", «namespace» := "ns", labels := some (mapOf [("team", "b")]),
            resourceVersion := "1", generation := 1 } }
    let objectNew : MonitoringStack :=
      { metadata :=
          { name := "foo", «namespace» := "ns", labels := some (mapOf [("team", "a")]),
            resourceVersion := "2", generation := 1 } }
    selects querier objectOld.metadata.labelSet = false ∧
      selects querier objectNew.metadata.labelSet = true ∧
      resourceVersionChangedPredicate.update objectOld.metadata objectNew.metadata = true ∧
      onUpdate monitoringStackPredicates objectOld objectNew = pure [] := by
  intro querier objectOld objectNew
  exact ⟨by decide, by decide, by decide, onUpdate_of_same_generation rfl⟩

/-! ### Requests of an update -/

section EraseDups

variable {α : Type} [DecidableEq α]

/-- The loop of `eraseDups` adds each element not yet collected. -/
theorem eraseDups_loop_nodup_mem (as bs : List α) (nodup : bs.Nodup) :
    (List.eraseDups.loop as bs).Nodup ∧ ∀ a, a ∈ List.eraseDups.loop as bs ↔ a ∈ as ∨ a ∈ bs := by
  induction as generalizing bs with
  | nil => simpa [List.eraseDups.loop] using nodup
  | cons a rest ih =>
      by_cases seen : a ∈ bs
      · simp only [List.eraseDups.loop, List.elem_eq_true_of_mem seen]
        refine ⟨(ih bs nodup).1, fun x => ?_⟩
        rw [(ih bs nodup).2, List.mem_cons]
        by_cases same : x = a <;> simp [same, seen]
      · have fresh : bs.elem a = false := Bool.eq_false_iff.mpr fun found => seen (List.elem_iff.mp found)
        simp only [List.eraseDups.loop, fresh]
        refine ⟨(ih (a :: bs) (List.nodup_cons.mpr ⟨seen, nodup⟩)).1, fun x => ?_⟩
        rw [(ih (a :: bs) (List.nodup_cons.mpr ⟨seen, nodup⟩)).2]
        simp only [List.mem_cons]
        tauto

theorem nodup_eraseDups (l : List α) : l.eraseDups.Nodup :=
  (eraseDups_loop_nodup_mem l [] List.nodup_nil).1

theorem mem_eraseDups {l : List α} {a : α} : a ∈ l.eraseDups ↔ a ∈ l := by
  simpa using (eraseDups_loop_nodup_mem l [] List.nodup_nil).2 a

end EraseDups

/-- The requests `findQueriersForMonitoringStack` makes of the reply to its `List`. -/
def requestsOfReply (labels : StringMap) : Except Error (List ThanosQuerier) → List NamespacedName
  | .error _ => []
  | .ok queriers => collectRequests labels queriers []

/-- When every listed selector converts, the requests of a reply are those of the listed
queriers that select the labels. -/
theorem requestsOfReply_of_converts {reply : Except Error (List ThanosQuerier)} {labels : StringMap}
    (converts : ∀ q ∈ reply.toOption.getD [], (labelSelectorAsSelector q.spec.selector).isSome) :
    requestsOfReply labels reply = ((reply.toOption.getD []).filter (selects · labels)).map requestFor := by
  cases reply with
  | error => rfl
  | ok queriers => simpa using collectRequests_of_converts converts []

theorem findQueriersForMonitoringStack_eq (ms : MonitoringStack) :
    findQueriersForMonitoringStack ms =
      Pass.send Call.listThanosQueriers >>= fun reply =>
        pure (requestsOfReply ms.metadata.labelSet reply) := by
  rw [findQueriersForMonitoringStack]
  congr 1
  funext reply
  cases reply <;> rfl

/-- An update of a stack that changes its generation and resource version: whatever the two
`List` calls return, the handler enqueues, once each, the requests of the queriers of the first
list that select the old labels and of those of the second list that select the new ones,
when every listed selector converts; a failed list contributes none. So a querier that stops
or starts selecting the stack is reconciled. -/
theorem onUpdate_enqueues_selecting_queriers {objectOld objectNew : MonitoringStack}
    (generationChanged : objectNew.metadata.generation ≠ objectOld.metadata.generation)
    (versionChanged : objectNew.metadata.resourceVersion ≠ objectOld.metadata.resourceVersion)
    (replyOld replyNew : Except Error (List ThanosQuerier))
    (converts : ∀ q ∈ replyOld.toOption.getD [] ++ replyNew.toOption.getD [],
      (labelSelectorAsSelector q.spec.selector).isSome) :
    let enqueued :=
      (((replyOld.toOption.getD []).filter (selects · objectOld.metadata.labelSet)).map requestFor ++
        ((replyNew.toOption.getD []).filter (selects · objectNew.metadata.labelSet)).map
          requestFor).eraseDups
    (∀ requests, Run (onUpdate monitoringStackPredicates objectOld objectNew)
        [⟨.listThanosQueriers, replyOld⟩, ⟨.listThanosQueriers, replyNew⟩] requests ↔
      requests = enqueued) ∧
      enqueued.Nodup ∧
      ∀ req, req ∈ enqueued ↔
        (∃ q ∈ replyOld.toOption.getD [], selects q objectOld.metadata.labelSet ∧ requestFor q = req) ∨
          ∃ q ∈ replyNew.toOption.getD [], selects q objectNew.metadata.labelSet ∧ requestFor q = req := by
  intro enqueued
  have oldRequests : requestsOfReply objectOld.metadata.labelSet replyOld = _ :=
    requestsOfReply_of_converts fun q member => converts q (List.mem_append_left _ member)
  have newRequests : requestsOfReply objectNew.metadata.labelSet replyNew = _ :=
    requestsOfReply_of_converts fun q member => converts q (List.mem_append_right _ member)
  refine ⟨fun requests => ?_, nodup_eraseDups _, fun req => ?_⟩
  · rw [onUpdate_of_changed generationChanged versionChanged, findQueriersForMonitoringStack_eq,
      findQueriersForMonitoringStack_eq]
    simp only [enqueued, ← oldRequests, ← newRequests, bind_assoc, run_send_bind_iff, pure_eq,
      done_bind, run_done_iff, List.cons.injEq, Sigma.mk.inj_iff, heq_eq_eq, true_and]
    constructor
    · rintro ⟨_, _, ⟨rfl, rfl⟩, _, _, sent, rfl, rfl⟩
      cases sent
      rfl
    · rintro rfl
      exact ⟨_, _, ⟨rfl, rfl⟩, _, _, rfl, rfl, rfl⟩
  · simp only [enqueued, mem_eraseDups, List.mem_append, List.mem_map, List.mem_filter, and_assoc]

/-- A stack moved from team `b` to team `a` with a new spec, and a querier of team `a` listed
by both calls. -/
theorem onUpdate_enqueues_selecting_queriers_of_moved_stack :
    let querier : ThanosQuerier :=
      { metadata := { name := "q1", «namespace» := "ns" }
        spec := { selector := { matchLabels := mapOf [("team", "a")] } } }
    let objectOld : MonitoringStack :=
      { metadata :=
          { name := "foo", «namespace» := "ns", labels := some (mapOf [("team", "b")]),
            resourceVersion := "1", generation := 1 } }
    let objectNew : MonitoringStack :=
      { metadata :=
          { name := "foo", «namespace» := "ns", labels := some (mapOf [("team", "a")]),
            resourceVersion := "2", generation := 2 } }
    let reply : Except Error (List ThanosQuerier) := .ok [querier]
    objectNew.metadata.generation ≠ objectOld.metadata.generation ∧
      objectNew.metadata.resourceVersion ≠ objectOld.metadata.resourceVersion ∧
      (∀ q ∈ reply.toOption.getD [] ++ reply.toOption.getD [],
        (labelSelectorAsSelector q.spec.selector).isSome) ∧
      let enqueued :=
        (((reply.toOption.getD []).filter (selects · objectOld.metadata.labelSet)).map requestFor ++
          ((reply.toOption.getD []).filter (selects · objectNew.metadata.labelSet)).map
            requestFor).eraseDups
      (∀ requests, Run (onUpdate monitoringStackPredicates objectOld objectNew)
          [⟨.listThanosQueriers, reply⟩, ⟨.listThanosQueriers, reply⟩] requests ↔
        requests = enqueued) ∧
        enqueued.Nodup ∧
        ∀ req, req ∈ enqueued ↔
          (∃ q ∈ reply.toOption.getD [], selects q objectOld.metadata.labelSet ∧ requestFor q = req) ∨
            ∃ q ∈ reply.toOption.getD [], selects q objectNew.metadata.labelSet ∧ requestFor q = req := by
  intro querier objectOld objectNew reply
  have generationChanged : objectNew.metadata.generation ≠ objectOld.metadata.generation := by decide
  have versionChanged : objectNew.metadata.resourceVersion ≠ objectOld.metadata.resourceVersion := by
    decide
  have converts : ∀ q ∈ reply.toOption.getD [] ++ reply.toOption.getD [],
      (labelSelectorAsSelector q.spec.selector).isSome := by decide
  exact ⟨generationChanged, versionChanged, converts,
    onUpdate_enqueues_selecting_queriers generationChanged versionChanged reply reply converts⟩

end MonitoringStackOperator.Querier
