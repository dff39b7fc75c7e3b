import MonitoringStackOperator.Querier.Controller

/-! The store endpoints `findSidecarServices` hands to the querier: one per selected stack in
its namespaces, each naming the stack's sidecar service by DNS service discovery.

`parseSidecarEndpoint` reads an endpoint back into the stack's name and namespace. It is not
in the repository; it states the pattern the endpoints follow, and its round trip says that an
endpoint names exactly one stack. -/

namespace MonitoringStackOperator.Querier

open Api Pass

/-- A namespace is a DNS-1123 label, which has no `.`. -/
theorem not_dot_of_isDNS1123Label {value : String} (label : isDNS1123Label value = true) :
    '.' ∉ value.data := fun member => by
  rcases isDNS1123Label_chars label _ member with edge | dash
  · exact absurd edge (by decide)
  · cases dash

/-! ### Reading an endpoint back -/

/-- Splits a sidecar endpoint into the stack's name and namespace: the fixed prefix and the
`.svc.cluster.local` suffix come off, the namespace is what follows the last `.`, and the name
is what stands before `-thanos-sidecar.`. -/
def parseSidecarEndpoint (endpoint : String) : Option (String × String) := do
  let host ← endpoint.data.dropPrefix? "dnssrv+_grpc._tcp.".data
  let host ← host.dropSuffix? ".svc.cluster.local".data
  let service ← (host.reverse.dropWhile (· != '.')).reverse.dropSuffix? "-thanos-sidecar.".data
  return (String.mk service, String.mk (host.reverse.takeWhile (· != '.')).reverse)

theorem dropSuffix?_append_self (list suffix : List Char) :
    (list ++ suffix).dropSuffix? suffix = some list :=
  List.dropSuffix?_eq_some_iff.mpr ⟨suffix, rfl, beq_self_eq_true _⟩

/-- The endpoint of a stack's sidecar reads back as the stack's name and namespace when the
namespace has no `.`. -/
theorem parseSidecarEndpoint_getEndpointUrl (name «namespace» : String)
    (undotted : '.' ∉ «namespace».data) :
    parseSidecarEndpoint (getEndpointUrl (name ++ "-thanos-sidecar") «namespace») =
      some (name, «namespace») := by
  have reversedUndotted : ∀ c ∈ «namespace».data.reverse, (c != '.') = true := by
    intro c member
    simpa using fun same : c = '.' => undotted (same ▸ List.mem_reverse.mp member)
  have endpoint : (getEndpointUrl (name ++ "-thanos-sidecar") «namespace»).data =
      "dnssrv+_grpc._tcp.".data ++
        ((name.data ++ "-thanos-sidecar.".data ++ «namespace».data) ++ ".svc.cluster.local".data) := by
    simp [getEndpointUrl]
  simp only [parseSidecarEndpoint, endpoint, List.dropPrefix?_append_of_beq _ (beq_self_eq_true _),
    dropSuffix?_append_self, Option.bind_eq_bind, Option.some_bind, List.reverse_append,
    List.dropWhile_append_of_pos reversedUndotted, List.takeWhile_append_of_pos reversedUndotted]
  simp [dropSuffix?_append_self]

/-! ### The endpoints of a querier -/

/-- The endpoint of a stack's sidecar. -/
def sidecarEndpoint (ms : MonitoringStack) : String :=
  getEndpointUrl (ms.metadata.name ++ "-thanos-sidecar") ms.metadata.«namespace»

/-- What `findSidecarServices` returns when the store lists `items`: their endpoints, unless
the selector did not convert and the cache holds a stack, when it panics. -/
theorem run_findSidecarServices_ok_iff {ext : External} {tQuerier : ThanosQuerier}
    {items : List MonitoringStack} {out : List String × Option Error} :
    Run (findSidecarServices ext tQuerier)
        [⟨.listMonitoringStacks (labelSelectorAsSelector tQuerier.spec.selector), .ok items⟩] out ↔
      ((labelSelectorAsSelector tQuerier.spec.selector).isSome ∨ items = []) ∧
        out = (sidecarUrls ext tQuerier items, none) := by
  rw [run_findSidecarServices_iff]
  constructor
  · rintro (⟨err, sent, -⟩ | ⟨listed, allowed, sent, rfl⟩)
    · simp at sent
    · simp only [List.cons.injEq, Sigma.mk.inj_iff, heq_eq_eq, true_and, and_true] at sent
      cases sent
      exact ⟨allowed, rfl⟩
  · rintro ⟨allowed, rfl⟩
    exact .inr ⟨items, allowed, rfl, rfl⟩

/-- For every list of stacks the store returns, with distinct names and namespaces that are
DNS-1123 labels, `findSidecarServices` returns one endpoint per stack in the querier's
namespaces, in the order of the list, when the querier's selector converts or the list is
empty; no two endpoints are equal, and each reads back as its stack's name and namespace. -/
theorem findSidecarServices_endpoints_distinct (ext : External) (tQuerier : ThanosQuerier)
    (items : List MonitoringStack) (distinct : (items.map fun ms => ms.metadata.key).Nodup)
    (labels : ∀ ms ∈ items, isDNS1123Label ms.metadata.«namespace» = true) :
    let endpoints :=
      (items.filter fun ms => ext.matchesNamespace tQuerier ms.metadata.«namespace»).map
        sidecarEndpoint
    (∀ out, Run (findSidecarServices ext tQuerier)
        [⟨.listMonitoringStacks (labelSelectorAsSelector tQuerier.spec.selector), .ok items⟩] out ↔
      ((labelSelectorAsSelector tQuerier.spec.selector).isSome ∨ items = []) ∧
        out = (endpoints, none)) ∧
      endpoints.Nodup ∧
      ∀ ms ∈ items, parseSidecarEndpoint (sidecarEndpoint ms) =
        some (ms.metadata.name, ms.metadata.«namespace») := by
  intro endpoints
  have readsBack : ∀ ms ∈ items, parseSidecarEndpoint (sidecarEndpoint ms) =
      some (ms.metadata.name, ms.metadata.«namespace») := fun ms member =>
    parseSidecarEndpoint_getEndpointUrl _ _ (not_dot_of_isDNS1123Label (labels ms member))
  have injective : ∀ ms ∈ items, ∀ ms' ∈ items, sidecarEndpoint ms = sidecarEndpoint ms' →
      ms = ms' := by
    intro ms member ms' member' same
    have keys := readsBack ms member
    rw [same, readsBack ms' member'] at keys
    obtain ⟨names, namespaces⟩ := Prod.mk.inj (Option.some.inj keys)
    exact List.inj_on_of_nodup_map distinct member member'
      (by simp [ObjectMeta.key, names, namespaces])
  refine ⟨fun out => run_findSidecarServices_ok_iff, ?_, readsBack⟩
  exact ((List.Nodup.of_map _ distinct).filter _).map_on fun ms member ms' member' =>
    injective ms (List.mem_of_mem_filter member) ms' (List.mem_of_mem_filter member')

/-- Stacks `bar` in namespaces `ns` and `ns2`, and a querier of every namespace with an empty
selector: two endpoints that differ in the namespace. -/
theorem findSidecarServices_endpoints_of_bar :
    let ext : External :=
      { matchesNamespace := fun _ _ => true, thanosComponents := fun _ _ => [],
        setControllerReference := fun _ component => .ok component }
    let tQuerier : ThanosQuerier := {}
    let items : List MonitoringStack :=
      [{ metadata := { name := "bar", «namespace» := "ns" } },
        { metadata := { name := "bar", «namespace» := "ns2" } }]
    (items.map fun ms => ms.metadata.key).Nodup ∧
      (∀ ms ∈ items, isDNS1123Label ms.metadata.«namespace» = true) ∧
      let endpoints :=
        (items.filter fun ms => ext.matchesNamespace tQuerier ms.metadata.«namespace»).map
          sidecarEndpoint
      (∀ out, Run (findSidecarServices ext tQuerier)
          [⟨.listMonitoringStacks (labelSelectorAsSelector tQuerier.spec.selector), .ok items⟩] out ↔
        ((labelSelectorAsSelector tQuerier.spec.selector).isSome ∨ items = []) ∧
          out = (endpoints, none)) ∧
        endpoints.Nodup ∧
        ∀ ms ∈ items, parseSidecarEndpoint (sidecarEndpoint ms) =
          some (ms.metadata.name, ms.metadata.«namespace») := by
  intro ext tQuerier items
  have distinct : (items.map fun ms => ms.metadata.key).Nodup := by decide
  have labels : ∀ ms ∈ items, isDNS1123Label ms.metadata.«namespace» = true := by decide
  exact ⟨distinct, labels, findSidecarServices_endpoints_distinct ext tQuerier items distinct labels⟩

end MonitoringStackOperator.Querier
