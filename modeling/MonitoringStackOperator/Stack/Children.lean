import MonitoringStackOperator.Stack.Components

/-! The children `components.go` builds for a stack under names derived from the stack's
name: the two service accounts, the role and its binding, the scrape-config secret, the
Prometheus and its service. Their identities in the store are distinct within a stack and
between stacks, and every reference by name among them resolves inside the set. -/

namespace MonitoringStackOperator.Stack

open Api

/-! ### Identities -/

/-- A name is recovered from the name with a fixed suffix. -/
theorem append_suffix_inj {name name' suffix : String} :
    name ++ suffix = name' ++ suffix ↔ name = name' := by
  simp only [String.ext_iff, String.data_append, List.append_cancel_right_eq]

/-- The names of the two service accounts of any two stacks differ in their last character. -/
theorem prometheus_ne_alertmanager (name name' : String) :
    name ++ "-prometheus" ≠ name' ++ "-alertmanager" := by
  intro same
  have last := congrArg (fun s : String => s.data.getLast?) same
  simp at last

theorem stackComponentPatchers_children_eq (ext : ExternalBuilders) (ms : MonitoringStack)
    (key value : String) :
    [0, 1, 2, 3, 4, 8, 9].filterMap (fun i =>
        (stackComponentPatchers ext ms key value)[i]?.map fun p => p.empty.identity) =
      [("ServiceAccount", ms.metadata.«namespace», ms.metadata.name ++ "-prometheus"),
        ("Role", ms.metadata.«namespace», ms.metadata.name ++ "-prometheus"),
        ("RoleBinding", ms.metadata.«namespace», ms.metadata.name ++ "-prometheus"),
        ("Secret", ms.metadata.«namespace», ms.metadata.name ++ "-prometheus-additional-scrape-configs"),
        ("ServiceAccount", ms.metadata.«namespace», ms.metadata.name ++ "-alertmanager"),
        ("Prometheus", ms.metadata.«namespace», ms.metadata.name),
        ("Service", ms.metadata.«namespace», ms.metadata.name ++ "-prometheus")] :=
  rfl

/-- The seven children of a stack have seven distinct identities, and none of them is the
identity of a child of a stack with another name, whatever the instance selectors. -/
theorem stackComponentPatchers_children_distinct (ext : ExternalBuilders) (ms ms' : MonitoringStack)
    (key value key' value' : String) (distinctNames : ms.metadata.name ≠ ms'.metadata.name) :
    let children (ms : MonitoringStack) (key value : String) :=
      [0, 1, 2, 3, 4, 8, 9].filterMap fun i =>
        (stackComponentPatchers ext ms key value)[i]?.map fun p => p.empty.identity
    (children ms key value).length = 7 ∧ (children ms key value ++ children ms' key' value').Nodup := by
  intro children
  simp only [children, stackComponentPatchers_children_eq]
  simp [List.nodup_cons, append_suffix_inj, prometheus_ne_alertmanager,
    (prometheus_ne_alertmanager _ _).symm, distinctNames]

/-- Stacks `a` and `a-prometheus`, whose names are a suffix apart. -/
theorem stackComponentPatchers_children_distinct_of_suffix :
    let ext : ExternalBuilders :=
      { newAlertmanager := fun _ _ _ _ => {}, newAlertmanagerService := fun _ _ _ => {},
        newAlertmanagerPDB := fun _ _ _ => {}, grafanaDSName := fun _ => "",
        grafanaDatasourceOwnerName := "", grafanaDatasourceOwnerNamespace := "" }
    let ms : MonitoringStack := { metadata := { name := "a", «namespace» := "ns" } }
    let ms' : MonitoringStack := { metadata := { name := "a-prometheus", «namespace» := "ns" } }
    ms.metadata.name ≠ ms'.metadata.name ∧
      let children (ms : MonitoringStack) (key value : String) :=
        [0, 1, 2, 3, 4, 8, 9].filterMap fun i =>
          (stackComponentPatchers ext ms key value)[i]?.map fun p => p.empty.identity
      (children ms "k" "v").length = 7 ∧
        (children ms "k" "v" ++ children ms' "k" "v").Nodup := by
  intro ext ms ms'
  have distinctNames : ms.metadata.name ≠ ms'.metadata.name := by decide
  exact ⟨distinctNames, stackComponentPatchers_children_distinct ext ms ms' "k" "v" "k" "v" distinctNames⟩

/-! ### References -/

/-- Every reference by name among the children resolves inside the set: the role binding
names the role and the Prometheus service account, the Prometheus names that account and the
scrape-config secret with a key the secret holds, the Prometheus service selects the
Prometheus pod labels, and the one data source of the `GrafanaDataSource` points at that
service's host and port. -/
theorem stackComponentPatchers_references_resolve (ext : ExternalBuilders) (ms : MonitoringStack)
    (key value : String) :
    let built (i : Nat) := (stackComponentPatchers ext ms key value)[i]?.map fun p => p.patch none
    ∃ sa role roleBinding secret prometheus service dataSource,
      built 0 = some (.ok (.serviceAccount sa)) ∧ built 1 = some (.ok (.role role)) ∧
      built 2 = some (.ok (.roleBinding roleBinding)) ∧ built 3 = some (.ok (.secret secret)) ∧
      built 8 = some (.ok (.prometheus prometheus)) ∧ built 9 = some (.ok (.service service)) ∧
      built 10 = some (.ok (.grafanaDataSource dataSource)) ∧
      (roleBinding.roleRef.kind = "Role" ∧ roleBinding.roleRef.name = role.metadata.name ∧
        roleBinding.subjects =
          [{ apiGroup := "", kind := "ServiceAccount", name := sa.metadata.name,
             «namespace» := sa.metadata.«namespace» }] ∧
        roleBinding.metadata.«namespace» = ms.metadata.«namespace» ∧
        role.metadata.«namespace» = ms.metadata.«namespace» ∧
        sa.metadata.«namespace» = ms.metadata.«namespace») ∧
      (prometheus.spec.serviceAccountName = sa.metadata.name ∧
        prometheus.metadata.«namespace» = sa.metadata.«namespace») ∧
      (∃ ref data, prometheus.spec.additionalScrapeConfigs = some ref ∧
        ref.name = secret.metadata.name ∧ secret.metadata.«namespace» = prometheus.metadata.«namespace» ∧
        secret.stringData = some data ∧ ref.key ∈ data) ∧
      (service.spec.selector = prometheus.spec.podMetadata.bind (·.labels) ∧
        service.metadata.«namespace» = prometheus.metadata.«namespace») ∧
      ∃ port ∈ service.spec.ports, ∃ source, dataSource.spec.datasources = [source] ∧
        source.url = service.metadata.name ++ "." ++ service.metadata.«namespace» ++ ":" ++
          toString port.port := by
  intro built
  refine ⟨_, _, _, _, _, _, _, rfl, rfl, rfl, rfl, rfl, rfl, rfl, ⟨rfl, rfl, rfl, rfl, rfl, rfl⟩,
    ⟨rfl, rfl⟩, ⟨_, _, rfl, rfl, rfl, rfl, ?_⟩, ⟨rfl, rfl⟩, ⟨_, .head _, _, rfl, ?_⟩⟩
  · simp [mapOf, additionalScrapeConfigsSelfScrapeKey]
  · have port : toString (9090 : Int) = "9090" := rfl
    simp [newGrafanaDataSource, newPrometheusService, port, String.ext_iff]

end MonitoringStackOperator.Stack
