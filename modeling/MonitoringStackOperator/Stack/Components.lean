import MonitoringStackOperator.Stack.Objects
import MonitoringStackOperator.GrafanaOperator.Controller

/-! The desired-state builder of `components.go`: the builders of the child objects
of a monitoring stack, and `stackComponentPatchers`, which pairs each with the
function that turns the object read from the store into the object to write.

`newAlertmanager`, `newAlertmanagerService`, `newAlertmanagerPDB`, `grafanaDSName`
and the two data-source annotation keys are used by `components.go` but defined
nowhere in the repository; they are the fields of `ExternalBuilders`. -/

namespace MonitoringStackOperator.Stack

open Api

/-! ### Errors -/

/-- The last `width` lowercase hexadecimal digits of `n`. -/
def lowerHex (width n : Nat) : String :=
  String.mk ((List.range width).reverse.map fun i => Nat.digitChar (n / 16 ^ i % 16))

/-- One character as `strconv.Quote` writes it: the quote and the backslash escaped, the
control characters of Latin-1 as `\a`…`\v`, `\xNN` or `\uNNNN`, every other character as it
is. `strconv.IsPrint` also rejects some characters beyond Latin-1; those are kept. -/
def quoteChar : Char → String
  | '"' => "\\\""
  | '\\' => "\\\\"
  | '\x07' => "\\a"
  | '\x08' => "\\b"
  | '\x0c' => "\\f"
  | '\n' => "\\n"
  | '\r' => "\\r"
  | '\t' => "\\t"
  | '\x0b' => "\\v"
  | c =>
      if c.toNat < 0x20 ∨ c.toNat = 0x7f then "\\x" ++ lowerHex 2 c.toNat
      else if (0x7f < c.toNat ∧ c.toNat < 0xa1) ∨ c.toNat = 0xad then "\\u" ++ lowerHex 4 c.toNat
      else c.toString

/-- `strconv.Quote`, as `%q` prints a string. -/
def quote (text : String) : String :=
  "\"" ++ String.join (text.data.map quoteChar) ++ "\""

example : quote "v1\tServiceAccount\x7f\"" = "\"v1\\tServiceAccount\\x7f\\\"\"" := by decide

/-- `schema.ParseGroupVersion`: empty for an empty version or a lone slash, otherwise the
parts around a single slash, or the whole string as the version; `none` for more slashes. -/
def parseGroupVersion (groupVersion : String) : Option (String × String) :=
  if groupVersion = "" ∨ groupVersion = "/" then some ("", "")
  else
    match groupVersion.toList.splitOn '/' with
    | [version] => some ("", String.mk version)
    | [group, version] => some (String.mk group, String.mk version)
    | _ => none

/-- The `gvk` closure of `NewObjectTypeError`: group, slash, version, space, kind, as
`GroupVersionKind()` parses the type meta. -/
def gvk (typeMeta : TypeMeta) : String :=
  let (group, version) := (parseGroupVersion typeMeta.apiVersion).getD ("", "")
  group ++ "/" ++ version ++ " " ++ typeMeta.kind

structure ObjectTypeError where
  expectedType : String
  actualType : String
deriving DecidableEq

def ObjectTypeError.error (err : ObjectTypeError) : String :=
  "object type " ++ quote err.actualType ++ " is not " ++ quote err.expectedType

def newObjectTypeError (expected actual : Object) : Error :=
  .other { expectedType := gvk expected.typeMeta, actualType := gvk actual.typeMeta : ObjectTypeError }.error

/-! ### Builders -/

def additionalScrapeConfigsSelfScrapeKey : String := "self-scrape-config"

/-- The builders and names `components.go` uses without defining them. -/
structure ExternalBuilders where
  newAlertmanager : MonitoringStack → String → String → String → Monitoring.Alertmanager
  newAlertmanagerService : MonitoringStack → String → String → Core.Service
  newAlertmanagerPDB : MonitoringStack → String → String → Policy.PodDisruptionBudget
  grafanaDSName : MonitoringStack → String
  grafanaDatasourceOwnerName : String
  grafanaDatasourceOwnerNamespace : String

def objectLabels (name msName instanceSelectorKey instanceSelectorValue : String) : StringMap :=
  mapOf [(instanceSelectorKey, instanceSelectorValue), ("app.kubernetes.io/name", name),
    ("app.kubernetes.io/part-of", msName)]

def podLabels (component msName : String) : StringMap :=
  mapOf [("app.kubernetes.io/component", component), ("app.kubernetes.io/part-of", msName)]

def newServiceAccount (name «namespace» : String) : Core.ServiceAccount :=
  { typeMeta := { apiVersion := "v1", kind := "ServiceAccount" }
    metadata := { name := name, «namespace» := «namespace» } }

def newPrometheusRole (ms : MonitoringStack) (rbacResourceName : String)
    (rbacVerbs : List String) : Rbac.Role :=
  { typeMeta := { apiVersion := "rbac.authorization.k8s.io/v1", kind := "Role" }
    metadata := { name := rbacResourceName, «namespace» := ms.metadata.«namespace» }
    rules :=
      [{ apiGroups := [""], resources := ["services", "endpoints", "pods"], verbs := rbacVerbs },
        { apiGroups := ["extensions", "networking.k8s.io"], resources := ["ingresses"],
          verbs := rbacVerbs }] }

def newRoleBinding (ms : MonitoringStack) (rbacResourceName : String) : Rbac.RoleBinding :=
  { typeMeta := { apiVersion := "rbac.authorization.k8s.io/v1", kind := "RoleBinding" }
    metadata := { name := rbacResourceName, «namespace» := ms.metadata.«namespace» }
    subjects :=
      [{ apiGroup := "", kind := "ServiceAccount", name := rbacResourceName,
          «namespace» := ms.metadata.«namespace» }]
    roleRef := { apiGroup := "rbac.authorization.k8s.io", kind := "Role", name := rbacResourceName } }

/-! The scrape configuration of the additional-scrape-configs secret is one Go raw string
with the stack's name and namespace spliced in twice each; these are its literal parts. -/

def prometheusSelfJobBeforeName : String :=
  "\n" ++
  "- job_name: prometheus-self\n" ++
  "  honor_labels: true\n" ++
  "  relabel_configs:\n" ++
  "  - action: keep\n" ++
  "    source_labels:\n" ++
  "    - __meta_kubernetes_service_label_app_kubernetes_io_name\n" ++
  "    regex: "

def prometheusSelfJobBeforeNamespace : String :=
  "-prometheus\n" ++
  "  - action: keep\n" ++
  "    source_labels:\n" ++
  "    - __meta_kubernetes_endpoint_port_name\n" ++
  "    regex: web\n" ++
  "  - source_labels:\n" ++
  "    - __meta_kubernetes_namespace\n" ++
  "    target_label: namespace\n" ++
  "  - source_labels:\n" ++
  "    - __meta_kubernetes_service_name\n" ++
  "    target_label: service\n" ++
  "  - source_labels:\n" ++
  "    - __meta_kubernetes_pod_name\n" ++
  "    target_label: pod\n" ++
  "  - source_labels:\n" ++
  "    - __meta_kubernetes_pod_container_name\n" ++
  "    target_label: container\n" ++
  "  - target_label: endpoint\n" ++
  "    replacement: web\n" ++
  "  kubernetes_sd_configs:\n" ++
  "  - role: endpoints\n" ++
  "    namespaces:\n" ++
  "      names:\n" ++
  "      - "

def alertmanagerSelfJobBeforeName : String :=
  "\n" ++
  "- job_name: alertmanager-self\n" ++
  "  honor_timestamps: true\n" ++
  "  scrape_interval: 30s\n" ++
  "  scrape_timeout: 10s\n" ++
  "  metrics_path: /metrics\n" ++
  "  scheme: http\n" ++
  "  follow_redirects: true\n" ++
  "  relabel_configs:\n" ++
  "  - source_labels: \n" ++
  "    - __meta_kubernetes_service_label_app_kubernetes_io_name\n" ++
  "    separator: ;\n" ++
  "    regex: "

def alertmanagerSelfJobBeforeNamespace : String :=
  "-alertmanager\n" ++
  "    replacement: $1\n" ++
  "    action: keep\n" ++
  "  - source_labels: [__meta_kubernetes_endpoint_port_name]\n" ++
  "    separator: ;\n" ++
  "    regex: web\n" ++
  "    replacement: $1\n" ++
  "    action: keep\n" ++
  "  - source_labels: [__meta_kubernetes_namespace]\n" ++
  "    separator: ;\n" ++
  "    regex: (.*)\n" ++
  "    target_label: namespace\n" ++
  "    replacement: $1\n" ++
  "    action: replace\n" ++
  "  - source_labels: [__meta_kubernetes_service_name]\n" ++
  "    separator: ;\n" ++
  "    regex: (.*)\n" ++
  "    target_label: service\n" ++
  "    replacement: $1\n" ++
  "    action: replace\n" ++
  "  - source_labels: [__meta_kubernetes_pod_name]\n" ++
  "    separator: ;\n" ++
  "    regex: (.*)\n" ++
  "    target_label: pod\n" ++
  "    replacement: $1\n" ++
  "    action: replace\n" ++
  "  - source_labels: [__meta_kubernetes_pod_container_name]\n" ++
  "    separator: ;\n" ++
  "    regex: (.*)\n" ++
  "    target_label: container\n" ++
  "    replacement: $1\n" ++
  "    action: replace\n" ++
  "  - separator: ;\n" ++
  "    regex: (.*)\n" ++
  "    target_label: endpoint\n" ++
  "    replacement: web\n" ++
  "    action: replace\n" ++
  "  kubernetes_sd_configs:\n" ++
  "  - role: endpoints\n" ++
  "    kubeconfig_file: \"\"\n" ++
  "    follow_redirects: true\n" ++
  "    namespaces:\n" ++
  "      names:\n" ++
  "      - "

/-- The self-scrape jobs of a stack, as `newAdditionalScrapeConfigsSecret` splices them. -/
def selfScrapeConfig (msName msNamespace : String) : String :=
  prometheusSelfJobBeforeName ++ msName ++ prometheusSelfJobBeforeNamespace ++ msNamespace ++
    alertmanagerSelfJobBeforeName ++ msName ++ alertmanagerSelfJobBeforeNamespace ++ msNamespace

def newAdditionalScrapeConfigsSecret (ms : MonitoringStack) (name : String) : Core.Secret :=
  { typeMeta := { apiVersion := "v1", kind := "Secret" }
    metadata := { name := name, «namespace» := ms.metadata.«namespace» }
    stringData := some (mapOf [(additionalScrapeConfigsSelfScrapeKey,
      selfScrapeConfig ms.metadata.name ms.metadata.«namespace»)]) }

def newPrometheus (ms : MonitoringStack)
    (rbacResourceName additionalScrapeConfigsSecretName instanceSelectorKey
      instanceSelectorValue : String) : Monitoring.Prometheus :=
  let prometheusSelector := ms.spec.resourceSelector.getD {}
  { typeMeta := { apiVersion := "monitoring.coreos.com/v1", kind := "Prometheus" }
    metadata :=
      { name := ms.metadata.name, «namespace» := ms.metadata.«namespace»
        labels := some (objectLabels ms.metadata.name ms.metadata.name instanceSelectorKey
          instanceSelectorValue) }
    spec :=
      { podMetadata := some { labels := some (podLabels "prometheus" ms.metadata.name) }
        logLevel := ms.spec.logLevel
        retention := ms.spec.retention
        resources := ms.spec.resources
        serviceAccountName := rbacResourceName
        serviceMonitorSelector := some prometheusSelector
        serviceMonitorNamespaceSelector := none
        podMonitorSelector := some prometheusSelector
        podMonitorNamespaceSelector := none
        ruleSelector := some prometheusSelector
        ruleNamespaceSelector := none
        alerting := some
          { alertmanagers :=
              [{ apiVersion := "v2", name := ms.metadata.name ++ "-alertmanager",
                 «namespace» := ms.metadata.«namespace», scheme := "http", port := .string "web" }] }
        additionalScrapeConfigs := some
          { name := additionalScrapeConfigsSecretName, key := additionalScrapeConfigsSelfScrapeKey } } }

def newPrometheusService (ms : MonitoringStack) (instanceSelectorKey instanceSelectorValue : String) :
    Core.Service :=
  let name := ms.metadata.name ++ "-prometheus"
  { typeMeta := { apiVersion := "v1", kind := "Service" }
    metadata :=
      { name := name, «namespace» := ms.metadata.«namespace»
        labels := some (objectLabels name ms.metadata.name instanceSelectorKey instanceSelectorValue) }
    spec :=
      { selector := some (podLabels "prometheus" ms.metadata.name)
        ports := [{ name := "web", port := 9090, targetPort := .int 9090 }] } }

def newGrafanaDataSource (ext : ExternalBuilders) (ms : MonitoringStack) :
    Integreatly.GrafanaDataSource :=
  let datasourceName := ext.grafanaDSName ms
  let prometheusURL := ms.metadata.name ++ "-prometheus." ++ ms.metadata.«namespace» ++ ":9090"
  let annotations := mapOf [(ext.grafanaDatasourceOwnerName, ms.metadata.name),
    (ext.grafanaDatasourceOwnerNamespace, ms.metadata.«namespace»)]
  { typeMeta := { apiVersion := "integreatly.org/v1alpha1", kind := "GrafanaDataSource" }
    metadata :=
      { name := datasourceName, «namespace» := GrafanaOperator.«namespace»
        annotations := some annotations }
    spec :=
      { name := datasourceName
        datasources :=
          [{ name := datasourceName, type := "prometheus", access := "proxy", url := prometheusURL,
             version := 1 }] } }

/-! ### Patchers -/

/-- `objectPatcher`: the object to read the existing one into, and the function that gives
the object to write from the existing one, or from nil when there is none. -/
structure ObjectPatcher where
  empty : Object
  patch : Option Object → Except Error Object

/-- The patch function of every patcher but the service accounts': the built object when
nothing exists, otherwise the existing object, asserted to the built one's type, with
`overwrite` copying the built object's fields onto it. -/
def patchExisting {T : Type} (wrap : T → Object) (cast : Object → Option T) (built : T)
    (overwrite : T → T → T) : Option Object → Except Error Object
  | none => .ok (wrap built)
  | some existing =>
      match cast existing with
      | some desired => .ok (wrap (overwrite built desired))
      | none => .error (newObjectTypeError (wrap built) existing)

/-- The service-account patcher: it writes the built service account, whatever exists. -/
def serviceAccountPatcher (sa : Core.ServiceAccount) : ObjectPatcher where
  empty := .serviceAccount { typeMeta := sa.typeMeta, metadata := sa.metadata }
  patch _ := .ok (.serviceAccount sa)

/-- A patcher of every kind but service accounts: its empty object carries the built
object's type and metadata, and it patches with `patchExisting`. -/
def existingObjectPatcher {T : Type} (wrap : T → Object) (cast : Object → Option T)
    (emptyOf : T → T) (overwrite : T → T → T) (built : T) : ObjectPatcher where
  empty := wrap (emptyOf built)
  patch := patchExisting wrap cast built overwrite

def rolePatcher : Rbac.Role → ObjectPatcher :=
  existingObjectPatcher .role Object.asRole
    (fun role => { typeMeta := role.typeMeta, metadata := role.metadata })
    fun role desired =>
      { desired with metadata := { desired.metadata with labels := role.metadata.labels }
                     rules := role.rules }

def roleBindingPatcher : Rbac.RoleBinding → ObjectPatcher :=
  existingObjectPatcher .roleBinding Object.asRoleBinding
    (fun roleBinding => { typeMeta := roleBinding.typeMeta, metadata := roleBinding.metadata })
    fun roleBinding desired =>
      { desired with metadata := { desired.metadata with labels := roleBinding.metadata.labels }
                     subjects := roleBinding.subjects, roleRef := roleBinding.roleRef }

def secretPatcher : Core.Secret → ObjectPatcher :=
  existingObjectPatcher .secret Object.asSecret
    (fun secret => { typeMeta := secret.typeMeta, metadata := secret.metadata })
    fun secret desired =>
      { desired with metadata := { desired.metadata with labels := secret.metadata.labels }
                     stringData := secret.stringData }

def alertmanagerPatcher : Monitoring.Alertmanager → ObjectPatcher :=
  existingObjectPatcher .alertmanager Object.asAlertmanager
    (fun alertmanager => { typeMeta := alertmanager.typeMeta, metadata := alertmanager.metadata })
    fun alertmanager desired =>
      { desired with metadata := { desired.metadata with labels := alertmanager.metadata.labels }
                     spec := alertmanager.spec }

/-- The patcher of both services: the existing service keeps its cluster IP, which the store
allocates and never changes. -/
def servicePatcher : Core.Service → ObjectPatcher :=
  existingObjectPatcher .service Object.asService
    (fun service => { typeMeta := service.typeMeta, metadata := service.metadata })
    fun service desired =>
      { desired with spec := { service.spec with clusterIP := desired.spec.clusterIP }
                     metadata := { desired.metadata with labels := service.metadata.labels } }

def podDisruptionBudgetPatcher : Policy.PodDisruptionBudget → ObjectPatcher :=
  existingObjectPatcher .podDisruptionBudget Object.asPodDisruptionBudget
    (fun pdb => { typeMeta := pdb.typeMeta, metadata := pdb.metadata })
    fun pdb desired =>
      { desired with spec := pdb.spec
                     metadata := { desired.metadata with labels := pdb.metadata.labels } }

def prometheusPatcher : Monitoring.Prometheus → ObjectPatcher :=
  existingObjectPatcher .prometheus Object.asPrometheus
    (fun prometheus => { typeMeta := prometheus.typeMeta, metadata := prometheus.metadata })
    fun prometheus desired =>
      { desired with metadata := { desired.metadata with labels := prometheus.metadata.labels }
                     spec := prometheus.spec }

def grafanaDataSourcePatcher : Integreatly.GrafanaDataSource → ObjectPatcher :=
  existingObjectPatcher .grafanaDataSource Object.asGrafanaDataSource
    (fun dataSource => { typeMeta := dataSource.typeMeta, metadata := dataSource.metadata })
    fun dataSource desired =>
      { desired with metadata := { desired.metadata with labels := dataSource.metadata.labels }
                     spec := dataSource.spec }

/-- `stackComponentPatchers`, in its order. The Go function also returns an error, always
nil. -/
def stackComponentPatchers (ext : ExternalBuilders) (ms : MonitoringStack)
    (instanceSelectorKey instanceSelectorValue : String) : List ObjectPatcher :=
  let prometheusRBACResourceName := ms.metadata.name ++ "-prometheus"
  let alertmanagerRBACResourceName := ms.metadata.name ++ "-alertmanager"
  let rbacVerbs := ["get", "list", "watch"]
  let additionalScrapeConfigsSecretName :=
    ms.metadata.name ++ "-prometheus-additional-scrape-configs"
  [serviceAccountPatcher (newServiceAccount prometheusRBACResourceName ms.metadata.«namespace»),
    rolePatcher (newPrometheusRole ms prometheusRBACResourceName rbacVerbs),
    roleBindingPatcher (newRoleBinding ms prometheusRBACResourceName),
    secretPatcher (newAdditionalScrapeConfigsSecret ms additionalScrapeConfigsSecretName),
    serviceAccountPatcher (newServiceAccount alertmanagerRBACResourceName ms.metadata.«namespace»),
    alertmanagerPatcher
      (ext.newAlertmanager ms alertmanagerRBACResourceName instanceSelectorKey instanceSelectorValue),
    servicePatcher (ext.newAlertmanagerService ms instanceSelectorKey instanceSelectorValue),
    podDisruptionBudgetPatcher (ext.newAlertmanagerPDB ms instanceSelectorKey instanceSelectorValue),
    prometheusPatcher (newPrometheus ms prometheusRBACResourceName additionalScrapeConfigsSecretName
      instanceSelectorKey instanceSelectorValue),
    servicePatcher (newPrometheusService ms instanceSelectorKey instanceSelectorValue),
    grafanaDataSourcePatcher (newGrafanaDataSource ext ms)]

end MonitoringStackOperator.Stack
