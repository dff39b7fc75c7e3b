import MonitoringStackOperator.Api

/-! The child objects of a monitoring stack, one Go type per kind that
`stackComponentPatchers` builds: service accounts, a role and its binding, the
scrape-config secret, the Alertmanager and Prometheus instances, their services,
the Alertmanager disruption budget and the Grafana data source.

Each type keeps the fields the builders set; the other fields of the Go type are
`others`, so an object read from the store may hold anything there. Each structure is
the one of the same name in `corev1`, `rbacv1`, `policyv1`, `monv1` or the Grafana
operator's API. -/

namespace MonitoringStackOperator

namespace Core

/-- `corev1.ServiceAccount`. No builder sets a field beyond the metadata. -/
structure ServiceAccount where
  typeMeta : TypeMeta := {}
  metadata : ObjectMeta := {}
  others : Fields := []
deriving DecidableEq

structure Secret where
  typeMeta : TypeMeta := {}
  metadata : ObjectMeta := {}
  stringData : Option StringMap := none
  others : Fields := []
deriving DecidableEq

structure ServicePort where
  name : String := ""
  port : Int := 0
  targetPort : IntOrString := .int 0
  others : Fields := []
deriving DecidableEq

/-- `corev1.ServiceSpec`; the store allocates `clusterIP`. -/
structure ServiceSpec where
  selector : Option StringMap := none
  ports : List ServicePort := []
  clusterIP : String := ""
  others : Fields := []
deriving DecidableEq

structure Service where
  typeMeta : TypeMeta := {}
  metadata : ObjectMeta := {}
  spec : ServiceSpec := {}
  status : Fields := []
deriving DecidableEq

/-- `corev1.SecretKeySelector`, its `LocalObjectReference` flattened to `name`. -/
structure SecretKeySelector where
  name : String := ""
  key : String := ""
  optional : Option Bool := none
deriving DecidableEq

end Core

namespace Rbac

structure PolicyRule where
  verbs : List String := []
  apiGroups : List String := []
  resources : List String := []
  others : Fields := []
deriving DecidableEq

structure Role where
  typeMeta : TypeMeta := {}
  metadata : ObjectMeta := {}
  rules : List PolicyRule := []
deriving DecidableEq

structure Subject where
  kind : String := ""
  apiGroup : String := ""
  name : String := ""
  «namespace» : String := ""
deriving DecidableEq

structure RoleRef where
  apiGroup : String := ""
  kind : String := ""
  name : String := ""
deriving DecidableEq

structure RoleBinding where
  typeMeta : TypeMeta := {}
  metadata : ObjectMeta := {}
  subjects : List Subject := []
  roleRef : RoleRef := {}
deriving DecidableEq

end Rbac

namespace Policy

/-- `policyv1.PodDisruptionBudget`; its builder is not in the repository, so the spec is
opaque. -/
structure PodDisruptionBudget where
  typeMeta : TypeMeta := {}
  metadata : ObjectMeta := {}
  spec : Fields := []
  status : Fields := []
deriving DecidableEq

end Policy

namespace Monitoring

/-- `monv1.Alertmanager`; its builder is not in the repository, so the spec is opaque. -/
structure Alertmanager where
  typeMeta : TypeMeta := {}
  metadata : ObjectMeta := {}
  spec : Fields := []
  status : Fields := []
deriving DecidableEq

structure EmbeddedObjectMetadata where
  name : String := ""
  labels : Option StringMap := none
  annotations : Option StringMap := none
deriving DecidableEq

structure AlertmanagerEndpoints where
  «namespace» : String := ""
  name : String := ""
  port : IntOrString := .int 0
  scheme : String := ""
  apiVersion : String := ""
  others : Fields := []
deriving DecidableEq

structure AlertingSpec where
  alertmanagers : List AlertmanagerEndpoints := []
deriving DecidableEq

/-- `monv1.PrometheusSpec`: the fields `newPrometheus` sets. -/
structure PrometheusSpec where
  podMetadata : Option EmbeddedObjectMetadata := none
  logLevel : String := ""
  retention : String := ""
  resources : Fields := []
  serviceAccountName : String := ""
  serviceMonitorSelector : Option LabelSelector := none
  serviceMonitorNamespaceSelector : Option LabelSelector := none
  podMonitorSelector : Option LabelSelector := none
  podMonitorNamespaceSelector : Option LabelSelector := none
  ruleSelector : Option LabelSelector := none
  ruleNamespaceSelector : Option LabelSelector := none
  alerting : Option AlertingSpec := none
  additionalScrapeConfigs : Option Core.SecretKeySelector := none
  others : Fields := []
deriving DecidableEq

structure Prometheus where
  typeMeta : TypeMeta := {}
  metadata : ObjectMeta := {}
  spec : PrometheusSpec := {}
  status : Fields := []
deriving DecidableEq

end Monitoring

namespace Integreatly

structure GrafanaDataSourceFields where
  name : String := ""
  type : String := ""
  access : String := ""
  url : String := ""
  version : Int := 0
  others : Fields := []
deriving DecidableEq

structure GrafanaDataSourceSpec where
  name : String := ""
  datasources : List GrafanaDataSourceFields := []
  others : Fields := []
deriving DecidableEq

structure GrafanaDataSource where
  typeMeta : TypeMeta := {}
  metadata : ObjectMeta := {}
  spec : GrafanaDataSourceSpec := {}
  status : Fields := []
deriving DecidableEq

end Integreatly

namespace Stack

/-- A `client.Object` of one of the kinds the monitoring-stack patchers handle. -/
inductive Object where
  | serviceAccount (object : Core.ServiceAccount)
  | role (object : Rbac.Role)
  | roleBinding (object : Rbac.RoleBinding)
  | secret (object : Core.Secret)
  | alertmanager (object : Monitoring.Alertmanager)
  | service (object : Core.Service)
  | podDisruptionBudget (object : Policy.PodDisruptionBudget)
  | prometheus (object : Monitoring.Prometheus)
  | grafanaDataSource (object : Integreatly.GrafanaDataSource)
deriving DecidableEq

def Object.typeMeta : Object → TypeMeta
  | .serviceAccount object => object.typeMeta
  | .role object => object.typeMeta
  | .roleBinding object => object.typeMeta
  | .secret object => object.typeMeta
  | .alertmanager object => object.typeMeta
  | .service object => object.typeMeta
  | .podDisruptionBudget object => object.typeMeta
  | .prometheus object => object.typeMeta
  | .grafanaDataSource object => object.typeMeta

def Object.metadata : Object → ObjectMeta
  | .serviceAccount object => object.metadata
  | .role object => object.metadata
  | .roleBinding object => object.metadata
  | .secret object => object.metadata
  | .alertmanager object => object.metadata
  | .service object => object.metadata
  | .podDisruptionBudget object => object.metadata
  | .prometheus object => object.metadata
  | .grafanaDataSource object => object.metadata

/-- The kind the scheme gives an object, from its Go type. -/
def Object.kind : Object → String
  | .serviceAccount _ => "ServiceAccount"
  | .role _ => "Role"
  | .roleBinding _ => "RoleBinding"
  | .secret _ => "Secret"
  | .alertmanager _ => "Alertmanager"
  | .service _ => "Service"
  | .podDisruptionBudget _ => "PodDisruptionBudget"
  | .prometheus _ => "Prometheus"
  | .grafanaDataSource _ => "GrafanaDataSource"

/-- The identity of an object in the store: its kind, namespace and name. -/
def Object.identity (object : Object) : String × String × String :=
  (object.kind, object.metadata.«namespace», object.metadata.name)

/-! The type assertions `existing.(*T)` of the patch functions. -/

def Object.asRole : Object → Option Rbac.Role
  | .role object => some object
  | _ => none

def Object.asRoleBinding : Object → Option Rbac.RoleBinding
  | .roleBinding object => some object
  | _ => none

def Object.asSecret : Object → Option Core.Secret
  | .secret object => some object
  | _ => none

def Object.asAlertmanager : Object → Option Monitoring.Alertmanager
  | .alertmanager object => some object
  | _ => none

def Object.asService : Object → Option Core.Service
  | .service object => some object
  | _ => none

def Object.asPodDisruptionBudget : Object → Option Policy.PodDisruptionBudget
  | .podDisruptionBudget object => some object
  | _ => none

def Object.asPrometheus : Object → Option Monitoring.Prometheus
  | .prometheus object => some object
  | _ => none

def Object.asGrafanaDataSource : Object → Option Integreatly.GrafanaDataSource
  | .grafanaDataSource object => some object
  | _ => none

end Stack

end MonitoringStackOperator
