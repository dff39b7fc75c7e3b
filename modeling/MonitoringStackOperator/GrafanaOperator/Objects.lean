import MonitoringStackOperator.Selector

/-! The objects the grafana-operator bootstrap controller reads and writes: the
operator namespace, the OLM `OperatorGroup` and `Subscription`, the Grafana
custom resource definition and the `Grafana` instance.

Each spec keeps the fields `NewOperatorGroup`, `NewSubscription` and
`newGrafana` set, and the remaining fields as `others`, so that a spec found in
the store may differ from the desired one anywhere. Each structure and constant is the
one of the same name in `corev1`, `operatorsv1`, `v1alpha1`, `apiextv1`, `appsv1` or the
Grafana operator's API. -/

namespace MonitoringStackOperator

namespace Core

structure NamespaceStatus where
  phase : String := ""
  others : Fields := []
deriving DecidableEq

structure Namespace where
  typeMeta : TypeMeta := {}
  metadata : ObjectMeta := {}
  spec : Fields := []
  status : NamespaceStatus := {}
deriving DecidableEq

def namespaceActive : String := "Active"

end Core

namespace Operators

structure OperatorGroupSpec where
  targetNamespaces : List String := []
  others : Fields := []
deriving DecidableEq

structure OperatorGroup where
  typeMeta : TypeMeta := {}
  metadata : ObjectMeta := {}
  spec : OperatorGroupSpec := {}
  status : Fields := []
deriving DecidableEq

structure SubscriptionSpec where
  catalogSource : String := ""
  catalogSourceNamespace : String := ""
  package : String := ""
  channel : String := ""
  installPlanApproval : String := ""
  startingCSV : String := ""
  others : Fields := []
deriving DecidableEq

/-- `v1alpha1.Subscription`; its spec is a pointer. -/
structure Subscription where
  typeMeta : TypeMeta := {}
  metadata : ObjectMeta := {}
  spec : Option SubscriptionSpec := none
  status : Fields := []
deriving DecidableEq

def approvalAutomatic : String := "Automatic"

end Operators

namespace Apiextensions

structure CustomResourceDefinitionCondition where
  type : String
  status : String
  others : Fields := []
deriving DecidableEq

structure CustomResourceDefinitionStatus where
  conditions : List CustomResourceDefinitionCondition := []
  others : Fields := []
deriving DecidableEq

structure CustomResourceDefinition where
  typeMeta : TypeMeta := {}
  metadata : ObjectMeta := {}
  spec : Fields := []
  status : CustomResourceDefinitionStatus := {}
deriving DecidableEq

def established : String := "Established"

def conditionTrue : String := "True"

end Apiextensions

namespace Integreatly

structure GrafanaIngress where
  enabled : Bool := false
  pathType : String := ""
  path : String := ""
  others : Fields := []
deriving DecidableEq

structure RollingUpdateDeployment where
  maxUnavailable : Option IntOrString := none
  maxSurge : Option IntOrString := none
deriving DecidableEq

structure DeploymentStrategy where
  type : String := ""
  rollingUpdate : Option RollingUpdateDeployment := none
deriving DecidableEq

structure GrafanaDeployment where
  replicas : Option Int := none
  strategy : Option DeploymentStrategy := none
  others : Fields := []
deriving DecidableEq

structure GrafanaConfigLog where
  mode : String := ""
  level : String := ""
  others : Fields := []
deriving DecidableEq

structure GrafanaConfigAuth where
  disableLoginForm : Option Bool := none
  disableSignoutMenu : Option Bool := none
  others : Fields := []
deriving DecidableEq

structure GrafanaConfigAuthAnonymous where
  enabled : Option Bool := none
  others : Fields := []
deriving DecidableEq

structure GrafanaConfigUsers where
  viewersCanEdit : Option Bool := none
  others : Fields := []
deriving DecidableEq

structure GrafanaConfig where
  log : Option GrafanaConfigLog := none
  auth : Option GrafanaConfigAuth := none
  authAnonymous : Option GrafanaConfigAuthAnonymous := none
  users : Option GrafanaConfigUsers := none
  others : Fields := []
deriving DecidableEq

structure GrafanaSpec where
  ingress : Option GrafanaIngress := none
  deployment : Option GrafanaDeployment := none
  dashboardLabelSelector : List LabelSelector := []
  config : GrafanaConfig := {}
  others : Fields := []
deriving DecidableEq

structure Grafana where
  typeMeta : TypeMeta := {}
  metadata : ObjectMeta := {}
  spec : GrafanaSpec := {}
  status : Fields := []
deriving DecidableEq

end Integreatly

end MonitoringStackOperator
