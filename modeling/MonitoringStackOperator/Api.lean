import MonitoringStackOperator.Selector

/-! The operator's own resources: `MonitoringStack`, the spec object the
monitoring-stack controller expands into child objects, and `ThanosQuerier`,
which selects monitoring stacks by label.

The Go types are not part of the repository, only their generated copy routines,
which name the fields below. Fields no modelled function reads are kept as
`others`. -/

namespace MonitoringStackOperator.Api

/-- `MonitoringStackSpec`: the fields `newPrometheus` reads. The resource requirements are
copied into the Prometheus spec as they are. -/
structure MonitoringStackSpec where
  logLevel : String := ""
  retention : String := ""
  resources : Fields := []
  resourceSelector : Option LabelSelector := none
  others : Fields := []
deriving DecidableEq

structure MonitoringStack where
  typeMeta : TypeMeta := {}
  metadata : ObjectMeta := {}
  spec : MonitoringStackSpec := {}
  status : Fields := []
deriving DecidableEq

/-- `NamespaceSelector` of a querier: any namespace, or the listed ones. -/
structure NamespaceSelector where
  any : Bool := false
  matchNames : List String := []
deriving DecidableEq

structure ThanosQuerierSpec where
  selector : LabelSelector := {}
  namespaceSelector : NamespaceSelector := {}
  others : Fields := []
deriving DecidableEq

structure ThanosQuerier where
  typeMeta : TypeMeta := {}
  metadata : ObjectMeta := {}
  spec : ThanosQuerierSpec := {}
  status : Fields := []
deriving DecidableEq

end MonitoringStackOperator.Api
