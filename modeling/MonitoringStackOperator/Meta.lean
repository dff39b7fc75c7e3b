import Mathlib.Data.Finmap

/-! Object metadata, maps, errors and results shared by the three controllers.

A Go `map[string]string` is a finite map. A nil map and an empty one are told
apart only in metadata, where the code compares a map with nil. Struct fields
that no modelled function reads or writes are kept together as `Fields`, so an
object read from the store still carries arbitrary values in them. Types and helpers
carry the names of the Go ones they stand for, from `metav1`, `types`, `apierrors`,
`client` and `ctrl`. -/

namespace MonitoringStackOperator

abbrev StringMap := Finmap (fun _ : String => String)

/-- A Go map literal. Entries are inserted in order, so a repeated key keeps its last value. -/
def mapOf (entries : List (String × String)) : StringMap :=
  entries.foldl (fun map entry => map.insert entry.1 entry.2) ∅

/-- Struct fields the model does not name, as field paths with values. Builders leave them at
the zero value `[]`. -/
abbrev Fields := List (String × String)

/-- `time.Duration`, in nanoseconds. -/
abbrev Duration := Nat

def second : Duration := 1000000000

inductive IntOrString where
  | int (value : Int)
  | string (value : String)
deriving DecidableEq

structure TypeMeta where
  apiVersion : String := ""
  kind : String := ""
deriving DecidableEq

structure OwnerReference where
  apiVersion : String := ""
  kind : String := ""
  name : String := ""
  uid : String := ""
  controller : Option Bool := none
  blockOwnerDeletion : Option Bool := none
deriving DecidableEq

/-- `types.NamespacedName`, also the identity of a `reconcile.Request`. -/
structure NamespacedName where
  «namespace» : String := ""
  name : String := ""
deriving DecidableEq

/-- `metav1.Time` as an instant; `0` is Go's zero time. -/
abbrev Time := Nat

/-- `metav1.ObjectMeta`. The store assigns `resourceVersion`, `uid` and `generation`. -/
structure ObjectMeta where
  name : String := ""
  «namespace» : String := ""
  labels : Option StringMap := none
  annotations : Option StringMap := none
  resourceVersion : String := ""
  uid : String := ""
  generation : Int := 0
  ownerReferences : List OwnerReference := []
  finalizers : List String := []
  deletionTimestamp : Option Time := none
  others : Fields := []
deriving DecidableEq

/-- `(*metav1.Time).IsZero`: a nil pointer or the zero time. -/
def isZeroTime : Option Time → Bool
  | none => true
  | some time => time == 0

/-- `labels.Set(o.GetLabels())`: a nil label map is the empty set. -/
def ObjectMeta.labelSet (meta : ObjectMeta) : StringMap :=
  meta.labels.getD ∅


def ObjectMeta.key (meta : ObjectMeta) : NamespacedName :=
  { «namespace» := meta.«namespace», name := meta.name }

/-- `metav1.StatusReason` of an API error, as far as the code tests it. -/
inductive StatusReason where
  | notFound
  | alreadyExists
  | conflict
  | other (reason : String)
deriving DecidableEq

/-- A non-nil Go `error`: an API status error, classified by its reason, or any other error. -/
inductive Error where
  | status (reason : StatusReason) (message : String)
  | other (message : String)
deriving DecidableEq

/-- `apierrors.IsNotFound`; a nil error is not one. -/
def isNotFound : Option Error → Bool
  | some (.status .notFound _) => true
  | _ => false

def isAlreadyExists : Option Error → Bool
  | some (.status .alreadyExists _) => true
  | _ => false

def isConflict : Option Error → Bool
  | some (.status .conflict _) => true
  | _ => false

def ignoreNotFound (err : Option Error) : Option Error :=
  if isNotFound err then none else err

@[simp] theorem isNotFound_none : isNotFound none = false := rfl
@[simp] theorem isAlreadyExists_none : isAlreadyExists none = false := rfl
@[simp] theorem isConflict_none : isConflict none = false := rfl

structure Result where
  requeue : Bool := false
  requeueAfter : Duration := 0
deriving DecidableEq

end MonitoringStackOperator
