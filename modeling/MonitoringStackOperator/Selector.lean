import MonitoringStackOperator.Meta
import Mathlib.Data.List.Basic

/-! Label selectors as `k8s.io/apimachinery` builds and evaluates them.

`labelSelectorAsSelector` turns a `metav1.LabelSelector` into the requirements
that `labels.NewRequirement` accepts, and fails when any of them is rejected.
Every caller in this repository discards the error value, so the model keeps
only whether the conversion failed. The validation of keys and values follows
`k8s.io/apimachinery/pkg/util/validation`, regular expressions included, and each
type and check keeps the name of the Go one it stands for. -/

namespace MonitoringStackOperator

/-! ### Names -/

def isNameEdgeChar (c : Char) : Bool := c.isAlphanum

def isNameChar (c : Char) : Bool := c.isAlphanum || c == '-' || c == '_' || c == '.'

/-- `qualifiedNameFmt` anchored: `([A-Za-z0-9][-A-Za-z0-9_.]*)?[A-Za-z0-9]`. -/
def matchesQualifiedName : List Char → Bool
  | [] => false
  | first :: rest => isNameEdgeChar first && rest.getLast?.all isNameEdgeChar && rest.all isNameChar

def isDNS1123EdgeChar (c : Char) : Bool := c.isLower || c.isDigit

/-- `dns1123LabelFmt` anchored: `[a-z0-9]([-a-z0-9]*[a-z0-9])?`. -/
def matchesDNS1123Label : List Char → Bool
  | [] => false
  | first :: rest =>
      isDNS1123EdgeChar first && rest.getLast?.all isDNS1123EdgeChar &&
        rest.all (fun c => isDNS1123EdgeChar c || c == '-')

def isDNS1123Label (value : String) : Bool :=
  value.utf8ByteSize ≤ 63 && matchesDNS1123Label value.toList

/-- Every character of a DNS-1123 label is a lowercase letter, a digit or `-`. -/
theorem isDNS1123Label_chars {value : String} (label : isDNS1123Label value = true) :
    ∀ c ∈ value.data, isDNS1123EdgeChar c = true ∨ c = '-' := by
  simp only [isDNS1123Label, Bool.and_eq_true, decide_eq_true_eq] at label
  obtain ⟨-, matching⟩ := label
  intro c member
  unfold matchesDNS1123Label at matching
  split at matching
  · cases matching
  · rename_i first rest data
    rw [show value.data = first :: rest from data] at member
    simp only [Bool.and_eq_true, List.all_eq_true, Bool.or_eq_true, beq_iff_eq] at matching
    rcases List.mem_cons.mp member with rfl | later
    · exact .inl matching.1.1
    · exact matching.2 c later

/-- `validation.IsDNS1123Subdomain`: at most 253 bytes of dot-separated DNS-1123 labels. -/
def isDNS1123Subdomain (value : String) : Bool :=
  value.utf8ByteSize ≤ 253 && (value.toList.splitOn '.').all matchesDNS1123Label

/-- The name part of a qualified name: non-empty, at most 63 bytes, `qualifiedNameFmt`. -/
def isQualifiedNamePart (name : List Char) : Bool :=
  name ≠ [] && (String.mk name).utf8ByteSize ≤ 63 && matchesQualifiedName name

/-- `validation.IsQualifiedName`: a name with an optional DNS subdomain and `/` before it. -/
def isQualifiedName (value : String) : Bool :=
  match value.toList.splitOn '/' with
  | [name] => isQualifiedNamePart name
  | [domain, name] =>
      domain ≠ [] && isDNS1123Subdomain (String.mk domain) && isQualifiedNamePart name
  | _ => false

/-- `validation.IsValidLabelValue`: at most 63 bytes, empty or `qualifiedNameFmt`. -/
def isValidLabelValue (value : String) : Bool :=
  value.utf8ByteSize ≤ 63 && (value.isEmpty || matchesQualifiedName value.toList)

/-! ### Selectors -/

/-- `metav1.LabelSelectorRequirement`. The operator is a free string. -/
structure LabelSelectorRequirement where
  key : String
  operator : String
  values : List String := []
deriving DecidableEq

structure LabelSelector where
  matchLabels : StringMap := ∅
  matchExpressions : List LabelSelectorRequirement := []
deriving DecidableEq

inductive Operator where
  | equals
  | «in»
  | notIn
  | «exists»
  | doesNotExist
deriving DecidableEq

/-- The `LabelSelectorOperator` conversion of `LabelSelectorAsSelector`. -/
def operatorOf : String → Option Operator
  | "In" => some .in
  | "NotIn" => some .notIn
  | "Exists" => some .exists
  | "DoesNotExist" => some .doesNotExist
  | _ => none

structure Requirement where
  key : String
  operator : Operator
  strValues : List String
deriving DecidableEq

/-- The checks of `labels.NewRequirement`: a qualified key, as many values as the operator
takes, and every value a label value. -/
def Requirement.valid (requirement : Requirement) : Bool :=
  isQualifiedName requirement.key &&
    (match requirement.operator with
      | .in | .notIn => !requirement.strValues.isEmpty
      | .equals => requirement.strValues.length == 1
      | .exists | .doesNotExist => requirement.strValues.isEmpty) &&
    requirement.strValues.all isValidLabelValue

def Requirement.matches (requirement : Requirement) (labels : StringMap) : Bool :=
  match requirement.operator, labels.lookup requirement.key with
  | .in, some value | .equals, some value => requirement.strValues.contains value
  | .in, none | .equals, none => false
  | .notIn, some value => !requirement.strValues.contains value
  | .notIn, none => true
  | .exists, found => found.isSome
  | .doesNotExist, found => found.isNone

/-- A `labels.Selector` built from a label selector: the requirements it conjoins. -/
abbrev Selector := Multiset Requirement

def Selector.Matches (selector : Selector) (labels : StringMap) : Prop :=
  ∀ requirement ∈ selector, requirement.matches labels = true

instance (selector : Selector) (labels : StringMap) : Decidable (selector.Matches labels) :=
  inferInstanceAs (Decidable (∀ requirement ∈ selector, requirement.matches labels = true))

/-- The requirement of one `matchExpressions` entry, if its operator is known. -/
def LabelSelectorRequirement.toRequirement (expression : LabelSelectorRequirement) :
    Option Requirement :=
  (operatorOf expression.operator).map fun operator =>
    { key := expression.key, operator := operator, strValues := expression.values }

/-- `metav1.LabelSelectorAsSelector` on a non-nil selector: one `Equals` requirement per
`matchLabels` entry and one requirement per expression; `none` if any is rejected. -/
def labelSelectorAsSelector (selector : LabelSelector) : Option Selector := do
  let expressions ← selector.matchExpressions.mapM LabelSelectorRequirement.toRequirement
  let requirements : Selector :=
    selector.matchLabels.entries.map (fun entry => ⟨entry.1, .equals, [entry.2]⟩) +
      (expressions : Multiset Requirement)
  if ∀ requirement ∈ requirements, requirement.valid = true then some requirements else none

/-! ### Selectors of labels alone -/

/-- An entry of a map is a key with the value `lookup` finds for it. -/
theorem StringMap.mem_entries {map : StringMap} {key value : String} :
    ⟨key, value⟩ ∈ map.entries ↔ map.lookup key = some value := by
  induction map using Finmap.induction_on with
  | H list => exact AList.mem_lookup_iff.symm

/-- The requirements built from `matchLabels` all have a property exactly when each label
of the map gives it one. -/
theorem forall_matchLabels_requirement {map : StringMap} {P : Requirement → Prop} :
    (∀ requirement ∈ map.entries.map (fun entry => (⟨entry.1, .equals, [entry.2]⟩ : Requirement)),
        P requirement) ↔
      ∀ key value, map.lookup key = some value → P ⟨key, .equals, [value]⟩ := by
  rw [Multiset.forall_mem_map_iff]
  exact ⟨fun all key value found => all ⟨key, value⟩ (StringMap.mem_entries.mpr found),
    fun all entry member => all entry.1 entry.2 (StringMap.mem_entries.mp member)⟩

@[simp] theorem Requirement.valid_equals (key value : String) :
    (⟨key, .equals, [value]⟩ : Requirement).valid = (isQualifiedName key && isValidLabelValue value) := by
  simp [Requirement.valid]

@[simp] theorem Requirement.matches_equals (key value : String) (labels : StringMap) :
    (⟨key, .equals, [value]⟩ : Requirement).matches labels = true ↔ labels.lookup key = some value := by
  cases found : labels.lookup key <;> simp [Requirement.matches, found, eq_comm]

/-- A selector of `matchLabels` alone converts exactly when every key is a qualified name and
every value a label value, and it then matches the label maps that hold each of its labels. -/
theorem labelSelectorAsSelector_labels_only {selector : LabelSelector}
    (labelsOnly : selector.matchExpressions = []) :
    ((labelSelectorAsSelector selector).isSome ↔ ∀ key value,
        selector.matchLabels.lookup key = some value →
          isQualifiedName key = true ∧ isValidLabelValue value = true) ∧
      ∀ sel, labelSelectorAsSelector selector = some sel → ∀ labels, sel.Matches labels ↔
        ∀ key value, selector.matchLabels.lookup key = some value → labels.lookup key = some value := by
  unfold labelSelectorAsSelector
  simp only [labelsOnly, List.mapM_nil, pure_bind, Multiset.coe_nil, add_zero]
  split <;> rename_i valid <;>
    simp only [forall_matchLabels_requirement, Requirement.valid_equals, Bool.and_eq_true] at valid
  · refine ⟨by simpa using valid, ?_⟩
    rintro sel ⟨⟩ labels
    simp only [Selector.Matches, forall_matchLabels_requirement, Requirement.matches_equals]
  · simpa using valid

end MonitoringStackOperator
