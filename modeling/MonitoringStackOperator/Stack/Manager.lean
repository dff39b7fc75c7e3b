import Mathlib.Data.String.Basic
import MonitoringStackOperator.Querier.Events
import MonitoringStackOperator.Stack.Patchers

/-! `RegisterWithManager` of the monitoring-stack controller: the `InstanceSelector` option,
split at `=` into the label the stack's Prometheus objects carry, and the watches the
controller is built with.

`strings.Split` at a one-character separator splits at each occurrence, as `String.splitOn`
does; `splitOn_singleton` relates the latter to `List.splitOnP` on the characters, where the
option is reasoned about. The builder is the one of `Querier.Events`; the error of `Build`
is controller-runtime's and not modelled. -/

namespace MonitoringStackOperator.Stack

open Api

/-! ### Splitting at one character -/

section Split

open String

/-- `splitOnAux` at a one-character separator, from a valid position: the parts still to be
found are those `List.splitOnP.go` finds on the characters. -/
theorem splitOnAux_singleton_of_valid (c : Char) (l m r : List Char) (acc : List String) :
    splitOnAux ⟨l ++ m ++ r⟩ ⟨[c]⟩ ⟨utf8Len l⟩ ⟨utf8Len l + utf8Len m⟩ 0 acc =
      acc.reverse ++ (List.splitOnP.go (· == c) r m.reverse).map String.mk := by
  have get0 : (⟨[c]⟩ : String).get 0 = c := rfl
  have next0 : (⟨[c]⟩ : String).next 0 = ⟨c.utf8Size⟩ := congrArg Pos.mk (Nat.zero_add _)
  have atEnd : (⟨l ++ (m ++ r)⟩ : String).atEnd ⟨utf8Len l + utf8Len m⟩ ↔ r = [] := by
    rw [← List.append_assoc, ← utf8Len_append]
    exact atEnd_of_valid (l ++ m) r
  unfold splitOnAux
  simp only [atEnd, List.append_assoc, dite_eq_ite]
  split
  · subst r
    simpa [List.splitOnP.go] using extract_of_valid l m []
  · obtain ⟨d, r, rfl⟩ := r.exists_cons_of_ne_nil ‹_›
    have extracted := extract_of_valid l m (d :: r)
    rw [List.append_assoc] at extracted
    have getAt := get_of_valid (l ++ m) (d :: r)
    have nextAt := next_of_valid (l ++ m) d r
    simp only [List.append_assoc, utf8Len_append, List.headD_cons] at getAt nextAt
    by_cases same : d = c
    · subst same
      have back : (⟨utf8Len l + utf8Len m + d.utf8Size⟩ - ⟨d.utf8Size⟩ : Pos) =
          ⟨utf8Len l + utf8Len m⟩ := congrArg Pos.mk (Nat.add_sub_cancel _ _)
      simp only [getAt, get0, next0, nextAt, back, extracted, beq_self_eq_true, if_true,
        utf8Len_cons, utf8Len_nil, Nat.zero_add, le_refl, List.splitOnP.go]
      simpa [Nat.add_assoc] using splitOnAux_singleton_of_valid d (l ++ m ++ [d]) [] r (⟨m⟩ :: acc)
    · have unmatched : (d == c) = false := beq_false_of_ne same
      have sub0 : (⟨utf8Len l + utf8Len m⟩ - 0 : Pos) = ⟨utf8Len l + utf8Len m⟩ := rfl
      simp only [getAt, get0, unmatched, Bool.false_eq_true, if_false, sub0, nextAt,
        List.splitOnP.go]
      simpa [Nat.add_assoc] using splitOnAux_singleton_of_valid c l (m ++ [d]) r acc

/-- `String.splitOn` at one character splits the characters at each occurrence. -/
theorem splitOn_singleton (s : String) (c : Char) :
    s.splitOn ⟨[c]⟩ = (List.splitOnP (· == c) s.data).map String.mk := by
  simpa [splitOn, List.splitOnP] using splitOnAux_singleton_of_valid c [] [] s.data []

end Split

/-- No part of a split holds a separator. -/
theorem splitOnP_parts {α : Type} {p : α → Bool} (xs : List α) :
    ∀ part ∈ xs.splitOnP p, ∀ x ∈ part, p x = false := by
  induction xs with
  | nil => simp
  | cons y rest ih =>
      rw [List.splitOnP_cons]
      split
      · simpa using ih
      · next separated =>
          intro part member x inPart
          obtain ⟨first, later, parts⟩ := List.exists_cons_of_ne_nil (List.splitOnP_ne_nil p rest)
          rw [parts, List.modifyHead_cons, List.mem_cons] at member
          rcases member with rfl | inLater
          · rcases List.mem_cons.mp inPart with rfl | inFirst
            · simpa using separated
            · exact ih first (parts ▸ .head _) x inFirst
          · exact ih part (parts ▸ .tail _ inLater) x inPart

/-! ### The instance selector -/

/-- The split of the option at `=`. -/
theorem splitOn_equals (instanceSelector : String) :
    instanceSelector.splitOn "=" = (instanceSelector.data.splitOnP (· == '=')).map String.mk :=
  splitOn_singleton instanceSelector '='

/-- The option parses into a key and a value exactly when it is the two joined by the one
`=` it holds. -/
theorem parseInstanceSelector_eq_ok_iff {instanceSelector key value : String} :
    parseInstanceSelector instanceSelector = .ok (key, value) ↔
      instanceSelector.data = key.data ++ '=' :: value.data ∧ '=' ∉ key.data ∧
        '=' ∉ value.data := by
  rw [parseInstanceSelector, splitOn_equals]
  constructor
  · intro parsed
    obtain ⟨parts, split⟩ : ∃ parts, instanceSelector.data.splitOnP (· == '=') = parts := ⟨_, rfl⟩
    rw [split] at parsed
    match parts, parsed with
    | [key, value], rfl =>
        have clean : ∀ part ∈ [key, value], ∀ x ∈ part, (x == '=') = false :=
          split ▸ splitOnP_parts instanceSelector.data
        refine ⟨?_, fun inKey => ?_, fun inValue => ?_⟩
        · have joined := List.intercalate_splitOn instanceSelector.data '='
          rw [List.splitOn, split] at joined
          simpa [List.intercalate] using joined.symm
        · simpa using clean key (.head _) '=' inKey
        · simpa using clean value (.tail _ (.head _)) '=' inValue
  · rintro ⟨joined, keyClean, valueClean⟩
    have split : instanceSelector.data.splitOnP (· == '=') = [key.data, value.data] := by
      rw [joined, List.splitOnP_first (· == '=') key.data (fun x member same => keyClean
        ((beq_iff_eq.mp same) ▸ member)) '=' (beq_self_eq_true _),
        List.splitOnP_eq_single (· == '=') value.data (fun x member same => valueClean
        ((beq_iff_eq.mp same) ▸ member))]
    simp [split]

/-- The option is rejected, with its text in the error, or parses into some key and value. -/
theorem parseInstanceSelector_ok_or_error (instanceSelector : String) :
    parseInstanceSelector instanceSelector =
        .error (.other ("invalid InstanceSelector: " ++ instanceSelector)) ∨
      ∃ key value, parseInstanceSelector instanceSelector = .ok (key, value) := by
  rw [parseInstanceSelector]
  split
  · exact .inr ⟨_, _, rfl⟩
  · exact .inl rfl

/-- A list with one `=` is the two sides of it. -/
theorem exists_split_of_count_eq_one {chars : List Char} (once : chars.count '=' = 1) :
    ∃ key value, chars = key ++ '=' :: value ∧ '=' ∉ key ∧ '=' ∉ value := by
  have present : '=' ∈ chars := List.count_pos_iff.mp (by omega)
  obtain ⟨key, value, rfl⟩ := List.append_of_mem present
  rw [List.count_append, List.count_cons_self] at once
  exact ⟨key, value, rfl, List.count_eq_zero.mp (by omega), List.count_eq_zero.mp (by omega)⟩

theorem joined_iff_data {instanceSelector key value : String} :
    instanceSelector = key ++ "=" ++ value ↔
      instanceSelector.data = key.data ++ '=' :: value.data := by
  simp [String.ext_iff]

/-- `RegisterWithManager` accepts exactly the instance selectors with one `=`: a key and a
value without `=` read back from their join, and every other option is rejected with the
error `invalid InstanceSelector:` followed by the option. -/
theorem parseInstanceSelector_accepts_one_separator (instanceSelector : String) :
    (∀ key value, parseInstanceSelector instanceSelector = .ok (key, value) ↔
      instanceSelector = key ++ "=" ++ value ∧ '=' ∉ key.data ∧ '=' ∉ value.data) ∧
      (parseInstanceSelector instanceSelector =
          .error (.other ("invalid InstanceSelector: " ++ instanceSelector)) ↔
        instanceSelector.data.count '=' ≠ 1) := by
  refine ⟨fun key value => by rw [parseInstanceSelector_eq_ok_iff, joined_iff_data], ⟨?_, ?_⟩⟩
  · intro rejected once
    obtain ⟨key, value, joined, keyClean, valueClean⟩ := exists_split_of_count_eq_one once
    have parsed : parseInstanceSelector instanceSelector = .ok (String.mk key, String.mk value) :=
      parseInstanceSelector_eq_ok_iff.mpr ⟨joined, keyClean, valueClean⟩
    rw [rejected] at parsed
    cases parsed
  · intro notOnce
    refine (parseInstanceSelector_ok_or_error instanceSelector).resolve_right ?_
    rintro ⟨key, value, parsed⟩
    obtain ⟨joined, keyClean, valueClean⟩ := parseInstanceSelector_eq_ok_iff.mp parsed
    apply notOnce
    rw [joined, List.count_append, List.count_cons_self, List.count_eq_zero_of_not_mem keyClean,
      List.count_eq_zero_of_not_mem valueClean]

/-! ### Registration -/

/-- `Options`. -/
structure Options where
  instanceSelector : String

/-- The fields of `reconciler` that `RegisterWithManager` sets from the options; the client,
the scheme, the logger and the built controller are the manager's. -/
structure Reconciler where
  instanceSelectorKey : String
  instanceSelectorValue : String
  grafanaDSWatchCreated : Bool

/-- The builder chain of `RegisterWithManager`: the stack, and eight owned kinds each followed
by the global `GenerationChangedPredicate`. -/
def controllerBuilder : Querier.Builder :=
  let p := Querier.generationChangedPredicate
  ({} : Querier.Builder)
    |>.«for» "MonitoringStack"
    |>.owns "Prometheus" |>.withEventFilter p
    |>.owns "Alertmanager" |>.withEventFilter p
    |>.owns "Service" |>.withEventFilter p
    |>.owns "ServiceAccount" |>.withEventFilter p
    |>.owns "Role" |>.withEventFilter p
    |>.owns "RoleBinding" |>.withEventFilter p
    |>.owns "ServiceMonitor" |>.withEventFilter p
    |>.owns "PodDisruptionBudget" |>.withEventFilter p

/-- `RegisterWithManager`: the reconciler and the builder it is built with, or the error of the
option. -/
def registerWithManager (opts : Options) : Except Error (Reconciler × Querier.Builder) := do
  let (key, value) ← parseInstanceSelector opts.instanceSelector
  return ({ instanceSelectorKey := key, instanceSelectorValue := value,
            grafanaDSWatchCreated := false }, controllerBuilder)

theorem registerWithManager_eq_ok_iff {opts : Options} {r : Reconciler} {b : Querier.Builder} :
    registerWithManager opts = .ok (r, b) ↔
      parseInstanceSelector opts.instanceSelector = .ok (r.instanceSelectorKey, r.instanceSelectorValue) ∧
        r.grafanaDSWatchCreated = false ∧ b = controllerBuilder := by
  rw [registerWithManager]
  rcases parseInstanceSelector opts.instanceSelector with err | ⟨key, value⟩
  · simp [bind, Except.bind]
  · obtain ⟨key', value', watch⟩ := r
    simp only [bind, Except.bind, pure, Except.pure, Except.ok.injEq, Prod.mk.injEq, Reconciler.mk.injEq]
    tauto

/-- The label of the instance selector, unless its key is one of the two fixed keys. -/
theorem lookup_objectLabels_key (name msName : String) {key value : String}
    (unreserved : key ∉ ["app.kubernetes.io/name", "app.kubernetes.io/part-of"]) :
    (objectLabels name msName key value).lookup key = some value := by
  simp only [List.mem_cons, List.mem_singleton, not_or, List.not_mem_nil, or_false] at unreserved
  simp [objectLabels, mapOf, Finmap.lookup_insert_of_ne _ unreserved.1,
    Finmap.lookup_insert_of_ne _ unreserved.2]

/-- When `RegisterWithManager` accepts the option, the reconciler holds its two sides and has
no data-source watch yet, and whatever the store holds, the Prometheus and the Prometheus
service written for any stack carry the label the option names. -/
theorem registerWithManager_labels_prometheus {opts : Options} {r : Reconciler}
    {b : Querier.Builder} (registered : registerWithManager opts = .ok (r, b))
    (unreserved : r.instanceSelectorKey ∉ ["app.kubernetes.io/name", "app.kubernetes.io/part-of"])
    (ext : ExternalBuilders) (ms : MonitoringStack) :
    opts.instanceSelector = r.instanceSelectorKey ++ "=" ++ r.instanceSelectorValue ∧
      r.grafanaDSWatchCreated = false ∧
      ∀ i ∈ [8, 9], ∀ p ∈ (stackComponentPatchers ext ms r.instanceSelectorKey
          r.instanceSelectorValue)[i]?, ∀ existing written, p.patch existing = .ok written →
        written.metadata.labelSet.lookup r.instanceSelectorKey = some r.instanceSelectorValue := by
  obtain ⟨parsed, notCreated, -⟩ := registerWithManager_eq_ok_iff.mp registered
  refine ⟨joined_iff_data.mpr (parseInstanceSelector_eq_ok_iff.mp parsed).1, notCreated, ?_⟩
  intro i index p found existing written patched
  simp only [List.mem_cons, List.mem_singleton, List.not_mem_nil, or_false] at index
  rcases index with rfl | rfl <;>
    simp only [stackComponentPatchers, List.getElem?_cons_succ, List.getElem?_cons_zero,
      Option.mem_def, Option.some.injEq] at found <;>
    subst found <;>
    dsimp only [prometheusPatcher, servicePatcher, existingObjectPatcher] at patched <;>
    rcases patchExisting_ok patched with ⟨-, rfl⟩ | ⟨-, desired, -, -, rfl⟩ <;>
    simp [Object.metadata, ObjectMeta.labelSet, newPrometheus, newPrometheusService,
      lookup_objectLabels_key _ _ unreserved]

/-- The option `app=stack`. -/
theorem registerWithManager_labels_prometheus_of_app :
    let opts : Options := ⟨"app=stack"⟩
    let r : Reconciler := ⟨"app", "stack", false⟩
    registerWithManager opts = .ok (r, controllerBuilder) ∧
      r.instanceSelectorKey ∉ ["app.kubernetes.io/name", "app.kubernetes.io/part-of"] ∧
      ∀ (ext : ExternalBuilders) (ms : MonitoringStack),
        opts.instanceSelector = r.instanceSelectorKey ++ "=" ++ r.instanceSelectorValue ∧
          r.grafanaDSWatchCreated = false ∧
          ∀ i ∈ [8, 9], ∀ p ∈ (stackComponentPatchers ext ms r.instanceSelectorKey
              r.instanceSelectorValue)[i]?, ∀ existing written, p.patch existing = .ok written →
            written.metadata.labelSet.lookup r.instanceSelectorKey = some r.instanceSelectorValue := by
  intro opts r
  have registered : registerWithManager opts = .ok (r, controllerBuilder) :=
    registerWithManager_eq_ok_iff.mpr
      ⟨parseInstanceSelector_eq_ok_iff.mpr ⟨by decide, by decide, by decide⟩, rfl, rfl⟩
  have unreserved : r.instanceSelectorKey ∉ ["app.kubernetes.io/name", "app.kubernetes.io/part-of"] := by
    decide
  exact ⟨registered, unreserved, registerWithManager_labels_prometheus registered unreserved⟩

end MonitoringStackOperator.Stack
