import MonitoringStackOperator.Stack.Components

/-! What the patchers of `stackComponentPatchers` write.

All patchers but the two service-account ones start from the existing object and
copy the labels and business fields of the built object onto it, so everything
else the store holds survives; the service-account patchers write the built
object, whatever exists. Every patcher writes a fixed point of its own patch
function, and the patchers whose builders `components.go` defines read nothing
of the stack but its name, namespace and spec. -/

namespace MonitoringStackOperator.Stack

open Api

/-! ### The shared patch function -/

section PatchExisting

variable {T : Type} {wrap : T → Object} {cast : Object → Option T} {built : T}
  {overwrite : T → T → T}

@[simp] theorem patchExisting_none :
    patchExisting wrap cast built overwrite none = .ok (wrap built) := rfl

theorem patchExisting_cast {existing : Object} {desired : T}
    (asserted : cast existing = some desired) :
    patchExisting wrap cast built overwrite (some existing) = .ok (wrap (overwrite built desired)) := by
  rw [patchExisting, asserted]

/-- What a patch writes is either the built object or the built fields copied onto an
existing object of the right type. -/
theorem patchExisting_ok {existing : Option Object} {written : Object}
    (patched : patchExisting wrap cast built overwrite existing = .ok written) :
    (existing = none ∧ written = wrap built) ∨
      ∃ object desired, existing = some object ∧ cast object = some desired ∧
        written = wrap (overwrite built desired) := by
  rcases existing with _ | object
  · cases patched
    exact .inl ⟨rfl, rfl⟩
  · cases asserted : cast object with
    | none => simp [patchExisting, asserted] at patched
    | some desired =>
        rw [patchExisting_cast asserted, Except.ok.injEq] at patched
        exact .inr ⟨object, desired, rfl, asserted, patched.symm⟩

/-- Patching what a patch wrote writes it again, when the type assertion accepts what the
patch wraps and copying the built fields a second time changes nothing. -/
theorem patchExisting_fixed {existing : Option Object} {written : Object}
    (patched : patchExisting wrap cast built overwrite existing = .ok written)
    (cast_wrap : ∀ object, cast (wrap object) = some object)
    (overwrite_built : overwrite built built = built)
    (overwrite_twice : ∀ object, overwrite built (overwrite built object) = overwrite built object) :
    patchExisting wrap cast built overwrite (some written) = .ok written := by
  rcases patchExisting_ok patched with ⟨-, rfl⟩ | ⟨-, desired, -, -, rfl⟩
  · rw [patchExisting_cast (cast_wrap built), overwrite_built]
  · rw [patchExisting_cast (cast_wrap _), overwrite_twice]

/-- Over an object of its kind, a patch keeps the object's metadata but the labels, when
copying the built fields touches no other metadata. -/
theorem patchExisting_metadata {existing : Object} {written : Object}
    (patched : patchExisting wrap cast built overwrite (some existing) = .ok written)
    (wrap_cast : ∀ object desired, cast object = some desired → wrap desired = object)
    (overwrite_metadata : ∀ desired, (wrap (overwrite built desired)).metadata =
      { (wrap desired).metadata with labels := (wrap built).metadata.labels }) :
    written.metadata = { existing.metadata with labels := (wrap built).metadata.labels } := by
  rcases patchExisting_ok patched with ⟨nothing, -⟩ | ⟨object, desired, same, asserted, rfl⟩
  · cases nothing
  · cases same
    rw [overwrite_metadata, wrap_cast _ _ asserted]

end PatchExisting

/-! ### Idempotence -/

/-- The object a patcher writes is a fixed point of its patch function. -/
def ObjectPatcher.Idempotent (p : ObjectPatcher) : Prop :=
  ∀ existing written, p.patch existing = .ok written → p.patch (some written) = .ok written

theorem serviceAccountPatcher_idempotent (sa : Core.ServiceAccount) :
    (serviceAccountPatcher sa).Idempotent :=
  fun _ _ patched => patched

/-- Every patcher that starts from the existing object writes a fixed point, when the type
assertion accepts what it wraps and copying the built fields is idempotent. -/
theorem existingObjectPatcher_idempotent {T : Type} {wrap : T → Object}
    {cast : Object → Option T} {emptyOf : T → T} {overwrite : T → T → T} {built : T}
    (cast_wrap : ∀ object, cast (wrap object) = some object)
    (overwrite_built : overwrite built built = built)
    (overwrite_twice : ∀ object, overwrite built (overwrite built object) = overwrite built object) :
    (existingObjectPatcher wrap cast emptyOf overwrite built).Idempotent :=
  fun _ _ patched => patchExisting_fixed patched cast_wrap overwrite_built overwrite_twice

theorem rolePatcher_idempotent (role : Rbac.Role) : (rolePatcher role).Idempotent :=
  existingObjectPatcher_idempotent (fun _ => rfl) rfl fun _ => rfl

theorem roleBindingPatcher_idempotent (roleBinding : Rbac.RoleBinding) :
    (roleBindingPatcher roleBinding).Idempotent :=
  existingObjectPatcher_idempotent (fun _ => rfl) rfl fun _ => rfl

theorem secretPatcher_idempotent (secret : Core.Secret) : (secretPatcher secret).Idempotent :=
  existingObjectPatcher_idempotent (fun _ => rfl) rfl fun _ => rfl

theorem alertmanagerPatcher_idempotent (alertmanager : Monitoring.Alertmanager) :
    (alertmanagerPatcher alertmanager).Idempotent :=
  existingObjectPatcher_idempotent (fun _ => rfl) rfl fun _ => rfl

/-- The cluster IP a service patch carries over is the one the next patch reads back. -/
theorem servicePatcher_idempotent (service : Core.Service) : (servicePatcher service).Idempotent :=
  existingObjectPatcher_idempotent (fun _ => rfl) rfl fun _ => rfl

theorem podDisruptionBudgetPatcher_idempotent (pdb : Policy.PodDisruptionBudget) :
    (podDisruptionBudgetPatcher pdb).Idempotent :=
  existingObjectPatcher_idempotent (fun _ => rfl) rfl fun _ => rfl

theorem prometheusPatcher_idempotent (prometheus : Monitoring.Prometheus) :
    (prometheusPatcher prometheus).Idempotent :=
  existingObjectPatcher_idempotent (fun _ => rfl) rfl fun _ => rfl

theorem grafanaDataSourcePatcher_idempotent (dataSource : Integreatly.GrafanaDataSource) :
    (grafanaDataSourcePatcher dataSource).Idempotent :=
  existingObjectPatcher_idempotent (fun _ => rfl) rfl fun _ => rfl

/-- Every patcher of a stack writes a fixed point of its patch function, from an existing
object and from nil alike. -/
theorem stackComponentPatchers_patch_fixed (ext : ExternalBuilders) (ms : MonitoringStack)
    (key value : String) :
    ∀ p ∈ stackComponentPatchers ext ms key value, ∀ existing written,
      p.patch existing = .ok written → p.patch (some written) = .ok written := by
  simp only [stackComponentPatchers, List.forall_mem_cons, List.not_mem_nil, false_implies,
    implies_true, and_true]
  exact ⟨serviceAccountPatcher_idempotent _, rolePatcher_idempotent _,
    roleBindingPatcher_idempotent _, secretPatcher_idempotent _, serviceAccountPatcher_idempotent _,
    alertmanagerPatcher_idempotent _, servicePatcher_idempotent _,
    podDisruptionBudgetPatcher_idempotent _, prometheusPatcher_idempotent _,
    servicePatcher_idempotent _, grafanaDataSourcePatcher_idempotent _⟩

/-- The Prometheus service patcher of stack `foo`, over the service the store holds with the
cluster IP it allocated: the patch keeps the cluster IP, and patching what it wrote writes it
again. -/
theorem stackComponentPatchers_patch_fixed_of_cluster_ip :
    let ext : ExternalBuilders :=
      { newAlertmanager := fun _ _ _ _ => {}, newAlertmanagerService := fun _ _ _ => {}
        newAlertmanagerPDB := fun _ _ _ => {}, grafanaDSName := fun ms => ms.metadata.name
        grafanaDatasourceOwnerName := "owner", grafanaDatasourceOwnerNamespace := "owner-namespace" }
    let ms : MonitoringStack := { metadata := { name := "foo", «namespace» := "ns" } }
    let stored : Core.Service := { newPrometheusService ms "app" "stack" with
      spec := { (newPrometheusService ms "app" "stack").spec with clusterIP := "10.96.0.10" } }
    ∃ p ∈ stackComponentPatchers ext ms "app" "stack", ∃ written,
      p.patch (some (.service stored)) = .ok written ∧
        written.asService.map (·.spec.clusterIP) = some "10.96.0.10" ∧
        p.patch (some written) = .ok written := by
  intro ext ms stored
  have member : servicePatcher (newPrometheusService ms "app" "stack") ∈
      stackComponentPatchers ext ms "app" "stack" := List.getElem?_mem (n := 9) rfl
  exact ⟨_, member, _, rfl, rfl,
    stackComponentPatchers_patch_fixed ext ms "app" "stack" _ member (some (.service stored)) _ rfl⟩

/-! ### What survives a patch -/

/-- The patchers that start from the existing object keep its metadata but the labels:
resource version, uid, owner references, finalizers and annotations. -/
theorem existingObjectPatcher_metadata {T : Type} {wrap : T → Object}
    {cast : Object → Option T} {emptyOf : T → T} {overwrite : T → T → T} {built : T}
    (wrap_cast : ∀ object desired, cast object = some desired → wrap desired = object)
    (overwrite_metadata : ∀ desired, (wrap (overwrite built desired)).metadata =
      { (wrap desired).metadata with labels := (wrap built).metadata.labels })
    (empty_labels : (wrap (emptyOf built)).metadata.labels = (wrap built).metadata.labels)
    {existing written : Object}
    (patched : (existingObjectPatcher wrap cast emptyOf overwrite built).patch (some existing) =
      .ok written) :
    written.metadata =
      { existing.metadata with
        labels := (existingObjectPatcher wrap cast emptyOf overwrite built).empty.metadata.labels } := by
  rw [patchExisting_metadata patched wrap_cast overwrite_metadata]
  exact congrArg (fun labels => { existing.metadata with labels := labels }) empty_labels.symm

/-- Every patcher of a stack but the two service-account ones keeps the metadata of the
existing object, apart from the labels it sets. -/
theorem stackComponentPatchers_keep_metadata (ext : ExternalBuilders) (ms : MonitoringStack)
    (key value : String) :
    ∀ i ∈ [1, 2, 3, 5, 6, 7, 8, 9, 10], ∀ p ∈ (stackComponentPatchers ext ms key value)[i]?,
      ∀ existing written, p.patch (some existing) = .ok written →
        written.metadata = { existing.metadata with labels := p.empty.metadata.labels } := by
  simp only [stackComponentPatchers, List.forall_mem_cons, List.not_mem_nil, false_implies,
    implies_true, and_true, List.getElem?_cons_succ, List.getElem?_cons_zero, Option.mem_def,
    Option.some.injEq, forall_eq']
  refine ⟨?_, ?_, ?_, ?_, ?_, ?_, ?_, ?_, ?_⟩ <;>
    exact fun _ _ patched => existingObjectPatcher_metadata
      (fun object desired asserted => by cases object <;> cases asserted; rfl)
      (fun _ => rfl) rfl patched

/-- The role patcher of stack `foo`, over the role the store holds with a resource version,
a uid, an owner reference and an annotation: all four survive the patch. -/
theorem stackComponentPatchers_keep_metadata_of_role :
    let ext : ExternalBuilders :=
      { newAlertmanager := fun _ _ _ _ => {}, newAlertmanagerService := fun _ _ _ => {}
        newAlertmanagerPDB := fun _ _ _ => {}, grafanaDSName := fun ms => ms.metadata.name
        grafanaDatasourceOwnerName := "owner", grafanaDatasourceOwnerNamespace := "owner-namespace" }
    let ms : MonitoringStack := { metadata := { name := "foo", «namespace» := "ns" } }
    let existing : Object := .role
      { metadata :=
          { name := "foo-prometheus", «namespace» := "ns", resourceVersion := "7", uid := "role-uid"
            annotations := some (mapOf [("note", "kept")])
            ownerReferences :=
              [{ kind := "MonitoringStack", name := "foo", uid := "stack-uid", controller := some true }] } }
    1 ∈ [1, 2, 3, 5, 6, 7, 8, 9, 10] ∧
      ∃ p ∈ (stackComponentPatchers ext ms "app" "stack")[1]?, ∃ written,
        p.patch (some existing) = .ok written ∧
          written.metadata = { existing.metadata with labels := p.empty.metadata.labels } := by
  intro ext ms existing
  exact ⟨by decide, _, rfl, _, rfl,
    stackComponentPatchers_keep_metadata ext ms "app" "stack" 1 (by decide) _ rfl existing _ rfl⟩

/-- The service-account patchers at positions 0 and 4 write the built service account: one
the store holds at resourceVersion "1" is written back without a version. -/
theorem serviceAccountPatchers_drop_resourceVersion (ext : ExternalBuilders)
    (ms : MonitoringStack) (key value : String) :
    ∀ i ∈ [0, 4], ∃ p written, (stackComponentPatchers ext ms key value)[i]? = some p ∧
      p.patch (some (.serviceAccount { metadata := { resourceVersion := "1" } })) = .ok written ∧
      written.metadata.resourceVersion = "" := by
  simp [stackComponentPatchers, serviceAccountPatcher, newServiceAccount, Object.metadata]

/-- The Prometheus service-account patcher of stack `foo`. -/
theorem serviceAccountPatchers_drop_resourceVersion_of_foo :
    let ext : ExternalBuilders :=
      { newAlertmanager := fun _ _ _ _ => {}, newAlertmanagerService := fun _ _ _ => {}
        newAlertmanagerPDB := fun _ _ _ => {}, grafanaDSName := fun ms => ms.metadata.name
        grafanaDatasourceOwnerName := "owner", grafanaDatasourceOwnerNamespace := "owner-namespace" }
    let ms : MonitoringStack := { metadata := { name := "foo", «namespace» := "ns" } }
    0 ∈ [0, 4] ∧ ∃ p written, (stackComponentPatchers ext ms "app" "stack")[0]? = some p ∧
      p.patch (some (.serviceAccount { metadata := { resourceVersion := "1" } })) = .ok written ∧
      written.metadata.resourceVersion = "" :=
  ⟨by decide, serviceAccountPatchers_drop_resourceVersion _ _ _ _ 0 (by decide)⟩

/-- The data-source patcher keeps the existing annotations: a data source the store holds
without annotations is written back without the two owner annotations the builder sets. -/
theorem grafanaDataSourcePatcher_keeps_existing_annotations (ext : ExternalBuilders)
    (ms : MonitoringStack) (key value : String) :
    ∃ p updated created, (stackComponentPatchers ext ms key value)[10]? = some p ∧
      p.patch (some (.grafanaDataSource {})) = .ok updated ∧ p.patch none = .ok created ∧
      updated.metadata.annotations = none ∧
      created.metadata.annotations = some (mapOf [(ext.grafanaDatasourceOwnerName, ms.metadata.name),
        (ext.grafanaDatasourceOwnerNamespace, ms.metadata.«namespace»)]) := by
  simp [stackComponentPatchers, grafanaDataSourcePatcher, existingObjectPatcher,
    newGrafanaDataSource, patchExisting, Object.asGrafanaDataSource, Object.metadata]

/-! ### Dependence on the stack -/

/-- The patchers whose builders `components.go` defines (the two service accounts, the role,
the role binding, the scrape-config secret, the Prometheus and its service) read only the
stack's name, namespace and spec. -/
theorem stackComponentPatchers_same_for_same_spec (ext : ExternalBuilders)
    (ms₁ ms₂ : MonitoringStack) (key value : String)
    (sameName : ms₁.metadata.name = ms₂.metadata.name)
    (sameNamespace : ms₁.metadata.«namespace» = ms₂.metadata.«namespace»)
    (sameSpec : ms₁.spec = ms₂.spec) :
    ∀ i ∈ [0, 1, 2, 3, 4, 8, 9], ∀ existing : Option Object,
      ((stackComponentPatchers ext ms₁ key value)[i]?).map (fun p => p.patch existing) =
        ((stackComponentPatchers ext ms₂ key value)[i]?).map (fun p => p.patch existing) := by
  simp [stackComponentPatchers, newPrometheusRole, newRoleBinding, newAdditionalScrapeConfigsSecret,
    newPrometheus, newPrometheusService, sameName, sameNamespace, sameSpec]

/-- Two stacks that differ in their labels, annotations and resource version. -/
theorem stackComponentPatchers_same_for_relabelled_stack :
    let ms₁ : MonitoringStack :=
      { metadata := { name := "foo", «namespace» := "ns", labels := some (mapOf [("team", "a")]) } }
    let ms₂ : MonitoringStack :=
      { metadata :=
          { name := "foo", «namespace» := "ns", resourceVersion := "2"
            annotations := some (mapOf [("a", "b")]) } }
    ∀ (ext : ExternalBuilders) (key value : String),
      ms₁.metadata.name = ms₂.metadata.name ∧ ms₁.metadata.«namespace» = ms₂.metadata.«namespace» ∧
        ms₁.spec = ms₂.spec ∧
        ∀ i ∈ [0, 1, 2, 3, 4, 8, 9], ∀ existing : Option Object,
          ((stackComponentPatchers ext ms₁ key value)[i]?).map (fun p => p.patch existing) =
            ((stackComponentPatchers ext ms₂ key value)[i]?).map (fun p => p.patch existing) :=
  fun ext key value => ⟨rfl, rfl, rfl,
    stackComponentPatchers_same_for_same_spec ext _ _ key value rfl rfl rfl⟩

/-! ### Type errors -/

/-- A patcher's patch of an existing object writes an object of the patcher's kind, and fails
exactly when the patcher is not a service-account one and the object is of another kind, with
the error of `NewObjectTypeError` for the built object and the existing one. -/
def ObjectPatcher.TypeChecked (p : ObjectPatcher) : Prop :=
  ∀ existing : Object,
    (∀ written, p.patch (some existing) = .ok written → written.kind = p.empty.kind) ∧
      ∀ err, p.patch (some existing) = .error err ↔
        p.empty.kind ≠ "ServiceAccount" ∧ existing.kind ≠ p.empty.kind ∧
          ∃ built, p.patch none = .ok built ∧ err = newObjectTypeError built existing

theorem serviceAccountPatcher_typeChecked (sa : Core.ServiceAccount) :
    (serviceAccountPatcher sa).TypeChecked := by
  intro existing
  refine ⟨fun written patched => ?_, fun err => ?_⟩
  · cases patched
    rfl
  · simp [serviceAccountPatcher, Object.kind]

theorem existingObjectPatcher_typeChecked {T : Type} {wrap : T → Object}
    {cast : Object → Option T} {emptyOf : T → T} {overwrite : T → T → T} {built : T}
    {kind : String} (wrap_kind : ∀ object, (wrap object).kind = kind)
    (notServiceAccount : kind ≠ "ServiceAccount")
    (cast_none : ∀ object, cast object = none ↔ object.kind ≠ kind) :
    (existingObjectPatcher wrap cast emptyOf overwrite built).TypeChecked := by
  intro existing
  simp only [existingObjectPatcher, wrap_kind]
  refine ⟨fun written patched => ?_, fun err => ?_⟩
  · rcases patchExisting_ok patched with ⟨-, rfl⟩ | ⟨-, desired, -, -, rfl⟩ <;> exact wrap_kind _
  · cases asserted : cast existing with
    | none =>
        simp [patchExisting, asserted, notServiceAccount, (cast_none existing).mp asserted, eq_comm]
    | some desired =>
        have same : existing.kind = kind :=
          not_not.mp (mt (cast_none existing).mpr (by simp [asserted]))
        simp [patchExisting, asserted, same]

/-- Whatever the store holds, each patcher of a stack writes an object of its own kind; a
patch fails exactly when the store holds an object of another kind under a patcher other than
the two service-account ones, which overwrite whatever they find, and the error reads
`object type "<existing type>" is not "<built type>"`. -/
theorem stackComponentPatchers_type_errors (ext : ExternalBuilders) (ms : MonitoringStack)
    (key value : String) :
    ∀ p ∈ stackComponentPatchers ext ms key value, ∀ existing : Object,
      (∀ written, p.patch (some existing) = .ok written → written.kind = p.empty.kind) ∧
        ∀ err, p.patch (some existing) = .error err ↔
          p.empty.kind ≠ "ServiceAccount" ∧ existing.kind ≠ p.empty.kind ∧
            ∃ built, p.patch none = .ok built ∧ err = newObjectTypeError built existing := by
  simp only [stackComponentPatchers, List.forall_mem_cons, List.not_mem_nil, false_implies,
    implies_true, and_true]
  refine ⟨serviceAccountPatcher_typeChecked _, ?_, ?_, ?_, serviceAccountPatcher_typeChecked _,
    ?_, ?_, ?_, ?_, ?_, ?_⟩ <;>
    refine existingObjectPatcher_typeChecked (fun _ => rfl) (by decide) fun object => ?_ <;>
    cases object <;>
    simp [Object.asRole, Object.asRoleBinding, Object.asSecret, Object.asAlertmanager,
      Object.asService, Object.asPodDisruptionBudget, Object.asPrometheus,
      Object.asGrafanaDataSource, Object.kind]

/-- The role patcher of stack `foo`, over a service account the store holds under the role's
name. -/
theorem stackComponentPatchers_type_errors_of_role :
    let ext : ExternalBuilders :=
      { newAlertmanager := fun _ _ _ _ => {}, newAlertmanagerService := fun _ _ _ => {}
        newAlertmanagerPDB := fun _ _ _ => {}, grafanaDSName := fun ms => ms.metadata.name
        grafanaDatasourceOwnerName := "owner", grafanaDatasourceOwnerNamespace := "owner-namespace" }
    let ms : MonitoringStack := { metadata := { name := "foo", «namespace» := "ns" } }
    let existing : Object :=
      .serviceAccount { metadata := { name := "foo-prometheus", «namespace» := "ns" } }
    ∃ p ∈ stackComponentPatchers ext ms "app" "stack",
      (∀ written, p.patch (some existing) = .ok written → written.kind = p.empty.kind) ∧
        ∀ err, p.patch (some existing) = .error err ↔
          p.empty.kind ≠ "ServiceAccount" ∧ existing.kind ≠ p.empty.kind ∧
            ∃ built, p.patch none = .ok built ∧ err = newObjectTypeError built existing := by
  intro ext ms existing
  exact ⟨_, .tail _ (.head _),
    stackComponentPatchers_type_errors ext ms "app" "stack" _ (.tail _ (.head _)) existing⟩

end MonitoringStackOperator.Stack
