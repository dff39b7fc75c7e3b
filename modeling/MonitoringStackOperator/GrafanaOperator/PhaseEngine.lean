import MonitoringStackOperator.GrafanaOperator.Controller

/-! The bootstrap phase engine of the design notes: an ordered list of phase
functions consumed by a loop that stops at the first result with `stop` set.

`reconcile` is this engine run on the five phases of `controller.go`, followed
by the closure `result`. A run of the engine splits into complete runs of a
prefix of the phases, all but the last returning continue. Everything the pass
may do, under every sequence of store responses, is read off that split. -/

namespace MonitoringStackOperator.GrafanaOperator

open Pass

def runPhases : List (ClientPass ReconcileResult) → ClientPass (Option ReconcileResult)
  | [] => pure none
  | phase :: rest => phase >>= fun res => if res.stop then pure (some res) else runPhases rest

/-- What `Reconcile` returns once the engine has stopped at a phase, or run them all. -/
def finish : Option ReconcileResult → Result × Option Error
  | some res => result res
  | none => ({}, none)

def phases : List (ClientPass ReconcileResult) :=
  [reconcileNamespace, reconcileOperatorGroup, reconcileSubscription, reconcileGrafanaCRD,
    reconcileGrafana]

theorem runPhases_finish (ps : List (ClientPass ReconcileResult)) :
    (runPhases ps >>= fun stopped => pure (finish stopped)) =
      ps.foldr (fun phase rest => phase >>= fun res => stopOr res rest) (pure ({}, none)) := by
  induction ps with
  | nil => rfl
  | cons phase rest ih =>
      simp only [runPhases, List.foldr_cons, bind_assoc]
      congr 1
      funext res
      cases stops : res.stop
      · simpa [stopOr, stops] using ih
      · simp [stopOr, stops, finish]

/-- The nested early returns of `Reconcile` are the phase engine on `phases`. -/
theorem reconcile_eq_runPhases :
    reconcile = runPhases phases >>= fun stopped => pure (finish stopped) :=
  (runPhases_finish phases).symm

/-! ### Runs of the engine -/

/-- The runs of the engine: complete runs of the phases in order, up to the first that stops. -/
inductive PhasesRun : List (ClientPass ReconcileResult) → List Exchange →
    Option ReconcileResult → Prop
  | finished : PhasesRun [] [] none
  | stopped {phase rest trace res} :
      Run phase trace res → res.stop = true → PhasesRun (phase :: rest) trace (some res)
  | continued {phase rest trace later res stopped} :
      Run phase trace res → res.stop = false → PhasesRun rest later stopped →
        PhasesRun (phase :: rest) (trace ++ later) stopped

theorem run_runPhases_iff {ps : List (ClientPass ReconcileResult)} {trace : List Exchange}
    {stopped : Option ReconcileResult} :
    Run (runPhases ps) trace stopped ↔ PhasesRun ps trace stopped := by
  induction ps generalizing trace stopped with
  | nil =>
      rw [runPhases, pure_eq, run_done_iff]
      constructor
      · rintro ⟨rfl, rfl⟩
        exact .finished
      · rintro ⟨⟩
        exact ⟨rfl, rfl⟩
  | cons phase rest ih =>
      rw [runPhases, run_bind_iff]
      constructor
      · rintro ⟨first, res, later, phaseRun, restRun, rfl⟩
        cases stops : res.stop
        · rw [stops, if_neg Bool.false_ne_true, ih] at restRun
          exact .continued phaseRun stops restRun
        · rw [stops, if_pos rfl, pure_eq, run_done_iff] at restRun
          obtain ⟨rfl, rfl⟩ := restRun
          rw [List.append_nil]
          exact .stopped phaseRun stops
      · rintro (_ | ⟨phaseRun, stops⟩ | ⟨phaseRun, continues, restRun⟩)
        · exact ⟨_, _, [], phaseRun, by simp [stops, run_done_iff], (List.append_nil _).symm⟩
        · exact ⟨_, _, _, phaseRun, by simpa [continues] using ih.mpr restRun, rfl⟩

theorem run_reconcile_iff {trace : List Exchange} {out : Result × Option Error} :
    Run reconcile trace out ↔ ∃ stopped, PhasesRun phases trace stopped ∧ out = finish stopped := by
  rw [reconcile_eq_runPhases, run_bind_iff]
  constructor
  · rintro ⟨first, stopped, rest, engineRun, finishRun, rfl⟩
    obtain ⟨rfl, rfl⟩ := run_done_iff.mp finishRun
    exact ⟨stopped, by simpa using run_runPhases_iff.mp engineRun, rfl⟩
  · rintro ⟨stopped, engineRun, rfl⟩
    exact ⟨trace, stopped, [], run_runPhases_iff.mpr engineRun, .done _, (List.append_nil _).symm⟩

/-- Whatever the phases return, `Reconcile` returns the zero `ctrl.Result`. -/
theorem reconcile_result_zero {trace : List Exchange} {out : Result × Option Error}
    (run : Run reconcile trace out) : out.1 = {} := by
  obtain ⟨stopped, -, rfl⟩ := run_reconcile_iff.mp run
  cases stopped <;> rfl

/-! ### Phases of calls -/

/-- The phase of `Reconcile` that makes a call, by the object the call is about. -/
def Call.phase : Call → Nat
  | .getNamespace _ | .create (.namespace _) | .update (.namespace _) => 0
  | .getOperatorGroup _ | .create (.operatorGroup _) | .update (.operatorGroup _) => 1
  | .getSubscription _ | .create (.subscription _) | .update (.subscription _) => 2
  | .getCustomResourceDefinition _ => 3
  | .getGrafana _ | .create (.grafana _) | .update (.grafana _) => 4

/-- A `Create` or `Update` of the Grafana instance. -/
def Call.writesGrafana : Call → Bool
  | .create (.grafana _) | .update (.grafana _) => true
  | _ => false

theorem Call.phase_of_writesGrafana {call : Call} (writes : call.writesGrafana = true) :
    call.phase = 4 := by
  rcases call with _ | _ | _ | _ | _ | (_ | _ | _ | _) | (_ | _ | _ | _) <;>
    first | rfl | cases writes

/-- Every call made by a run of the `i`-th phase of `ps` belongs to phase `base + i`. -/
def Labelled : List (ClientPass ReconcileResult) → Nat → Prop
  | [], _ => True
  | phase :: rest, base =>
      (∀ trace res, Run phase trace res → ∀ x ∈ trace, Call.phase x.1 = base) ∧
        Labelled rest (base + 1)

section Labels

variable {ps : List (ClientPass ReconcileResult)} {trace : List Exchange}
  {stopped : Option ReconcileResult}

theorem PhasesRun.sorted {base : Nat} (run : PhasesRun ps trace stopped)
    (labelled : Labelled ps base) :
    (∀ x ∈ trace, base ≤ Call.phase x.1) ∧
      trace.Pairwise (fun x y => Call.phase x.1 ≤ Call.phase y.1) := by
  induction run generalizing base with
  | finished => exact ⟨(fun _ member => nomatch member), .nil⟩
  | stopped phaseRun _ =>
      have same := labelled.1 _ _ phaseRun
      exact ⟨fun x member => (same x member).ge,
        List.pairwise_of_forall_mem_list fun x hx y hy => by rw [same x hx, same y hy]⟩
  | continued phaseRun _ _ ih =>
      have same := labelled.1 _ _ phaseRun
      obtain ⟨later, sorted⟩ := ih labelled.2
      refine ⟨fun x member => ?_, List.pairwise_append.mpr ⟨List.pairwise_of_forall_mem_list
        fun x hx y hy => by rw [same x hx, same y hy], sorted, fun x hx y hy => ?_⟩⟩
      · rcases List.mem_append.mp member with inPhase | inRest
        · exact (same x inPhase).ge
        · exact Nat.le_of_succ_le (later x inRest)
      · rw [same x hx]
        exact Nat.le_of_succ_le (later y hy)

/-- A call of phase `k` comes after complete runs of the first `k` phases, each returning
continue. -/
theorem PhasesRun.split {base : Nat} (run : PhasesRun ps trace stopped)
    (labelled : Labelled ps base) :
    ∀ x ∈ trace, ∃ pre post, trace = pre ++ post ∧ x ∈ post ∧
      PhasesRun (ps.take (Call.phase x.1 - base)) pre none := by
  induction run generalizing base with
  | finished => exact fun _ member => nomatch member
  | stopped phaseRun _ =>
      intro x member
      refine ⟨[], _, rfl, member, ?_⟩
      rw [labelled.1 _ _ phaseRun x member, Nat.sub_self]
      exact .finished
  | @continued phase rest first later res stopped phaseRun continues restRun ih =>
      intro x member
      rcases List.mem_append.mp member with inPhase | inRest
      · refine ⟨[], _, rfl, member, ?_⟩
        rw [labelled.1 _ _ phaseRun x inPhase, Nat.sub_self]
        exact .finished
      · obtain ⟨pre, post, rfl, later, prefixRun⟩ := ih labelled.2 x inRest
        have above := (restRun.sorted labelled.2).1 x inRest
        refine ⟨first ++ pre, post, (List.append_assoc _ _ _).symm, later, ?_⟩
        rw [show Call.phase x.1 - base = Call.phase x.1 - (base + 1) + 1 by omega,
          List.take_succ_cons]
        exact .continued phaseRun continues prefixRun

/-- Every phase of an engine run that went through all of `ps` ran and returned continue. -/
theorem PhasesRun.ran (run : PhasesRun ps trace stopped) (through : stopped = none) :
    ∀ phase ∈ ps, ∃ part res, Run phase part res ∧ res.stop = false ∧ ∀ x ∈ part, x ∈ trace := by
  induction run with
  | finished => exact fun _ member => nomatch member
  | stopped => cases through
  | continued phaseRun continues _ ih =>
      intro phase member
      rcases List.mem_cons.mp member with rfl | inRest
      · exact ⟨_, _, phaseRun, continues, fun x hx => List.mem_append_left _ hx⟩
      · obtain ⟨part, res, partRun, partContinues, inTrace⟩ := ih through phase inRest
        exact ⟨part, res, partRun, partContinues, fun x hx => List.mem_append_right _ (inTrace x hx)⟩

end Labels

/-! ### Successful creates -/

/-- A `Create` that the store accepted. -/
def createSucceeded : Exchange → Bool
  | ⟨.create _, reply⟩ => Option.isNone reply
  | _ => false

/-- No call follows a successful create. -/
def NothingAfterCreate : List Exchange → Prop
  | [] => True
  | x :: rest => (createSucceeded x = true → rest = []) ∧ NothingAfterCreate rest

theorem nothingAfterCreate_append {first later : List Exchange}
    (none : ∀ x ∈ first, createSucceeded x = false) (rest : NothingAfterCreate later) :
    NothingAfterCreate (first ++ later) := by
  induction first with
  | nil => exact rest
  | cons x first ih =>
      refine ⟨fun created => ?_, ih fun y hy => none y (.tail _ hy)⟩
      rw [none x (.head _)] at created
      cases created

theorem NothingAfterCreate.post_nil {trace : List Exchange} (nothing : NothingAfterCreate trace) :
    ∀ pre x post, trace = pre ++ x :: post → createSucceeded x = true → post = [] := by
  induction trace with
  | nil => intro pre x post split; simp at split
  | cons y rest ih =>
      intro pre x post split created
      cases pre with
      | nil => cases split; exact nothing.1 created
      | cons _ pre => exact ih nothing.2 pre x post (List.cons.inj split).2 created

theorem NothingAfterCreate.count_le {trace : List Exchange} (nothing : NothingAfterCreate trace) :
    (trace.filter createSucceeded).length ≤ 1 := by
  induction trace with
  | nil => simp
  | cons x rest ih =>
      by_cases created : createSucceeded x = true
      · rw [nothing.1 created, List.filter_cons_of_pos created]
        simp
      · rw [List.filter_cons_of_neg created]
        exact ih nothing.2

/-- A phase whose runs never call after a successful create, and stop the pass after one. -/
def CreateStops (phase : ClientPass ReconcileResult) : Prop :=
  ∀ trace res, Run phase trace res →
    NothingAfterCreate trace ∧ ∀ x ∈ trace, createSucceeded x = true → res.stop = true

theorem PhasesRun.nothingAfterCreate {ps : List (ClientPass ReconcileResult)}
    {trace : List Exchange} {stopped : Option ReconcileResult} (run : PhasesRun ps trace stopped)
    (stops : ∀ phase ∈ ps, CreateStops phase) : NothingAfterCreate trace := by
  induction run with
  | finished => trivial
  | stopped phaseRun => exact (stops _ (.head _) _ _ phaseRun).1
  | continued phaseRun continues _ ih =>
      have phaseStops := stops _ (.head _) _ _ phaseRun
      refine nothingAfterCreate_append (fun x hx => ?_) (ih fun phase hp => stops phase (.tail _ hp))
      cases created : createSucceeded x
      · rfl
      · rw [phaseStops.2 x hx created] at continues
        cases continues

/-! ### The five phases -/

section Phases

variable {trace : List Exchange} {res : ReconcileResult}

/-- A single call: every exchange of its run is that call with some reply. -/
theorem run_send_forall {call : Call} {P : Exchange → Prop} {trace : List Exchange}
    {reply : call.Reply} (run : Run (Pass.send call : ClientPass call.Reply) trace reply)
    (holds : ∀ reply, P ⟨call, reply⟩) : ∀ x ∈ trace, P x := by
  intro x member
  rw [run_send_iff.mp run, List.mem_singleton] at member
  rw [member]
  exact holds reply

theorem createOrUpdate_labelled {T : Type} {get : ClientPass (Except Error T)} {desired : Object}
    {delay : Duration} {withDesiredSpec : T → Object} {k : Nat}
    (getLabelled : ∀ trace got, Run get trace got → ∀ x ∈ trace, Call.phase x.1 = k)
    (createLabel : (Call.create desired).phase = k)
    (updateLabel : ∀ existing, (Call.update (withDesiredSpec existing)).phase = k) :
    ∀ trace res, Run (createOrUpdate get desired delay withDesiredSpec) trace res →
      ∀ x ∈ trace, Call.phase x.1 = k := by
  intro trace res run x member
  obtain ⟨first, got, getRun, ⟨_, _, _, rfl, _⟩ | ⟨_, _, _, _, rfl, _⟩ | ⟨_, _, _, rfl, _⟩⟩ :=
    run_createOrUpdate run
  · exact getLabelled _ _ getRun x member
  all_goals
    rcases List.mem_append.mp member with inGet | last
    · exact getLabelled _ _ getRun x inGet
    · rw [List.mem_singleton.mp last]
      first | exact createLabel | exact updateLabel _

theorem phases_labelled : Labelled phases 0 := by
  refine ⟨?_, createOrUpdate_labelled (fun _ _ run => run_send_forall run fun _ => rfl) rfl
    (fun _ => rfl), createOrUpdate_labelled (fun _ _ run => run_send_forall run fun _ => rfl) rfl
    (fun _ => rfl), ?_, createOrUpdate_labelled (fun _ _ run => run_send_forall run fun _ => rfl)
    rfl (fun _ => rfl), trivial⟩
  · intro trace res run x member
    rcases run_reconcileNamespace run with ⟨_, _, rfl, _⟩ | ⟨_, _, _, rfl, _⟩ | ⟨_, rfl, _⟩ <;>
      simp only [List.mem_cons, List.mem_singleton, List.not_mem_nil, or_false] at member <;>
      rcases member with rfl | rfl <;> rfl
  · intro trace res run x member
    rcases run_reconcileGrafanaCRD run with ⟨_, _, rfl, _⟩ | ⟨_, _, rfl, _⟩ | ⟨_, rfl, _⟩ <;>
      rw [List.mem_singleton.mp member] <;> rfl

theorem nothingAfterCreate_of_none {trace : List Exchange}
    (none : ∀ x ∈ trace, createSucceeded x = false) : NothingAfterCreate trace := by
  simpa using @nothingAfterCreate_append trace [] none trivial

/-- A phase run without a successful create meets what `CreateStops` asks of it. -/
theorem createStops_of_none {trace : List Exchange} {res : ReconcileResult}
    (none : ∀ x ∈ trace, createSucceeded x = false) :
    NothingAfterCreate trace ∧ ∀ x ∈ trace, createSucceeded x = true → res.stop = true :=
  ⟨nothingAfterCreate_of_none none, fun x member created => by
    rw [none x member] at created
    cases created⟩

theorem createOrUpdate_createStops {T : Type} {get : ClientPass (Except Error T)}
    {desired : Object} {delay : Duration} {withDesiredSpec : T → Object}
    (getReads : ∀ trace got, Run get trace got → ∀ x ∈ trace, createSucceeded x = false) :
    CreateStops (createOrUpdate get desired delay withDesiredSpec) := by
  intro trace res run
  obtain ⟨first, got, getRun, ⟨_, _, _, rfl, _⟩ | ⟨_, reply, _, _, rfl, rfl⟩ | ⟨_, reply, _, rfl, _⟩⟩ :=
    run_createOrUpdate run
  · exact createStops_of_none (getReads _ _ getRun)
  · refine ⟨nothingAfterCreate_append (getReads _ _ getRun) ⟨fun _ => rfl, trivial⟩,
      fun x hx created => ?_⟩
    rcases List.mem_append.mp hx with inGet | last
    · rw [getReads _ _ getRun x inGet] at created
      cases created
    · rw [List.mem_singleton.mp last] at created
      cases reply
      · rfl
      · cases created
  · refine createStops_of_none fun x member => ?_
    rcases List.mem_append.mp member with inGet | last
    · exact getReads _ _ getRun x inGet
    · rw [List.mem_singleton.mp last]
      rfl

theorem reconcileNamespace_createStops : CreateStops reconcileNamespace := by
  intro trace res run
  rcases run_reconcileNamespace run with ⟨_, _, rfl, _⟩ | ⟨_, reply, _, rfl, rfl⟩ | ⟨_, rfl, _⟩
  · exact createStops_of_none (by simp [createSucceeded])
  · refine ⟨by simp [NothingAfterCreate, createSucceeded], ?_⟩
    cases reply <;> simp [createSucceeded, creationResult, requeue]
  · exact createStops_of_none (by simp [createSucceeded])

theorem reconcileGrafanaCRD_createStops : CreateStops reconcileGrafanaCRD := by
  intro trace res run
  rcases run_reconcileGrafanaCRD run with ⟨_, _, rfl, _⟩ | ⟨_, _, rfl, _⟩ | ⟨_, rfl, _⟩ <;>
    exact createStops_of_none (by simp [createSucceeded])

theorem phases_createStops : ∀ phase ∈ phases, CreateStops phase := by
  simp only [phases, List.forall_mem_cons, List.not_mem_nil, false_implies, implies_true,
    and_true]
  exact ⟨reconcileNamespace_createStops,
    createOrUpdate_createStops (fun _ _ run => run_send_forall run fun _ => rfl),
    createOrUpdate_createStops (fun _ _ run => run_send_forall run fun _ => rfl),
    reconcileGrafanaCRD_createStops,
    createOrUpdate_createStops (fun _ _ run => run_send_forall run fun _ => rfl)⟩

/-- The CRD phase continues only after reading an established CRD. -/
theorem reconcileGrafanaCRD_continues (run : Run reconcileGrafanaCRD trace res)
    (continues : res.stop = false) :
    ∃ crd, trace = [⟨.getCustomResourceDefinition grafanaCRDKey, .ok crd⟩] ∧
      established crd = true := by
  rcases run_reconcileGrafanaCRD run with ⟨_, _, _, rfl⟩ | ⟨_, _, _, rfl⟩ | ⟨crd, rfl, rfl⟩
  · cases continues
  · cases continues
  · refine ⟨crd, rfl, ?_⟩
    cases found : established crd
    · rw [found] at continues
      cases continues
    · rfl

end Phases

/-! ### One pass under any store responses -/

/-- Over every run: calls come in phase order; a call of phase `k` follows complete runs of
phases `0 … k-1` that all returned continue; at most one create succeeds and nothing follows
it; the Grafana instance is written only after an established CRD was read in the pass. -/
theorem reconcile_calls_in_phase_order {trace : List Exchange} {out : Result × Option Error}
    (run : Run reconcile trace out) :
    trace.Pairwise (fun x y => Call.phase x.1 ≤ Call.phase y.1) ∧
      (∀ x ∈ trace, ∃ pre post, trace = pre ++ post ∧ x ∈ post ∧
        PhasesRun (phases.take (Call.phase x.1)) pre none) ∧
      ((trace.filter createSucceeded).length ≤ 1 ∧
        ∀ pre x post, trace = pre ++ x :: post → createSucceeded x = true → post = []) ∧
      (∀ x ∈ trace, Call.writesGrafana x.1 = true →
        ∃ crd, (⟨.getCustomResourceDefinition grafanaCRDKey, .ok crd⟩ : Exchange) ∈ trace ∧
          established crd = true) := by
  obtain ⟨stopped, engineRun, -⟩ := run_reconcile_iff.mp run
  have split := engineRun.split phases_labelled
  simp only [Nat.sub_zero] at split
  have nothing := engineRun.nothingAfterCreate phases_createStops
  refine ⟨(engineRun.sorted phases_labelled).2, split, ⟨nothing.count_le, nothing.post_nil⟩, ?_⟩
  intro x member writes
  obtain ⟨pre, post, rfl, -, prefixRun⟩ := split x member
  rw [Call.phase_of_writesGrafana writes] at prefixRun
  obtain ⟨part, res, crdRun, continues, inPre⟩ :=
    prefixRun.ran rfl reconcileGrafanaCRD (.tail _ (.tail _ (.tail _ (.head _))))
  obtain ⟨crd, rfl, found⟩ := reconcileGrafanaCRD_continues crdRun continues
  exact ⟨crd, List.mem_append_left _ (inPre _ (.head _)), found⟩

/-- The first pass on an empty store: the namespace is not found and is created. -/
theorem reconcile_calls_in_phase_order_on_empty_store :
    let trace : List Exchange :=
      [⟨.getNamespace { name := «namespace» }, .error (.status .notFound "")⟩,
        ⟨.create (.namespace newNamespace), none⟩]
    trace.Pairwise (fun x y => Call.phase x.1 ≤ Call.phase y.1) ∧
      (∀ x ∈ trace, ∃ pre post, trace = pre ++ post ∧ x ∈ post ∧
        PhasesRun (phases.take (Call.phase x.1)) pre none) ∧
      ((trace.filter createSucceeded).length ≤ 1 ∧
        ∀ pre x post, trace = pre ++ x :: post → createSucceeded x = true → post = []) ∧
      (∀ x ∈ trace, Call.writesGrafana x.1 = true →
        ∃ crd, (⟨.getCustomResourceDefinition grafanaCRDKey, .ok crd⟩ : Exchange) ∈ trace ∧
          established crd = true) :=
  @reconcile_calls_in_phase_order _ ({}, none)
    (run_reconcile_iff.mpr ⟨some (requeue 0 none), .stopped (.call _ (.call _ (.done _))) rfl, rfl⟩)

/-- A pass that finds the namespace active and creates the `OperatorGroup`: the phase asks
for a requeue after 5s, and `Reconcile` returns the zero `ctrl.Result` with a nil error. -/
theorem reconcile_drops_operatorGroup_requeue :
    Run reconcileOperatorGroup
        [⟨.getOperatorGroup { name := operatorGroupName, «namespace» := «namespace» },
          .error (.status .notFound "")⟩, ⟨.create (.operatorGroup newOperatorGroup), none⟩]
        (requeue (5 * second) none) ∧
      Run reconcile
        [⟨.getNamespace { name := «namespace» }, .ok { status := { phase := "Active" } }⟩,
          ⟨.getOperatorGroup { name := operatorGroupName, «namespace» := «namespace» },
            .error (.status .notFound "")⟩, ⟨.create (.operatorGroup newOperatorGroup), none⟩]
        ({}, none) :=
  ⟨.call _ (.call _ (.done _)), run_reconcile_iff.mpr ⟨some (requeue (5 * second) none),
    @PhasesRun.continued _ _ [_] _ _ _ (.call _ (.done _)) rfl
      (.stopped (.call _ (.call _ (.done _))) rfl), rfl⟩⟩

/-! ### What a pass writes -/

/-- Every exchange of an engine run belongs to a run of one of the phases, whose exchanges are
all in the engine's trace. -/
theorem PhasesRun.exchange_of_mem {ps : List (ClientPass ReconcileResult)} {trace : List Exchange}
    {stopped : Option ReconcileResult} (run : PhasesRun ps trace stopped) :
    ∀ x ∈ trace, ∃ phase ∈ ps, ∃ part res, Run phase part res ∧ x ∈ part ∧ ∀ y ∈ part, y ∈ trace := by
  induction run with
  | finished => exact fun _ member => nomatch member
  | stopped phaseRun => exact fun x member => ⟨_, .head _, _, _, phaseRun, member, fun _ => id⟩
  | continued phaseRun _ _ ih =>
      intro x member
      rcases List.mem_append.mp member with inPhase | inRest
      · exact ⟨_, .head _, _, _, phaseRun, inPhase, fun _ => List.mem_append_left _⟩
      · obtain ⟨phase, inPhases, part, res, partRun, inPart, sub⟩ := ih x inRest
        exact ⟨phase, .tail _ inPhases, part, res, partRun, inPart,
          fun y hy => List.mem_append_right _ (sub y hy)⟩

/-- What a pass may write, given the exchanges it made: on a create, one of the four desired
objects; on an update, an object that a `Get` of the pass returned, given the desired spec; and
never an update of the namespace. -/
def Call.WritesDesired (reads : List Exchange) : Call → Prop
  | .create object =>
      object = .namespace newNamespace ∨ object = .operatorGroup newOperatorGroup ∨
        object = .subscription newSubscription ∨ object = .grafana newGrafana
  | .update (.namespace _) => False
  | .update (.operatorGroup og) => ∃ read,
      (⟨.getOperatorGroup { name := operatorGroupName, «namespace» := «namespace» }, .ok read⟩ :
        Exchange) ∈ reads ∧ og = { read with spec := newOperatorGroup.spec }
  | .update (.subscription sub) => ∃ read,
      (⟨.getSubscription { name := subscriptionName, «namespace» := «namespace» }, .ok read⟩ :
        Exchange) ∈ reads ∧ sub = { read with spec := newSubscription.spec }
  | .update (.grafana grafana) => ∃ read,
      (⟨.getGrafana { name := grafanaName, «namespace» := «namespace» }, .ok read⟩ : Exchange) ∈ reads ∧
        grafana = { read with spec := newGrafana.spec }
  | _ => True

theorem Call.WritesDesired.mono {call : Call} {reads reads' : List Exchange}
    (writes : call.WritesDesired reads) (sub : ∀ y ∈ reads, y ∈ reads') : call.WritesDesired reads' := by
  rcases call with _ | _ | _ | _ | _ | _ | (_ | _ | _ | _)
  all_goals first
    | exact writes
    | obtain ⟨read, found, rfl⟩ := writes
      exact ⟨read, sub _ found, rfl⟩

section Writes

variable {trace : List Exchange} {res : ReconcileResult}

theorem writesDesired_snoc {first : List Exchange} {call : Call} {reply : call.Reply}
    (before : ∀ x ∈ first, x.1.WritesDesired first) (last : call.WritesDesired first) :
    ∀ x ∈ first ++ [⟨call, reply⟩], x.1.WritesDesired (first ++ [⟨call, reply⟩]) := by
  intro x member
  rcases List.mem_append.mp member with inFirst | isLast
  · exact (before x inFirst).mono fun _ => List.mem_append_left _
  · rw [List.mem_singleton.mp isLast]
    exact last.mono fun _ => List.mem_append_left _

theorem createOrUpdate_writesDesired {T : Type} {get : ClientPass (Except Error T)}
    {desired : Object} {delay : Duration} {withDesiredSpec : T → Object}
    (getReads : ∀ trace got, Run get trace got → ∀ x ∈ trace, x.1.WritesDesired trace)
    (createDesired : (Call.create desired).WritesDesired [])
    (updateDesired : ∀ trace existing, Run get trace (.ok existing) →
      (Call.update (withDesiredSpec existing)).WritesDesired trace)
    (run : Run (createOrUpdate get desired delay withDesiredSpec) trace res) :
    ∀ x ∈ trace, x.1.WritesDesired trace := by
  obtain ⟨first, got, getRun, ⟨_, _, _, rfl, _⟩ | ⟨_, _, _, _, rfl, _⟩ | ⟨existing, _, rfl, rfl, _⟩⟩ :=
    run_createOrUpdate run
  · exact getReads _ _ getRun
  · exact writesDesired_snoc (getReads _ _ getRun) (createDesired.mono fun _ member => nomatch member)
  · exact writesDesired_snoc (getReads _ _ getRun) (updateDesired _ _ getRun)

/-- A `Get` writes nothing. -/
theorem run_get_writesDesired {call : Call} {reply : call.Reply}
    (reads : ∀ reads : List Exchange, call.WritesDesired reads)
    (run : Run (Pass.send call : ClientPass call.Reply) trace reply) :
    ∀ x ∈ trace, x.1.WritesDesired trace :=
  run_send_forall run fun _ => reads _

theorem phases_writesDesired :
    ∀ phase ∈ phases, ∀ trace res, Run phase trace res → ∀ x ∈ trace, x.1.WritesDesired trace := by
  simp only [phases, List.forall_mem_cons, List.not_mem_nil, false_implies, implies_true, and_true]
  refine ⟨?ns, ?_, ?_, ?crd, ?_⟩
  case ns =>
    intro trace res run x member
    rcases run_reconcileNamespace run with ⟨_, _, rfl, _⟩ | ⟨_, _, _, rfl, _⟩ | ⟨_, rfl, _⟩ <;>
      simp only [List.mem_cons, List.mem_singleton, List.not_mem_nil, or_false] at member <;>
      rcases member with rfl | rfl
    all_goals first | trivial | exact .inl rfl
  case crd =>
    intro trace res run x member
    rcases run_reconcileGrafanaCRD run with ⟨_, _, rfl, _⟩ | ⟨_, _, rfl, _⟩ | ⟨_, rfl, _⟩ <;>
      rw [List.mem_singleton.mp member] <;> trivial
  all_goals
    exact fun _ _ => createOrUpdate_writesDesired
      (fun _ _ => run_get_writesDesired fun _ => trivial) (by simp [Call.WritesDesired])
      fun _ _ getRun => ⟨_, by rw [run_send_iff.mp getRun]; exact .head _, rfl⟩

end Writes

/-- Under every reply of the store, a pass writes only what it means to: it creates nothing
but the desired namespace, `OperatorGroup`, `Subscription` and Grafana instance, never updates
the namespace, and updates only an object that a `Get` of the same pass returned, with the
desired spec and everything else of the object as read. -/
theorem reconcile_writes_desired {trace : List Exchange} {out : Result × Option Error}
    (run : Run reconcile trace out) : ∀ x ∈ trace, x.1.WritesDesired trace := by
  obtain ⟨stopped, engineRun, -⟩ := run_reconcile_iff.mp run
  intro x member
  obtain ⟨phase, inPhases, part, res, phaseRun, inPart, sub⟩ := engineRun.exchange_of_mem x member
  exact (phases_writesDesired phase inPhases part res phaseRun x inPart).mono sub

/-- A pass that finds the namespace Active and an `OperatorGroup`, updates it and creates the
`Subscription`. -/
theorem reconcile_writes_desired_of_found_operatorGroup :
    let trace : List Exchange :=
      [⟨.getNamespace { name := «namespace» }, .ok { status := { phase := Core.namespaceActive } }⟩,
        ⟨.getOperatorGroup { name := operatorGroupName, «namespace» := «namespace» }, .ok {}⟩,
        ⟨.update (.operatorGroup { spec := newOperatorGroup.spec }), none⟩,
        ⟨.getSubscription { name := subscriptionName, «namespace» := «namespace» },
          .error (.status .notFound "")⟩,
        ⟨.create (.subscription newSubscription), none⟩]
    Run reconcile trace ({}, none) ∧ ∀ x ∈ trace, x.1.WritesDesired trace := by
  intro trace
  have run : Run reconcile trace ({}, none) :=
    run_reconcile_iff.mpr ⟨some (requeue (15 * second) none),
      @PhasesRun.continued _ _ [_] _ _ _ (.call _ (.done _)) rfl
        (@PhasesRun.continued _ _ [_, _] _ _ _ (.call _ (.call _ (.done _))) rfl
          (.stopped (.call _ (.call _ (.done _))) rfl)), rfl⟩
  exact ⟨run, reconcile_writes_desired run⟩

end MonitoringStackOperator.GrafanaOperator
