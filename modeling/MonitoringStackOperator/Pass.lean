import MonitoringStackOperator.Meta

/-! A reconcile pass as the calls it makes to the object store.

A pass is a tree: it either has finished with a result, or it issues one call
and continues with whatever the store replies. A run records every call with
the reply it got. Since any reply is allowed at any call, the runs of a pass are
exactly its behaviours under every sequence of responses a store can give,
stale reads and failures included. `exec` runs a pass against one particular
store that answers from a state. -/

namespace MonitoringStackOperator

inductive Pass (Call : Type) (Reply : Call → Type) (α : Type) : Type where
  | done (result : α)
  | call (request : Call) (next : Reply request → Pass Call Reply α)

namespace Pass

variable {Call : Type} {Reply : Call → Type} {α β γ : Type}

def bind : Pass Call Reply α → (α → Pass Call Reply β) → Pass Call Reply β
  | done result, next => next result
  | call request rest, next => call request (fun reply => (rest reply).bind next)

instance : Monad (Pass Call Reply) where
  pure := done
  bind := bind

/-- Issue one call and return the store's reply. -/
def send (request : Call) : Pass Call Reply (Reply request) :=
  call request done

@[simp] theorem pure_eq (result : α) : (pure result : Pass Call Reply α) = done result := rfl

@[simp] theorem done_bind (result : α) (next : α → Pass Call Reply β) :
    (done result >>= next) = next result := rfl

@[simp] theorem call_bind (request : Call) (rest : Reply request → Pass Call Reply α)
    (next : α → Pass Call Reply β) :
    (call request rest >>= next) = call request (fun reply => rest reply >>= next) := rfl

theorem bind_done (pass : Pass Call Reply α) : (pass >>= done) = pass := by
  induction pass with
  | done result => rfl
  | call request rest ih => exact congrArg (call request) (funext ih)

theorem bind_assoc (pass : Pass Call Reply α) (first : α → Pass Call Reply β)
    (second : β → Pass Call Reply γ) :
    (pass >>= first >>= second) = (pass >>= fun result => first result >>= second) := by
  induction pass with
  | done result => rfl
  | call request rest ih => exact congrArg (call request) (funext ih)

instance : LawfulMonad (Pass Call Reply) :=
  LawfulMonad.mk' _ (fun pass => bind_done pass) (fun _ _ => rfl) bind_assoc

/-- A call together with the store's reply to it. -/
abbrev Exchange (Call : Type) (Reply : Call → Type) := Σ request : Call, Reply request

/-- One complete run of a pass: each call it made with the reply it got, then its result. -/
inductive Run : Pass Call Reply α → List (Exchange Call Reply) → α → Prop
  | done (result : α) : Run (Pass.done result) [] result
  | call {request : Call} {next : Reply request → Pass Call Reply α}
      {rest : List (Exchange Call Reply)} {result : α} (reply : Reply request) :
      Run (next reply) rest result → Run (Pass.call request next) (⟨request, reply⟩ :: rest) result

theorem run_done_iff {result other : α} {trace : List (Exchange Call Reply)} :
    Run (done result) trace other ↔ trace = [] ∧ other = result := by
  constructor
  · rintro ⟨⟩
    exact ⟨rfl, rfl⟩
  · rintro ⟨rfl, rfl⟩
    exact .done _

theorem run_call_iff {request : Call} {next : Reply request → Pass Call Reply α}
    {trace : List (Exchange Call Reply)} {result : α} :
    Run (call request next) trace result ↔
      ∃ reply rest, trace = ⟨request, reply⟩ :: rest ∧ Run (next reply) rest result := by
  constructor
  · rintro ⟨⟩
    exact ⟨_, _, rfl, ‹_›⟩
  · rintro ⟨reply, rest, rfl, run⟩
    exact .call reply run

theorem run_send_iff {request : Call} {trace : List (Exchange Call Reply)} {reply : Reply request} :
    Run (send request) trace reply ↔ trace = [⟨request, reply⟩] := by
  simp only [send, run_call_iff, run_done_iff]
  constructor
  · rintro ⟨_, _, rfl, rfl, rfl⟩
    rfl
  · rintro rfl
    exact ⟨_, _, rfl, rfl, rfl⟩

/-- A pass that starts with a call: the store's reply to it, then a run of the rest. -/
theorem run_send_bind_iff {request : Call} {next : Reply request → Pass Call Reply β}
    {trace : List (Exchange Call Reply)} {result : β} :
    Run (send request >>= next) trace result ↔
      ∃ reply rest, trace = ⟨request, reply⟩ :: rest ∧ Run (next reply) rest result :=
  run_call_iff

/-- A run of a sequenced pass is a run of the first part followed by a run of the rest. -/
theorem run_bind_iff {pass : Pass Call Reply α} {next : α → Pass Call Reply β}
    {trace : List (Exchange Call Reply)} {result : β} :
    Run (pass >>= next) trace result ↔
      ∃ first middle rest, Run pass first middle ∧ Run (next middle) rest result ∧
        trace = first ++ rest := by
  induction pass generalizing trace with
  | done value =>
      simp only [done_bind, run_done_iff]
      constructor
      · intro run
        exact ⟨[], value, trace, ⟨rfl, rfl⟩, run, rfl⟩
      · rintro ⟨_, _, rest, ⟨rfl, rfl⟩, run, rfl⟩
        exact run
  | call request continuation ih =>
      simp only [call_bind, run_call_iff]
      constructor
      · rintro ⟨reply, tail, rfl, run⟩
        obtain ⟨first, middle, rest, head, tailRun, rfl⟩ := (ih reply).mp run
        exact ⟨_, middle, rest, ⟨reply, first, rfl, head⟩, tailRun, rfl⟩
      · rintro ⟨_, middle, rest, ⟨reply, first, rfl, head⟩, run, rfl⟩
        exact ⟨reply, first ++ rest, rfl, (ih reply).mpr ⟨first, middle, rest, head, run, rfl⟩⟩

/-- Fed the replies of `trace`, the pass issues `request` next: what a pass does up to a call
that may never be answered. -/
inductive Reaches : Pass Call Reply α → List (Exchange Call Reply) → Call → Prop
  | here {request : Call} {next : Reply request → Pass Call Reply α} :
      Reaches (call request next) [] request
  | later {request : Call} {next : Reply request → Pass Call Reply α} {rest : List (Exchange Call Reply)}
      {target : Call} (reply : Reply request) :
      Reaches (next reply) rest target → Reaches (call request next) (⟨request, reply⟩ :: rest) target

theorem Reaches.bind {pass : Pass Call Reply α} {trace : List (Exchange Call Reply)} {target : Call}
    (reaches : Reaches pass trace target) (next : α → Pass Call Reply β) :
    Reaches (pass >>= next) trace target := by
  induction reaches with
  | here => exact .here
  | later reply _ ih => exact .later reply ih

/-- A pass that reaches a call no reply answers has no run through it. -/
theorem Reaches.not_run {pass : Pass Call Reply α} {trace : List (Exchange Call Reply)} {target : Call}
    (reaches : Reaches pass trace target) (unanswered : Reply target → False)
    (rest : List (Exchange Call Reply)) (result : α) : ¬ Run pass (trace ++ rest) result := by
  induction reaches with
  | here =>
      intro run
      obtain ⟨reply, -, -, -⟩ := run_call_iff.mp run
      exact unanswered reply
  | later reply _ ih =>
      intro run
      obtain ⟨reply', tail, sent, run⟩ := run_call_iff.mp run
      simp only [List.cons_append, List.cons.injEq, Sigma.mk.inj_iff, heq_eq_eq, true_and] at sent
      obtain ⟨rfl, rfl⟩ := sent
      exact ih unanswered run

/-- The outcome of running a pass against a store that answers from its state. -/
structure Execution (Call : Type) (Reply : Call → Type) (α σ : Type) where
  result : α
  store : σ
  trace : List (Exchange Call Reply)

/-- Run a pass against a store whose reply to each call is computed from its current state. -/
def exec {σ : Type} (answer : σ → (request : Call) → Reply request × σ) :
    Pass Call Reply α → σ → Execution Call Reply α σ
  | done result, store => ⟨result, store, []⟩
  | call request next, store =>
      let execution := exec answer (next (answer store request).1) (answer store request).2
      ⟨execution.result, execution.store, ⟨request, (answer store request).1⟩ :: execution.trace⟩

section Exec

variable {σ : Type} (answer : σ → (request : Call) → Reply request × σ)

@[simp] theorem exec_done (result : α) (store : σ) :
    exec answer (done result) store = ⟨result, store, []⟩ := rfl

theorem exec_bind (pass : Pass Call Reply α) (next : α → Pass Call Reply β) (store : σ) :
    exec answer (pass >>= next) store =
      let first := exec answer pass store
      let rest := exec answer (next first.result) first.store
      ⟨rest.result, rest.store, first.trace ++ rest.trace⟩ := by
  induction pass generalizing store with
  | done result => rfl
  | call request continuation ih =>
      rw [call_bind]
      exact congrArg (fun rest : Execution Call Reply β σ => (⟨rest.result, rest.store,
        ⟨request, (answer store request).1⟩ :: rest.trace⟩ : Execution Call Reply β σ)) (ih _ _)

@[simp] theorem exec_send (request : Call) (store : σ) :
    exec answer (send request) store =
      ⟨(answer store request).1, (answer store request).2, [⟨request, (answer store request).1⟩]⟩ :=
  rfl

/-- Executing against a store is one of the runs. -/
theorem exec_run (pass : Pass Call Reply α) (store : σ) :
    Run pass (exec answer pass store).trace (exec answer pass store).result := by
  induction pass generalizing store with
  | done result => exact .done result
  | call request next ih => exact .call _ (ih _ _)

end Exec

end Pass

end MonitoringStackOperator
