import BlocklessAvs.Aggregator

/-!
# The event loop of `Start`

After subscribing to the two feeds, `Start` loops on a `select` over six cases: the context's `Done`, the error channel
of either subscription, the two log channels, and the response channel of the aggregation service. Go's `select`
receives from one of the ready cases, chosen at random, so the model takes the choice as data: a run is any sequence of
actions, each enabled where it is taken, and a statement about runs is about all of them.

The system is the loop together with what feeds it: the context can be cancelled, a subscription can fail, the
subscriber forwards logs (and drops the one it offers when its producer returns), the aggregation service delivers
completions and the RPC server records responses. A step returns the calls it makes, and a run records, for each
action, the calls it made. What a call answers is part of the action that makes it, so a run also fixes the answers.
Both subscriptions `Start` makes before its loop are taken to work; a renewed one may not (`afterResubscribe`).
-/

namespace BlocklessAvs

/-- What the `select` of `Start` receives, one constructor per case, in the order of the source. -/
inductive Received where
  | done
  | taskCreatedSubErr
  | newTaskCreated (log : NewTaskCreated)
  | taskRespondedSubErr
  | newTaskResponded (log : TaskResponded)
  | aggResponse (r : BlsAggregationServiceResponse)
  deriving DecidableEq, Repr

/-- Where `Start` is: in its loop, returned (it returns only `nil`), or stopped by a panic. -/
inductive Status where
  | running
  | returned
  | panicked (err : Error)
  deriving DecidableEq, Repr

/-- The task-created log a case received, if it received one. -/
def Received.taskLog? : Received → Option NewTaskCreated
  | .newTaskCreated log => some log
  | _ => none

/-- The completion a case received, if it received one. -/
def Received.completion? : Received → Option BlsAggregationServiceResponse
  | .aggResponse r => some r
  | _ => none

/-- The feed whose subscription error a case received, if it received one. -/
def Received.subscriptionErr? : Received → Option Feed
  | .taskCreatedSubErr => some .newTasks
  | .taskRespondedSubErr => some .taskResponses
  | _ => none

/-- The runtime error of a method call on a `nil` interface value. -/
def nilSubscriptionPanic : Error := ⟨"runtime error: invalid memory address or nil pointer dereference"⟩

/-- Where the loop is after it renewed a subscription, by the answer of `SubscribeToNewTasks` or
`SubscribeToTaskResponses`: `none` is a working subscription; `some err` is a subscriber that failed with `err`, which
it only logs, and returned a `nil` subscription. The loop does not check it: the next `select` evaluates `Err()` on the
`nil` subscription before it can receive any case, and panics. -/
def afterResubscribe : Option Error → Status
  | none => .running
  | some _ => .panicked nilSubscriptionPanic

/-- One iteration of the loop of `Start`: the body of the case that received `v`. `answer` is the answer of the call the
body makes that returns one: `InitializeNewTask` for a new task, or the new subscription after a subscription's error
(`afterResubscribe`). What `processTaskCreatedLog` returns is only logged. -/
def Aggregator.handle (core : Core) (agg : Aggregator) (v : Received) (answer : Option Error) :
    Status × Aggregator × List Call :=
  match v with
  | .done => (.returned, agg, [])
  | .taskCreatedSubErr => (afterResubscribe answer, agg, [.unsubscribe .newTasks, .subscribe .newTasks])
  | .newTaskCreated log =>
    let (agg', call, _) := agg.processTaskCreatedLog log answer
    (.running, agg', [call])
  | .taskRespondedSubErr => (afterResubscribe answer, agg, [.unsubscribe .taskResponses, .subscribe .taskResponses])
  | .newTaskResponded _ => (.running, agg, [])
  | .aggResponse r =>
    match agg.sendAggregatedResponseToContract core r with
    | .error err => (.panicked err, agg, [])
    | .ok call => (.running, agg, [call])

/-! ## The system -/

/-- What the channels of the `select` hold at an iteration boundary. `Done` is closed once the context is cancelled;
the `Err` channel of each current subscription holds at most one error. The channels are unbuffered, so each holds the
values its senders are blocked on: on a log channel, what the subscription's producer offers, oldest first; on the
response channel, one completion for each of the aggregation service's goroutines that waits to send, in no order. -/
structure Inputs where
  ctxDone : Bool
  taskCreatedSubErr : Bool
  newTaskCreated : List NewTaskCreated
  taskRespondedSubErr : Bool
  newTaskResponded : List TaskResponded
  aggResponses : List BlsAggregationServiceResponse

/-- The channels when `Start` enters its loop. -/
def Inputs.empty : Inputs := ⟨false, false, [], false, [], []⟩

/-- The case that receives `v` is ready. -/
def Inputs.ready (i : Inputs) : Received → Bool
  | .done => i.ctxDone
  | .taskCreatedSubErr => i.taskCreatedSubErr
  | .newTaskCreated log => i.newTaskCreated.head? == some log
  | .taskRespondedSubErr => i.taskRespondedSubErr
  | .newTaskResponded log => i.newTaskResponded.head? == some log
  | .aggResponse r => decide (r ∈ i.aggResponses)

/-- The channels after the `select` received `v`: a log or a completion leaves its channel, and a subscription's error
is gone with the subscription it came from. `Done` stays closed. -/
def Inputs.receive (i : Inputs) : Received → Inputs
  | .done => i
  | .taskCreatedSubErr => { i with taskCreatedSubErr := false }
  | .newTaskCreated _ => { i with newTaskCreated := i.newTaskCreated.tail }
  | .taskRespondedSubErr => { i with taskRespondedSubErr := false }
  | .newTaskResponded _ => { i with newTaskResponded := i.newTaskResponded.tail }
  | .aggResponse r => { i with aggResponses := i.aggResponses.erase r }

/-- The loop, its channels and the registry it shares with the RPC server. -/
structure Sys where
  inputs : Inputs
  agg : Aggregator
  status : Status

/-- The system when `Start` enters its loop with the registry `agg`. -/
def Sys.start (agg : Aggregator) : Sys := ⟨Inputs.empty, agg, .running⟩

/-- What the processes around the loop do. -/
inductive Event where
  | cancel
  | failSubscription (feed : Feed)
  | emitNewTaskCreated (log : NewTaskCreated)
  | abandonNewTaskCreated (log : NewTaskCreated)
  | emitTaskResponded (log : TaskResponded)
  | abandonTaskResponded (log : TaskResponded)
  | deliver (r : BlsAggregationServiceResponse)
  | recordResponse (i : TaskIndex) (d : TaskResponseDigest) (resp : TaskResponse)
  deriving DecidableEq, Repr

/-- An event around the loop can happen now: a producer abandons only the log it offers, the oldest on its channel. -/
def Inputs.allows (i : Inputs) : Event → Bool
  | .abandonNewTaskCreated log => i.newTaskCreated.head? == some log
  | .abandonTaskResponded log => i.newTaskResponded.head? == some log
  | _ => true

/-- The system after an event around the loop. An abandoned log is that of a subscription's producer returning, when
the subscription fails or is unsubscribed, while it offers the log, which then leaves the channel unreceived. -/
def Sys.apply (s : Sys) : Event → Sys
  | .cancel => { s with inputs := { s.inputs with ctxDone := true } }
  | .failSubscription .newTasks => { s with inputs := { s.inputs with taskCreatedSubErr := true } }
  | .failSubscription .taskResponses => { s with inputs := { s.inputs with taskRespondedSubErr := true } }
  | .emitNewTaskCreated log => { s with inputs := { s.inputs with newTaskCreated := s.inputs.newTaskCreated ++ [log] } }
  | .abandonNewTaskCreated _ => { s with inputs := { s.inputs with newTaskCreated := s.inputs.newTaskCreated.tail } }
  | .emitTaskResponded log =>
    { s with inputs := { s.inputs with newTaskResponded := s.inputs.newTaskResponded ++ [log] } }
  | .abandonTaskResponded _ =>
    { s with inputs := { s.inputs with newTaskResponded := s.inputs.newTaskResponded.tail } }
  | .deliver r => { s with inputs := { s.inputs with aggResponses := s.inputs.aggResponses ++ [r] } }
  | .recordResponse i d resp => { s with agg := s.agg.recordResponse i d resp }

/-- A step of the system: an event around the loop, or one iteration of the loop receiving `v`. -/
inductive Action where
  | env (x : Event)
  | select (v : Received) (answer : Option Error)
  deriving DecidableEq, Repr

/-- One step and the calls it makes; `none` when the action is not enabled. An event needs the channels to allow it;
an iteration needs the loop running and its case ready. -/
def step (core : Core) (s : Sys) : Action → Option (List Call × Sys)
  | .env x => if s.inputs.allows x then some ([], s.apply x) else none
  | .select v answer =>
    if s.status = .running ∧ s.inputs.ready v = true then
      let (status, agg, calls) := s.agg.handle core v answer
      some (calls, ⟨s.inputs.receive v, agg, status⟩)
    else none

/-- `Run core s tr s'`: from `s` the actions of `tr` can be taken in order, make the calls `tr` records, and end in
`s'`. -/
inductive Run (core : Core) : Sys → List (Action × List Call) → Sys → Prop where
  | nil (s : Sys) : Run core s [] s
  | cons {s s₁ s' : Sys} {a : Action} {calls : List Call} {tr : List (Action × List Call)} :
      step core s a = some (calls, s₁) → Run core s₁ tr s' → Run core s ((a, calls) :: tr) s'

/-- The run of the actions `as` from `s`: the end state and the calls of each action, or `none` at the first action
that is not enabled. -/
def runActions (core : Core) (s : Sys) : List Action → Option (Sys × List (Action × List Call))
  | [] => some (s, [])
  | a :: as => (step core s a).bind fun (calls, s₁) =>
      (runActions core s₁ as).map fun (s', tr) => (s', (a, calls) :: tr)

/-- `runActions` computes exactly the runs whose actions are the ones given. -/
theorem runActions_iff {core : Core} {s s' : Sys} {as : List Action} {tr : List (Action × List Call)} :
    runActions core s as = some (s', tr) ↔ Run core s tr s' ∧ tr.map (·.1) = as := by
  induction as generalizing s tr with
  | nil =>
    constructor
    · intro h; cases h; exact ⟨.nil _, rfl⟩
    · rintro ⟨h, hm⟩
      cases h with
      | nil => rfl
      | cons => cases hm
  | cons a as ih =>
    constructor
    · intro h
      simp only [runActions, Option.bind_eq_some, Option.map_eq_some'] at h
      obtain ⟨⟨calls, s₁⟩, hs, ⟨s'', tr'⟩, hr, he⟩ := h
      cases he
      obtain ⟨hr', hm⟩ := ih.1 hr
      exact ⟨.cons hs hr', by simp [hm]⟩
    · rintro ⟨h, hm⟩
      cases h with
      | nil => cases hm
      | @cons _ s₁ _ a' calls tr' hs hr' =>
        simp only [List.map_cons, List.cons.injEq] at hm
        obtain ⟨rfl, hm⟩ := hm
        simp [runActions, hs, ih.2 ⟨hr', hm⟩]

/-- The task-created log an action's iteration handled. -/
def Action.taskLog? : Action → Option NewTaskCreated
  | .select v _ => v.taskLog?
  | .env _ => none

/-- The completion an action's iteration handled. -/
def Action.completion? : Action → Option BlsAggregationServiceResponse
  | .select v _ => v.completion?
  | .env _ => none

/-- The feed whose subscription error an action's iteration handled. -/
def Action.subscriptionErr? : Action → Option Feed
  | .select v _ => v.subscriptionErr?
  | .env _ => none

/-- The task-created log an action took off its channel: the one the loop handled, or the one its producer abandoned. -/
def Action.taskLogTaken? : Action → Option NewTaskCreated
  | .select v _ => v.taskLog?
  | .env (.abandonNewTaskCreated log) => some log
  | .env _ => none

/-- The task-created log an action forwarded to the log channel. -/
def Action.emitted? : Action → Option NewTaskCreated
  | .env (.emitNewTaskCreated log) => some log
  | _ => none

/-- The completion an action delivered to the response channel. -/
def Action.delivered? : Action → Option BlsAggregationServiceResponse
  | .env (.deliver r) => some r
  | _ => none

/-- The response an action recorded in the registry, under its task index and digest. -/
def Action.recorded? : Action → Option ((TaskIndex × TaskResponseDigest) × TaskResponse)
  | .env (.recordResponse i d resp) => some ((i, d), resp)
  | _ => none

/-! ## One iteration -/

/-- An iteration stores a task exactly when it received a task-created log, and then the log's task under its index. -/
theorem handle_tasks (core : Core) (agg : Aggregator) (v : Received) (e : Option Error) :
    (agg.handle core v e).2.1.tasks = v.taskLog?.elim agg.tasks fun log => agg.tasks.set log.taskIndex log.task := by
  cases v with
  | aggResponse r => simp only [Aggregator.handle]; split <;> rfl
  | _ => rfl

/-- An iteration never writes the responses: only the RPC server does. -/
theorem handle_taskResponses (core : Core) (agg : Aggregator) (v : Received) (e : Option Error) :
    (agg.handle core v e).2.1.taskResponses = agg.taskResponses := by
  cases v with
  | aggResponse r => simp only [Aggregator.handle]; split <;> rfl
  | _ => rfl

/-- A submission an iteration makes is the one of a completion without error that it received. -/
theorem handle_isSend (core : Core) (agg : Aggregator) (v : Received) (e : Option Error) {c : Call}
    (hc : c ∈ (agg.handle core v e).2.2) (hs : c.isSend = true) : ∃ r, v.completion? = some r ∧ r.err = none := by
  cases v with
  | aggResponse r =>
    cases h : r.err with
    | none => exact ⟨r, rfl, h⟩
    | some err => simp [Aggregator.handle, h] at hc
  | done | newTaskResponded _ => simp [Aggregator.handle] at hc
  | taskCreatedSubErr | taskRespondedSubErr | newTaskCreated _ =>
    simp [Aggregator.handle, Aggregator.processTaskCreatedLog] at hc
    rcases hc with rfl | rfl <;> cases hs

/-- An iteration opens an aggregation session exactly when it received a task-created log, for the log's task. -/
theorem handle_initializedTask (core : Core) (agg : Aggregator) (v : Received) (e : Option Error) :
    (agg.handle core v e).2.2.filterMap Call.initializedTask? = (v.taskLog?.map (·.taskIndex)).toList := by
  cases v with
  | aggResponse r => cases h : r.err <;> simp [Aggregator.handle, h, Call.initializedTask?, Received.taskLog?]
  | _ => rfl

/-- An iteration calls the subscriber exactly when it received a subscription error: it unsubscribes the failed
subscription, then subscribes the same feed again. -/
theorem handle_subscription (core : Core) (agg : Aggregator) (v : Received) (e : Option Error) :
    (agg.handle core v e).2.2.filterMap Call.subscription? =
      v.subscriptionErr?.toList.flatMap fun f => [(f, false), (f, true)] := by
  cases v with
  | aggResponse r => cases h : r.err <;> simp [Aggregator.handle, h, Call.subscription?, Received.subscriptionErr?]
  | _ => rfl

/-- An iteration submits exactly when it received a completion without error, with the completion's signature. -/
theorem handle_submittedSignature (core : Core) (agg : Aggregator) (v : Received) (e : Option Error) :
    (agg.handle core v e).2.2.filterMap Call.submittedSignature? =
      ((v.completion?.filter (·.err.isNone)).map (nonSignerStakesAndSignature core)).toList := by
  cases v with
  | aggResponse r =>
    cases h : r.err <;> simp [Aggregator.handle, h, Call.submittedSignature?, Received.completion?, Option.filter]
  | _ => rfl

/-- An iteration makes at most one submission. -/
theorem handle_countP_isSend (core : Core) (agg : Aggregator) (v : Received) (e : Option Error) :
    (agg.handle core v e).2.2.countP Call.isSend ≤ 1 := by
  cases v with
  | aggResponse r => cases h : r.err <;> simp [Aggregator.handle, h, List.countP_cons, Call.isSend]
  | _ => simp [Aggregator.handle, Aggregator.processTaskCreatedLog, List.countP_cons, Call.isSend]

/-- An iteration returns exactly when it received `Done`. -/
theorem handle_returned (core : Core) (agg : Aggregator) (v : Received) (e : Option Error) :
    (agg.handle core v e).1 = .returned ↔ v = .done := by
  cases v with
  | aggResponse r => cases h : r.err <;> simp [Aggregator.handle, h]
  | taskCreatedSubErr | taskRespondedSubErr => cases e <;> simp [Aggregator.handle, afterResubscribe]
  | _ => simp [Aggregator.handle]

/-- An iteration step: the loop was running, its case was ready, and the step is the body of the case. -/
theorem step_select {core : Core} {s s' : Sys} {v : Received} {e : Option Error} {calls : List Call}
    (h : step core s (.select v e) = some (calls, s')) :
    s.status = .running ∧ s.inputs.ready v = true ∧ calls = (s.agg.handle core v e).2.2 ∧
      s' = ⟨s.inputs.receive v, (s.agg.handle core v e).2.1, (s.agg.handle core v e).1⟩ := by
  simp only [step] at h
  split at h
  · obtain ⟨hr, hv⟩ := ‹_ ∧ _›
    simp only [Option.some.injEq, Prod.mk.injEq] at h
    exact ⟨hr, hv, h.1.symm, h.2.symm⟩
  · cases h

/-- An event step: the channels allowed the event, which makes no call. -/
theorem step_env {core : Core} {s s' : Sys} {x : Event} {calls : List Call}
    (h : step core s (.env x) = some (calls, s')) : calls = [] ∧ s' = s.apply x ∧ s.inputs.allows x = true := by
  simp only [step] at h
  split at h
  · simp only [Option.some.injEq, Prod.mk.injEq] at h
    exact ⟨h.1.symm, h.2.symm, ‹_›⟩
  · cases h

@[simp] theorem apply_status (s : Sys) (x : Event) : (s.apply x).status = s.status := by
  cases x <;> try cases ‹Feed›
  all_goals rfl

@[simp] theorem apply_tasks (s : Sys) (x : Event) : (s.apply x).agg.tasks = s.agg.tasks := by
  cases x <;> try cases ‹Feed›
  all_goals rfl

/-- Events around the loop write the responses only by recording one. -/
theorem apply_taskResponses (s : Sys) (x : Event) :
    (s.apply x).agg.taskResponses.uncurry =
      (Action.env x).recorded?.elim s.agg.taskResponses.uncurry fun r => s.agg.taskResponses.uncurry.set r.1 r.2 := by
  cases x <;> try cases ‹Feed›
  case recordResponse i d resp => exact recordResponse_taskResponses s.agg i d resp
  all_goals rfl

/-- Events around the loop add a completion to the response channel exactly when they deliver one. -/
theorem apply_aggResponses (s : Sys) (x : Event) :
    (s.apply x).inputs.aggResponses = s.inputs.aggResponses ++ (Action.env x).delivered?.toList := by
  cases x <;> try cases ‹Feed›
  all_goals simp [Sys.apply, Action.delivered?]

/-- An event around the loop appends to the task-created channel the log it forwards, and takes off its front the log
it abandons. -/
theorem apply_newTaskCreated {s : Sys} {x : Event} (hx : s.inputs.allows x = true) :
    (Action.env x).taskLogTaken?.toList ++ (s.apply x).inputs.newTaskCreated =
      s.inputs.newTaskCreated ++ (Action.env x).emitted?.toList := by
  cases x <;> try cases ‹Feed›
  case abandonNewTaskCreated log =>
    simp only [Inputs.allows, beq_iff_eq] at hx
    simpa [Sys.apply, Action.taskLogTaken?, Action.emitted?] using List.cons_head?_tail hx
  all_goals simp [Sys.apply, Action.taskLogTaken?, Action.emitted?]

/-- Receiving takes the log it received off the front of the task-created channel, and nothing else. -/
theorem receive_newTaskCreated {i : Inputs} {v : Received} (h : i.ready v = true) :
    v.taskLog?.toList ++ (i.receive v).newTaskCreated = i.newTaskCreated := by
  cases v with
  | newTaskCreated log =>
    simp only [Inputs.ready, beq_iff_eq] at h
    simpa [Inputs.receive, Received.taskLog?] using List.cons_head?_tail h
  | _ => rfl

/-- Receiving takes the completion it received out of the response channel. -/
theorem receive_aggResponses {i : Inputs} {v : Received} (h : i.ready v = true) :
    (v.completion?.toList ++ (i.receive v).aggResponses).Perm i.aggResponses := by
  cases v with
  | aggResponse r =>
    simp only [Inputs.ready, decide_eq_true_eq] at h
    exact (List.perm_cons_erase h).symm
  | _ => exact List.Perm.refl _

end BlocklessAvs
