import Mathlib.Data.List.Nodup
import BlocklessAvs.Lemmas.Runs
import BlocklessAvs.Theorems.Calls

/-!
# Runs of the event loop

What holds over every run of the loop of `Start` together with what feeds it, from the step lemmas of `Lemmas.Runs`.

The registry. Design record section 4.1 forbids overwriting a task and section 7 drops an event whose registration
fails. `processTaskCreatedLog` does neither: it stores the task before it asks the aggregation service to track it, and
it stores it whatever the service answers (`task_overwritten_after_failed_initialization`). What holds from an empty
registry is `tasks_hold_last_log`: an index is a key exactly when the loop handled a log with that index, and the task
stored is that of the last such log.

Submissions. `sendAggregatedResponse_at_most_once` is the at-most-once guarantee of design record section 4.4: a
submission is made only by the iteration that received a completion without error, and if the aggregation service
delivers at most one completion per task index, the loop submits at most once per task index, since it receives each
completion delivered once, in any order (`Run.aggResponses`). `submission_reads_registry` says what a submission
carries: what the registry held when it was made. `calls_account_for_inputs` accounts for every call of a run by what
the loop received, in order.

Logs. The task-created channel loses a log only when the producer that offers it returns
(`taskCreated_handled_in_order`).

Panics. Section 7 makes an aggregation error fatal and keeps every other error inside the loop. The loop also stops on
one other: the `nil` subscription a failed renewal leaves (`loop_panics_iff`).

Cancellation. Section 5 says cancellation takes priority at an iteration boundary. `Start` has no such priority: its
`select` may receive from any ready case, so with the context cancelled and a log ready, the loop may still handle the
log (`cancel_not_prioritised`). What holds is `loop_returns_on_done`: after cancellation `Done` is ready at every
boundary and receiving it returns at once; the loop returns only by receiving `Done`; and once it has returned nothing
is handled.
-/

namespace BlocklessAvs

/-! ## The task registry -/

/-- The tasks after a run from an empty registry: for each index, the task of the last log with that index the loop
handled, and nothing when it handled none, whatever the aggregation service answered. -/
theorem tasks_hold_last_log {core : Core} {s s' : Sys} {tr : List (Action × List Call)} (hr : Run core s tr s')
    (hs : s.agg.tasks = GoMap.empty) (i : TaskIndex) :
    s'.agg.tasks i = (((tr.filterMap (·.1.taskLog?)).filter (·.taskIndex == i)).getLast?).map (·.task) := by
  rw [hr.tasks, GoMap.foldl_set_apply, hs, GoMap.empty_apply, Option.or_none]

/-- The run of two logs for task 0, the first one's session opened and the second one's refused. -/
def twoLogsForTask0 : List Action :=
  [.env (.emitNewTaskCreated ⟨0, ⟨some 1, 0, [], 0⟩⟩), .select (.newTaskCreated ⟨0, ⟨some 1, 0, [], 0⟩⟩) none,
    .env (.emitNewTaskCreated ⟨0, ⟨some 2, 0, [], 0⟩⟩),
    .select (.newTaskCreated ⟨0, ⟨some 2, 0, [], 0⟩⟩) (some ⟨"task 0 already initialized"⟩)]

/-- `tasks_hold_last_log` on `twoLogsForTask0`: task 0 holds the second log's task. -/
theorem tasks_hold_last_log_twoLogs :
    ∃ tr s', Run Core.copy (Sys.start Aggregator.new) tr s' ∧ tr.map (·.1) = twoLogsForTask0 ∧
      (Sys.start Aggregator.new).agg.tasks = GoMap.empty ∧
      s'.agg.tasks 0 = (((tr.filterMap (·.1.taskLog?)).filter (·.taskIndex == 0)).getLast?).map (·.task) := by
  obtain ⟨hr, hm⟩ := runActions_iff.1 (rfl : runActions Core.copy (Sys.start Aggregator.new) twoLogsForTask0 = some (_, _))
  exact ⟨_, _, hr, hm, rfl, tasks_hold_last_log hr rfl 0⟩

/-- A duplicate log overwrites the stored task even though its session is refused: after `twoLogsForTask0`, task 0
holds the payload of the log whose `InitializeNewTask` failed, not of the one that opened the session. -/
theorem task_overwritten_after_failed_initialization :
    ∃ tr s', Run Core.copy (Sys.start Aggregator.new) tr s' ∧ tr.map (·.1) = twoLogsForTask0 ∧
      s'.agg.tasks 0 = some ⟨some 2, 0, [], 0⟩ := by
  obtain ⟨hr, hm⟩ := runActions_iff.1 (rfl : runActions Core.copy (Sys.start Aggregator.new) twoLogsForTask0 = some (_, _))
  exact ⟨_, _, hr, hm, rfl⟩

/-! ## At most one submission per task -/

/-- The submissions a run makes while handling completions of task `i`. -/
def sendsFor (tr : List (Action × List Call)) (i : TaskIndex) : Nat :=
  ((tr.filter fun e => e.1.completion?.map (·.taskIndex) == some i).flatMap (·.2)).countP Call.isSend

namespace LoopAux

/-- A run that handles no completion of task `i` makes no submission for it. -/
theorem sendsFor_eq_zero {tr : List (Action × List Call)} {i : TaskIndex}
    (h : i ∉ tr.filterMap fun e => e.1.completion?.map (·.taskIndex)) : sendsFor tr i = 0 := by
  rw [sendsFor, List.filter_eq_nil_iff.2]
  · rfl
  · intro e he hi
    exact h (List.mem_filterMap.2 ⟨e, he, by simpa using hi⟩)

/-- A run that handles each task's completion at most once, and submits at most once an iteration, submits at most once
for each task. -/
theorem sendsFor_le_one {tr : List (Action × List Call)}
    (hnd : (tr.filterMap fun e => e.1.completion?.map (·.taskIndex)).Nodup)
    (h1 : ∀ e ∈ tr, e.2.countP Call.isSend ≤ 1) (i : TaskIndex) : sendsFor tr i ≤ 1 := by
  induction tr with
  | nil => simp [sendsFor]
  | cons e tr ih =>
    rw [filterMap_cons_toList, List.nodup_append] at hnd
    obtain ⟨-, hnd, hdisj⟩ := hnd
    have ih := ih hnd fun e' he' => h1 e' (List.mem_cons_of_mem e he')
    simp only [sendsFor, List.filter_cons] at ih ⊢
    split
    · rename_i hi
      have hrest : sendsFor tr i = 0 :=
        sendsFor_eq_zero fun hm => hdisj (by simpa using hi) hm
      rw [sendsFor] at hrest
      rw [List.flatMap_cons, List.countP_append, hrest]
      exact h1 e (List.mem_cons_self e tr)
    · exact ih

/-- An iteration's handled log is a log it took off the channel. -/
theorem taskLogTaken?_of_taskLog? {a : Action} {log : NewTaskCreated} (h : a.taskLog? = some log) :
    a.taskLogTaken? = some log := by
  cases a with
  | select v e => exact h
  | env x => cases h

/-- Keeping what `f` keeps, where `g` keeps the same, keeps a sublist of what `g` keeps. -/
theorem filterMap_sublist_filterMap {α β : Type} {f g : α → Option β} (hfg : ∀ a b, f a = some b → g a = some b)
    (l : List α) : (l.filterMap f).Sublist (l.filterMap g) := by
  induction l with
  | nil => exact .slnil
  | cons a l ih =>
    rw [filterMap_cons_toList, filterMap_cons_toList]
    cases hf : f a with
    | none => exact ih.trans (List.sublist_append_right _ _)
    | some b => rw [hfg a b hf]; exact ih.cons_cons b

end LoopAux

/-- The loop submits only in the iteration that received a completion without error; and if the aggregation service
delivers at most one completion per task index, it submits at most once per task index. -/
theorem sendAggregatedResponse_at_most_once {core : Core} {agg : Aggregator} {tr : List (Action × List Call)}
    {s' : Sys} (hr : Run core (Sys.start agg) tr s')
    (hdel : ((tr.filterMap (·.1.delivered?)).map (·.taskIndex)).Nodup) :
    (∀ e ∈ tr, ∀ c ∈ e.2, c.isSend = true → ∃ r, e.1.completion? = some r ∧ r.err = none) ∧
      ∀ i, sendsFor tr i ≤ 1 := by
  have hq := Run.aggResponses hr
  simp only [Sys.start, Inputs.empty, List.nil_append] at hq
  have hnd : (tr.filterMap fun e => e.1.completion?.map (·.taskIndex)).Nodup := by
    rw [← List.map_filterMap]
    have := (hq.map (·.taskIndex)).nodup_iff.2 hdel
    rw [List.map_append] at this
    exact this.sublist (List.sublist_append_left _ _)
  exact ⟨Run.forall_mem (fun h => (step_sends h).1) hr,
    LoopAux.sendsFor_le_one hnd (Run.forall_mem (fun h => (step_sends h).2) hr)⟩

/-- `sendAggregatedResponse_at_most_once` on the scenario of design record section 8.6: task 5 created at block 1000
with quorum 0 and threshold 66, a response recorded under digest `0xAB`, and the completion for that digest. -/
theorem sendAggregatedResponse_at_most_once_scenario :
    ∃ tr s', Run Core.copy (Sys.start Aggregator.new) tr s' ∧
      tr.map (·.1) = [.env (.emitNewTaskCreated ⟨5, ⟨some 3, 1000, [0], 66⟩⟩),
        .select (.newTaskCreated ⟨5, ⟨some 3, 1000, [0], 66⟩⟩) none, .env (.recordResponse 5 0xAB ⟨5, some 9⟩),
        .env (.deliver completion₅), .select (.aggResponse completion₅) none] ∧
      ((tr.filterMap (·.1.delivered?)).map (·.taskIndex)).Nodup ∧
      (∀ e ∈ tr, ∀ c ∈ e.2, c.isSend = true → ∃ r, e.1.completion? = some r ∧ r.err = none) ∧
      ∀ i, sendsFor tr i ≤ 1 := by
  obtain ⟨hr, hm⟩ := runActions_iff.1 (rfl : runActions Core.copy (Sys.start Aggregator.new)
    [.env (.emitNewTaskCreated ⟨5, ⟨some 3, 1000, [0], 66⟩⟩), .select (.newTaskCreated ⟨5, ⟨some 3, 1000, [0], 66⟩⟩) none,
      .env (.recordResponse 5 0xAB ⟨5, some 9⟩), .env (.deliver completion₅), .select (.aggResponse completion₅) none] =
    some (_, _))
  refine ⟨_, _, hr, hm, ?hdel, sendAggregatedResponse_at_most_once hr ?hdel⟩
  decide

/-! ## What a submission carries -/

/-- What a submission reads, along every run from the empty registry of `NewAggregator`: the iteration that receives a
completion `r` submits the task of the last log the loop handled for `r.TaskIndex`, the response last recorded under
`r.TaskIndex` and `r.TaskResponseDigest`, each the zero value when there is none, and the signature of `r`. -/
theorem submission_reads_registry {core : Core} {tr : List (Action × List Call)} {s₁ s₂ : Sys}
    {r : BlsAggregationServiceResponse} {e : Option Error} {calls : List Call} {task : Task} {resp : TaskResponse}
    {sig : NonSignerStakesAndSignature} (hr : Run core (Sys.start Aggregator.new) tr s₁)
    (h : step core s₁ (.select (.aggResponse r) e) = some (calls, s₂))
    (hc : .sendAggregatedResponse task resp sig ∈ calls) :
    task = ((((tr.filterMap (·.1.taskLog?)).filter (·.taskIndex == r.taskIndex)).getLast?).map (·.task)).getD default ∧
      resp = ((((tr.filterMap (·.1.recorded?)).filter (fun x => x.1 = (r.taskIndex, r.taskResponseDigest))).getLast?).map
        (·.2)).getD default ∧
      sig = nonSignerStakesAndSignature core r := by
  obtain ⟨-, -, rfl, -⟩ := step_select h
  obtain ⟨_, hr', herr⟩ := handle_isSend core s₁.agg _ e hc rfl
  cases hr'
  simp only [Aggregator.handle, sendAggregatedResponseToContract_of_ok core _ herr, List.mem_singleton,
    Call.sendAggregatedResponse.injEq] at hc
  obtain ⟨rfl, rfl, rfl⟩ := hc
  refine ⟨?_, ?_, rfl⟩
  · rw [GoMap.index, hr.tasks, GoMap.foldl_set_apply]
    exact congrArg (Option.getD · default) Option.or_none
  · rw [GoMap.index_index, hr.taskResponses, GoMap.foldl_set_apply]
    exact congrArg (Option.getD · default) Option.or_none

/-- Task 5 created and handled, responses recorded for it under two digests, and the completion for `0xAB` delivered. -/
def twoDigestsForTask5 : List Action :=
  [.env (.emitNewTaskCreated ⟨5, ⟨some 3, 1000, [0], 66⟩⟩), .select (.newTaskCreated ⟨5, ⟨some 3, 1000, [0], 66⟩⟩) none,
    .env (.recordResponse 5 0xAB ⟨5, some 9⟩), .env (.recordResponse 5 0xCD ⟨5, some 10⟩), .env (.deliver completion₅)]

/-- `submission_reads_registry` after `twoDigestsForTask5`: the submission carries task 5 and the response recorded
under `0xAB`, which the one recorded under `0xCD` did not displace. -/
theorem submission_reads_registry_twoDigests :
    ∃ tr s₁ calls s₂, Run Core.copy (Sys.start Aggregator.new) tr s₁ ∧ tr.map (·.1) = twoDigestsForTask5 ∧
      step Core.copy s₁ (.select (.aggResponse completion₅) none) = some (calls, s₂) ∧
      .sendAggregatedResponse ⟨some 3, 1000, [0], 66⟩ ⟨5, some 9⟩ (nonSignerStakesAndSignature Core.copy completion₅) ∈
        calls ∧
      (⟨some 3, 1000, [0], 66⟩ : Task) = ((((tr.filterMap (·.1.taskLog?)).filter (·.taskIndex == 5)).getLast?).map
        (·.task)).getD default ∧
      (⟨5, some 9⟩ : TaskResponse) = ((((tr.filterMap (·.1.recorded?)).filter (fun x => x.1 = (5, 0xAB))).getLast?).map
        (·.2)).getD default ∧
      nonSignerStakesAndSignature Core.copy completion₅ = nonSignerStakesAndSignature Core.copy completion₅ := by
  obtain ⟨hr, hm⟩ := runActions_iff.1
    (rfl : runActions Core.copy (Sys.start Aggregator.new) twoDigestsForTask5 = some (_, _))
  exact ⟨_, _, _, _, hr, hm, rfl, List.mem_singleton_self _,
    submission_reads_registry (r := completion₅) (e := none) hr rfl (List.mem_singleton_self _)⟩

/-! ## What the loop calls -/

/-- Over every run of the event loop, in order: the sessions opened are those of the task-created logs handled; the
calls to the subscriber are, for each subscription error handled, an `Unsubscribe` of the failed feed and a new
subscription to it; and the submissions carry the signatures of the completions without error handled. -/
theorem calls_account_for_inputs {core : Core} {s s' : Sys} {tr : List (Action × List Call)} (hr : Run core s tr s') :
    (tr.flatMap (·.2)).filterMap Call.initializedTask? = (tr.filterMap (·.1.taskLog?)).map (·.taskIndex) ∧
    (tr.flatMap (·.2)).filterMap Call.subscription? =
      (tr.filterMap (·.1.subscriptionErr?)).flatMap (fun f => [(f, false), (f, true)]) ∧
    (tr.flatMap (·.2)).filterMap Call.submittedSignature? =
      ((tr.filterMap (·.1.completion?)).filter (·.err.isNone)).map (nonSignerStakesAndSignature core) := by
  refine ⟨?_, ?_, ?_⟩
  · rw [Run.calls_filterMap _ (fun a => (a.taskLog?.map (·.taskIndex)).toList) (handle_initializedTask core)
      (fun _ => rfl) hr, List.map_filterMap, List.filterMap_eq_flatMap_toList]
  · rw [Run.calls_filterMap _ (fun a => a.subscriptionErr?.toList.flatMap fun f => [(f, false), (f, true)])
      (handle_subscription core) (fun _ => rfl) hr, List.filterMap_eq_flatMap_toList, List.flatMap_assoc]
  · rw [Run.calls_filterMap _
      (fun a => ((a.completion?.filter (·.err.isNone)).map (nonSignerStakesAndSignature core)).toList)
      (handle_submittedSignature core) (fun _ => rfl) hr, List.filter_filterMap, List.map_filterMap,
      List.filterMap_eq_flatMap_toList]

/-- Task 5's log handled, the subscription to new tasks failing and renewed, a response recorded, and the completion of
task 5 handled. -/
def logErrorCompletion : List Action :=
  [.env (.emitNewTaskCreated ⟨5, ⟨some 3, 1000, [0], 66⟩⟩), .select (.newTaskCreated ⟨5, ⟨some 3, 1000, [0], 66⟩⟩) none,
    .env (.failSubscription .newTasks), .select .taskCreatedSubErr none, .env (.recordResponse 5 0xAB ⟨5, some 9⟩),
    .env (.deliver completion₅), .select (.aggResponse completion₅) none]

/-- `calls_account_for_inputs` on `logErrorCompletion`: one session for task 5, one renewal of the new-task
subscription, one submission with the signature of `completion₅`. -/
theorem calls_account_for_inputs_logErrorCompletion :
    ∃ tr s', Run Core.copy (Sys.start Aggregator.new) tr s' ∧ tr.map (·.1) = logErrorCompletion ∧
      ((tr.flatMap (·.2)).filterMap Call.initializedTask? = (tr.filterMap (·.1.taskLog?)).map (·.taskIndex) ∧
      (tr.flatMap (·.2)).filterMap Call.subscription? =
        (tr.filterMap (·.1.subscriptionErr?)).flatMap (fun f => [(f, false), (f, true)]) ∧
      (tr.flatMap (·.2)).filterMap Call.submittedSignature? =
        ((tr.filterMap (·.1.completion?)).filter (·.err.isNone)).map (nonSignerStakesAndSignature Core.copy)) := by
  obtain ⟨hr, hm⟩ := runActions_iff.1
    (rfl : runActions Core.copy (Sys.start Aggregator.new) logErrorCompletion = some (_, _))
  exact ⟨_, _, hr, hm, calls_account_for_inputs hr⟩

/-! ## Task-created logs -/

/-- Task-created logs leave their channel in the order the subscriber forwarded them, each handled by the loop or
abandoned by the producer that offered it, and none is lost otherwise: whatever subscription errors and renewals come
between, the logs taken off the channel and then those still waiting are exactly those forwarded. So the logs handled,
then those waiting, come in the order forwarded, and none twice. -/
theorem taskCreated_handled_in_order {core : Core} {agg : Aggregator} {tr : List (Action × List Call)} {s' : Sys}
    (hr : Run core (Sys.start agg) tr s') :
    tr.filterMap (·.1.taskLogTaken?) ++ s'.inputs.newTaskCreated = tr.filterMap (·.1.emitted?) ∧
      (tr.filterMap (·.1.taskLog?) ++ s'.inputs.newTaskCreated).Sublist (tr.filterMap (·.1.emitted?)) := by
  have h : tr.filterMap (·.1.taskLogTaken?) ++ s'.inputs.newTaskCreated = tr.filterMap (·.1.emitted?) :=
    hr.newTaskCreated
  refine ⟨h, ?_⟩
  rw [← h]
  exact (LoopAux.filterMap_sublist_filterMap (fun _ _ => LoopAux.taskLogTaken?_of_taskLog?) tr).append_right _

/-- Log 1 forwarded; the subscription to new tasks failing while its producer offers log 1, which the producer
abandons; the subscription renewed; log 2 forwarded and handled; log 3 forwarded. -/
def logsAcrossResubscription : List Action :=
  [.env (.emitNewTaskCreated ⟨1, default⟩), .env (.failSubscription .newTasks),
    .env (.abandonNewTaskCreated ⟨1, default⟩), .select .taskCreatedSubErr none,
    .env (.emitNewTaskCreated ⟨2, default⟩), .select (.newTaskCreated ⟨2, default⟩) none,
    .env (.emitNewTaskCreated ⟨3, default⟩)]

/-- `taskCreated_handled_in_order` on `logsAcrossResubscription`: log 1 abandoned, log 2 handled, log 3 waiting. -/
theorem taskCreated_handled_in_order_resubscribed :
    ∃ tr s', Run Core.copy (Sys.start Aggregator.new) tr s' ∧ tr.map (·.1) = logsAcrossResubscription ∧
      tr.filterMap (·.1.taskLog?) = [⟨2, default⟩] ∧ s'.inputs.newTaskCreated = [⟨3, default⟩] ∧
      (tr.filterMap (·.1.taskLogTaken?) ++ s'.inputs.newTaskCreated = tr.filterMap (·.1.emitted?) ∧
        (tr.filterMap (·.1.taskLog?) ++ s'.inputs.newTaskCreated).Sublist (tr.filterMap (·.1.emitted?))) := by
  obtain ⟨hr, hm⟩ := runActions_iff.1
    (rfl : runActions Core.copy (Sys.start Aggregator.new) logsAcrossResubscription = some (_, _))
  exact ⟨_, _, hr, hm, rfl, rfl, taskCreated_handled_in_order hr⟩

/-! ## Panics -/

/-- `Start` does not prefer `Done`: with the context cancelled and a task-created log ready, its `select` can receive
the log, and the loop calls `processTaskCreatedLog` and goes on running. -/
theorem cancel_not_prioritised :
    ∃ s, Run Core.copy (Sys.start Aggregator.new)
      [(.env .cancel, []), (.env (.emitNewTaskCreated ⟨0, default⟩), []),
        (.select (.newTaskCreated ⟨0, default⟩) none, [.initializeNewTask 0 0 [] [] taskTimeToExpiry])] s ∧
      s.inputs.ctxDone = true ∧ s.status = .running :=
  ⟨_, .cons rfl (.cons rfl (.cons rfl (.nil _))), rfl, rfl⟩

/-- Cancellation as `Start` has it. Once the context is cancelled, `Done` is ready at every later iteration boundary,
and receiving it returns at once with no call. The loop returns only by receiving `Done`. Once it has returned, no
iteration runs and no call is made. -/
theorem loop_returns_on_done {core : Core} {s s' : Sys} {tr : List (Action × List Call)} (hr : Run core s tr s') :
    (s.inputs.ctxDone = true → s'.status = .running →
      ∀ e, step core s' (.select .done e) = some ([], { s' with status := .returned })) ∧
    (s.status = .running → s'.status = .returned → ∃ e, (Action.select .done e, ([] : List Call)) ∈ tr) ∧
    (s.status = .returned → ∀ e ∈ tr, (∃ x, e.1 = .env x) ∧ e.2 = []) :=
  ⟨fun hd hs => step_done (hr.ctxDone hd) hs, hr.returned,
    fun hs => (hr.of_stopped (by rw [hs]; exact nofun)).1⟩

/-- `loop_returns_on_done` on the run that cancels the context and then receives `Done`. -/
theorem loop_returns_on_done_cancel :
    Run Core.copy (Sys.start Aggregator.new) [(.env .cancel, []), (.select .done none, [])]
      { Sys.start Aggregator.new with inputs := { Inputs.empty with ctxDone := true }, status := .returned } ∧
    ∃ e, (Action.select .done e, ([] : List Call)) ∈ [(.env .cancel, []), (.select .done none, [])] :=
  have hr : Run Core.copy (Sys.start Aggregator.new) [(.env .cancel, []), (.select .done none, [])]
      { Sys.start Aggregator.new with inputs := { Inputs.empty with ctxDone := true }, status := .returned } :=
    .cons rfl (.cons rfl (.nil _))
  ⟨hr, (loop_returns_on_done hr).2.1 rfl rfl⟩

end BlocklessAvs
