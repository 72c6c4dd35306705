import BlocklessAvs.Aggregator

/-!
# What the aggregator's calls carry

The arguments of the two calls the aggregator makes for a task: `InitializeNewTask` from `processTaskCreatedLog`, and
`SendAggregatedResponse` from `sendAggregatedResponseToContract`, for every input.

The quorum numbers reach the aggregation service unchanged and the thresholds match them in length, so the service's
length check never fails for this caller. The threshold itself is converted to the SDK's byte, and a task's percentage
of 256 or more arrives cut to its low byte (`processTaskCreatedLog_threshold_wraps`).

The submission path does not check that the registry holds the task or the response: Go's indexing reads the zero
value for an absent key, also through a nil inner map, and the writer is called with it
(`send_with_task_absent`). What holds for every registry is `sendAggregatedResponseToContract_lookup`. The zero `Task`
and `TaskResponse` carry a `nil` `*big.Int` (`none` here), which the writer's ABI packing, outside this repository,
dereferences.
-/

namespace BlocklessAvs

/-! ## `InitializeNewTask` -/

/-- The call `processTaskCreatedLog` makes: the log's index and creation block, the task's quorum numbers in order, one
threshold per quorum number, each the task's percentage modulo 256, and the fixed time to expiry. -/
theorem processTaskCreatedLog_initializeNewTask (agg : Aggregator) (taskLog : NewTaskCreated)
    (initErr : Option Error) :
    ∃ quorumNums thresholds, (agg.processTaskCreatedLog taskLog initErr).2.1 =
        .initializeNewTask taskLog.taskIndex taskLog.task.taskCreatedBlock quorumNums thresholds taskTimeToExpiry ∧
      quorumNums = taskLog.task.quorumNumbers ∧ thresholds.length = quorumNums.length ∧
      ∀ p ∈ thresholds, p.toNat = taskLog.task.quorumThresholdPercentage.toNat % 256 := by
  refine ⟨_, _, by rw [processTaskCreatedLog_eq], rfl, List.length_replicate _ _, fun p hp => ?_⟩
  rw [List.eq_of_mem_replicate hp]
  rfl

/-- A task whose percentage is 256 reaches the aggregation service with a threshold of 0. -/
theorem processTaskCreatedLog_threshold_wraps :
    (Aggregator.new.processTaskCreatedLog ⟨0, ⟨none, 0, [0], 256⟩⟩ none).2.1 =
      .initializeNewTask 0 0 [0] [0] taskTimeToExpiry :=
  rfl

/-! ## `SendAggregatedResponse` -/

/-- The completion of the scenario of design record section 8.6: task 5 reached its threshold with digest `0xAB`,
with one quorum's aggregate key and no non-signer. -/
def completion₅ : BlsAggregationServiceResponse :=
  ⟨none, 5, 0xAB, [], [⟨1, 2⟩], ⟨(3, 4), (5, 6)⟩, ⟨7, 8⟩, [], [0], [0], [[]]⟩

/-- On a completion without error `sendAggregatedResponseToContract` calls the writer once and does not panic itself,
with the task stored under the completion's index, or the zero task when there is none, and the response stored under
its index and digest, or the zero response when either is absent. The zero values carry a `nil` `*big.Int`. -/
theorem sendAggregatedResponseToContract_lookup (core : Core) (agg : Aggregator) (r : BlsAggregationServiceResponse)
    (h : r.err = none) :
    ∃ task taskResponse, agg.sendAggregatedResponseToContract core r =
        .ok (.sendAggregatedResponse task taskResponse (nonSignerStakesAndSignature core r)) ∧
      (agg.tasks r.taskIndex = some task ∨ agg.tasks r.taskIndex = none ∧ task = default) ∧
      ((agg.taskResponses r.taskIndex).bind (· r.taskResponseDigest) = some taskResponse ∨
        (agg.taskResponses r.taskIndex).bind (· r.taskResponseDigest) = none ∧ taskResponse = default) :=
  ⟨_, _, sendAggregatedResponseToContract_of_ok core agg h, GoMap.index_spec _ _, GoMap.index_index_spec _ _ _⟩

/-- `sendAggregatedResponseToContract_lookup` on the empty registry and the completion of task 5. -/
theorem sendAggregatedResponseToContract_lookup_empty :
    completion₅.err = none ∧
    ∃ task taskResponse, Aggregator.new.sendAggregatedResponseToContract Core.copy completion₅ =
        .ok (.sendAggregatedResponse task taskResponse (nonSignerStakesAndSignature Core.copy completion₅)) ∧
      (Aggregator.new.tasks 5 = some task ∨ Aggregator.new.tasks 5 = none ∧ task = default) ∧
      ((Aggregator.new.taskResponses 5).bind (· 0xAB) = some taskResponse ∨
        (Aggregator.new.taskResponses 5).bind (· 0xAB) = none ∧ taskResponse = default) :=
  ⟨rfl, sendAggregatedResponseToContract_lookup Core.copy Aggregator.new completion₅ rfl⟩

/-- With no task stored under index 5, `sendAggregatedResponseToContract` still calls the writer for the completion of
task 5, with the zero task and the zero response. -/
theorem send_with_task_absent :
    Aggregator.new.tasks completion₅.taskIndex = none ∧
      Aggregator.new.sendAggregatedResponseToContract Core.copy completion₅ =
        .ok (.sendAggregatedResponse default default (nonSignerStakesAndSignature Core.copy completion₅)) :=
  ⟨rfl, rfl⟩

/-- The signature checker's argument on a completion without error: each list of points converted element by element
and in order, the two aggregates converted, and the four index arrays passed unchanged. -/
theorem sendAggregatedResponseToContract_signature (core : Core) (agg : Aggregator)
    (r : BlsAggregationServiceResponse) (h : r.err = none) :
    ∃ task taskResponse sig, agg.sendAggregatedResponseToContract core r = .ok (.sendAggregatedResponse task taskResponse sig) ∧
      sig.nonSignerPubkeys = r.nonSignersPubkeysG1.map core.convertToBN254G1Point ∧
      sig.quorumApks = r.quorumApksG1.map core.convertToBN254G1Point ∧
      sig.apkG2 = core.convertToBN254G2Point r.signersApkG2 ∧
      sig.sigma = core.convertToBN254G1Point r.signersAggSigG1 ∧
      sig.nonSignerQuorumBitmapIndices = r.nonSignerQuorumBitmapIndices ∧
      sig.quorumApkIndices = r.quorumApkIndices ∧ sig.totalStakeIndices = r.totalStakeIndices ∧
      sig.nonSignerStakeIndices = r.nonSignerStakeIndices :=
  ⟨_, _, _, sendAggregatedResponseToContract_of_ok core agg h, convertG1Points_eq core _, convertG1Points_eq core _,
    rfl, rfl, rfl, rfl, rfl, rfl⟩

/-- A completion of task 7 that one operator did not sign: its key, its quorum bitmap index and its stake index. -/
def completion₇ : BlsAggregationServiceResponse :=
  ⟨none, 7, 0xCD, [⟨11, 12⟩], [⟨1, 2⟩], ⟨(3, 4), (5, 6)⟩, ⟨7, 8⟩, [4], [0], [0], [[2]]⟩

/-- `sendAggregatedResponseToContract_signature` on `completion₇`: the non-signer's key is converted, and its indices
are passed on, next to the quorum's. -/
theorem sendAggregatedResponseToContract_signature_completion₇ :
    completion₇.err = none ∧
    ∃ task taskResponse sig, Aggregator.new.sendAggregatedResponseToContract Core.copy completion₇ =
        .ok (.sendAggregatedResponse task taskResponse sig) ∧
      sig.nonSignerPubkeys = [⟨11, 12⟩] ∧ sig.quorumApks = [⟨1, 2⟩] ∧ sig.apkG2 = ⟨(3, 4), (5, 6)⟩ ∧
      sig.sigma = ⟨7, 8⟩ ∧ sig.nonSignerQuorumBitmapIndices = [4] ∧ sig.quorumApkIndices = [0] ∧
      sig.totalStakeIndices = [0] ∧ sig.nonSignerStakeIndices = [[2]] :=
  ⟨rfl, sendAggregatedResponseToContract_signature Core.copy Aggregator.new completion₇ rfl⟩

end BlocklessAvs
