import BlocklessAvs.Types

/-!
# The aggregator

`aggregator/aggregator.go`: the registry the aggregator keeps (`tasks` and `taskResponses`), `processTaskCreatedLog`,
`sendAggregatedResponseToContract`, and one iteration of the event loop of `Start`, by the case of its `select` that
fired. The processes the aggregator talks to are not run here: a function returns the `Call`s it makes, and the answer
a call returns is an argument (`initErr` for `InitializeNewTask`). A `panic` is `Except.error`.

The loops of the source are kept as loops: the thresholds are a `make` followed by an assignment at each index, the
quorum numbers and the two lists of converted points are appends to an empty slice. Each has a lemma here that says
what it computes, and the rest of the development cites those.
-/

namespace BlocklessAvs

/-- `taskChallengeWindowBlock`: the number of blocks after which a task is considered expired. -/
def taskChallengeWindowBlock : Nat := 100

/-- `time.Second`, in nanoseconds (`time.Duration`). -/
def second : Nat := 1000000000

/-- `blockTimeSeconds`. -/
def blockTimeSeconds : Nat := 12 * second

/-- The registry of `Aggregator`: the tasks by index, and the responses by task index and digest. Each map sits behind
its own lock, so that each read and each write of one is atomic. -/
structure Aggregator where
  tasks : GoMap TaskIndex Task
  taskResponses : GoMap TaskIndex (GoMap TaskResponseDigest TaskResponse)

/-- The registry `NewAggregator` makes: both maps empty. -/
def Aggregator.new : Aggregator := ⟨GoMap.empty, GoMap.empty⟩

/-- `NewAggregator`: build the AVS reader, the AVS writer, the AVS subscriber and the SDK clients, in that order, and
return the first error; otherwise the aggregator, with both registries empty. The builders' answers are the arguments;
the services built from the clients, which cannot fail, and the two log channels are not part of `Aggregator`. -/
def newAggregator (avsReaderErr avsWriterErr avsSubscriberErr clientsErr : Option Error) : Except Error Aggregator := do
  if let some err := avsReaderErr then throw err
  if let some err := avsWriterErr then throw err
  if let some err := avsSubscriberErr then throw err
  if let some err := clientsErr then throw err
  pure Aggregator.new

/-- `NewAggregator` fails with the first builder's error, and otherwise returns the empty registry. -/
theorem newAggregator_eq (avsReaderErr avsWriterErr avsSubscriberErr clientsErr : Option Error) :
    newAggregator avsReaderErr avsWriterErr avsSubscriberErr clientsErr =
      ((avsReaderErr.or avsWriterErr).or (avsSubscriberErr.or clientsErr)).elim (.ok Aggregator.new) .error := by
  cases avsReaderErr <;> cases avsWriterErr <;> cases avsSubscriberErr <;> cases clientsErr <;> rfl

/-- Modelled from the spec: `RecordResponse` of the RPC server (`startServer`), which is not part of `src/`. It inserts
the response under its task index and digest, and creates the inner map when the task has none. -/
def Aggregator.recordResponse (agg : Aggregator) (i : TaskIndex) (d : TaskResponseDigest) (resp : TaskResponse) :
    Aggregator :=
  { agg with taskResponses := agg.taskResponses.set i (((agg.taskResponses i).getD GoMap.empty).set d resp) }

/-- `RecordResponse` stores the response under its task index and digest, and leaves every other pair. -/
theorem recordResponse_taskResponses (agg : Aggregator) (i : TaskIndex) (d : TaskResponseDigest) (resp : TaskResponse) :
    (agg.recordResponse i d resp).taskResponses.uncurry = agg.taskResponses.uncurry.set (i, d) resp :=
  GoMap.uncurry_set_getD _ _ _ _

/-! ## `processTaskCreatedLog` -/

/-- The thresholds `processTaskCreatedLog` passes: `make` one zero per quorum number, then, for each index, the task's
percentage converted to `sdktypes.QuorumThresholdPercentage`. -/
def quorumThresholdPercentages (task : Task) : List QuorumThresholdPercentage :=
  (List.range task.quorumNumbers.length).foldl (fun acc i => acc.set i task.quorumThresholdPercentage.toUInt8)
    (List.replicate task.quorumNumbers.length 0)

/-- The quorum numbers `processTaskCreatedLog` passes: each one converted to `sdktypes.QuorumNum` and appended to a nil
slice. -/
def quorumNums (task : Task) : List QuorumNum :=
  task.quorumNumbers.foldl (fun acc q => acc ++ [(q : QuorumNum)]) []

/-- `taskTimeToExpiry`: the challenge window at the nominal block time. -/
def taskTimeToExpiry : Nat := taskChallengeWindowBlock * blockTimeSeconds

/-- `processTaskCreatedLog`: store the task under its index, then ask the aggregation service to track it. `initErr`
is the service's answer, and the function returns it. -/
def Aggregator.processTaskCreatedLog (agg : Aggregator) (taskLog : NewTaskCreated) (initErr : Option Error) :
    Aggregator × Call × Option Error :=
  ({ agg with tasks := agg.tasks.set taskLog.taskIndex taskLog.task },
    .initializeNewTask taskLog.taskIndex taskLog.task.taskCreatedBlock (quorumNums taskLog.task)
      (quorumThresholdPercentages taskLog.task) taskTimeToExpiry,
    initErr)

/-- The assignment loop over the first `k` indices sets them and leaves the rest. -/
theorem foldl_set_range {α : Type} (c : α) (k : Nat) (l : List α) (hk : k ≤ l.length) :
    (List.range k).foldl (fun acc i => acc.set i c) l = List.replicate k c ++ l.drop k := by
  induction k with
  | zero => simp
  | succ k ih =>
    rw [List.range_succ, List.foldl_append, ih (by omega), List.foldl_cons, List.foldl_nil,
      List.set_append_right _ _ (by simp), List.length_replicate, Nat.sub_self, List.replicate_succ',
      List.append_assoc]
    congr 1
    rw [← List.cons_getElem_drop_succ (h := by omega), List.set_cons_zero, List.singleton_append]

/-- The thresholds are the task's percentage, converted, once per quorum number. -/
theorem quorumThresholdPercentages_eq (task : Task) :
    quorumThresholdPercentages task =
      List.replicate task.quorumNumbers.length task.quorumThresholdPercentage.toUInt8 := by
  rw [quorumThresholdPercentages, foldl_set_range _ _ _ (by simp)]
  simp

/-- An append loop started from `acc` appends the images of the list, in order. -/
theorem foldl_append_map {α β : Type} (f : α → β) (xs : List α) (acc : List β) :
    xs.foldl (fun acc x => acc ++ [f x]) acc = acc ++ xs.map f := by
  induction xs generalizing acc with
  | nil => simp
  | cons x xs ih => simp [ih]

/-- The quorum numbers are the task's, in order. -/
theorem quorumNums_eq (task : Task) : quorumNums task = task.quorumNumbers := by
  simpa using foldl_append_map (fun q : UInt8 => (q : QuorumNum)) task.quorumNumbers []

/-- What `processTaskCreatedLog` does: the task stored under its index, whatever the service answers, and one call to
`InitializeNewTask` with the task's own quorums, one converted threshold for each, and the fixed time to expiry. -/
theorem processTaskCreatedLog_eq (agg : Aggregator) (taskLog : NewTaskCreated) (initErr : Option Error) :
    agg.processTaskCreatedLog taskLog initErr =
      ({ agg with tasks := agg.tasks.set taskLog.taskIndex taskLog.task },
        .initializeNewTask taskLog.taskIndex taskLog.task.taskCreatedBlock taskLog.task.quorumNumbers
          (List.replicate taskLog.task.quorumNumbers.length taskLog.task.quorumThresholdPercentage.toUInt8)
          taskTimeToExpiry,
        initErr) := by
  rw [Aggregator.processTaskCreatedLog, quorumNums_eq, quorumThresholdPercentages_eq]

/-! ## `sendAggregatedResponseToContract` -/

/-- The loop of `sendAggregatedResponseToContract` that converts G1 points, appending each to an empty slice; it is run
once over the non-signers' keys and once over the quorums' aggregate keys. -/
def convertG1Points (core : Core) (ps : List G1Point) : List BN254G1Point :=
  ps.foldl (fun acc p => acc ++ [core.convertToBN254G1Point p]) []

/-- The converted points are the images of the points, in order. -/
theorem convertG1Points_eq (core : Core) (ps : List G1Point) :
    convertG1Points core ps = ps.map core.convertToBN254G1Point := by
  simpa using foldl_append_map core.convertToBN254G1Point ps []

/-- The `NonSignerStakesAndSignature` that `sendAggregatedResponseToContract` builds from a completion. -/
def nonSignerStakesAndSignature (core : Core) (r : BlsAggregationServiceResponse) : NonSignerStakesAndSignature where
  nonSignerPubkeys := convertG1Points core r.nonSignersPubkeysG1
  quorumApks := convertG1Points core r.quorumApksG1
  apkG2 := core.convertToBN254G2Point r.signersApkG2
  sigma := core.convertToBN254G1Point r.signersAggSigG1
  nonSignerQuorumBitmapIndices := r.nonSignerQuorumBitmapIndices
  quorumApkIndices := r.quorumApkIndices
  totalStakeIndices := r.totalStakeIndices
  nonSignerStakeIndices := r.nonSignerStakeIndices

/-- `sendAggregatedResponseToContract`: panic on a completion that carries an error; otherwise read the task and the
response with Go's indexing and submit them with the signature. The writer's answer is only logged. -/
def Aggregator.sendAggregatedResponseToContract (core : Core) (agg : Aggregator) (r : BlsAggregationServiceResponse) :
    Except Error Call :=
  match r.err with
  | some err => .error err
  | none =>
    let task := agg.tasks.index r.taskIndex
    let taskResponse := (agg.taskResponses.index r.taskIndex).index r.taskResponseDigest
    .ok (.sendAggregatedResponse task taskResponse (nonSignerStakesAndSignature core r))

/-- On an erroneous completion `sendAggregatedResponseToContract` panics with its error. -/
@[simp] theorem sendAggregatedResponseToContract_of_err (core : Core) (agg : Aggregator)
    {r : BlsAggregationServiceResponse} {err : Error} (h : r.err = some err) :
    agg.sendAggregatedResponseToContract core r = .error err := by
  simp [Aggregator.sendAggregatedResponseToContract, h]

/-- On a completion without error `sendAggregatedResponseToContract` makes its one submission. -/
@[simp] theorem sendAggregatedResponseToContract_of_ok (core : Core) (agg : Aggregator)
    {r : BlsAggregationServiceResponse} (h : r.err = none) :
    agg.sendAggregatedResponseToContract core r =
      .ok (.sendAggregatedResponse (agg.tasks.index r.taskIndex)
        ((agg.taskResponses.index r.taskIndex).index r.taskResponseDigest) (nonSignerStakesAndSignature core r)) := by
  simp [Aggregator.sendAggregatedResponseToContract, h]

end BlocklessAvs
