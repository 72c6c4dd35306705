import Mathlib.Data.List.Basic

/-!
# The data the aggregator handles

The types `aggregator/aggregator.go` reads and writes: the task and the task response of the task manager's bindings,
the two events the AVS subscriber forwards, the completion the BLS aggregation service delivers, and the argument of the
signature checker. Go's fixed-width integers are `UInt32` and `UInt8`; a `*big.Int` is an `Option Nat`, `none` being
the nil pointer that is the field's zero value, so that `default` is Go's zero value for every record here.

A Go map is a function to `Option`. Reading it with `m[k]` (`GoMap.index`) gives the zero value of the element type
for a key that is absent, and a nil map reads as the empty one: the submission path depends on both.

What the aggregator asks of the processes around it (the aggregation service, the AVS writer, the subscriber) is a
`Call`; the runs of the event loop are traces of calls. Logging is not modelled.
-/

namespace BlocklessAvs

/-- `types.TaskIndex`. -/
abbrev TaskIndex := UInt32

/-- `sdktypes.TaskResponseDigest`, a 32-byte hash. -/
abbrev TaskResponseDigest := BitVec 256

/-- `sdktypes.QuorumNum`, a byte. -/
abbrev QuorumNum := UInt8

/-- `sdktypes.QuorumThresholdPercentage`: the SDK declares it as a `uint8`, so a Go conversion into it keeps the low
byte. -/
abbrev QuorumThresholdPercentage := UInt8

/-- An `error` value; only its text is carried. -/
structure Error where
  msg : String
  deriving DecidableEq, Repr

/-- `IIncredibleSquaringTaskManagerTask`: the task as the task manager emits it. -/
structure Task where
  numberToBeSquared : Option Nat
  taskCreatedBlock : UInt32
  quorumNumbers : List UInt8
  quorumThresholdPercentage : UInt32
  deriving DecidableEq, Repr, Inhabited

/-- `IIncredibleSquaringTaskManagerTaskResponse`: an operator's answer to a task. -/
structure TaskResponse where
  referenceTaskIndex : UInt32
  numberSquared : Option Nat
  deriving DecidableEq, Repr, Inhabited

/-- `ContractIncredibleSquaringTaskManagerNewTaskCreated`: the event of a new task (its raw log is not read). -/
structure NewTaskCreated where
  taskIndex : TaskIndex
  task : Task
  deriving DecidableEq, Repr

/-- `ContractIncredibleSquaringTaskManagerTaskResponded`: the event of a task answered onchain, which the aggregator
only logs. -/
structure TaskResponded where
  taskResponse : TaskResponse
  deriving DecidableEq, Repr

/-- `bls.G1Point`: an affine point of G1. -/
structure G1Point where
  x : Nat
  y : Nat
  deriving DecidableEq, Repr

/-- `bls.G2Point`: an affine point of G2, each coordinate in the quadratic extension. -/
structure G2Point where
  x : Nat × Nat
  y : Nat × Nat
  deriving DecidableEq, Repr

/-- `BN254G1Point`, the bindings' G1 point. -/
structure BN254G1Point where
  x : Nat
  y : Nat
  deriving DecidableEq, Repr

/-- `BN254G2Point`, the bindings' G2 point. -/
structure BN254G2Point where
  x : Nat × Nat
  y : Nat × Nat
  deriving DecidableEq, Repr

/-- The conversions of the repository's `core` package from the SDK's points to the bindings' ones. The aggregator
calls them; their bodies are not part of this model, which is stated for any pair of them. -/
structure Core where
  convertToBN254G1Point : G1Point → BN254G1Point
  convertToBN254G2Point : G2Point → BN254G2Point

/-- A `Core` that copies the coordinates, to evaluate the model on concrete inputs. -/
def Core.copy : Core := ⟨fun p => ⟨p.x, p.y⟩, fun p => ⟨p.x, p.y⟩⟩

/-- `blsagg.BlsAggregationServiceResponse`: what the aggregation service delivers once a task reached its quorum
thresholds or expired. The points are set whenever `err` is `none`; `signersAggSigG1` is the signature's point. -/
structure BlsAggregationServiceResponse where
  err : Option Error
  taskIndex : TaskIndex
  taskResponseDigest : TaskResponseDigest
  nonSignersPubkeysG1 : List G1Point
  quorumApksG1 : List G1Point
  signersApkG2 : G2Point
  signersAggSigG1 : G1Point
  nonSignerQuorumBitmapIndices : List UInt32
  quorumApkIndices : List UInt32
  totalStakeIndices : List UInt32
  nonSignerStakeIndices : List (List UInt32)
  deriving DecidableEq, Repr

/-- `IBLSSignatureCheckerNonSignerStakesAndSignature`: what `BLSSignatureChecker.sol` checks a response against. -/
structure NonSignerStakesAndSignature where
  nonSignerQuorumBitmapIndices : List UInt32
  nonSignerPubkeys : List BN254G1Point
  quorumApks : List BN254G1Point
  apkG2 : BN254G2Point
  sigma : BN254G1Point
  quorumApkIndices : List UInt32
  totalStakeIndices : List UInt32
  nonSignerStakeIndices : List (List UInt32)
  deriving DecidableEq, Repr

/-- The two feeds of the AVS subscriber. -/
inductive Feed where
  | newTasks
  | taskResponses
  deriving DecidableEq, Repr

/-- A call of the aggregator to a process around it: the aggregation service, the AVS writer or the subscriber. A call
holds its arguments; what it answers, where the loop reads the answer, is part of the step that makes it. -/
inductive Call where
  | initializeNewTask (taskIndex : TaskIndex) (taskCreatedBlock : UInt32) (quorumNums : List QuorumNum)
      (quorumThresholdPercentages : List QuorumThresholdPercentage) (timeToExpiry : Nat)
  | sendAggregatedResponse (task : Task) (taskResponse : TaskResponse)
      (nonSignerStakesAndSignature : NonSignerStakesAndSignature)
  | unsubscribe (feed : Feed)
  | subscribe (feed : Feed)
  deriving DecidableEq, Repr

/-- The call is a submission to the task manager. -/
def Call.isSend : Call → Bool
  | .sendAggregatedResponse .. => true
  | _ => false

/-- The task whose aggregation session the call opens, if it is `InitializeNewTask`. -/
def Call.initializedTask? : Call → Option TaskIndex
  | .initializeNewTask i .. => some i
  | _ => none

/-- The feed of a call to the subscriber: `false` for `Unsubscribe`, `true` for a new subscription. -/
def Call.subscription? : Call → Option (Feed × Bool)
  | .unsubscribe f => some (f, false)
  | .subscribe f => some (f, true)
  | _ => none

/-- The signature a submission carries, if the call is one. -/
def Call.submittedSignature? : Call → Option NonSignerStakesAndSignature
  | .sendAggregatedResponse _ _ sig => some sig
  | _ => none

/-- A Go map: what is stored under each key. -/
abbrev GoMap (K V : Type) := K → Option V

namespace GoMap

variable {K V : Type}

/-- The map `make` returns. -/
def empty : GoMap K V := fun _ => none

/-- `m[k] = v`. -/
def set [DecidableEq K] (m : GoMap K V) (k : K) (v : V) : GoMap K V :=
  fun k' => if k' = k then some v else m k'

/-- `m[k]` as an expression: the value stored under `k`, or the zero value of `V` when there is none. -/
def index [Inhabited V] (m : GoMap K V) (k : K) : V := (m k).getD default

@[simp] theorem empty_apply (k : K) : (empty : GoMap K V) k = none := rfl

@[simp] theorem set_self [DecidableEq K] (m : GoMap K V) (k : K) (v : V) : m.set k v k = some v := by
  simp [set]

@[simp] theorem set_other [DecidableEq K] (m : GoMap K V) {k k' : K} (v : V) (h : k' ≠ k) : m.set k v k' = m k' := by
  simp [set, h]

theorem index_of_some [Inhabited V] {m : GoMap K V} {k : K} {v : V} (h : m k = some v) : m.index k = v := by
  simp [index, h]

theorem index_of_none [Inhabited V] {m : GoMap K V} {k : K} (h : m k = none) : m.index k = default := by
  simp [index, h]

/-- `m[k]` reads the stored value when there is one, and the zero value otherwise. -/
theorem index_spec [Inhabited V] (m : GoMap K V) (k : K) :
    m k = some (m.index k) ∨ m k = none ∧ m.index k = default := by
  cases h : m k <;> simp [index, h]

/-- `m[k][d]` on a map of maps reads the value stored under both keys when there is one, and the zero value when
either is absent: the nil map read for an absent `k` reads as empty. -/
theorem index_index_spec {D W : Type} [Inhabited W] (m : GoMap K (GoMap D W)) (k : K) (d : D) :
    (m k).bind (· d) = some ((m.index k).index d) ∨ (m k).bind (· d) = none ∧ (m.index k).index d = default := by
  cases h : m k with
  | none => exact .inr ⟨rfl, by rw [index_of_none h]; rfl⟩
  | some m' => simpa [index_of_some h] using index_spec m' d

/-- A map of maps read with both keys: what `m[k][d]` finds when both keys are present. -/
def uncurry {D W : Type} (m : GoMap K (GoMap D W)) : GoMap (K × D) W := fun kd => (m kd.1).bind (· kd.2)

/-- `m[k][d]` is the value stored under both keys, or the zero value. -/
theorem index_index {D W : Type} [Inhabited W] (m : GoMap K (GoMap D W)) (k : K) (d : D) :
    (m.index k).index d = (m.uncurry (k, d)).getD default := by
  rcases index_index_spec m k d with h | ⟨h, h'⟩
  · rw [uncurry, h, Option.getD_some]
  · rw [uncurry, h, h', Option.getD_none]

/-- Storing under both keys, with the inner map made when `k` has none, stores under the pair. -/
theorem uncurry_set_getD [DecidableEq K] {D W : Type} [DecidableEq D] (m : GoMap K (GoMap D W)) (k : K) (d : D)
    (w : W) : (m.set k (((m k).getD empty).set d w)).uncurry = m.uncurry.set (k, d) w := by
  funext ⟨k', d'⟩
  by_cases hk : k' = k
  · subst hk
    by_cases hd : d' = d
    · subst hd
      simp [uncurry]
    · cases h : m k' <;> simp [uncurry, set, h, hd]
  · simp [uncurry, set, hk]

/-- After `m[key x] = val x` for each `x` of `xs` in order, a key holds the value of the last element stored under it,
or what it held before when there is none. -/
theorem foldl_set_apply [DecidableEq K] {α : Type} (key : α → K) (val : α → V) (xs : List α) (m : GoMap K V) (k : K) :
    xs.foldl (fun m x => m.set (key x) (val x)) m k = ((xs.filter (key · == k)).getLast?.map val).or (m k) := by
  induction xs using List.reverseRecOn with
  | nil => rfl
  | append_singleton xs x ih =>
    rw [List.foldl_append, List.foldl_cons, List.foldl_nil, List.filter_append]
    by_cases h : key x = k
    · simp [h]
    · simp [h, ih, Ne.symm h]

end GoMap

end BlocklessAvs
