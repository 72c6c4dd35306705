import BlocklessAvs.Types

/-!
# Starting and stopping the node

`node/pkg/p2p.go`: `RunP2P` sets up the blockless node and starts a goroutine that runs it, and `RunAVS` starts the
node and the API server and waits for an interrupt or for either of two channels, `done` and `failed`, to be closed.
The node's goroutine closes `failed` when `node.Run` fails and `done` when it returns; the server's goroutine closes
`failed` when `ListenAndServe` fails with anything but `http.ErrServerClosed`.

The model is an interleaving of the three goroutines that touch the channels: `RunAVS` itself, the node's and the
server's. What `node.Run` and `ListenAndServe` return, and when, is the environment's choice. A channel is the number
of times `close` ran on it: Go panics at the second, and the process dies, so no step follows one.
-/

namespace BlocklessAvs

/-- `success`, the exit code of `RunP2P` when the node was started. -/
def success : Nat := 0

/-- `failure`, the exit code of `RunP2P` when it gave up. -/
def failure : Nat := 1

/-- A parsed `multiaddr.Multiaddr`; its contents are not read. -/
structure Multiaddr where
  addr : String
  deriving DecidableEq, Repr

/-- What the calls `RunP2P` makes before it starts the node answer: `filepath.Abs`, `peerstore.Peers`,
`multiaddr.NewMultiaddr` for each boot node, `host.New` and `node.New`. `none` is no error. -/
structure P2PSetup where
  absErr : Option Error
  peersErr : Option Error
  bootNodes : List String
  newMultiaddr : String → Except Error Multiaddr
  hostErr : Option Error
  nodeErr : Option Error

/-- The error `getBootNodeAddresses` returns for an address that does not parse, `fmt.Errorf` of the parser's error.
Its `%s` operand is the shadowing `addr`, the `nil` `Multiaddr` that `NewMultiaddr` returned with the error, which `fmt`
prints as `%!s(<nil>)`; `%w` prints the parser's error. -/
def parseAddrError (err : Error) : Error := ⟨"could not parse multiaddress (addr: %!s(<nil>)): " ++ err.msg⟩

/-- `getBootNodeAddresses`: parse each address in order, appending it, and stop at the first that does not parse, with
its error wrapped. -/
def getBootNodeAddresses (newMultiaddr : String → Except Error Multiaddr) (addrs : List String) :
    Except Error (List Multiaddr) :=
  addrs.foldlM (fun out addr => ((newMultiaddr addr).mapError parseAddrError).map fun a => out ++ [a]) []

/-- `RunP2P`: its exit code, and whether it started the node's goroutine, which it does last, once every call before
it succeeded. -/
def runP2P (setup : P2PSetup) : Nat × Bool :=
  if setup.absErr.isSome then (failure, false)
  else if setup.peersErr.isSome then (failure, false)
  else match getBootNodeAddresses setup.newMultiaddr setup.bootNodes with
    | .error _ => (failure, false)
    | .ok _ =>
      if setup.hostErr.isSome then (failure, false)
      else if setup.nodeErr.isSome then (failure, false)
      else (success, true)

/-- `RunP2P` either gives up with `failure` before starting the node, or starts it and returns `success`. -/
theorem runP2P_cases (setup : P2PSetup) : runP2P setup = (failure, false) ∨ runP2P setup = (success, true) := by
  simp only [runP2P]
  repeat' split
  all_goals simp

namespace NodeAux

variable {α β ε ε' : Type}

/-- A loop that appends what each call returns, stopping at the first error, is `mapM` after what it started from. -/
theorem foldlM_append_eq_mapM (f : α → Except ε β) (l : List α) (acc : List β) :
    l.foldlM (fun out x => (f x).map fun b => out ++ [b]) acc = (l.mapM f).map (acc ++ ·) := by
  induction l generalizing acc with
  | nil => rw [List.foldlM_nil, List.mapM_nil]; simp [pure, Except.pure, Except.map]
  | cons x l ih =>
    rw [List.foldlM_cons, List.mapM_cons]
    cases f x with
    | error e => rfl
    | ok b =>
      show l.foldlM _ (acc ++ [b]) = _
      rw [ih]
      cases l.mapM f <;> simp [pure, Except.pure, Except.map, bind, Except.bind]

/-- Wrapping each call's error wraps the error of `mapM`. -/
theorem mapM_mapError (f : α → Except ε β) (g : ε → ε') (l : List α) :
    l.mapM (fun x => (f x).mapError g) = (l.mapM f).mapError g := by
  induction l with
  | nil => rfl
  | cons x l ih =>
    rw [List.mapM_cons, List.mapM_cons, ih]
    cases f x <;> cases l.mapM f <;> rfl

end NodeAux

open NodeAux in
/-- The append loop of `getBootNodeAddresses` is `mapM`: the parsed addresses in the order configured, or the error of
the first address that does not parse, wrapped. -/
theorem getBootNodeAddresses_eq_mapM (newMultiaddr : String → Except Error Multiaddr) (addrs : List String) :
    getBootNodeAddresses newMultiaddr addrs = (addrs.mapM newMultiaddr).mapError parseAddrError := by
  rw [getBootNodeAddresses, foldlM_append_eq_mapM, mapM_mapError]
  cases (addrs.mapM newMultiaddr).mapError parseAddrError <;> rfl

/-- A goroutine that closes a channel when the call it waits on returns: not started, waiting, or finished. -/
inductive Proc where
  | idle
  | waiting
  | finished
  deriving DecidableEq, Repr

/-- Where `RunAVS` is: it has run `RunP2P`, it has started the server and waits in its `select`, or it has returned. -/
inductive MainPc where
  | p2pStarted
  | selecting
  | returned
  deriving DecidableEq, Repr

/-- What `ListenAndServe` returns: always an error, `http.ErrServerClosed` or another. -/
inductive ServeError where
  | serverClosed
  | other (err : Error)
  deriving DecidableEq, Repr

/-- The case of `RunAVS`'s `select` that fires. -/
inductive Wake where
  | sig
  | done
  | failed
  deriving DecidableEq, Repr

/-- `RunAVS` and the goroutines that close its channels. `done` and `failed` count the closes each channel has seen;
`sig` holds a pending interrupt (its buffer is one); `exited` is the process ended by `RunAVS` returning or by
`os.Exit`. -/
structure RunAvs where
  done : Nat
  failed : Nat
  node : Proc
  server : Proc
  main : MainPc
  sig : Bool
  exited : Bool
  deriving DecidableEq, Repr

/-- The state right after `RunAVS` called `RunP2P`: the node's goroutine waits on `node.Run` when `RunP2P` started it. -/
def RunAvs.start (setup : P2PSetup) : RunAvs :=
  ⟨0, 0, if (runP2P setup).2 then .waiting else .idle, .idle, .p2pStarted, false, false⟩

/-- The process is alive: no close has panicked and it has not exited. -/
def RunAvs.alive (s : RunAvs) : Bool := s.done ≤ 1 && s.failed ≤ 1 && !s.exited

/-- What happens next, chosen by the scheduler and by what the blocking calls return. -/
inductive RunAvs.Action where
  | interrupt
  | startServer
  | nodeReturns (err : Option Error)
  | serverReturns (err : ServeError)
  | wake (c : Wake)
  | exit
  deriving DecidableEq, Repr

/-- The `select` of `RunAVS` can fire case `c`. -/
def RunAvs.ready (s : RunAvs) : Wake → Bool
  | .sig => s.sig
  | .done => 0 < s.done
  | .failed => 0 < s.failed

/-- One step, or `none` when it is not enabled. A dead process takes no step. -/
def RunAvs.step (s : RunAvs) (a : RunAvs.Action) : Option RunAvs :=
  if !s.alive then none else
  match a with
  | .interrupt => some { s with sig := true }
  | .startServer => if s.main = .p2pStarted then some { s with server := .waiting, main := .selecting } else none
  | .nodeReturns err =>
    if s.node = .waiting then
      match err with
      | some _ => some { s with node := .finished, failed := s.failed + 1 }
      | none => some { s with node := .finished, done := s.done + 1 }
    else none
  | .serverReturns err =>
    if s.server = .waiting then
      match err with
      | .other _ => some { s with server := .finished, failed := s.failed + 1 }
      | .serverClosed => some { s with server := .finished }
    else none
  | .wake c =>
    if s.main = .selecting ∧ s.ready c = true then
      some { s with main := .returned, sig := if c = .sig then false else s.sig }
    else none
  | .exit => if s.main = .returned then some { s with exited := true } else none

/-- The action is `node.Run` returning an error. -/
@[simp] def RunAvs.Action.nodeFailed : RunAvs.Action → Bool
  | .nodeReturns (some _) => true
  | _ => false

/-- The action is `node.Run` returning without error. -/
@[simp] def RunAvs.Action.nodeDone : RunAvs.Action → Bool
  | .nodeReturns none => true
  | _ => false

/-- The action is `ListenAndServe` returning an error other than `http.ErrServerClosed`. -/
@[simp] def RunAvs.Action.serverFailed : RunAvs.Action → Bool
  | .serverReturns (.other _) => true
  | _ => false

/-- One while the goroutine still waits on its call. -/
@[simp] def Proc.pending : Proc → Nat
  | .waiting => 1
  | _ => 0

/-- One while the server's goroutine is still to start or still waits on `ListenAndServe`. -/
def RunAvs.serverPending (s : RunAvs) : Nat := s.server.pending + if s.main = .p2pStarted then 1 else 0

/-- What a step can do, guards included: the one inversion of `RunAvs.step`. -/
theorem RunAvs.step_cases {s s₁ : RunAvs} {a : RunAvs.Action} (h : s.step a = some s₁) :
    (a = .interrupt ∧ s₁ = { s with sig := true }) ∨
    (a = .startServer ∧ s.main = .p2pStarted ∧ s₁ = { s with server := .waiting, main := .selecting }) ∨
    (∃ e, a = .nodeReturns (some e) ∧ s.node = .waiting ∧ s₁ = { s with node := .finished, failed := s.failed + 1 }) ∨
    (a = .nodeReturns none ∧ s.node = .waiting ∧ s₁ = { s with node := .finished, done := s.done + 1 }) ∨
    (∃ e, a = .serverReturns (.other e) ∧ s.server = .waiting ∧
      s₁ = { s with server := .finished, failed := s.failed + 1 }) ∨
    (a = .serverReturns .serverClosed ∧ s.server = .waiting ∧ s₁ = { s with server := .finished }) ∨
    (∃ c, a = .wake c ∧ s.main = .selecting ∧ s.ready c = true ∧
      s₁ = { s with main := .returned, sig := if c = .sig then false else s.sig }) ∨
    (a = .exit ∧ s.main = .returned ∧ s₁ = { s with exited := true }) := by
  simp only [RunAvs.step, Option.ite_none_left_eq_some] at h
  obtain ⟨-, h⟩ := h
  cases a with
  | interrupt => cases h; simp
  | startServer =>
    obtain ⟨hm, ⟨⟩⟩ := Option.ite_none_right_eq_some.1 h
    simp [hm]
  | nodeReturns err =>
    obtain ⟨hn, h⟩ := Option.ite_none_right_eq_some.1 h
    cases err <;> cases h <;> simp [hn]
  | serverReturns err =>
    obtain ⟨hn, h⟩ := Option.ite_none_right_eq_some.1 h
    cases err <;> cases h <;> simp [hn]
  | wake c =>
    obtain ⟨⟨hm, hc⟩, ⟨⟩⟩ := Option.ite_none_right_eq_some.1 h
    simp [hm, hc]
  | exit =>
    obtain ⟨hm, ⟨⟩⟩ := Option.ite_none_right_eq_some.1 h
    simp [hm]

/-- What a step does to the two channels, and to the goroutines that close them: a close of `done` or `failed` is the
return of a goroutine that was waiting, and it stops waiting. -/
theorem RunAvs.step_closes {s s₁ : RunAvs} {a : RunAvs.Action} (h : s.step a = some s₁) :
    s₁.done = s.done + (if a.nodeDone then 1 else 0) ∧
    s₁.failed = s.failed + (if a.nodeFailed then 1 else 0) + (if a.serverFailed then 1 else 0) ∧
    (if a.nodeDone then 1 else 0) + (if a.nodeFailed then 1 else 0) + s₁.node.pending = s.node.pending ∧
    (if a.serverFailed then 1 else 0) + s₁.serverPending ≤ s.serverPending := by
  rcases RunAvs.step_cases h with ⟨rfl, rfl⟩ | ⟨rfl, hg, rfl⟩ | ⟨_, rfl, hg, rfl⟩ | ⟨rfl, hg, rfl⟩ | ⟨_, rfl, hg, rfl⟩ |
    ⟨rfl, hg, rfl⟩ | ⟨_, rfl, hg, -, rfl⟩ | ⟨rfl, hg, rfl⟩ <;> simp [serverPending, *]

/-- `RunAVS` returns only from its `select`, by a case that is ready. -/
theorem RunAvs.step_returned {s s₁ : RunAvs} {a : RunAvs.Action} (h : s.step a = some s₁) (h₁ : s₁.main = .returned) :
    s.main = .returned ∨ ∃ c, a = .wake c ∧ s.ready c = true := by
  rcases RunAvs.step_cases h with ⟨-, rfl⟩ | ⟨-, -, rfl⟩ | ⟨_, -, -, rfl⟩ | ⟨-, -, rfl⟩ | ⟨_, -, -, rfl⟩ |
    ⟨-, -, rfl⟩ | ⟨c, rfl, -, hc, -⟩ | ⟨-, hm, -⟩ <;> simp_all

/-- `RunAvs.Run s as s'`: the actions `as` can be taken in order from `s` and end in `s'`. -/
inductive RunAvs.Run : RunAvs → List RunAvs.Action → RunAvs → Prop where
  | nil (s : RunAvs) : RunAvs.Run s [] s
  | cons {s s₁ s' : RunAvs} {a : RunAvs.Action} {as : List RunAvs.Action} :
      s.step a = some s₁ → RunAvs.Run s₁ as s' → RunAvs.Run s (a :: as) s'

/-! ## The logging middleware of the API server -/

/-- A call a handler makes on the `http.ResponseWriter` it is served: `WriteHeader` with a status, or `Write` of body
bytes. -/
inductive WriterCall where
  | writeHeader (status : Int)
  | write (data : List UInt8)
  deriving DecidableEq, Repr

/-- The status a call sets, if it is `WriteHeader`. -/
def WriterCall.status? : WriterCall → Option Int
  | .writeHeader status => some status
  | .write _ => none

/-- `http.StatusOK`. -/
def statusOK : Int := 200

/-- `wrappedWriter`: the `http.ResponseWriter` it embeds, as the calls made on it so far, and its `status`. -/
structure WrappedWriter where
  responseWriter : List WriterCall
  status : Int
  deriving DecidableEq, Repr

/-- A handler's call on a `wrappedWriter`. `WriteHeader` is its own method: it records the status, then passes the
call on. `Write` is the embedded writer's method, promoted: the call goes on and the status is untouched. -/
def WrappedWriter.call (w : WrappedWriter) : WriterCall → WrappedWriter
  | .writeHeader status => { status := status, responseWriter := w.responseWriter ++ [.writeHeader status] }
  | .write data => { w with responseWriter := w.responseWriter ++ [.write data] }

/-- The line the `logging` handler of `Middlewares` logs for a request; the duration is not modelled. -/
structure RequestLog where
  status : Int
  method : String
  path : String
  deriving DecidableEq, Repr

/-- `Middlewares(app)(next)` serving a request with method `method` and path `path`, when `next` makes the calls `calls`
on the writer it is given: wrap the server's writer with the status `http.StatusOK`, serve `next` on the wrapper, then
log. The result is the calls the server's writer received, and the line logged. This is the serving of a handler whose
`WriteHeader` codes are all in 100..999: `net/http` panics on any other code, and the logging, which is not deferred,
is then not reached. -/
def middlewares (method path : String) (calls : List WriterCall) : List WriterCall × RequestLog :=
  let wrapped := calls.foldl WrappedWriter.call ⟨[], statusOK⟩
  (wrapped.responseWriter, ⟨wrapped.status, method, path⟩)

/-- The status the client receives when a handler makes `calls` on the server's `http.ResponseWriter`, as the
`ResponseWriter` documentation of `net/http` gives it (this is the library, not `src/`): a 1xx `WriteHeader` other than
101 (`http.StatusSwitchingProtocols`) is an interim header; the first other `WriteHeader` before any `Write` sets the
status; a `Write` before one sends `http.StatusOK`, and so does a handler that writes nothing; a later `WriteHeader` is
superfluous and ignored. -/
def sentStatus : List WriterCall → Int
  | [] => statusOK
  | .writeHeader status :: calls => if 100 ≤ status ∧ status < 200 ∧ status ≠ 101 then sentStatus calls else status
  | .write _ :: _ => statusOK

end BlocklessAvs
