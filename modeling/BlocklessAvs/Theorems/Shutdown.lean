import BlocklessAvs.Node

/-!
# Closing `done` and `failed`

`RunAVS` hands `done` and `failed` to `RunP2P`, whose goroutine closes exactly one of them when `node.Run` returns,
and it closes `failed` itself, from the server's goroutine, when `ListenAndServe` fails. Nothing keeps the two
goroutines from both closing `failed`: when the node fails and the server cannot listen, in either order, the second
`close(failed)` is on a closed channel and Go panics (`failed_closed_twice`).

`failed_closed_twice_iff` says when that happens, over every run: `done` is closed at most once, and `failed` is
closed a second time exactly when both `node.Run` and `ListenAndServe` fail.

`RunAVS` does not look at what `RunP2P` returns. When `RunP2P` gives up before starting the node, nothing is left to
close `done`, and `RunAVS` serves the API until an interrupt or a failing `ListenAndServe` (`p2p_failure_ignored`).
-/

namespace BlocklessAvs

namespace ShutdownAux

variable {s s' : RunAvs} {as : List RunAvs.Action}

/-- Along a run, `done` is closed once for each return of `node.Run` without error and `failed` once for each failing
return of `node.Run` or `ListenAndServe`, and each goroutine returns at most once, while it waits. -/
theorem run_closes (hr : RunAvs.Run s as s') :
    s'.done = s.done + as.countP RunAvs.Action.nodeDone ∧
    s'.failed = s.failed + as.countP RunAvs.Action.nodeFailed + as.countP RunAvs.Action.serverFailed ∧
    as.countP RunAvs.Action.nodeDone + as.countP RunAvs.Action.nodeFailed + s'.node.pending = s.node.pending ∧
    as.countP RunAvs.Action.serverFailed + s'.serverPending ≤ s.serverPending := by
  induction hr with
  | nil => simp
  | cons h _ ih =>
    have := RunAvs.step_closes h
    simp only [List.countP_cons]
    omega

/-- A failing return of `node.Run` is `nodeReturns` with an error. -/
theorem nodeFailed_iff (a : RunAvs.Action) : a.nodeFailed = true ↔ ∃ e, a = .nodeReturns (some e) := by
  cases a with
  | nodeReturns err => cases err <;> simp
  | _ => simp

/-- A failing return of `ListenAndServe` is `serverReturns` with an error other than `http.ErrServerClosed`. -/
theorem serverFailed_iff (a : RunAvs.Action) : a.serverFailed = true ↔ ∃ e, a = .serverReturns (.other e) := by
  cases a with
  | serverReturns err => cases err <;> simp
  | _ => simp

/-- `0 < countP p` in the terms of `∃`: an action of the list of a given shape satisfies `p`, and only those do. -/
theorem countP_pos_iff_exists {p : RunAvs.Action → Bool} {f : Error → RunAvs.Action}
    (hp : ∀ a, p a = true ↔ ∃ e, a = f e) : 0 < as.countP p ↔ ∃ e, f e ∈ as := by
  rw [List.countP_pos_iff]
  constructor
  · rintro ⟨a, ha, h⟩
    obtain ⟨e, rfl⟩ := (hp a).1 h
    exact ⟨e, ha⟩
  · rintro ⟨e, he⟩
    exact ⟨f e, he, (hp _).2 ⟨e, rfl⟩⟩

/-- With no goroutine left to close `done`, the `select` of `RunAVS` fires only on an interrupt or on a closed
`failed`: a run that ends with `RunAVS` returned began with it returned, took an interrupt, or closed `failed`. -/
theorem returned_of_node_idle (hr : RunAvs.Run s as s') (hd : s.done = 0) (hn : s.node.pending = 0)
    (hm : s'.main = .returned) : s.main = .returned ∨ .wake .sig ∈ as ∨ 0 < s'.failed := by
  induction hr with
  | nil => exact .inl hm
  | @cons s s₁ s' a as h hr ih =>
    obtain ⟨hd₁, hf₁, hn₁, -⟩ := RunAvs.step_closes h
    have hf' := (run_closes hr).2.1
    rcases ih (by omega) (by omega) hm with h₁ | h₁ | h₁
    · rcases RunAvs.step_returned h h₁ with h₀ | ⟨c, rfl, hc⟩
      · exact .inl h₀
      · cases c with
        | sig => exact .inr (.inl (List.mem_cons_self _ _))
        | done => simp [RunAvs.ready, hd] at hc
        | failed =>
          simp only [RunAvs.ready, decide_eq_true_eq] at hc
          exact .inr (.inr (by omega))
    · exact .inr (.inl (List.mem_cons_of_mem _ h₁))
    · exact .inr (.inr h₁)

end ShutdownAux

open ShutdownAux in
/-- Over every run from the start of `RunAVS`: `done` is closed at most once, `failed` at most twice, and `failed` is
closed twice, so that Go panics, exactly when both `node.Run` and `ListenAndServe` fail. -/
theorem failed_closed_twice_iff {setup : P2PSetup} {as : List RunAvs.Action} {s' : RunAvs}
    (hr : RunAvs.Run (RunAvs.start setup) as s') :
    s'.done ≤ 1 ∧ s'.failed ≤ 2 ∧
      (1 < s'.failed ↔ (∃ e, .nodeReturns (some e) ∈ as) ∧ ∃ e, .serverReturns (.other e) ∈ as) := by
  obtain ⟨hd, hf, hn, hs⟩ := run_closes hr
  have hnode : (RunAvs.start setup).node.pending ≤ 1 := by
    simp only [RunAvs.start]; split <;> simp
  have hserver : (RunAvs.start setup).serverPending = 1 := by simp [RunAvs.start, RunAvs.serverPending]
  rw [← countP_pos_iff_exists nodeFailed_iff, ← countP_pos_iff_exists serverFailed_iff]
  simp only [RunAvs.start] at hd hf
  omega

open ShutdownAux in
/-- `RunAVS` drops what `RunP2P` returns. When `RunP2P` gave up, no goroutine is left to close `done`: over every run
`done` stays open, only the server can close `failed`, once, and `RunAVS` returns only on an interrupt or on
`ListenAndServe` failing. -/
theorem p2p_failure_ignored {setup : P2PSetup} {as : List RunAvs.Action} {s' : RunAvs}
    (hr : RunAvs.Run (RunAvs.start setup) as s') (hf : (runP2P setup).1 = failure) :
    s'.done = 0 ∧ s'.failed ≤ 1 ∧
      (s'.main = .returned → .wake .sig ∈ as ∨ ∃ e, .serverReturns (.other e) ∈ as) := by
  have hidle : (RunAvs.start setup).node.pending = 0 := by
    rcases runP2P_cases setup with h | h <;> rw [h] at hf
    · simp [RunAvs.start, h]
    · cases hf
  have hserver : (RunAvs.start setup).serverPending = 1 := by simp [RunAvs.start, RunAvs.serverPending]
  obtain ⟨hd, hfl, hn, hs⟩ := run_closes hr
  simp only [RunAvs.start] at hd hfl
  refine ⟨by omega, by omega, fun hm => ?_⟩
  rcases returned_of_node_idle hr (by simp [RunAvs.start]) hidle hm with h | h | h
  · cases h
  · exact .inl h
  · exact .inr ((countP_pos_iff_exists serverFailed_iff).1 (by omega))

/-- The setup in which the workspace path cannot be made absolute. -/
def setupAbsFails : P2PSetup := ⟨some ⟨"getwd: no such file or directory"⟩, none, [], fun a => .ok ⟨a⟩, none, none⟩

/-- `p2p_failure_ignored` on the run where `RunP2P` gave up, the server starts, and only an interrupt ends `RunAVS`. -/
theorem p2p_failure_ignored_interrupted :
    RunAvs.Run (RunAvs.start setupAbsFails) [.startServer, .interrupt, .wake .sig]
        ⟨0, 0, .idle, .waiting, .returned, false, false⟩ ∧ (runP2P setupAbsFails).1 = failure ∧
      ((0 : Nat) = 0 ∧ (0 : Nat) ≤ 1 ∧ (MainPc.returned = .returned → .wake .sig ∈ [RunAvs.Action.startServer,
        .interrupt, .wake .sig] ∨ ∃ e, .serverReturns (.other e) ∈ [RunAvs.Action.startServer, .interrupt, .wake .sig])) :=
  have hr : RunAvs.Run (RunAvs.start setupAbsFails) [.startServer, .interrupt, .wake .sig]
      ⟨0, 0, .idle, .waiting, .returned, false, false⟩ := .cons rfl (.cons rfl (.cons rfl (.nil _)))
  ⟨hr, rfl, p2p_failure_ignored hr rfl⟩

/-- The setup in which every call of `RunP2P` succeeds and there is no boot node. -/
def setupOk : P2PSetup := ⟨none, none, [], fun a => .ok ⟨a⟩, none, none⟩

/-- `RunAVS` starts the server, `node.Run` fails, and then `ListenAndServe` cannot listen. -/
def nodeThenServerFail : List RunAvs.Action :=
  [.startServer, .nodeReturns (some ⟨"node failed"⟩),
    .serverReturns (.other ⟨"listen tcp :8080: bind: address already in use"⟩)]

/-- On `nodeThenServerFail` both goroutines close `failed`, the second time a closed channel, and the process is
dead. -/
theorem failed_closed_twice :
    RunAvs.Run (RunAvs.start setupOk) nodeThenServerFail ⟨0, 2, .finished, .finished, .selecting, false, false⟩ ∧
      (⟨0, 2, .finished, .finished, .selecting, false, false⟩ : RunAvs).alive = false :=
  ⟨.cons rfl (.cons rfl (.cons rfl (.nil _))), rfl⟩

/-- `failed_closed_twice_iff` on `nodeThenServerFail`. -/
theorem failed_closed_twice_iff_both_fail :
    RunAvs.Run (RunAvs.start setupOk) nodeThenServerFail ⟨0, 2, .finished, .finished, .selecting, false, false⟩ ∧
      (1 < 2 ↔ (∃ e, .nodeReturns (some e) ∈ nodeThenServerFail) ∧
        ∃ e, .serverReturns (.other e) ∈ nodeThenServerFail) :=
  have hr : RunAvs.Run (RunAvs.start setupOk) nodeThenServerFail ⟨0, 2, .finished, .finished, .selecting, false, false⟩ :=
    .cons rfl (.cons rfl (.cons rfl (.nil _)))
  ⟨hr, (failed_closed_twice_iff hr).2.2⟩

end BlocklessAvs
