import BlocklessAvs.EventLoop

/-!
# What a step keeps, and what a run keeps

For each fact the theorems need, the step lemma says what one step of the system does to it, and the run lemma carries
it along a run by induction on `Run`. The steps are read through `step_select` and `step_env` only.
-/

namespace BlocklessAvs

variable {core : Core} {s s₁ s' : Sys} {a : Action} {calls : List Call} {tr : List (Action × List Call)}

/-! ## Steps -/

/-- A step stores a task exactly when its iteration handled a task-created log. -/
theorem step_tasks (h : step core s a = some (calls, s₁)) :
    s₁.agg.tasks = a.taskLog?.elim s.agg.tasks fun log => s.agg.tasks.set log.taskIndex log.task := by
  cases a with
  | env x => rw [(step_env h).2.1, apply_tasks]; rfl
  | select v e =>
    obtain ⟨-, -, -, rfl⟩ := step_select h
    exact handle_tasks core s.agg v e

/-- A step writes the responses exactly when it records one, under its task index and digest. -/
theorem step_taskResponses (h : step core s a = some (calls, s₁)) :
    s₁.agg.taskResponses.uncurry =
      a.recorded?.elim s.agg.taskResponses.uncurry fun r => s.agg.taskResponses.uncurry.set r.1 r.2 := by
  cases a with
  | env x => rw [(step_env h).2.1, apply_taskResponses]
  | select v e =>
    obtain ⟨-, -, -, rfl⟩ := step_select h
    exact congrArg GoMap.uncurry (handle_taskResponses core s.agg v e)

/-- A step adds to the response channel what it delivers and takes out of it what it handles. -/
theorem step_aggResponses (h : step core s a = some (calls, s₁)) :
    (a.completion?.toList ++ s₁.inputs.aggResponses).Perm (s.inputs.aggResponses ++ a.delivered?.toList) := by
  cases a with
  | env x => rw [(step_env h).2.1, apply_aggResponses]; rfl
  | select v e =>
    obtain ⟨-, hv, -, rfl⟩ := step_select h
    simpa [Action.delivered?, Action.completion?] using receive_aggResponses hv

/-- The task-created channel is a queue: a step appends the log it forwards, and takes off the front the log it handles
or its producer abandons. A subscription's error takes nothing off it. -/
theorem step_newTaskCreated (h : step core s a = some (calls, s₁)) :
    a.taskLogTaken?.toList ++ s₁.inputs.newTaskCreated = s.inputs.newTaskCreated ++ a.emitted?.toList := by
  cases a with
  | env x => obtain ⟨-, rfl, hx⟩ := step_env h; exact apply_newTaskCreated hx
  | select v e =>
    obtain ⟨-, hv, -, rfl⟩ := step_select h
    simp only [Action.taskLogTaken?, Action.emitted?, Option.toList_none, List.append_nil]
    exact receive_newTaskCreated hv

/-- A step submits at most once, and only in the iteration that handled a completion without error. -/
theorem step_sends (h : step core s a = some (calls, s₁)) :
    (∀ c ∈ calls, c.isSend = true → ∃ r, a.completion? = some r ∧ r.err = none) ∧ calls.countP Call.isSend ≤ 1 := by
  cases a with
  | env x => simp [(step_env h).1]
  | select v e =>
    obtain ⟨-, -, rfl, -⟩ := step_select h
    exact ⟨fun c hc hs => handle_isSend core s.agg v e hc hs, handle_countP_isSend core s.agg v e⟩

/-- Once the loop has stopped, a step is an event around it: no iteration, no call, and the loop stays stopped. -/
theorem step_of_stopped (h : step core s a = some (calls, s₁)) (hs : s.status ≠ .running) :
    (∃ x, a = .env x) ∧ calls = [] ∧ s₁.status = s.status := by
  cases a with
  | env x => exact ⟨⟨x, rfl⟩, (step_env h).1, by rw [(step_env h).2.1, apply_status]⟩
  | select v e => exact absurd (step_select h).1 hs

/-- With the context cancelled, the running loop can receive `Done`, and then it returns with no call. -/
theorem step_done (hd : s.inputs.ctxDone = true) (hs : s.status = .running) (e : Option Error) :
    step core s (.select .done e) = some ([], { s with status := .returned }) := by
  simp [step, hs, hd, Inputs.ready, Aggregator.handle, Inputs.receive]

/-- `Done` stays closed. -/
theorem step_ctxDone (h : step core s a = some (calls, s₁)) (hd : s.inputs.ctxDone = true) :
    s₁.inputs.ctxDone = true := by
  cases a with
  | env x =>
    rw [(step_env h).2.1]
    cases x <;> try cases ‹Feed›
    all_goals first | rfl | exact hd
  | select v e =>
    obtain ⟨-, -, -, rfl⟩ := step_select h
    cases v <;> exact hd

/-! ## Runs -/

/-- `filterMap` on a cons: the head's image, as a list, before the rest's. -/
theorem filterMap_cons_toList {α β : Type} (f : α → Option β) (x : α) (l : List α) :
    (x :: l).filterMap f = (f x).toList ++ l.filterMap f := by
  cases h : f x <;> simp [h]

/-- What every step's action and calls satisfy, every entry of a run satisfies. -/
theorem Run.forall_mem {P : Action × List Call → Prop}
    (hP : ∀ {s a calls s₁}, step core s a = some (calls, s₁) → P (a, calls)) (hr : Run core s tr s') :
    ∀ e ∈ tr, P e := by
  induction hr with
  | nil => simp
  | cons h _ ih => exact List.forall_mem_cons.2 ⟨hP h, ih⟩

/-- A map that each step sets under at most one key holds, after a run, what the run's sets in order make of it. -/
theorem Run.foldl_set {K V α : Type} [DecidableEq K] (m : Sys → GoMap K V) (upd : Action → Option α) (key : α → K)
    (val : α → V) (hstep : ∀ {s a calls s₁}, step core s a = some (calls, s₁) →
      m s₁ = (upd a).elim (m s) fun x => (m s).set (key x) (val x))
    (hr : Run core s tr s') : m s' = (tr.filterMap (upd ·.1)).foldl (fun m x => m.set (key x) (val x)) (m s) := by
  induction hr with
  | nil => rfl
  | @cons s s₁ s' a calls tr h _ ih =>
    rw [ih, hstep h, List.filterMap_cons]
    cases upd a <;> rfl

/-- The tasks after a run: the task of each log the loop handled, stored under its index in the order handled. -/
theorem Run.tasks (hr : Run core s tr s') :
    s'.agg.tasks = (tr.filterMap (·.1.taskLog?)).foldl (fun m log => m.set log.taskIndex log.task) s.agg.tasks :=
  Run.foldl_set (·.agg.tasks) (·.taskLog?) (·.taskIndex) (·.task) step_tasks hr

/-- The responses after a run: each response recorded, stored under its task index and digest in the order recorded. -/
theorem Run.taskResponses (hr : Run core s tr s') :
    s'.agg.taskResponses.uncurry =
      (tr.filterMap (·.1.recorded?)).foldl (fun m r => m.set r.1 r.2) s.agg.taskResponses.uncurry :=
  Run.foldl_set (·.agg.taskResponses.uncurry) (·.recorded?) Prod.fst Prod.snd step_taskResponses hr

/-- What every iteration's calls show through `g` is what its case yields, and events around the loop make no call:
along a run, the calls shown through `g` are, in order, what the actions yield. -/
theorem Run.calls_filterMap {β : Type} (g : Call → Option β) (F : Action → List β)
    (hF : ∀ (agg : Aggregator) v e, (agg.handle core v e).2.2.filterMap g = F (.select v e)) (hE : ∀ x, F (.env x) = [])
    (hr : Run core s tr s') : (tr.flatMap (·.2)).filterMap g = tr.flatMap (F ·.1) := by
  induction hr with
  | nil => rfl
  | @cons s s₁ s' a calls tr h _ ih =>
    have hstep : calls.filterMap g = F a := by
      cases a with
      | env x => rw [(step_env h).1, hE]; rfl
      | select v e => rw [(step_select h).2.2.1, hF]
    rw [List.flatMap_cons, List.filterMap_append, hstep, ih]
    rfl

/-- What the channel lemma needs of a relation between lists: reflexive, transitive, and kept when the same list is
appended on either side. Equality and `List.Perm` are such. -/
structure ChannelRel {α : Type} (R : List α → List α → Prop) : Prop where
  refl : ∀ l, R l l
  trans : ∀ {l₁ l₂ l₃}, R l₁ l₂ → R l₂ l₃ → R l₁ l₃
  append_left : ∀ {l₁ l₂} (l : List α), R l₁ l₂ → R (l ++ l₁) (l ++ l₂)
  append_right : ∀ {l₁ l₂} (l : List α), R l₁ l₂ → R (l₁ ++ l) (l₂ ++ l)

theorem ChannelRel.eq {α : Type} : ChannelRel (α := α) Eq :=
  ⟨fun _ => rfl, Eq.trans, fun l h => congrArg (l ++ ·) h, fun l h => congrArg (· ++ l) h⟩

theorem ChannelRel.perm {α : Type} : ChannelRel (α := α) List.Perm :=
  ⟨List.Perm.refl, List.Perm.trans, fun l h => h.append_left l, fun l h => h.append_right l⟩

/-- A channel that each step relates by `R`, what it received followed by what it holds after to what it held followed
by what it sent, is related the same way along a run. With equality the channel is a queue that loses nothing; with
`List.Perm` it delivers what it was sent in any order. -/
theorem Run.channel {α : Type} {R : List α → List α → Prop} (hR : ChannelRel R) (q : Sys → List α)
    (sent recv : Action → Option α)
    (hstep : ∀ {s a calls s₁}, step core s a = some (calls, s₁) → R ((recv a).toList ++ q s₁) (q s ++ (sent a).toList))
    (hr : Run core s tr s') : R (tr.filterMap (recv ·.1) ++ q s') (q s ++ tr.filterMap (sent ·.1)) := by
  induction hr with
  | nil => simpa using hR.refl (q _)
  | cons h _ ih =>
    rw [filterMap_cons_toList, filterMap_cons_toList, List.append_assoc, ← List.append_assoc (q _)]
    exact hR.trans (hR.append_left _ ih) (by simpa only [List.append_assoc] using hR.append_right _ (hstep h))

/-- Along a run every completion delivered is handled once or still waits. -/
theorem Run.aggResponses (hr : Run core s tr s') :
    (tr.filterMap (·.1.completion?) ++ s'.inputs.aggResponses).Perm
      (s.inputs.aggResponses ++ tr.filterMap (·.1.delivered?)) :=
  Run.channel ChannelRel.perm (·.inputs.aggResponses) _ _ step_aggResponses hr

/-- Along a run the task-created logs taken off the channel, each handled or abandoned, and then those still waiting
are, in order, those that waited and then those forwarded. -/
theorem Run.newTaskCreated (hr : Run core s tr s') :
    tr.filterMap (·.1.taskLogTaken?) ++ s'.inputs.newTaskCreated =
      s.inputs.newTaskCreated ++ tr.filterMap (·.1.emitted?) :=
  Run.channel ChannelRel.eq (·.inputs.newTaskCreated) _ _ step_newTaskCreated hr

/-- After the loop has stopped, a run has no iteration and makes no call, and the loop stays stopped. -/
theorem Run.of_stopped (hr : Run core s tr s') (hs : s.status ≠ .running) :
    (∀ e ∈ tr, (∃ x, e.1 = .env x) ∧ e.2 = []) ∧ s'.status = s.status := by
  induction hr with
  | nil => simp
  | cons h _ ih =>
    obtain ⟨ha, hc, hst⟩ := step_of_stopped h hs
    obtain ⟨ih₁, ih₂⟩ := ih (hst ▸ hs)
    exact ⟨List.forall_mem_cons.2 ⟨⟨ha, hc⟩, ih₁⟩, ih₂.trans hst⟩

/-- A run of the running loop that ends with the loop stopped has the iteration that stopped it, whose body ended in
the final status. -/
theorem Run.stopped_by (hr : Run core s tr s') (hs : s.status = .running) (hst : s'.status ≠ .running) :
    ∃ (agg : Aggregator) (v : Received) (e : Option Error),
      (Action.select v e, (agg.handle core v e).2.2) ∈ tr ∧ (agg.handle core v e).1 = s'.status := by
  induction hr with
  | nil => exact absurd hs hst
  | @cons s s₁ s' a calls tr h hr' ih =>
    by_cases h₁ : s₁.status = .running
    · obtain ⟨agg, v, e, hm, he⟩ := ih h₁ hst
      exact ⟨agg, v, e, List.mem_cons_of_mem _ hm, he⟩
    · cases a with
      | env x => rw [(step_env h).2.1, apply_status] at h₁; exact absurd hs h₁
      | select v e =>
        obtain ⟨-, -, rfl, rfl⟩ := step_select h
        exact ⟨s.agg, v, e, List.mem_cons_self _ _, (hr'.of_stopped h₁).2.symm⟩

/-- A run of the running loop that ends with the loop returned has an iteration that received `Done`. -/
theorem Run.returned (hr : Run core s tr s') (hs : s.status = .running) (hret : s'.status = .returned) :
    ∃ e, (Action.select .done e, ([] : List Call)) ∈ tr := by
  obtain ⟨agg, v, e, hm, he⟩ := hr.stopped_by hs (by rw [hret]; exact nofun)
  obtain rfl := (handle_returned core agg v e).1 (he.trans hret)
  exact ⟨e, hm⟩

/-- Once the context is cancelled, `Done` stays closed along the run. -/
theorem Run.ctxDone (hr : Run core s tr s') (hd : s.inputs.ctxDone = true) : s'.inputs.ctxDone = true := by
  induction hr with
  | nil => exact hd
  | cons h _ ih => exact ih (step_ctxDone h hd)

end BlocklessAvs
