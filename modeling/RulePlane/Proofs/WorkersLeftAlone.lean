import RulePlane.Proofs.DispatchOrder

/-!
# Workers left alone

What a worker does when nobody interferes and every send finds its outcome at once. An engine then
does what it does in one go, a call returns, and a worker deals with all pushes of its queue as
`Dispatcher.drainQueue` does. So there is room for whoever waits in line, and when nobody does and
there is no handle any more, the workers end.

With the laws of order this is the main result about the dispatcher: whatever has happened, pushes
are in order, and all of them can still be published by every engine (`run_orderly`).
-/

namespace RulePlane

namespace Dispatching

variable {μ σ : Type} {dispatching : Dispatching μ σ} {hash : App → Nat}
  {engines : List (WaitingEngine μ σ)} {workers capacity : Nat}

/-- An engine whose sends are made at once. -/
def completed (attempt : Nat → StreamId → μ → σ → SendOutcome × σ) (engine : WaitingEngine μ σ) :
    Engine σ :=
  fun push state => (engine push state).complete attempt

/-- What concerns one worker only. -/
structure Aside (worker : Nat) (before after : Dispatching μ σ) : Prop where
  line : after.line = before.line
  dropped : after.dropped = before.dropped
  pushed : after.pushed = before.pushed
  accepted : after.accepted = before.accepted
  duties : ∀ other, other ≠ worker → after.duties other = before.duties other
  queues : ∀ other, other ≠ worker →
    after.dispatcher.queue other = before.dispatcher.queue other

theorem Aside.refl (worker : Nat) (dispatching : Dispatching μ σ) :
    Aside worker dispatching dispatching :=
  ⟨rfl, rfl, rfl, rfl, fun _ _ => rfl, fun _ _ => rfl⟩

theorem Aside.trans {worker : Nat} {before between after : Dispatching μ σ}
    (first : Aside worker before between) (second : Aside worker between after) :
    Aside worker before after where
  line := second.line.trans first.line
  dropped := second.dropped.trans first.dropped
  pushed := second.pushed.trans first.pushed
  accepted := second.accepted.trans first.accepted
  duties := fun other different =>
    (second.duties other different).trans (first.duties other different)
  queues := fun other different =>
    (second.queues other different).trans (first.queues other different)

/-- What a worker is at concerns it only. -/
theorem Aside.assign {worker : Nat} {before after : Dispatching μ σ}
    (aside : Aside worker before after) (duty : Duty μ σ) :
    Aside worker before (after.assign worker duty) :=
  aside.trans ⟨rfl, rfl, rfl, rfl, fun _ different => if_neg different, fun _ _ => rfl⟩

/-- A call that it makes concerns it only, too, however far the call comes. -/
theorem Aside.follow {worker : Nat} {before after : Dispatching μ σ}
    (aside : Aside worker before after) (push : Push) (engine : Nat)
    (activity : Activity μ σ (Except PushError Unit)) :
    Aside worker before (after.follow worker push engine activity) := by
  cases activity <;>
    exact aside.trans ⟨rfl, rfl, rfl, rfl, fun _ different => if_neg different, fun _ _ => rfl⟩

theorem run_append (moves more : List (Move σ)) (dispatching : Dispatching μ σ) :
    dispatching.run hash engines (moves ++ more) =
      (dispatching.run hash engines moves).run hash engines more :=
  List.foldl_append

/-- Where a call comes to does not depend on what its worker was at before, nor on the state that
    the call has replaced. -/
theorem follow_assign (worker : Nat) (push : Push) (engine : Nat) (duty : Duty μ σ) (state : σ)
    (activity : Activity μ σ (Except PushError Unit)) (dispatching : Dispatching μ σ) :
    { dispatching.assign worker duty with state := state }.follow worker push engine activity =
      dispatching.follow worker push engine activity := by
  have again (next : Duty μ σ) :
      (fun other => if other = worker then next
        else (dispatching.assign worker duty).duties other) =
      (dispatching.assign worker next).duties := by
    funext other
    by_cases own : other = worker <;> simp [own]
  cases activity with
  | finished result state => simp only [follow, assign] at again ⊢; rw [again]
  | sending stream millis message state resume => simp only [follow, assign] at again ⊢; rw [again]

/-- A worker in the middle of a call goes on with it. -/
theorem work_of_waiting {worker : Nat} {push : Push} {engine : Nat} {outcome : SendOutcome}
    {resume : SendOutcome → σ → Activity μ σ (Except PushError Unit)}
    (waiting : dispatching.duties worker = .waiting push engine resume) :
    dispatching.work engines worker outcome =
      dispatching.follow worker push engine (resume outcome dispatching.state) := by
  simp only [work, waiting]

/-- A call whose sends are made at once returns with the state that the engine completes with. -/
theorem exists_run_follow (hash : App → Nat) (engines : List (WaitingEngine μ σ))
    (attempt : Nat → StreamId → μ → σ → SendOutcome × σ) (worker : Nat) (push : Push)
    (engine : Nat) (activity : Activity μ σ (Except PushError Unit))
    (dispatching : Dispatching μ σ) :
    ∃ moves, (dispatching.follow worker push engine activity).run hash engines moves =
      dispatching.follow worker push engine
        (.finished (activity.complete attempt).1 (activity.complete attempt).2) := by
  induction activity with
  | finished result state => exact ⟨[], rfl⟩
  | sending stream millis message state resume inductionHypothesis =>
    obtain ⟨moves, reached⟩ := inductionHypothesis (attempt millis stream message state).1
      (attempt millis stream message state).2
    -- The send is made while the call waits, and the call goes on with its outcome.
    let sent : List (Move σ) := [.elsewhere fun _ => (attempt millis stream message state).2,
      .work worker (attempt millis stream message state).1]
    have resumed : (dispatching.follow worker push engine
        (.sending stream millis message state resume)).run hash engines sent =
        dispatching.follow worker push engine (resume (attempt millis stream message state).1
          (attempt millis stream message state).2) :=
      (work_of_waiting (if_pos rfl)).trans (follow_assign worker push engine _ _ _ dispatching)
    refine ⟨sent ++ moves, ?_⟩
    rw [run_append, resumed, reached]
    rfl

/-- A worker that is left alone with a push hands it to the rest of the engines in turn, as the
    delivery of the whole push does. -/
theorem exists_run_publishAll (hash : App → Nat)
    (attempt : Nat → StreamId → μ → σ → SendOutcome × σ) {worker : Nat} {push : Push}
    (done rest : List (WaitingEngine μ σ)) (all : engines = done ++ rest)
    (handing : dispatching.duties worker = .handing push done.length) :
    ∃ moves, Aside worker dispatching (dispatching.run hash engines moves) ∧
      (dispatching.run hash engines moves).duties worker = .idle ∧
      (dispatching.run hash engines moves).dispatcher = dispatching.dispatcher ∧
      (dispatching.run hash engines moves).state =
        Dispatcher.publishAll (rest.map (completed attempt)) push dispatching.state := by
  induction rest generalizing done dispatching with
  | nil =>
    have last : engines[done.length]? = none := by simp [all]
    refine ⟨[.work worker .sent], ?_⟩
    have rested : dispatching.run hash engines [.work worker .sent] =
        dispatching.assign worker .idle := by
      simp [run, advance, work, handing, last]
    rw [rested]
    exact ⟨(Aside.refl worker dispatching).assign .idle, if_pos rfl, rfl, rfl⟩
  | cons engine rest inductionHypothesis =>
    have next : engines[done.length]? = some engine := by simp [all]
    let calling : Dispatching μ σ :=
      { dispatching with called := dispatching.called ++ [Call.mk worker done.length push] }
    let activity := engine push dispatching.state
    have called : dispatching.run hash engines [.work worker .sent] =
        calling.follow worker push done.length activity := by
      simp only [run, List.foldl_cons, List.foldl_nil, advance, work, handing, next]
      rfl
    obtain ⟨sends, returned⟩ :=
      exists_run_follow hash engines attempt worker push done.length activity calling
    obtain ⟨reached, answered⟩ : ∃ reached, calling.follow worker push done.length
      (.finished (activity.complete attempt).1 (activity.complete attempt).2) = reached := ⟨_, rfl⟩
    have calls : Aside worker dispatching calling :=
      ⟨rfl, rfl, rfl, rfl, fun _ _ => rfl, fun _ _ => rfl⟩
    have own : Aside worker dispatching reached := answered ▸ calls.follow push done.length _
    have onward : reached.duties worker = .handing push (done ++ [engine]).length := by
      rw [← answered, List.length_append]
      exact if_pos rfl
    obtain ⟨moves, aside, idle, dispatcher, state⟩ :=
      inductionHypothesis (done ++ [engine]) (by rw [all, List.append_assoc]; rfl) onward
    refine ⟨[.work worker .sent] ++ sends ++ moves, ?_⟩
    rw [run_append, run_append, called, returned, answered]
    refine ⟨own.trans aside, idle, ?_, ?_⟩
    · rw [dispatcher, ← answered]
      rfl
    · rw [state, ← answered]
      rfl

/-- A worker that is left alone empties its queue as the delivery of the whole queue does. -/
theorem exists_run_drainQueue (attempt : Nat → StreamId → μ → σ → SendOutcome × σ)
    (hash : App → Nat) (engines : List (WaitingEngine μ σ)) {worker : Nat}
    (idle : dispatching.duties worker = .idle) :
    ∃ moves, Aside worker dispatching (dispatching.run hash engines moves) ∧
      (dispatching.run hash engines moves).duties worker = .idle ∧
      (dispatching.run hash engines moves).dispatcher.queue worker = [] ∧
      (dispatching.run hash engines moves).state =
        (Dispatcher.drainQueue (engines.map (completed attempt)) worker dispatching.dispatcher
          dispatching.state).2 := by
  obtain ⟨queue, waiting⟩ : ∃ queue, dispatching.dispatcher.queue worker = queue := ⟨_, rfl⟩
  rw [Dispatcher.drainQueue, waiting]
  induction queue generalizing dispatching with
  | nil => exact ⟨[], Aside.refl worker dispatching, idle, waiting, rfl⟩
  | cons push rest inductionHypothesis =>
    cases taking : dispatching.dispatcher.next? worker with
    | none =>
      rw [(Dispatcher.next?_eq_none_iff _ worker).1 taking] at waiting
      cases waiting
    | some taken =>
      obtain ⟨first, dispatcher⟩ := taken
      obtain ⟨queue, others⟩ := Dispatcher.queue_of_next? taking
      obtain ⟨rfl, left⟩ := List.cons.inj (queue.symm.trans waiting)
      obtain ⟨reached, begun⟩ :
          ∃ reached, dispatching.take worker first dispatcher = reached := ⟨_, rfl⟩
      have took : dispatching.run hash engines [.work worker .sent] = reached := by
        simp only [run, List.foldl_cons, List.foldl_nil, advance, work, idle, taking, begun]
      have own : Aside worker dispatching reached := by
        rw [← begun]
        exact ⟨rfl, rfl, rfl, rfl, fun _ different => if_neg different,
          fun other different => others other (Ne.symm different)⟩
      have handing : reached.duties worker = .handing first 0 := by
        rw [← begun]
        exact if_pos rfl
      have vacancy : reached.dispatcher.queue worker = rest := by
        rw [← begun]
        exact left
      obtain ⟨calls, published, rested, same, state⟩ :=
        exists_run_publishAll hash attempt [] engines (List.nil_append engines).symm handing
      obtain ⟨moves, aside, idle, emptied, drained⟩ :=
        inductionHypothesis rested (by rw [same, vacancy])
      refine ⟨[.work worker .sent] ++ calls ++ moves, ?_⟩
      rw [run_append, run_append, took]
      refine ⟨(own.trans published).trans aside, idle, emptied, ?_⟩
      rw [drained, state, ← begun]
      rfl

/-- The outcomes of a worker left alone: here every send finds room. -/
def unhindered (_ : Nat) (_ : StreamId) (_ : μ) (state : σ) : SendOutcome × σ := (.sent, state)

/-- A worker that is left alone with a push becomes idle. -/
theorem Kept.exists_run_idle (kept : dispatching.Kept hash engines.length workers capacity)
    {worker : Nat} (working : dispatching.duties worker ≠ .ended) :
    ∃ moves, Aside worker dispatching (dispatching.run hash engines moves) ∧
      (dispatching.run hash engines moves).duties worker = .idle := by
  have own := kept.diligent worker
  have fromHanding {reached : Dispatching μ σ} {push : Push} {engine : Nat}
      (numbered : engine ≤ engines.length)
      (handing : reached.duties worker = .handing push engine) :
      ∃ moves, Aside worker reached (reached.run hash engines moves) ∧
        (reached.run hash engines moves).duties worker = .idle := by
    have counted : (engines.take engine).length = engine := by simp [numbered]
    obtain ⟨moves, aside, idle, -⟩ := exists_run_publishAll hash unhindered (engines.take engine)
      (engines.drop engine) (List.take_append_drop engine engines).symm
      (handing.trans (by rw [counted]))
    exact ⟨moves, aside, idle⟩
  cases duty : dispatching.duties worker with
  | idle => exact ⟨[], Aside.refl worker dispatching, duty⟩
  | ended => exact absurd duty working
  | handing push engine =>
    rw [duty] at own
    exact fromHanding (own.busy push engine rfl).1 duty
  | waiting push engine resume =>
    rw [duty] at own
    obtain ⟨sends, returned⟩ := exists_run_follow hash engines unhindered worker push engine
      (resume .sent dispatching.state) dispatching
    have resumed : dispatching.run hash engines [.work worker .sent] =
        dispatching.follow worker push engine (resume .sent dispatching.state) :=
      work_of_waiting duty
    obtain ⟨reached, answered⟩ : ∃ reached, dispatching.follow worker push engine
      (.finished ((resume .sent dispatching.state).complete unhindered).1
        ((resume .sent dispatching.state).complete unhindered).2) = reached := ⟨_, rfl⟩
    have onward : reached.duties worker = .handing push (engine + 1) := by
      rw [← answered]
      exact if_pos rfl
    have alone : Aside worker dispatching reached :=
      answered ▸ (Aside.refl worker dispatching).follow push engine _
    obtain ⟨moves, aside, idle⟩ := fromHanding (own.busy push (engine + 1) rfl).1 onward
    refine ⟨[.work worker .sent] ++ sends ++ moves, ?_⟩
    rw [run_append, run_append, resumed, returned, answered]
    exact ⟨alone.trans aside, idle⟩

/-- When there is no handle any more, a worker that is left alone ends. -/
theorem Kept.exists_run_ended (kept : dispatching.Kept hash engines.length workers capacity)
    (dropped : dispatching.dropped = true) (worker : Nat) :
    ∃ moves, Aside worker dispatching (dispatching.run hash engines moves) ∧
      (dispatching.run hash engines moves).duties worker = .ended := by
  by_cases atEnd : dispatching.duties worker = .ended
  · exact ⟨[], Aside.refl worker dispatching, atEnd⟩
  · obtain ⟨first, aside, idle⟩ := kept.exists_run_idle atEnd
    obtain ⟨rest, drained, resting, emptied, -⟩ :=
      exists_run_drainQueue unhindered hash engines idle
    obtain ⟨reached, drains⟩ : ∃ reached, (dispatching.run hash engines first).run hash engines
      rest = reached := ⟨_, rfl⟩
    rw [drains] at drained resting emptied
    have ends : reached.run hash engines [.work worker .sent] = reached.assign worker .ended := by
      have nothing := (Dispatcher.next?_eq_none_iff reached.dispatcher worker).2 emptied
      have gone := drained.dropped.trans (aside.dropped.trans dropped)
      simp only [Dispatching.run, List.foldl_cons, List.foldl_nil, Dispatching.advance,
        Dispatching.work, resting, nothing, gone, if_true]
    refine ⟨first ++ rest ++ [.work worker .sent], ?_⟩
    rw [run_append, run_append, drains, ends]
    exact ⟨(aside.trans drained).assign .ended, if_pos rfl⟩

/-- When there is no handle any more, all workers can end. -/
theorem Kept.exists_run_over (kept : dispatching.Kept hash engines.length workers capacity)
    (dropped : dispatching.dropped = true) (count : Nat) :
    ∃ moves, (dispatching.run hash engines moves).dropped = true ∧
      (dispatching.run hash engines moves).pushed = dispatching.pushed ∧
      ∀ worker < count, (dispatching.run hash engines moves).duties worker = .ended := by
  induction count with
  | zero => exact ⟨[], dropped, rfl, nofun⟩
  | succ count inductionHypothesis =>
    obtain ⟨moves, stillDropped, pushed, atEnd⟩ := inductionHypothesis
    obtain ⟨more, aside, last⟩ := (kept.run moves).exists_run_ended stillDropped count
    refine ⟨moves ++ more, ?_⟩
    rw [run_append]
    refine ⟨aside.dropped.trans stillDropped, aside.pushed.trans pushed, fun worker below => ?_⟩
    by_cases same : worker = count
    · exact same ▸ last
    · rw [aside.duties worker same]
      exact atEnd worker (by omega)

/-- The first push in line can be accepted, once the worker that it waits for is left alone. -/
theorem Kept.exists_run_enqueued (kept : dispatching.Kept hash engines.length workers capacity)
    {push : Push} {rest : List Push} (waiting : dispatching.line = push :: rest) :
    ∃ moves, (dispatching.run hash engines moves).line = rest ∧
      (dispatching.run hash engines moves).pushed = dispatching.pushed := by
  obtain ⟨worker, own⟩ : ∃ worker, hash push.target.app % max 1 workers = worker := ⟨_, rfl⟩
  have working : dispatching.duties worker ≠ .ended := by
    intro atEnd
    rw [kept.closed (kept.ended worker atEnd).1] at waiting
    cases waiting
  obtain ⟨first, aside, idle⟩ := kept.exists_run_idle working
  obtain ⟨others, drained, -, emptied, -⟩ := exists_run_drainQueue unhindered hash engines idle
  obtain ⟨reached, drains⟩ :
      ∃ reached, dispatching.run hash engines (first ++ others) = reached := ⟨_, rfl⟩
  have still : reached.Kept hash engines.length workers capacity := drains ▸ kept.run _
  rw [run_append] at drains
  rw [drains] at drained emptied
  have line : reached.line = push :: rest := (drained.line.trans aside.line).trans waiting
  have queued : reached.isFor hash worker push = true := by
    rw [still.isFor]
    exact decide_eq_true own
  have next : reached.first? hash worker = some push := by
    rw [first?, line, List.find?_cons_of_pos queued]
  have accepted : (reached.dispatcher.submit hash push).1 = .accepted := by
    rw [still.orderly.room, own, emptied]
    exact Nat.lt_of_lt_of_le Nat.one_pos (Nat.le_max_left 1 capacity)
  refine ⟨first ++ others ++ [.enqueueNext worker], ?_⟩
  rw [run_append, run_append, drains]
  simp only [Dispatching.run, List.foldl_cons, List.foldl_nil, Dispatching.advance,
    Dispatching.enqueueNext, next]
  split
  · refine ⟨?_, drained.pushed.trans aside.pushed⟩
    dsimp only
    rw [line, List.eraseP_cons_of_pos queued]
  · rename_i full
    rw [full] at accepted
    cases accepted
  · rename_i stopped
    rw [stopped] at accepted
    cases accepted

/-- The line can be emptied. -/
theorem Kept.exists_run_lineEmptied (kept : dispatching.Kept hash engines.length workers capacity) :
    ∃ moves, (dispatching.run hash engines moves).line = [] ∧
      (dispatching.run hash engines moves).pushed = dispatching.pushed := by
  obtain ⟨line, waiting⟩ : ∃ line, dispatching.line = line := ⟨_, rfl⟩
  induction line generalizing dispatching with
  | nil => exact ⟨[], waiting, rfl⟩
  | cons push rest inductionHypothesis =>
    obtain ⟨moves, shorter, pushed⟩ := kept.exists_run_enqueued waiting
    obtain ⟨more, emptied, same⟩ := inductionHypothesis (kept.run moves) shorter
    refine ⟨moves ++ more, ?_⟩
    rw [run_append]
    exact ⟨emptied, same.trans pushed⟩

/-- What can still come of the pushes that were handed to a dispatcher. -/
structure Lively (hash : App → Nat) (engines : List (WaitingEngine μ σ)) (workers : Nat)
    (dispatching : Dispatching μ σ) : Prop where
  /-- An idle worker that is left alone delivers what is in its queue as a whole, whatever the
      outcomes of the sends. -/
  drains : ∀ attempt worker, dispatching.duties worker = .idle →
    ∃ moves, Aside worker dispatching (dispatching.run hash engines moves) ∧
      (dispatching.run hash engines moves).duties worker = .idle ∧
      (dispatching.run hash engines moves).dispatcher.queue worker = [] ∧
      (dispatching.run hash engines moves).state =
        (Dispatcher.drainQueue (engines.map (completed attempt)) worker dispatching.dispatcher
          dispatching.state).2
  /-- Without any further push all workers can end, and every engine has then published all that was
      handed in, in order. -/
  finishes : ∃ moves, (dispatching.run hash engines moves).pushed = dispatching.pushed ∧
    (∀ worker < max 1 workers, (dispatching.run hash engines moves).duties worker = .ended) ∧
      ∀ engine < engines.length, ∀ app,
        forApp (dispatching.run hash engines moves).returned engine app =
          ofApp dispatching.pushed app

/-- Whatever has happened, everything that was handed in can be published. -/
theorem Kept.lively (kept : dispatching.Kept hash engines.length workers capacity) :
    dispatching.Lively hash engines workers := by
  refine ⟨fun attempt worker idle => exists_run_drainQueue attempt hash engines idle, ?_⟩
  obtain ⟨first, emptied, pushed⟩ := kept.exists_run_lineEmptied
  obtain ⟨reached, free⟩ : ∃ reached, (dispatching.run hash engines first).drop = reached :=
    ⟨_, rfl⟩
  have still : reached.Kept hash engines.length workers capacity := free ▸ (kept.run first).drop
  have dropped : reached.dropped = true ∧
      reached.pushed = (dispatching.run hash engines first).pushed := by
    rw [← free, Dispatching.drop, if_pos emptied]
    exact ⟨rfl, rfl⟩
  obtain ⟨rest, -, same, atEnd⟩ := still.exists_run_over dropped.1 (max 1 workers)
  refine ⟨first ++ [.drop] ++ rest, ?_⟩
  have onward : dispatching.run hash engines (first ++ [.drop]) = reached :=
    (run_append first [.drop] dispatching).trans free
  rw [run_append, onward, same, dropped.2, pushed]
  refine ⟨rfl, atEnd, fun engine numbered app => ?_⟩
  have published := (((still.run rest).orderly.nothingLost atEnd).2.2 engine numbered).1 app
  rw [published, same, dropped.2, pushed]

/-- Whatever is handed in and in whatever order workers go on, whatever engines answer: what an
    engine published for an application is a prefix of what was handed in for it, every engine is
    called once for each push that a worker takes, and nothing is lost when the workers have ended.
    And they can end at any time: whatever waits in a queue or in line can be published. -/
theorem run_orderly (hash : App → Nat) (engines : List (WaitingEngine μ σ))
    (workers capacity : Nat) (state : σ) (moves : List (Move σ)) :
    ((start workers capacity state).run hash engines moves).Orderly hash engines.length workers
        capacity ∧
      ((start workers capacity state).run hash engines moves).Lively hash engines workers :=
  have kept := (kept_start hash engines.length workers capacity state).run moves
  ⟨kept.orderly, kept.lively⟩

end Dispatching

end RulePlane
