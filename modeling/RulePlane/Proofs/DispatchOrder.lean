import RulePlane.Dispatcher
import RulePlane.Push.Activity

/-!
# Workers side by side

Several workers empty the queues of a dispatcher at once. A move is one step of one worker, a push
that is handed in, a push that has waited and now finds room, the last handle of the dispatcher
being dropped, or whatever else happens to the state; moves come in any order, so the laws hold for
every schedule. An engine is an activity: it may wait in the middle of a push, and it may answer
anything, at any time.

A push that finds its queue full waits in line. Room goes to the push that has waited longest for
the queue, and none that comes later can take it. Whoever hands in a push holds a handle while the
push waits, and does not give up.

Next to what runs stands a record: the pushes that were handed in, those that were accepted, those
that workers took, and the calls of engines that were made and that returned. The record is never
read by a move.

For each application, what an engine was called for is a prefix of what was handed in; a worker
calls the engines in their order for every push that it takes, whatever they answer; and when all
workers have ended, every engine was called once for every push. How long anything takes is left
open, and so is the order of pushes for different applications.
-/

namespace RulePlane

/-- Delivers a push to the clients of one protocol, and may have to wait in between. -/
abbrev WaitingEngine (μ σ : Type) := Push → σ → Activity μ σ (Except PushError Unit)

/-- What a worker is at. Engines are numbered in the order in which they are called. -/
inductive Duty (μ σ : Type) where
  /-- It waits for a push. -/
  | idle
  /-- It is about to hand a push to the engine with a number. -/
  | handing (push : Push) (engine : Nat)
  /-- The engine with a number is in the middle of a push. -/
  | waiting (push : Push) (engine : Nat)
      (resume : SendOutcome → σ → Activity μ σ (Except PushError Unit))
  /-- It will do nothing more. -/
  | ended

/-- A call of an engine by a worker. -/
structure Call where
  worker : Nat
  engine : Nat
  push : Push

/-- Workers that empty the queues of a dispatcher, the pushes that wait in line for room, and the
    record of what was done. -/
structure Dispatching (μ σ : Type) where
  dispatcher : Dispatcher
  line : List Push
  dropped : Bool
  state : σ
  duties : Nat → Duty μ σ
  pushed : List Push
  accepted : List Push
  taken : List (Nat × Push)
  called : List Call
  returned : List Call

namespace Dispatching

variable {μ σ : Type}

/-- Idle workers before the first push. -/
def start (workers capacity : Nat) (state : σ) : Dispatching μ σ where
  dispatcher := Dispatcher.ofSizes workers capacity
  line := []
  dropped := false
  state := state
  duties := fun _ => .idle
  pushed := []
  accepted := []
  taken := []
  called := []
  returned := []

/-- Let a worker be at something else. -/
def assign (dispatching : Dispatching μ σ) (worker : Nat) (duty : Duty μ σ) : Dispatching μ σ :=
  { dispatching with
    duties := fun other => if other = worker then duty else dispatching.duties other }

/-- Let a worker take a push, which leaves the dispatcher as given. -/
def take (dispatching : Dispatching μ σ) (worker : Nat) (push : Push) (dispatcher : Dispatcher) :
    Dispatching μ σ :=
  { dispatching.assign worker (.handing push 0) with
    dispatcher := dispatcher
    taken := dispatching.taken ++ [(worker, push)] }

/-- Go on with the call of an engine until it returns or has to wait. -/
def follow (worker : Nat) (push : Push) (engine : Nat) (dispatching : Dispatching μ σ) :
    Activity μ σ (Except PushError Unit) → Dispatching μ σ
  | .finished _ state =>
      { dispatching.assign worker (.handing push (engine + 1)) with
        state := state
        returned := dispatching.returned ++ [⟨worker, engine, push⟩] }
  | .sending _ _ _ state resume =>
      { dispatching.assign worker (.waiting push engine resume) with state := state }

/-- A step of a worker: take a push, or end if there will be none; call the next engine, or be idle
    again after the last one; or go on with a call, with the outcome that its send has met. -/
def work (engines : List (WaitingEngine μ σ)) (worker : Nat) (outcome : SendOutcome)
    (dispatching : Dispatching μ σ) : Dispatching μ σ :=
  match dispatching.duties worker with
  | .idle =>
      match dispatching.dispatcher.next? worker with
      | some (push, dispatcher) => dispatching.take worker push dispatcher
      | none => if dispatching.dropped then dispatching.assign worker .ended else dispatching
  | .handing push engine =>
      match engines[engine]? with
      | some publish =>
          { dispatching with called := dispatching.called ++ [Call.mk worker engine push] }.follow
            worker push engine (publish push dispatching.state)
      | none => dispatching.assign worker .idle
  | .waiting push engine resume =>
      dispatching.follow worker push engine (resume outcome dispatching.state)
  | .ended => dispatching

/-- Whether a push is for the queue of a worker. -/
def isFor (hash : App → Nat) (worker : Nat) (dispatching : Dispatching μ σ) (push : Push) : Bool :=
  dispatching.dispatcher.workerOf hash push.target.app = worker

/-- The push that has waited longest for the queue of a worker. -/
def first? (hash : App → Nat) (worker : Nat) (dispatching : Dispatching μ σ) : Option Push :=
  dispatching.line.find? (dispatching.isFor hash worker)

/-- Hand in a push, if there is still a handle to do so. It waits in line if there is no room in its
    queue, or if others wait for it already. -/
def submit (hash : App → Nat) (push : Push) (dispatching : Dispatching μ σ) : Dispatching μ σ :=
  let worker := dispatching.dispatcher.workerOf hash push.target.app
  let pushed := dispatching.pushed ++ [push]
  if dispatching.dropped then dispatching
  else
    match dispatching.first? hash worker, dispatching.dispatcher.submit hash push with
    | none, (.accepted, dispatcher) =>
        { dispatching with dispatcher, pushed, accepted := dispatching.accepted ++ [push] }
    | _, _ => { dispatching with pushed, line := dispatching.line ++ [push] }

/-- Let the push that has waited longest for the queue of a worker into it, if there is room. -/
def enqueueNext (hash : App → Nat) (worker : Nat) (dispatching : Dispatching μ σ) :
    Dispatching μ σ :=
  match dispatching.first? hash worker with
  | none => dispatching
  | some push =>
      match dispatching.dispatcher.submit hash push with
      | (.accepted, dispatcher) =>
          { dispatching with
            dispatcher
            line := dispatching.line.eraseP (dispatching.isFor hash worker)
            accepted := dispatching.accepted ++ [push] }
      | (.full, _) | (.stopped, _) => dispatching

/-- Drop the last handle, unless a push that waits holds another. -/
def drop (dispatching : Dispatching μ σ) : Dispatching μ σ :=
  if dispatching.line = [] then { dispatching with dropped := true } else dispatching

/-- What can happen. -/
inductive Move (σ : Type) where
  | submit (push : Push)
  | enqueueNext (worker : Nat)
  | drop
  | work (worker : Nat) (outcome : SendOutcome)
  | elsewhere (change : σ → σ)

/-- What a move does. -/
def advance (hash : App → Nat) (engines : List (WaitingEngine μ σ))
    (dispatching : Dispatching μ σ) : Move σ → Dispatching μ σ
  | .submit push => dispatching.submit hash push
  | .enqueueNext worker => dispatching.enqueueNext hash worker
  | .drop => dispatching.drop
  | .work worker outcome => dispatching.work engines worker outcome
  | .elsewhere change => { dispatching with state := change dispatching.state }

/-- What some moves lead to. -/
def run (hash : App → Nat) (engines : List (WaitingEngine μ σ)) (moves : List (Move σ))
    (dispatching : Dispatching μ σ) : Dispatching μ σ :=
  moves.foldl (advance hash engines) dispatching

/-! ## Readings of the record -/

/-- The pushes that a worker took. -/
def takenBy (taken : List (Nat × Push)) (worker : Nat) : List Push :=
  (taken.filter fun taking => taking.1 = worker).map Prod.snd

/-- The engines that a worker called, with the pushes. -/
def byWorker (calls : List Call) (worker : Nat) : List (Nat × Push) :=
  (calls.filter fun call => call.worker = worker).map fun call => (call.engine, call.push)

/-- The pushes for an application that an engine was called for. -/
def forApp (calls : List Call) (engine : Nat) (app : App) : List Push :=
  (calls.filter fun call => call.engine = engine ∧ call.push.target.app = app).map Call.push

/-- The pushes that an engine was called for. -/
def byEngine (calls : List Call) (engine : Nat) : List Push :=
  (calls.filter fun call => call.engine = engine).map Call.push

/-- Of some pushes, those for an application, of all kinds. -/
def ofApp (pushes : List Push) (app : App) : List Push :=
  pushes.filter fun push => push.target.app = app

/-- Of some pushes, those for the queue of one worker, out of a number of workers. -/
def ofWorker (hash : App → Nat) (workers : Nat) (pushes : List Push) (worker : Nat) : List Push :=
  pushes.filter fun push => hash push.target.app % max 1 workers = worker

/-- The pushes that a worker called an engine for, among its calls. -/
def ofEngine (calls : List (Nat × Push)) (engine : Nat) : List Push :=
  (calls.filter fun call => call.1 = engine).map Prod.snd

/-- The calls of a number of engines for a push, in their order. -/
def handings (engines : Nat) (push : Push) : List (Nat × Push) :=
  (List.range engines).map fun engine => (engine, push)

end Dispatching

/-- The push that a worker is at, and how many engines it has called for it. -/
def Duty.begun {μ σ : Type} : Duty μ σ → Option (Push × Nat)
  | idle | ended => none
  | handing push engine => some (push, engine)
  | waiting push engine _ => some (push, engine + 1)

/-- The call that a worker is in the middle of. -/
def Duty.inCall {μ σ : Type} : Duty μ σ → List (Nat × Push)
  | idle | ended | handing _ _ => []
  | waiting push engine _ => [(engine, push)]

namespace Dispatcher

/-- A push is accepted exactly if the dispatcher has not stopped and there is room in the queue. -/
theorem submit_eq_accepted_iff (hash : App → Nat) (dispatcher : Dispatcher) (push : Push) :
    (dispatcher.submit hash push).1 = .accepted ↔
      dispatcher.stopped = false ∧
        (dispatcher.queue (dispatcher.workerOf hash push.target.app)).length <
          dispatcher.capacity := by
  simp only [submit]
  split
  · rename_i stopped
    simp [stopped]
  · rename_i running
    split
    · rename_i full
      simp [full]
    · rename_i room
      simp [running, Nat.lt_of_not_le room]

/-- A push that is handed in changes neither how many workers there are nor what they hold. -/
theorem submit_frame (hash : App → Nat) (dispatcher : Dispatcher) (push : Push) :
    (dispatcher.submit hash push).2.workers = dispatcher.workers ∧
      (dispatcher.submit hash push).2.capacity = dispatcher.capacity ∧
      (dispatcher.submit hash push).2.stopped = dispatcher.stopped := by
  simp only [submit]
  split
  · exact ⟨rfl, rfl, rfl⟩
  · split <;> exact ⟨rfl, rfl, rfl⟩

/-- Nor does a push that is taken. -/
theorem sizes_next? {dispatcher taken : Dispatcher} {worker : Nat} {push : Push}
    (taking : dispatcher.next? worker = some (push, taken)) :
    taken.workers = dispatcher.workers ∧ taken.capacity = dispatcher.capacity ∧
      taken.stopped = dispatcher.stopped := by
  unfold next? at taking
  split at taking
  · cases taking
  · cases taking
    exact ⟨rfl, rfl, rfl⟩

/-- A worker finds no push exactly if its queue is empty. -/
theorem next?_eq_none_iff (dispatcher : Dispatcher) (worker : Nat) :
    dispatcher.next? worker = none ↔ dispatcher.queue worker = [] := by
  unfold next?
  split
  · rename_i waiting
    simp [waiting]
  · rename_i push rest waiting
    simp [waiting]

end Dispatcher

namespace Dispatching

variable {μ σ : Type} {dispatching : Dispatching μ σ} {hash : App → Nat}
  {engines : List (WaitingEngine μ σ)} {workers capacity : Nat}

@[simp] theorem duties_assign (dispatching : Dispatching μ σ) (worker : Nat) (duty : Duty μ σ)
    (other : Nat) : (dispatching.assign worker duty).duties other =
      if other = worker then duty else dispatching.duties other := rfl

/-- A push that is taken shows in the reading of its worker only. -/
theorem takenBy_concat (taken : List (Nat × Push)) (worker : Nat) (push : Push) (other : Nat) :
    takenBy (taken ++ [(worker, push)]) other =
      if worker = other then takenBy taken other ++ [push] else takenBy taken other := by
  unfold takenBy
  rw [List.filter_append, List.map_append]
  by_cases own : worker = other <;> simp [own]

/-- What is added to a record shows in the reading of its worker only. -/
theorem byWorker_concat (calls : List Call) (call : Call) (worker : Nat) :
    byWorker (calls ++ [call]) worker =
      if call.worker = worker then byWorker calls worker ++ [(call.engine, call.push)]
      else byWorker calls worker := by
  unfold byWorker
  rw [List.filter_append, List.map_append]
  by_cases own : call.worker = worker <;> simp [own]

/-- One more push is one more for its worker. -/
theorem ofWorker_concat (hash : App → Nat) (workers : Nat) (pushes : List Push) (push : Push)
    (worker : Nat) : ofWorker hash workers (pushes ++ [push]) worker =
      if hash push.target.app % max 1 workers = worker then
        ofWorker hash workers pushes worker ++ [push]
      else ofWorker hash workers pushes worker := by
  unfold ofWorker
  rw [List.filter_append]
  by_cases own : hash push.target.app % max 1 workers = worker <;> simp [own]

/-- The first push in line for a worker is the first of those for this worker, and those for others
    stay as they are without it. -/
theorem ofWorker_of_first {hash : App → Nat} {workers worker : Nat} {line : List Push} {push : Push}
    (first : line.find? (fun push => hash push.target.app % max 1 workers = worker) = some push) :
    hash push.target.app % max 1 workers = worker ∧ ∀ other,
      ofWorker hash workers line other =
        (if hash push.target.app % max 1 workers = other then [push] else []) ++
          ofWorker hash workers
            (line.eraseP fun push => hash push.target.app % max 1 workers = worker) other := by
  obtain ⟨own, before, after, rfl, passed⟩ := List.find?_eq_some_iff_append.1 first
  obtain rfl := of_decide_eq_true own
  refine ⟨rfl, fun other => ?_⟩
  rw [List.eraseP_append_right _ fun earlier member => by simpa using passed earlier member,
    List.eraseP_cons, decide_eq_true rfl, cond_true]
  unfold ofWorker
  rw [List.filter_append, List.filter_append]
  by_cases same : hash push.target.app % max 1 workers = other
  · subst same
    have none : before.filter (fun earlier => hash earlier.target.app % max 1 workers =
        hash push.target.app % max 1 workers) = [] :=
      List.filter_eq_nil_iff.2 fun earlier member => by simpa using passed earlier member
    simp [none]
  · simp [same]

/-- One more engine is one more call. -/
theorem handings_succ (engines : Nat) (push : Push) :
    handings (engines + 1) push = handings engines push ++ [(engines, push)] := by
  simp [handings, List.range_succ]

/-- The first engines are called first. -/
theorem handings_initial {fewer engines : Nat} (most : fewer ≤ engines) (push : Push) :
    handings fewer push <+: handings engines push := by
  obtain ⟨more, rfl⟩ := Nat.exists_eq_add_of_le most
  rw [handings, handings, List.range_add, List.map_append]
  exact List.prefix_append _ _

/-! ## One worker -/

/-- What a worker has taken, called and seen return fits what it is at: it called the engines in
    their order for each push that it took, as far as it has come with the last one. -/
structure Diligent (engines : Nat) (duty : Duty μ σ) (taken : List Push)
    (called returned : List (Nat × Push)) : Prop where
  resting : duty.begun = none → called = taken.flatMap (handings engines)
  busy : ∀ push count, duty.begun = some (push, count) →
    count ≤ engines ∧ ∃ earlier, taken = earlier ++ [push] ∧
      called = earlier.flatMap (handings engines) ++ handings count push
  answered : returned ++ duty.inCall = called

section Diligence

variable {count : Nat} {duty : Duty μ σ} {taken : List Push} {called returned : List (Nat × Push)}
  {push : Push} {engine : Nat}
  {resume : SendOutcome → σ → Activity μ σ (Except PushError Unit)}

/-- An idle worker may take a push. -/
theorem Diligent.take (diligent : Diligent count (.idle : Duty μ σ) taken called returned)
    (push : Push) :
    Diligent count (.handing push 0 : Duty μ σ) (taken ++ [push]) called returned where
  resting := nofun
  busy := by
    rintro present _ ⟨⟩
    refine ⟨Nat.zero_le count, taken, rfl, ?_⟩
    rw [diligent.resting rfl]
    exact (List.append_nil _).symm
  answered := diligent.answered

/-- A worker calls the engine that is next. -/
theorem Diligent.call
    (diligent : Diligent count (.handing push engine : Duty μ σ) taken called returned)
    (more : engine < count)
    (resume : SendOutcome → σ → Activity μ σ (Except PushError Unit)) :
    Diligent count (.waiting push engine resume) taken (called ++ [(engine, push)]) returned where
  resting := nofun
  busy := by
    rintro present _ ⟨⟩
    obtain ⟨-, earlier, last, sequence⟩ := diligent.busy push engine rfl
    refine ⟨more, earlier, last, ?_⟩
    rw [sequence, handings_succ, List.append_assoc]
  answered := by
    have answered := diligent.answered
    rw [Duty.inCall, List.append_nil] at answered
    rw [Duty.inCall, answered]

/-- A call that has to wait again is still the same call. -/
theorem Diligent.goOn
    (diligent : Diligent count (.waiting push engine resume) taken called returned)
    (other : SendOutcome → σ → Activity μ σ (Except PushError Unit)) :
    Diligent count (.waiting push engine other) taken called returned where
  resting := nofun
  busy := diligent.busy
  answered := diligent.answered

/-- When a call returns, whatever the engine answers, the next engine is to be called. -/
theorem Diligent.answer
    (diligent : Diligent count (.waiting push engine resume) taken called returned) :
    Diligent count (.handing push (engine + 1) : Duty μ σ) taken called
      (returned ++ [(engine, push)]) where
  resting := nofun
  busy := diligent.busy
  answered := by
    rw [Duty.inCall, List.append_nil]
    exact diligent.answered

/-- After the last engine a worker is idle. -/
theorem Diligent.rest
    (diligent : Diligent count (.handing push engine : Duty μ σ) taken called returned)
    (none : count ≤ engine) : Diligent count (.idle : Duty μ σ) taken called returned where
  resting := by
    intro
    obtain ⟨most, earlier, last, sequence⟩ := diligent.busy push engine rfl
    obtain rfl := Nat.le_antisymm most none
    rw [sequence, last, List.flatMap_append, List.flatMap_cons, List.flatMap_nil, List.append_nil]
  busy := nofun
  answered := diligent.answered

/-- An idle worker may end. -/
theorem Diligent.finish (diligent : Diligent count (.idle : Duty μ σ) taken called returned) :
    Diligent count (.ended : Duty μ σ) taken called returned where
  resting := fun _ => diligent.resting rfl
  busy := nofun
  answered := diligent.answered

/-- A worker has called the engines in their order for the pushes it took, and for the last one it
    may still have to call some. -/
theorem Diligent.called_initial (diligent : Diligent count duty taken called returned) :
    called <+: taken.flatMap (handings count) := by
  cases begun : duty.begun with
  | none => exact ⟨[], by rw [diligent.resting begun, List.append_nil]⟩
  | some progress =>
    obtain ⟨push, engine⟩ := progress
    obtain ⟨most, earlier, last, sequence⟩ := diligent.busy push engine begun
    rw [sequence, last, List.flatMap_append, List.flatMap_cons, List.flatMap_nil, List.append_nil]
    exact (List.prefix_append_right_inj _).2 (handings_initial most push)

end Diligence

/-! ## What every move keeps -/

/-- The dispatcher has the sizes it was made with, what was handed in was accepted in its order or
    waits in line, each worker took what its queue has lost and called the engines for it in their
    order, and whoever has ended has nothing left to do. -/
structure Kept (hash : App → Nat) (engines workers capacity : Nat)
    (dispatching : Dispatching μ σ) : Prop where
  staffed : dispatching.dispatcher.workers = max 1 workers
  sized : dispatching.dispatcher.capacity = max 1 capacity
  running : dispatching.dispatcher.stopped = false
  fits : ∀ worker, (dispatching.dispatcher.queue worker).length ≤ max 1 capacity
  lined : ∀ worker, ofWorker hash workers dispatching.accepted worker ++
    ofWorker hash workers dispatching.line worker = ofWorker hash workers dispatching.pushed worker
  closed : dispatching.dropped = true → dispatching.line = []
  routed : ∀ worker, takenBy dispatching.taken worker ++ dispatching.dispatcher.queue worker =
    ofWorker hash workers dispatching.accepted worker
  diligent : ∀ worker, Diligent engines (dispatching.duties worker)
    (takenBy dispatching.taken worker) (byWorker dispatching.called worker)
    (byWorker dispatching.returned worker)
  ended : ∀ worker, dispatching.duties worker = .ended →
    dispatching.dropped = true ∧ dispatching.dispatcher.queue worker = []

/-- Before the first push nothing is recorded. -/
theorem kept_start (hash : App → Nat) (engines workers capacity : Nat) (state : σ) :
    (start workers capacity state : Dispatching μ σ).Kept hash engines workers capacity where
  staffed := rfl
  sized := rfl
  running := rfl
  fits := fun _ => Nat.zero_le _
  lined := fun _ => rfl
  closed := nofun
  routed := fun _ => rfl
  diligent := fun _ => ⟨fun _ => rfl, nofun, rfl⟩
  ended := nofun

/-- Which pushes are for the queue of a worker does not change. -/
theorem Kept.isFor (kept : dispatching.Kept hash engines.length workers capacity) (worker : Nat) :
    dispatching.isFor hash worker =
      fun push => decide (hash push.target.app % max 1 workers = worker) := by
  funext push
  rw [Dispatching.isFor, Dispatcher.workerOf, kept.staffed]

/-- A push that is accepted stands behind those that its worker is to take. What was handed in and
    what waits may change meanwhile, as long as nothing is lost or overtaken. -/
theorem Kept.accept (kept : dispatching.Kept hash engines.length workers capacity)
    (inUse : dispatching.dropped = false) {push : Push} {dispatcher : Dispatcher}
    (accepting : dispatching.dispatcher.submit hash push = (.accepted, dispatcher))
    {line pushed : List Push}
    (lined : ∀ worker, ofWorker hash workers (dispatching.accepted ++ [push]) worker ++
      ofWorker hash workers line worker = ofWorker hash workers pushed worker) :
    Kept hash engines.length workers capacity
      { dispatching with
        dispatcher, line, pushed, accepted := dispatching.accepted ++ [push] } := by
  obtain ⟨-, room⟩ := (Dispatcher.submit_eq_accepted_iff hash _ push).1
    (congrArg Prod.fst accepting)
  obtain ⟨staffed, sized, stopped⟩ := dispatching.dispatcher.submit_frame hash push
  have queue := dispatching.dispatcher.queue_submit hash push
  rw [accepting] at staffed sized stopped queue
  simp only [true_and, Dispatcher.workerOf, kept.staffed] at queue
  constructor
  case staffed => exact staffed.trans kept.staffed
  case sized => exact sized.trans kept.sized
  case running => exact stopped.trans kept.running
  case fits =>
    intro worker
    rw [queue]
    split
    · rename_i own
      rw [Dispatcher.workerOf, kept.staffed, own, kept.sized] at room
      rw [List.length_append]
      exact room
    · exact kept.fits worker
  case lined => exact lined
  case closed => exact fun dropped => absurd (inUse.symm.trans dropped) (by simp)
  case routed =>
    intro worker
    rw [queue, ofWorker_concat, ← kept.routed worker]
    split
    · rw [List.append_assoc]
    · rfl
  case diligent => exact kept.diligent
  case ended =>
    exact fun worker atEnd => absurd (inUse.symm.trans (kept.ended worker atEnd).1) (by simp)

/-- A push that is handed in is accepted if none waits before it, or waits in line. -/
theorem Kept.submit (kept : dispatching.Kept hash engines.length workers capacity) (push : Push) :
    (dispatching.submit hash push).Kept hash engines.length workers capacity := by
  unfold Dispatching.submit
  dsimp only
  split
  · exact kept
  · rename_i inUse
    split
    · rename_i dispatcher free accepting
      refine kept.accept (Bool.eq_false_iff.2 inUse) accepting fun worker => ?_
      have lined := kept.lined worker
      rw [ofWorker_concat, ofWorker_concat, ← lined]
      split
      · rename_i own
        rw [Dispatching.first?, kept.isFor, Dispatcher.workerOf, kept.staffed, own,
          List.find?_eq_none] at free
        have none : ofWorker hash workers dispatching.line worker = [] :=
          List.filter_eq_nil_iff.2 free
        rw [none, List.append_nil, List.append_nil]
      · rfl
    · refine { kept with lined := fun worker => ?_, closed := fun dropped => absurd dropped inUse }
      dsimp only
      rw [ofWorker_concat, ofWorker_concat, ← kept.lined worker]
      split
      · rw [List.append_assoc]
      · rfl

/-- A push that has waited is accepted before all others that wait for its queue. -/
theorem Kept.enqueueNext (kept : dispatching.Kept hash engines.length workers capacity)
    (worker : Nat) :
    (dispatching.enqueueNext hash worker).Kept hash engines.length workers capacity := by
  unfold Dispatching.enqueueNext
  split
  · exact kept
  · rename_i push first
    have inUse : dispatching.dropped = false := by
      refine Bool.eq_false_iff.2 fun dropped => ?_
      rw [Dispatching.first?, kept.closed dropped] at first
      cases first
    split
    · rename_i dispatcher accepting
      refine kept.accept inUse accepting fun other => ?_
      rw [Dispatching.first?, kept.isFor] at first
      obtain ⟨-, line⟩ := ofWorker_of_first first
      rw [kept.isFor, ← kept.lined other, line other, ofWorker_concat]
      split
      · rw [List.append_assoc]
      · rfl
    · exact kept
    · exact kept

/-- The last handle is dropped only when nothing waits. -/
theorem Kept.drop (kept : dispatching.Kept hash engines.length workers capacity) :
    dispatching.drop.Kept hash engines.length workers capacity := by
  unfold Dispatching.drop
  split
  · rename_i noLine
    exact { kept with
      closed := fun _ => noLine
      ended := fun worker atEnd => ⟨rfl, (kept.ended worker atEnd).2⟩ }
  · exact kept

/-- What concerns one worker alone keeps the others diligent. -/
theorem Kept.alone (kept : dispatching.Kept hash engines.length workers capacity)
    {after : Dispatching μ σ} (worker : Nat)
    (dispatcher : after.dispatcher = dispatching.dispatcher)
    (line : after.line = dispatching.line) (dropped : after.dropped = dispatching.dropped)
    (pushed : after.pushed = dispatching.pushed)
    (accepted : after.accepted = dispatching.accepted) (taken : after.taken = dispatching.taken)
    (others : ∀ other, other ≠ worker → after.duties other = dispatching.duties other ∧
      byWorker after.called other = byWorker dispatching.called other ∧
      byWorker after.returned other = byWorker dispatching.returned other)
    (own : Diligent engines.length (after.duties worker) (takenBy dispatching.taken worker)
      (byWorker after.called worker) (byWorker after.returned worker))
    (atEnd : after.duties worker = .ended →
      dispatching.dropped = true ∧ dispatching.dispatcher.queue worker = []) :
    after.Kept hash engines.length workers capacity where
  staffed := by rw [dispatcher, kept.staffed]
  sized := by rw [dispatcher, kept.sized]
  running := by rw [dispatcher, kept.running]
  fits := fun other => by rw [dispatcher]; exact kept.fits other
  lined := by rw [line, pushed, accepted]; exact kept.lined
  closed := by rw [line, dropped]; exact kept.closed
  routed := by
    intro other
    rw [taken, dispatcher, accepted]
    exact kept.routed other
  diligent := by
    intro other
    rw [taken]
    by_cases same : other = worker
    · rw [same]
      exact own
    · obtain ⟨duty, called, returned⟩ := others other same
      rw [duty, called, returned]
      exact kept.diligent other
  ended := by
    intro other ended
    rw [dropped, dispatcher]
    by_cases same : other = worker
    · rw [same] at ended ⊢
      exact atEnd ended
    · rw [(others other same).1] at ended
      exact kept.ended other ended

/-- A worker may be at whatever fits what it has done. -/
theorem Kept.assign (kept : dispatching.Kept hash engines.length workers capacity) {worker : Nat}
    {duty : Duty μ σ}
    (own : Diligent engines.length duty (takenBy dispatching.taken worker)
      (byWorker dispatching.called worker) (byWorker dispatching.returned worker))
    (atEnd : duty = .ended →
      dispatching.dropped = true ∧ dispatching.dispatcher.queue worker = []) :
    (dispatching.assign worker duty).Kept hash engines.length workers capacity := by
  refine kept.alone worker rfl rfl rfl rfl rfl rfl (fun other different => ⟨?_, rfl, rfl⟩) ?_ ?_
  · rw [duties_assign, if_neg different]
  · rw [duties_assign, if_pos rfl]
    exact own
  · rw [duties_assign, if_pos rfl]
    exact atEnd

/-- A worker that calls the next engine is in the middle of the call. -/
theorem Kept.call (kept : dispatching.Kept hash engines.length workers capacity) {worker : Nat}
    {push : Push} {engine : Nat} (handing : dispatching.duties worker = .handing push engine)
    (more : engine < engines.length)
    (resume : SendOutcome → σ → Activity μ σ (Except PushError Unit)) :
    (({ dispatching with called := dispatching.called ++ [Call.mk worker engine push] } :
      Dispatching μ σ).assign worker (.waiting push engine resume)).Kept
        hash engines.length workers capacity := by
  have own := kept.diligent worker
  rw [handing] at own
  have duty : (({ dispatching with called := dispatching.called ++ [Call.mk worker engine push] } :
      Dispatching μ σ).assign worker (.waiting push engine resume)).duties worker =
        .waiting push engine resume := if_pos rfl
  refine kept.alone worker rfl rfl rfl rfl rfl rfl
    (fun other different => ⟨if_neg different, ?_, rfl⟩) ?_ ?_
  · exact (byWorker_concat _ _ other).trans (if_neg (Ne.symm different))
  · rw [duty, Dispatching.assign, byWorker_concat, if_pos rfl]
    exact own.call more resume
  · rw [duty]
    nofun

/-- However far a call of an engine comes, and whatever the engine answers, its worker stays
    diligent. -/
theorem Kept.follow {worker : Nat} {push : Push} {engine : Nat}
    {resume : SendOutcome → σ → Activity μ σ (Except PushError Unit)}
    (kept : (dispatching.assign worker (.waiting push engine resume)).Kept
      hash engines.length workers capacity)
    (activity : Activity μ σ (Except PushError Unit)) :
    (dispatching.follow worker push engine activity).Kept hash engines.length workers
      capacity := by
  have own := kept.diligent worker
  rw [duties_assign, if_pos rfl] at own
  have aside (duty : Duty μ σ) {other : Nat} (different : other ≠ worker) :
      (dispatching.assign worker duty).duties other =
        (dispatching.assign worker (.waiting push engine resume)).duties other := by
    rw [duties_assign, if_neg different, duties_assign, if_neg different]
  cases activity with
  | finished result state =>
    have duty : (dispatching.follow worker push engine (.finished result state)).duties worker =
        .handing push (engine + 1) := if_pos rfl
    refine kept.alone worker rfl rfl rfl rfl rfl rfl
      (fun other different => ⟨aside _ different, rfl, ?_⟩) ?_ ?_
    · exact (byWorker_concat _ _ other).trans (if_neg (Ne.symm different))
    · rw [duty, Dispatching.follow, byWorker_concat, if_pos rfl]
      exact own.answer
    · rw [duty]
      nofun
  | sending stream millis message state later =>
    have duty : (dispatching.follow worker push engine
        (.sending stream millis message state later)).duties worker =
          .waiting push engine later := if_pos rfl
    refine kept.alone worker rfl rfl rfl rfl rfl rfl
      (fun other different => ⟨aside _ different, rfl, rfl⟩) ?_ ?_
    · rw [duty]
      exact own.goOn later
    · rw [duty]
      nofun

/-- A worker that takes a push is diligent, and its queue loses just that push. -/
theorem Kept.take (kept : dispatching.Kept hash engines.length workers capacity) {worker : Nat}
    (idle : dispatching.duties worker = .idle) {push : Push} {dispatcher : Dispatcher}
    (taking : dispatching.dispatcher.next? worker = some (push, dispatcher)) :
    (dispatching.take worker push dispatcher).Kept hash engines.length workers capacity := by
  obtain ⟨first, rest⟩ := Dispatcher.queue_of_next? taking
  obtain ⟨staffed, sized, stopped⟩ := Dispatcher.sizes_next? taking
  have own := kept.diligent worker
  rw [idle] at own
  have busy : (dispatching.take worker push dispatcher).duties worker = .handing push 0 :=
    if_pos rfl
  have aside {other : Nat} (different : other ≠ worker) :
      (dispatching.take worker push dispatcher).duties other = dispatching.duties other :=
    if_neg different
  have taken (other : Nat) : takenBy (dispatching.take worker push dispatcher).taken other =
      if worker = other then takenBy dispatching.taken other ++ [push]
      else takenBy dispatching.taken other := takenBy_concat _ worker push other
  constructor
  case staffed => exact staffed.trans kept.staffed
  case sized => exact sized.trans kept.sized
  case running => exact stopped.trans kept.running
  case fits =>
    intro other
    have fits := kept.fits other
    by_cases same : worker = other
    · subst same
      rw [first, List.length_cons] at fits
      exact Nat.le_of_succ_le fits
    · rw [← rest other same] at fits
      exact fits
  case lined => exact kept.lined
  case closed => exact kept.closed
  case routed =>
    intro other
    refine Eq.trans ?_ (kept.routed other)
    rw [taken]
    by_cases same : worker = other
    · subst same
      rw [if_pos rfl, first, List.append_assoc]
      rfl
    · rw [if_neg same, ← rest other same]
      rfl
  case diligent =>
    intro other
    rw [taken]
    by_cases same : worker = other
    · subst same
      rw [if_pos rfl, busy]
      exact own.take push
    · rw [if_neg same, aside (Ne.symm same)]
      exact kept.diligent other
  case ended =>
    intro other atEnd
    by_cases same : worker = other
    · subst same
      rw [busy] at atEnd
      cases atEnd
    · rw [aside (Ne.symm same)] at atEnd
      obtain ⟨dropped, vacant⟩ := kept.ended other atEnd
      exact ⟨dropped, (rest other same).trans vacant⟩

/-- A step of a worker keeps all workers diligent. -/
theorem Kept.work (kept : dispatching.Kept hash engines.length workers capacity) (worker : Nat)
    (outcome : SendOutcome) :
    (dispatching.work engines worker outcome).Kept hash engines.length workers capacity := by
  have own := kept.diligent worker
  unfold Dispatching.work
  split
  · rename_i idle
    rw [idle] at own
    split
    · rename_i push dispatcher taking
      exact kept.take idle taking
    · rename_i nothing
      split
      · rename_i dropped
        exact kept.assign own.finish fun _ =>
          ⟨dropped, (Dispatcher.next?_eq_none_iff _ worker).1 nothing⟩
      · exact kept
  · rename_i push engine handing
    rw [handing] at own
    split
    · rename_i publish found
      have more := (List.getElem?_eq_some_iff.1 found).1
      exact (kept.call handing more fun _ _ => publish push dispatching.state).follow _
    · rename_i last
      exact kept.assign (own.rest (List.getElem?_eq_none_iff.1 last)) nofun
  · rename_i push engine resume waiting
    rw [waiting] at own
    exact (kept.assign own nofun).follow _
  · exact kept

/-- Every move keeps all workers diligent. -/
theorem Kept.advance (kept : dispatching.Kept hash engines.length workers capacity)
    (move : Move σ) :
    (dispatching.advance hash engines move).Kept hash engines.length workers capacity := by
  cases move with
  | submit push => exact kept.submit push
  | enqueueNext worker => exact kept.enqueueNext worker
  | drop => exact kept.drop
  | work worker outcome => exact kept.work worker outcome
  | elsewhere change => exact { kept with }

/-- So do all moves together. -/
theorem Kept.run (kept : dispatching.Kept hash engines.length workers capacity)
    (moves : List (Move σ)) :
    (dispatching.run hash engines moves).Kept hash engines.length workers capacity := by
  induction moves generalizing dispatching with
  | nil => exact kept
  | cons move rest inductionHypothesis => exact inductionHypothesis (kept.advance move)

/-! ## What became of the pushes -/

theorem ofEngine_append (calls others : List (Nat × Push)) (engine : Nat) :
    ofEngine (calls ++ others) engine = ofEngine calls engine ++ ofEngine others engine := by
  rw [ofEngine, List.filter_append, List.map_append]
  rfl

/-- Among the calls of a number of engines for a push, there is one of each. -/
theorem ofEngine_handings (engine count : Nat) (push : Push) :
    ofEngine (handings count push) engine = if engine < count then [push] else [] := by
  induction count with
  | zero => rfl
  | succ count inductionHypothesis =>
    rw [handings_succ, ofEngine_append, inductionHypothesis]
    by_cases last : engine = count
    · simp [last, ofEngine]
    · have others : engine < count + 1 ↔ engine < count := by omega
      simp [others, Ne.symm last, ofEngine]

/-- If engines are called for pushes one after another, each of them is called for these pushes. -/
theorem ofEngine_flatMap (engine count : Nat) (pushes : List Push) :
    ofEngine (pushes.flatMap (handings count)) engine =
      if engine < count then pushes else [] := by
  induction pushes with
  | nil => simp [ofEngine]
  | cons push rest inductionHypothesis =>
    rw [List.flatMap_cons, ofEngine_append, inductionHypothesis, ofEngine_handings]
    split <;> rfl

/-- What was called first was called first of each engine. -/
theorem ofEngine_initial {calls more : List (Nat × Push)} (before : calls <+: more)
    (engine : Nat) : ofEngine calls engine <+: ofEngine more engine :=
  (before.filter _).map _

/-- Of the calls of a worker, those of one engine. -/
theorem ofEngine_byWorker (calls : List Call) (worker engine : Nat) :
    ofEngine (byWorker calls worker) engine =
      (calls.filter fun call => call.engine = engine ∧ call.worker = worker).map Call.push := by
  rw [ofEngine, byWorker, List.filter_map, List.map_map, List.filter_filter]
  refine congrArg (List.map Call.push) (List.filter_congr fun call _ => ?_)
  simp

/-- If one worker makes all calls for an application, the calls are read off that worker. -/
theorem forApp_eq {calls : List Call} (engine : Nat) {app : App} {worker : Nat}
    (only : ∀ call ∈ calls, call.push.target.app = app → call.worker = worker) :
    forApp calls engine app =
      (ofEngine (byWorker calls worker) engine).filter fun push => push.target.app = app := by
  rw [ofEngine_byWorker, List.filter_map, List.filter_filter]
  refine congrArg (List.map Call.push) (List.filter_congr fun call member => ?_)
  by_cases wanted : call.push.target.app = app
  · simp [wanted, only call member wanted]
  · simp [wanted]

/-- The calls that have returned are the first ones that were made. -/
theorem Diligent.returned_initial {count : Nat} {duty : Duty μ σ} {taken : List Push}
    {called returned : List (Nat × Push)}
    (diligent : Diligent count duty taken called returned) : returned <+: called :=
  ⟨duty.inCall, diligent.answered⟩

/-- Whoever makes calls for an application is the worker of the application. -/
theorem Kept.worker_of_mem (kept : dispatching.Kept hash engines.length workers capacity)
    {calls : List Call}
    (noted : ∀ worker, byWorker calls worker <+: byWorker dispatching.called worker)
    {call : Call} (member : call ∈ calls) :
    call.worker = hash call.push.target.app % max 1 workers := by
  have own : (call.engine, call.push) ∈ byWorker calls call.worker :=
    List.mem_map.2 ⟨call, List.mem_filter.2 ⟨member, by simp⟩, rfl⟩
  have called := ((noted call.worker).trans (kept.diligent call.worker).called_initial).subset own
  obtain ⟨push, taken, handed⟩ := List.mem_flatMap.1 called
  obtain ⟨engine, -, same⟩ := List.mem_map.1 handed
  obtain rfl := congrArg Prod.snd same
  have accepted := List.mem_append_left (dispatching.dispatcher.queue call.worker) taken
  rw [kept.routed, ofWorker, List.mem_filter] at accepted
  exact (of_decide_eq_true accepted.2).symm

/-- The calls for an application are those that its worker made. -/
theorem Kept.forApp_eq (kept : dispatching.Kept hash engines.length workers capacity)
    {calls : List Call}
    (noted : ∀ worker, byWorker calls worker <+: byWorker dispatching.called worker)
    (engine : Nat) (app : App) :
    forApp calls engine app =
      (ofEngine (byWorker calls (hash app % max 1 workers)) engine).filter fun push =>
        push.target.app = app :=
  Dispatching.forApp_eq engine fun call member own => by
    rw [kept.worker_of_mem noted member, own]

/-- The pushes for an application are among those for its worker. -/
theorem ofApp_ofWorker (hash : App → Nat) (workers : Nat) (pushes : List Push) (app : App) :
    ofApp (ofWorker hash workers pushes (hash app % max 1 workers)) app = ofApp pushes app := by
  rw [ofApp, ofWorker, List.filter_filter]
  refine List.filter_congr fun push _ => ?_
  by_cases own : push.target.app = app <;> simp [own]

theorem ofApp_append (pushes others : List Push) (app : App) :
    ofApp (pushes ++ others) app = ofApp pushes app ++ ofApp others app := List.filter_append ..

/-- The accepted pushes for an application went through the queue of its worker. -/
theorem Kept.ofApp_accepted (kept : dispatching.Kept hash engines.length workers capacity)
    (app : App) :
    ofApp dispatching.accepted app =
      ofApp (takenBy dispatching.taken (hash app % max 1 workers) ++
        dispatching.dispatcher.queue (hash app % max 1 workers)) app := by
  rw [kept.routed, ofApp_ofWorker]

/-- The pushes for an application were accepted in the order in which they were handed in, and those
    that wait come after them. -/
theorem Kept.ofApp_pushed (kept : dispatching.Kept hash engines.length workers capacity)
    (app : App) :
    ofApp dispatching.accepted app ++ ofApp dispatching.line app =
      ofApp dispatching.pushed app := by
  rw [← ofApp_ofWorker hash workers dispatching.pushed, ← kept.lined, ofApp_append, ofApp_ofWorker,
    ofApp_ofWorker]

/-- What became of the pushes that were handed to a dispatcher with some sizes. -/
structure Orderly (hash : App → Nat) (engines workers capacity : Nat)
    (dispatching : Dispatching μ σ) : Prop where
  /-- An engine is called for the pushes of an application in the order in which they were handed
      in, from the first on, and the calls return in that order. -/
  inOrder : ∀ engine app,
    forApp dispatching.called engine app <+: ofApp dispatching.pushed app ∧
      forApp dispatching.returned engine app <+: forApp dispatching.called engine app
  /-- A push is accepted after all that were handed in before it for its application, or it waits in
      line still. -/
  inLine : ∀ app, ofApp dispatching.accepted app ++ ofApp dispatching.line app =
    ofApp dispatching.pushed app
  /-- A worker takes the accepted pushes of its applications, and has called all engines in their
      order for each of them, up to where it has come with the last one. -/
  everyEngine : ∀ worker,
    takenBy dispatching.taken worker ++ dispatching.dispatcher.queue worker =
        ofWorker hash workers dispatching.accepted worker ∧
      Diligent engines (dispatching.duties worker) (takenBy dispatching.taken worker)
        (byWorker dispatching.called worker) (byWorker dispatching.returned worker)
  /-- A queue takes a push if there is room for it, and there is room for at least one. -/
  room : ∀ push, (dispatching.dispatcher.submit hash push).1 = .accepted ↔
    (dispatching.dispatcher.queue (hash push.target.app % max 1 workers)).length < max 1 capacity
  /-- When all workers have ended, every push was accepted, and every engine has published each of
      them once. -/
  nothingLost : (∀ worker < max 1 workers, dispatching.duties worker = .ended) →
    dispatching.line = [] ∧ dispatching.accepted.Perm dispatching.pushed ∧
      ∀ engine < engines,
        (∀ app, forApp dispatching.returned engine app = ofApp dispatching.pushed app) ∧
        (byEngine dispatching.called engine).Perm dispatching.pushed ∧
        (byEngine dispatching.returned engine).Perm dispatching.pushed

/-- If some pushes are the same for each application, they are the same up to their order. -/
theorem perm_of_ofApp {pushes others : List Push}
    (each : ∀ app, ofApp pushes app = ofApp others app) : pushes.Perm others := by
  rw [List.perm_iff_count]
  intro push
  have counted := congrArg (List.count push) (each push.target.app)
  rwa [ofApp, List.count_filter (by simp), ofApp, List.count_filter (by simp)] at counted

/-- The pushes that an engine was called for, application by application. -/
theorem ofApp_byEngine (calls : List Call) (engine : Nat) (app : App) :
    ofApp (byEngine calls engine) app = forApp calls engine app := by
  rw [ofApp, byEngine, forApp, List.filter_map, List.filter_filter]
  refine congrArg (List.map Call.push) (List.filter_congr fun call _ => ?_)
  simp [Bool.and_comm]

/-- What is kept by every move says what became of the pushes. -/
theorem Kept.orderly (kept : dispatching.Kept hash engines.length workers capacity) :
    dispatching.Orderly hash engines.length workers capacity := by
  have calledPrefix (worker : Nat) := (kept.diligent worker).called_initial
  have returnedPrefix (worker : Nat) := (kept.diligent worker).returned_initial
  constructor
  case inOrder =>
    intro engine app
    rw [kept.forApp_eq (fun _ => List.prefix_rfl) engine app,
      kept.forApp_eq returnedPrefix engine app, ← kept.ofApp_pushed, kept.ofApp_accepted]
    refine ⟨List.IsPrefix.trans (List.IsPrefix.filter _ ?_) (List.prefix_append _ _),
      (ofEngine_initial (returnedPrefix _) engine).filter _⟩
    refine (ofEngine_initial (calledPrefix _) engine).trans ?_
    rw [ofEngine_flatMap]
    split
    · exact List.prefix_append _ _
    · exact List.nil_prefix
  case inLine => exact kept.ofApp_pushed
  case everyEngine => exact fun worker => ⟨kept.routed worker, kept.diligent worker⟩
  case room =>
    intro push
    rw [Dispatcher.submit_eq_accepted_iff, Dispatcher.workerOf, kept.staffed, kept.sized]
    simp [kept.running]
  case nothingLost =>
    intro atEnd
    have noLine := kept.closed (kept.ended 0 (atEnd 0 (by omega))).1
    have accepted (app : App) : ofApp dispatching.accepted app = ofApp dispatching.pushed app := by
      rw [← kept.ofApp_pushed, noLine]
      exact (List.append_nil _).symm
    refine ⟨noLine, perm_of_ofApp accepted, fun engine numbered => ?_⟩
    have all (app : App) : forApp dispatching.called engine app = ofApp dispatching.pushed app ∧
        forApp dispatching.returned engine app = ofApp dispatching.pushed app := by
      have own := atEnd (hash app % max 1 workers) (Nat.mod_lt _ (by omega))
      have diligent := kept.diligent (hash app % max 1 workers)
      rw [own] at diligent
      have answered := diligent.answered
      rw [Duty.inCall, List.append_nil] at answered
      rw [kept.forApp_eq (fun _ => List.prefix_rfl) engine app,
        kept.forApp_eq returnedPrefix engine app, ← accepted, kept.ofApp_accepted, answered,
        diligent.resting rfl, ofEngine_flatMap, if_pos numbered, (kept.ended _ own).2,
        List.append_nil]
      exact ⟨rfl, rfl⟩
    exact ⟨fun app => (all app).2,
      perm_of_ofApp fun app => (ofApp_byEngine _ engine app).trans (all app).1,
      perm_of_ofApp fun app => (ofApp_byEngine _ engine app).trans (all app).2⟩

end Dispatching

end RulePlane
