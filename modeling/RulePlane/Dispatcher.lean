import RulePlane.Push.Delivery
import RulePlane.Watcher

/-!
# Dispatching

Pushes are not delivered where a change is noticed: they wait in the queues of a fixed number of
workers. All pushes for one application wait in one queue, so they are delivered in order. A worker
hands each push to every engine in turn, whatever became of it at the engines before.
-/

namespace RulePlane

/-- The queues of the workers, by the number of the worker. A stopped dispatcher takes no more. -/
structure Dispatcher where
  workers : Nat
  capacity : Nat
  queues : Table Nat (List Push)
  stopped : Bool

/-- What became of a push that was handed to the dispatcher. -/
inductive Submission where
  | accepted
  /-- The queue is full; the push has to wait. -/
  | full
  | stopped
deriving DecidableEq, Repr

/-- Delivers a push to the clients of one protocol. -/
abbrev Engine (σ : Type) := Push → σ → Except PushError Unit × σ

namespace Dispatcher

/-- A dispatcher with a number of workers and a capacity of each queue. There is at least one
    worker, and a queue holds at least one push. -/
def ofSizes (workers capacity : Nat) : Dispatcher where
  workers := max 1 workers
  capacity := max 1 capacity
  queues := Table.empty
  stopped := false

/-- The pushes that wait for a worker. -/
def queue (dispatcher : Dispatcher) (worker : Nat) : List Push :=
  (dispatcher.queues.find? worker).getD []

/-- The worker that delivers the pushes of an application. -/
def workerOf (hash : App → Nat) (dispatcher : Dispatcher) (app : App) : Nat :=
  hash app % dispatcher.workers

/-- Hand a push to the worker of its application. -/
def submit (hash : App → Nat) (dispatcher : Dispatcher) (push : Push) :
    Submission × Dispatcher :=
  let worker := workerOf hash dispatcher push.target.app
  let queue := dispatcher.queue worker
  if dispatcher.stopped then (.stopped, dispatcher)
  else if dispatcher.capacity ≤ queue.length then (.full, dispatcher)
  else
    (.accepted,
      { dispatcher with queues := dispatcher.queues.insert worker (queue ++ [push]) })

/-- Take the next push of a worker. -/
def next? (dispatcher : Dispatcher) (worker : Nat) : Option (Push × Dispatcher) :=
  match dispatcher.queue worker with
  | [] => none
  | push :: rest =>
      some (push, { dispatcher with queues := dispatcher.queues.insert worker rest })

/-- Hand a push to every engine in turn. -/
def publishAll {σ : Type} (engines : List (Engine σ)) (push : Push) (state : σ) : σ :=
  engines.foldl (fun state engine => (engine push state).2) state

/-- Let a worker deliver all pushes of its queue. -/
def drainQueue {σ : Type} (engines : List (Engine σ)) (worker : Nat) (dispatcher : Dispatcher)
    (state : σ) : Dispatcher × σ :=
  ({ dispatcher with queues := dispatcher.queues.insert worker [] },
    (dispatcher.queue worker).foldl (fun state push => publishAll engines push state) state)

/-- Let all workers deliver all pushes of their queues. -/
def drain {σ : Type} (engines : List (Engine σ)) (dispatcher : Dispatcher) (state : σ) :
    Dispatcher × σ :=
  (List.range dispatcher.workers).foldl
    (fun reached worker => drainQueue engines worker reached.1 reached.2) (dispatcher, state)

/-- Hand in a push; if its queue is full, wait until the worker has delivered what is in it. -/
def submitWaiting {σ : Type} (hash : App → Nat) (engines : List (Engine σ)) (push : Push)
    (dispatcher : Dispatcher) (state : σ) : Submission × Dispatcher × σ :=
  match submit hash dispatcher push with
  | (.full, _) =>
      let worker := workerOf hash dispatcher push.target.app
      let (dispatcher, state) := drainQueue engines worker dispatcher state
      let (submission, dispatcher) := submit hash dispatcher push
      (submission, dispatcher, state)
  | (submission, dispatcher) => (submission, dispatcher, state)

/-- Hand in pushes one after another, and let the workers deliver all of them. -/
def run {σ : Type} (hash : App → Nat) (engines : List (Engine σ)) :
    List Push → Dispatcher → σ → List Submission × Dispatcher × σ
  | [], dispatcher, state => ([], drain engines dispatcher state)
  | push :: rest, dispatcher, state =>
      let (submission, dispatcher, state) := submitWaiting hash engines push dispatcher state
      let (others, reached) := run hash engines rest dispatcher state
      (submission :: others, reached)

/-- The report on a push that a stopped dispatcher refused. -/
def stoppedMessage : String := "push workers have stopped"

/-- An accepted push stands at the end of the queue of its application's worker, and all other
    queues are as they were. A push that was not accepted changes nothing. -/
theorem queue_submit (hash : App → Nat) (dispatcher : Dispatcher) (push : Push) (worker : Nat) :
    (submit hash dispatcher push).2.queue worker =
      if (submit hash dispatcher push).1 = .accepted ∧
          workerOf hash dispatcher push.target.app = worker then
        dispatcher.queue worker ++ [push]
      else dispatcher.queue worker := by
  simp only [submit]
  split
  · simp
  · split
    · simp
    · by_cases same : workerOf hash dispatcher push.target.app = worker
      · subst same
        simp [queue]
      · simp [queue, Table.find?_insert, same]

/-- The push that a worker takes is the first of its queue; what is behind it stays, and so do all
    other queues. -/
theorem queue_of_next? {dispatcher taken : Dispatcher} {worker : Nat} {push : Push}
    (taking : dispatcher.next? worker = some (push, taken)) :
    dispatcher.queue worker = push :: taken.queue worker ∧
      ∀ other, worker ≠ other → taken.queue other = dispatcher.queue other := by
  unfold next? at taking
  split at taking
  · cases taking
  · rename_i first rest waiting
    cases taking
    refine ⟨?_, fun other different => ?_⟩
    · rw [waiting, queue, Table.find?_insert_self, Option.getD_some]
    · simp [queue, Table.find?_insert, different]

end Dispatcher

end RulePlane
