import RulePlane.Plane.Change
import RulePlane.Proofs.TransportSnapshots

/-!
# Joining a target

One transport stream subscribes a target while resources change. Nothing holds the subscription and
the changes apart: the stream is registered, the current rules are read for its snapshot, and the
snapshot is put on the stream, each in a step of its own; and between these steps the watch may take
a change into account, read the rules of a changed target or hand them to the dispatcher, and a
worker may take a push, when it reads who holds the target, and serve the holders one by one.

Left to themselves the three steps of a subscription are the subscription (`run_subscription`), and
the steps of a worker are its work (`exists_run_work`). What the stream hears when they are mixed is
not decided here.
-/

namespace RulePlane

namespace Plane

/-- Serving one connection of a push is sending. -/
theorem keeps_deliverTo (plane : Plane) (maxAttempts : Nat) (push : Push)
    (connection : ClientId × StreamId) :
    Keeps plane
      (transportChannels.deliverTo maxAttempts (pushedResponse push) connection plane).2 := by
  have made : Keeps plane (pushedResponse push plane).2 := .of_same rfl rfl rfl rfl rfl
  unfold Channels.deliverTo
  dsimp only
  split
  · exact frame_keeps.trans made (frame_keeps.deliver (transportChannels_keeps connection.2) _ _ _)
  · exact made

end Plane

/-- Who joins: a stream with the name of its client, and its request for a target. -/
structure Joiner where
  stream : StreamId
  client : ClientId
  requestId : String
  target : Target

/-- A push that a worker has taken, and the connections that it has still to serve. -/
structure Round where
  push : Push
  connections : List (ClientId × StreamId)

/-- How far a subscription has come. -/
inductive Joining.Stage where
  | outside
  /-- The stream is registered; the current rules are not read yet. -/
  | registered
  /-- A response is ready to be put on the stream. -/
  | answering (response : Transport.Response)
  | answered

/-- A control plane while a stream joins a target: how far that has come, the changed targets whose
    rules are not read yet, the push that is read and not handed over, the rounds of the workers,
    and what was put on the stream. -/
structure Joining where
  plane : Plane
  stage : Joining.Stage
  changed : List Target
  prepared : Option Push
  rounds : Table Nat Round
  log : List Transport.Response

namespace Joining

/-- What may happen next. -/
inductive Move where
  | register
  | look
  | answer
  | change (kind : Kind) (change : Change)
  | read
  | enqueue
  | take (worker : Nat)
  | serve (worker : Nat)
  | outbox (stream : StreamId) (change : Outbox Transport.Response → Outbox Transport.Response)

/-- Nothing has happened yet. -/
def start (plane : Plane) : Joining := ⟨plane, .outside, [], none, Table.empty, []⟩

/-- Whether a subscription is dealt with. -/
def Stage.isAnswered : Stage → Bool
  | answered => true
  | _ => false

/-- Whether everything is dealt with: the subscription is, and no push is under way. -/
def isDone (joining : Joining) : Bool :=
  joining.stage.isAnswered && joining.changed.isEmpty && joining.prepared.isNone &&
    joining.rounds.values.isEmpty && joining.plane.dispatcher.queues.values.flatten.isEmpty

/-- Let the control plane go on, and log what is put on the stream. -/
def advance (joiner : Joiner) (plane : Plane) (joining : Joining) : Joining :=
  { joining with
    plane
    log := joining.log ++
      (plane.waiting joiner.stream).drop (joining.plane.waiting joiner.stream).length }

/-- Register the stream. A stream that is refused is told so, if it is the kind that is not
    supported. -/
def register (joiner : Joiner) (joining : Joining) : Joining :=
  match joining.stage with
  | .outside =>
      let plane := joining.plane
      let (result, subscribers) :=
        plane.subscribers.subscribe plane.transportValid .transport joiner.target joiner.client
          joiner.stream
      { joining with
        plane := { plane with subscribers }
        stage :=
          match result with
          | .ok () => .registered
          | .error (.watch _) =>
              .answering
                (.unsupported plane.settings.controlPlane joiner.requestId joiner.target)
          | .error (.registry _) => .answered }
  | _ => joining

/-- Read the current rules for the snapshot. Without rules there is none. -/
def look (joiner : Joiner) (joining : Joining) : Joining :=
  match joining.stage with
  | .registered =>
      let plane := joining.plane
      let (rules, version) :=
        plane.subscribers.watchers.rules joiner.target.kind joiner.target.app
      { joining with
        stage :=
          if rules.isEmpty then .answered
          else
            .answering (.ofRules plane.settings.controlPlane joiner.requestId joiner.target rules
              version) }
  | _ => joining

/-- Put the response on the stream. -/
def answer (joiner : Joiner) (joining : Joining) : Joining :=
  match joining.stage with
  | .answering response =>
      { joining.advance joiner (joining.plane.deliverTransport joiner.stream response) with
        stage := .answered }
  | _ => joining

/-- Let the watcher of a kind take a change into account, when the one before is handed over. -/
def notice (kind : Kind) (change : Change) (joining : Joining) : Joining :=
  if joining.changed.isEmpty && joining.prepared.isNone then
    let (apps, plane) := joining.plane.notice kind change
    { joining with plane, changed := apps.map (·.target kind) }
  else joining

/-- Read the current rules of a changed target. -/
def read (joining : Joining) : Joining :=
  match joining.prepared, joining.changed with
  | none, target :: rest =>
      { joining with
        prepared := some (joining.plane.currentPush target.kind target.app)
        changed := rest }
  | _, _ => joining

/-- Hand the push that was read to the dispatcher, unless the queue is full. -/
def enqueue (joining : Joining) : Joining :=
  match joining.prepared with
  | none => joining
  | some push =>
      match joining.plane.submit push with
      | (.full, _) => joining
      | (_, plane) => { joining with plane, prepared := none }

/-- Let a worker that is free take the next push of its queue, and read who holds the target. -/
def take (worker : Nat) (joining : Joining) : Joining :=
  match joining.rounds.find? worker, joining.plane.dispatcher.next? worker with
  | none, some (push, dispatcher) =>
      let clients := (joining.plane.subscribers.transport.holders? push.target).getD Table.empty
      { joining with
        plane := { joining.plane with dispatcher }
        rounds := joining.rounds.insert worker ⟨push, clients.entries⟩ }
  | _, _ => joining

/-- The connections that are still to be served after one of them was. -/
def left (mode : FanOutMode) (rest : List (ClientId × StreamId)) :
    Except PushError Unit → List (ClientId × StreamId)
  | .ok () => rest
  | .error _ =>
      match mode with
      | .failFast => []
      | .bestEffort => rest

/-- Let a worker serve the next connection of its round. When there is none, it turns to the
    discovery clients, and the round is over. -/
def serve (joiner : Joiner) (worker : Nat) (joining : Joining) : Joining :=
  match joining.rounds.find? worker with
  | none => joining
  | some ⟨push, []⟩ =>
      { joining.advance joiner (joining.plane.publishDiscovery push).2 with
        rounds := joining.rounds.erase worker }
  | some ⟨push, connection :: rest⟩ =>
      let settings := joining.plane.settings
      let (result, plane) :=
        Plane.transportChannels.deliverTo settings.maxAttempts (Plane.pushedResponse push)
          connection joining.plane
      { joining.advance joiner plane with
        rounds := joining.rounds.insert worker ⟨push, left settings.fanOut rest result⟩ }

/-- Let one thing happen. -/
def move (joiner : Joiner) (joining : Joining) : Move → Joining
  | .register => joining.register joiner
  | .look => joining.look joiner
  | .answer => joining.answer joiner
  | .change kind change => joining.notice kind change
  | .read => joining.read
  | .enqueue => joining.enqueue
  | .take worker => joining.take worker
  | .serve worker => joining.serve joiner worker
  | .outbox stream change =>
      { joining with plane := { joining.plane with
          transport := joining.plane.transport.modify stream fun found =>
            { found with outbox := change found.outbox } } }

/-- Let several things happen. -/
def run (joiner : Joiner) (moves : List Move) (joining : Joining) : Joining :=
  moves.foldl (move joiner) joining

/-! ## Without interruption -/

/-- With nothing in between, the three steps of a subscription are the subscription. -/
theorem run_subscription (joiner : Joiner) {joining : Joining}
    (outside : joining.stage = .outside) :
    let joined := run joiner [.register, .look, .answer] joining
    joined.plane = joining.plane.subscribeTransport joiner.stream joiner.client joiner.requestId
        joiner.target ∧
      joined.stage = .answered := by
  simp only [run, List.foldl_cons, List.foldl_nil, move, register, outside,
    Plane.subscribeTransport]
  generalize joining.plane.subscribers.subscribe joining.plane.transportValid .transport
    joiner.target joiner.client joiner.stream = outcome
  obtain ⟨result, subscribers⟩ := outcome
  cases result with
  | ok registered =>
    simp only [look, Plane.sendSnapshot]
    split
    · exact ⟨rfl, rfl⟩
    · exact ⟨rfl, rfl⟩
  | error fault =>
    cases fault with
    | watch unsupported => exact ⟨rfl, rfl⟩
    | registry refused => exact ⟨rfl, rfl⟩

/-- A round without connections is over after one more step. -/
theorem serve_ending (joiner : Joiner) {worker : Nat} {push : Push} {joining : Joining}
    (busy : joining.rounds.find? worker = some ⟨push, []⟩) :
    (joining.serve joiner worker).plane = (joining.plane.publishDiscovery push).2 ∧
      (joining.serve joiner worker).rounds.find? worker = none := by
  simp only [serve, busy]
  exact ⟨rfl, Table.find?_erase_self joining.rounds worker⟩

/-- Serving all connections of a round one by one, and then ending it, publishes its push by both
    protocols. -/
theorem exists_run_serve (joiner : Joiner) {worker : Nat} {push : Push}
    {connections : List (ClientId × StreamId)} {joining : Joining}
    (busy : joining.rounds.find? worker = some ⟨push, connections⟩) :
    ∃ count,
      let served := run joiner (List.replicate count (.serve worker)) joining
      served.plane =
          ((Plane.transportChannels.publish joining.plane.settings.fanOut
            joining.plane.settings.maxAttempts (Plane.pushedResponse push) connections
              joining.plane).2.publishDiscovery push).2 ∧
        served.rounds.find? worker = none := by
  induction connections generalizing joining with
  | nil => exact ⟨1, serve_ending joiner busy⟩
  | cons connection rest inductionHypothesis =>
    have delivered := Plane.keeps_deliverTo joining.plane joining.plane.settings.maxAttempts push
      connection
    have next : (joining.serve joiner worker).rounds.find? worker =
        some ⟨push, left joining.plane.settings.fanOut rest
          (Plane.transportChannels.deliverTo joining.plane.settings.maxAttempts
            (Plane.pushedResponse push) connection joining.plane).1⟩ := by
      simp only [serve, busy]
      exact Table.find?_insert_self _ worker _
    have reached : (joining.serve joiner worker).plane =
        (Plane.transportChannels.deliverTo joining.plane.settings.maxAttempts
          (Plane.pushedResponse push) connection joining.plane).2 := by
      simp only [serve, busy]
      rfl
    have settings := delivered.settings
    unfold Channels.publish Push.fanOut
    generalize Plane.transportChannels.deliverTo joining.plane.settings.maxAttempts
      (Plane.pushedResponse push) connection joining.plane = outcome at next reached settings ⊢
    obtain ⟨result, plane⟩ := outcome
    rw [← reached] at settings
    -- What a failure leaves to be done depends on the mode.
    cases result with
    | ok sent =>
      obtain ⟨count, published, ended⟩ := inductionHypothesis next
      rw [settings, reached] at published
      exact ⟨count + 1, published, ended⟩
    | error fault =>
      cases mode : joining.plane.settings.fanOut with
      | failFast =>
        rw [mode] at next
        obtain ⟨published, ended⟩ := serve_ending joiner next
        rw [reached] at published
        exact ⟨2, published, ended⟩
      | bestEffort =>
        rw [mode] at next
        obtain ⟨count, published, ended⟩ := inductionHypothesis next
        rw [settings, reached, mode] at published
        exact ⟨count + 1, published, ended⟩

/-- With nothing in between, the steps of a worker that is free are its work. -/
theorem exists_run_work (joiner : Joiner) {worker : Nat} {joining : Joining}
    (free : joining.rounds.find? worker = none) :
    ∃ count,
      let worked := run joiner (.take worker :: List.replicate count (.serve worker)) joining
      worked.plane = (joining.plane.work worker).2 ∧ worked.rounds.find? worker = none := by
  unfold Plane.work
  cases taking : joining.plane.dispatcher.next? worker with
  | none =>
    have idle : joining.take worker = joining := by
      simp only [take, free, taking]
    refine ⟨0, congrArg Joining.plane idle, ?_⟩
    exact (congrArg (fun reached : Joining => reached.rounds.find? worker) idle).trans free
  | some first =>
    obtain ⟨push, dispatcher⟩ := first
    let taken : Plane := { joining.plane with dispatcher }
    let clients := (joining.plane.subscribers.transport.holders? push.target).getD Table.empty
    have took : joining.take worker =
        { joining with
          plane := taken, rounds := joining.rounds.insert worker ⟨push, clients.entries⟩ } := by
      simp only [take, free, taking]
      rfl
    have busy : (joining.take worker).rounds.find? worker = some ⟨push, clients.entries⟩ := by
      rw [took]
      exact Table.find?_insert_self _ worker _
    obtain ⟨count, published, ended⟩ := exists_run_serve joiner busy
    refine ⟨count, ?_, ended⟩
    refine published.trans ?_
    rw [took]
    have transport : (Plane.transportChannels.publish taken.settings.fanOut
        taken.settings.maxAttempts (Plane.pushedResponse push) clients.entries taken).2 =
          (taken.publishTransport push).2 := by
      unfold Plane.publishTransport
      cases held : taken.subscribers.transport.holders? push.target with
      | none =>
        have vacant : clients = Table.empty := congrArg (Option.getD · Table.empty) held
        rw [vacant]
        rfl
      | some holders =>
        have same : clients = holders := congrArg (Option.getD · Table.empty) held
        rw [same]
    exact congrArg (fun plane : Plane => (plane.publishDiscovery push).2) transport

end Joining

end RulePlane
