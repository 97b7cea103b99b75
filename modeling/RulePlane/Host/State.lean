import RulePlane.Plane.Activity
import RulePlane.Watch.Tracker

/-!
# The state of a host

A host runs the control plane: it keeps the requests and events that wait, and the tasks that are
ready to go on. Each stream is served by a task of its own; the requests of a discovery stream are
read by a second one, which hands them over one at a time. Each kind has a task that follows its
watch, and each queue of the dispatcher a worker.

A task whose send finds no room is suspended, and others go on meanwhile. Sends to one stream wait
in line: room goes to the one that has waited longest, and none that comes later can take it. So do
pushes for the queue of a worker.
-/

namespace RulePlane

/-- How far the service of a stream has come. A stream that was connected without a server is never
    served. -/
inductive Service where
  | unserved
  | starting
  | serving
  | finished
deriving DecidableEq, Repr

/-- The request side of a stream: what waits to be read, and whether the client has ended it. -/
structure Conversation (ρ : Type) where
  service : Service
  requests : List ρ
  ended : Bool

/-- The request side of a discovery stream. One request may be handed over and not yet taken. -/
structure DiscoveryConversation extends Conversation Discovery.Request where
  handedOver : Option Discovery.Request
  readerDone : Bool

/-- The task that follows the watch of a kind: what the watch will yield, the changes and the
    applications that are not dealt with yet, and the time until which the task sleeps. -/
structure WatchLoop where
  tracker : Tracker
  items : List WatchItem
  changes : List Change
  apps : List App
  wakeAt : Option Nat

/-- The tasks of a host. The caller is whoever sends from outside and waits until that is done. -/
inductive Task where
  | caller
  | transport (stream : StreamId)
  | reader (stream : StreamId)
  | discovery (stream : StreamId)
  | watch (kind : Kind)
  | worker (number : Nat)
deriving DecidableEq, Repr

/-- A send that waits for room until a time, and what its task does when it has met its outcome. -/
structure Suspended where
  task : Task
  stream : StreamId
  posting : Posting
  deadline : Nat
  resume : SendOutcome → Plane → Activity Posting Plane (Except PushError Unit)

/-- The state of a host. Tasks that are ready go on in the order of the list. Pushes that are
    blocked wait for room in the queue of their worker, each with the kind whose task hands it in.
    The answer is what came of what the caller waits for. -/
structure Host where
  plane : Plane
  transport : Table StreamId (Conversation Transport.Request)
  discovery : Table StreamId DiscoveryConversation
  loops : Table Kind WatchLoop
  ready : List Task
  suspended : List Suspended
  blocked : List (Kind × Push)
  answer : Option (Except PushError Unit)
  draining : Bool
  streams : Nat

/-- What became of a request that a client sent. -/
inductive Sending where
  | sent
  /-- The client had ended its side. -/
  | ended
  /-- The server does not read any more. -/
  | gone
deriving DecidableEq, Repr

namespace WatchLoop

/-- A task that has not seen anything yet. -/
def fresh : WatchLoop := ⟨Tracker.empty, [], [], [], none⟩

instance : Inhabited WatchLoop := ⟨fresh⟩

end WatchLoop

namespace Host

/-- A host on which nothing has happened yet. -/
def start (plane : Plane) : Host where
  plane := plane
  transport := Table.empty
  discovery := Table.empty
  loops := Table.empty
  ready := []
  suspended := []
  blocked := []
  answer := none
  draining := false
  streams := 0

/-- How many messages may wait on a stream that its client does not read all the time. -/
def streamCapacity : Nat := 16

/-- Make a task ready, behind all others. -/
def wake (task : Task) (host : Host) : Host :=
  if host.ready.contains task then host else { host with ready := host.ready ++ [task] }

/-- Make several tasks ready. -/
def wakeAll (tasks : List Task) (host : Host) : Host :=
  tasks.foldl (fun host task => host.wake task) host

/-- The tasks of the discovery streams that were stopped and are still served. -/
def stoppedTasks (host : Host) : List Task :=
  host.discovery.entries.flatMap fun entry =>
    if entry.2.service = .serving ∧ !host.plane.discoveryValid entry.1 then
      [.reader entry.1, .discovery entry.1]
    else []

/-- Make the tasks of stopped streams ready. -/
def wakeStopped (host : Host) : Host := host.wakeAll host.stoppedTasks

/-- How many sends to a stream are in line before that of a task; all of them if it has none. -/
def sendsAhead (task : Task) (stream : StreamId) (host : Host) : Nat :=
  (host.suspended.takeWhile fun each => each.task ≠ task).countP fun each => each.stream = stream

/-- Whether a send of a task still has to wait for room. -/
def isCrowded (task : Task) (stream : StreamId) (posting : Posting) (host : Host) : Bool :=
  host.plane.isCrowded (host.sendsAhead task stream) stream posting

/-- Make the tasks ready that need not wait for room any more. -/
def wakeSenders (host : Host) : Host :=
  host.wakeAll ((host.suspended.filter fun each =>
    !host.isCrowded each.task each.stream each.posting).map Suspended.task)

/-- Do something with the control plane alone. -/
def withPlane (host : Host) (plane : Plane) : Host := { host with plane }.wakeStopped.wakeSenders

/-- The next number of a stream. -/
def nextStream (host : Host) : StreamId × Host :=
  (⟨host.streams⟩, { host with streams := host.streams + 1 })

/-- The task of an active watcher; none if the kind is not watched. -/
def loop? (host : Host) (kind : Kind) : Option WatchLoop :=
  (host.plane.subscribers.watchers.watcher? kind).map fun _ =>
    (host.loops.find? kind).getD default

/-! ## What clients do -/

/-- A client opens a transport stream. -/
def openTransport (capacity : Option Nat) (host : Host) : StreamId × Host :=
  let (stream, host) := host.nextStream
  let plane := host.plane
  (stream, { host with
    plane := { plane with transport := plane.transport.insert stream (.fresh none capacity) }
    transport := host.transport.insert stream ⟨.starting, [], false⟩ }.wake (.transport stream))

/-- A client opens a discovery stream. -/
def openDiscovery (capacity : Option Nat) (host : Host) : StreamId × Host :=
  let (stream, host) := host.nextStream
  let plane := host.plane
  (stream, { host with
    plane := { plane with discovery := plane.discovery.insert stream (.fresh capacity) }
    discovery :=
      host.discovery.insert stream ⟨⟨.starting, [], false⟩, none, false⟩ }.wake (.discovery stream))

/-- A transport connection that no server owns. -/
def connect (client : ClientId) (capacity : Option Nat) (host : Host) : StreamId × Host :=
  let (stream, host) := host.nextStream
  let plane := host.plane
  (stream, { host with
    plane :=
      { plane with transport := plane.transport.insert stream (.fresh (some client) capacity) }
    transport := host.transport.insert stream ⟨.unserved, [], false⟩ })

/-- Register a connection that no server owns for a target. -/
def register (stream : StreamId) (target : Target) (host : Host) :
    Except RegistryError Host := do
  let subscribers := host.plane.subscribers
  let client := ((host.plane.transport.find? stream).bind TransportStream.client).getD ⟨""⟩
  let transport ← subscribers.transport.add host.plane.transportValid target client stream
  return host.withPlane { host.plane with subscribers := { subscribers with transport } }

/-- A client sends a transport request. -/
def sendTransport (stream : StreamId) (request : Transport.Request) (host : Host) :
    Sending × Host :=
  match host.transport.find? stream with
  | none => (.gone, host)
  | some conversation =>
      if conversation.ended then (.ended, host)
      else if conversation.service = .finished then (.gone, host)
      else
        (.sent, { host with
          transport := host.transport.insert stream
            { conversation with requests := conversation.requests ++ [request] } }.wake
              (.transport stream))

/-- A client sends a discovery request. -/
def sendDiscovery (stream : StreamId) (request : Discovery.Request) (host : Host) :
    Sending × Host :=
  match host.discovery.find? stream with
  | none => (.gone, host)
  | some conversation =>
      if conversation.ended then (.ended, host)
      else if conversation.readerDone then (.gone, host)
      else
        (.sent, { host with
          discovery := host.discovery.insert stream
            { conversation with requests := conversation.requests ++ [request] } }.wake
              (.reader stream))

/-- A client ends its request side, or it fails. -/
def endRequests (stream : StreamId) (host : Host) : Host :=
  { host with
    transport := host.transport.modify stream fun found => { found with ended := true }
    discovery := host.discovery.modify stream fun found => { found with ended := true } }.wakeAll
      ((if host.transport.contains stream then [Task.transport stream] else []) ++
        (if host.discovery.contains stream then [Task.reader stream] else []))

/-- A client stops reading responses for good. -/
def hangUp (stream : StreamId) (host : Host) : Host :=
  let plane := host.plane
  { host with plane :=
    { plane with
      transport := plane.transport.modify stream fun found =>
        { found with outbox := found.outbox.hangUp }
      discovery := plane.discovery.modify stream fun found =>
        { found with outbox := found.outbox.hangUp } } }.wakeSenders

/-- A client drops a stream altogether. -/
def abandon (stream : StreamId) (host : Host) : Host := (host.hangUp stream).endRequests stream

/-- Whether the response side of a stream has ended: its service is over, no registry holds its
    connection, and no send to it waits. -/
def hasEnded (stream : StreamId) (host : Host) : Bool :=
  !(host.suspended.any fun each => each.stream = stream) &&
    match host.transport.find? stream, host.discovery.find? stream with
    | some conversation, _ =>
        conversation.service = .finished &&
          !(host.plane.subscribers.transport.connections.contains stream)
    | none, some conversation =>
        conversation.service = .finished &&
          !(host.plane.subscribers.discovery.connections.contains stream)
    | none, none => false

/-! ## What else happens -/

/-- The watch of a kind yields something; `none` if the kind is not watched. -/
def yield? (kind : Kind) (item : WatchItem) (host : Host) : Option Host :=
  (host.loop? kind).map fun loop =>
    { host with
      loops := host.loops.insert kind { loop with items := loop.items ++ [item] } }.wake
        (.watch kind)

/-- The servers are told to shut down. -/
def drain (host : Host) : Host :=
  { host with draining := true }.wakeAll
    (host.transport.keys.map Task.transport ++ host.discovery.keys.map Task.discovery)

end Host

end RulePlane
