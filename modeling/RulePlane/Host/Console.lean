import RulePlane.Host.Schedule

/-!
# Consoles

A console works a host from outside. It gives names to streams, reads what arrives on them and
remembers enough of it to refer to it later: the nonces of each discovery stream, in the order in
which they were read, and the newest version. Streams are read all the time, except for manual
ones, which are read only on demand and hold what was not read yet.

The connection of a discovery stream can be reached directly from the end of the first step at
which it holds a target until it is stopped.
-/

namespace RulePlane

/-- A stream under a name. It is watched until it has ended or was hung up; its connection is known
    while it can be reached. -/
structure NamedStream where
  name : String
  stream : StreamId
  protocol : Protocol
  isManual : Bool
  isWatched : Bool
  isKnown : Bool
  nonces : List String
  version : UInt64

/-- A message that was read. A discovery response has a number among those of its stream, and is
    newer if its version is greater than that of the one before it. -/
inductive Received where
  | transport (response : Transport.Response)
  | discovery (response : Discovery.Response) (number : Nat) (newer : Bool)

/-- A host, the named streams, and the newest version that was seen. -/
structure Console where
  host : Host
  streams : List NamedStream
  version : UInt64

/-- What came of a step: the messages that arrived, by the name of the stream, and the names of the
    streams that ended. -/
structure Arrivals where
  received : List (String × List Received)
  ended : List String

namespace Console

/-- A console of a host that nobody has used. -/
def ofHost (host : Host) : Console := ⟨host, [], 0⟩

/-- Let something happen on the host. -/
def withHost (console : Console) (host : Host) : Console := { console with host }

/-- Let something happen to the control plane. -/
def withPlane (console : Console) (plane : Plane) : Console :=
  console.withHost (console.host.withPlane plane)

/-- The stream of a name. -/
def find? (console : Console) (name : String) : Option NamedStream :=
  console.streams.find? fun each => each.name = name

/-- Replace what is known of a stream. -/
def update (console : Console) (named : NamedStream) : Console :=
  { console with
    streams := console.streams.map fun each => if each.name = named.name then named else each }

/-- Give a name to a stream that is opened on the host. The stream that had the name before is
    dropped. -/
def enroll (console : Console) (name : String) (protocol : Protocol) (isManual : Bool)
    (opening : Host → StreamId × Host) : Console :=
  let host :=
    match console.find? name with
    | some old => console.host.abandon old.stream
    | none => console.host
  let (stream, host) := opening host
  { console with
    host
    streams := console.streams.filter (fun each => each.name ≠ name) ++
      [⟨name, stream, protocol, isManual, true, false, [], 0⟩] }

/-- Open a stream of a protocol. -/
def openStream (console : Console) (name : String) (protocol : Protocol) (isManual : Bool) :
    Console :=
  let capacity := if isManual then some Host.streamCapacity else none
  console.enroll name protocol isManual fun host =>
    match protocol with
    | .transport => host.openTransport capacity
    | .discovery => host.openDiscovery capacity

/-- Connect a transport stream that no server owns. -/
def connect (console : Console) (name : String) (client : ClientId) (capacity : Nat)
    (isManual : Bool) : Console :=
  console.enroll name .transport isManual fun host =>
    host.connect client (if isManual then some capacity else none)

/-- Hang up a stream. -/
def hangUp (console : Console) (named : NamedStream) : Console :=
  (console.withHost (console.host.hangUp named.stream)).update { named with isWatched := false }

/-- Number the responses that were read from a discovery stream. -/
def number : List Discovery.Response → NamedStream → List Received × NamedStream
  | [], named => ([], named)
  | response :: rest, named =>
      let nonces := named.nonces ++ [response.nonce]
      let (others, reached) := number rest { named with nonces, version := response.version }
      (.discovery response nonces.length (named.version < response.version) :: others, reached)

/-- Read up to a number of messages from a stream. -/
def read (console : Console) (named : NamedStream) (most : Nat) : List Received × Console :=
  let plane := console.host.plane
  match plane.transport.find? named.stream, plane.discovery.find? named.stream with
  | some found, _ =>
      let (messages, outbox) := found.outbox.read most
      let transport := plane.transport.insert named.stream { found with outbox }
      (messages.map .transport, console.withPlane { plane with transport })
  | none, some found =>
      let (messages, outbox) := found.outbox.read most
      let discovery := plane.discovery.insert named.stream { found with outbox }
      let (received, named) := number messages named
      let console := (console.withPlane { plane with discovery }).update named
      (received, { console with version := max console.version named.version })
  | none, none => ([], console)

/-- Read all messages of a stream. -/
def readAll (console : Console) (named : NamedStream) : List Received × Console :=
  let waiting {μ : Type} (outbox : Outbox μ) : Nat := outbox.waiting.length
  let plane := console.host.plane
  let transport := (plane.transport.find? named.stream).map fun found => waiting found.outbox
  let discovery := (plane.discovery.find? named.stream).map fun found => waiting found.outbox
  console.read named (transport.getD (discovery.getD 0))

/-- Read several streams, and leave out those on which nothing arrived. -/
def readStreams : List NamedStream → Console → List (String × List Received) × Console
  | [], console => ([], console)
  | named :: rest, console =>
      let (messages, console) := console.readAll named
      let (others, console) := readStreams rest console
      (if messages.isEmpty then others else (named.name, messages) :: others, console)

/-- Read a manual stream on demand, and say whether its end was reached. The end is not noticed
    behind as many messages as were asked for. -/
def readManual (console : Console) (named : NamedStream) (most : Nat) :
    (List Received × Bool) × Console :=
  let (messages, console) := console.read named most
  ((messages, decide (messages.length < most) && console.host.hasEnded named.stream), console)

/-- The nonce at a place among those that were read from a stream, counted from one, or from the
    end if the place is negative. -/
def nonce? (named : NamedStream) (place : Int) : Option String :=
  let index := if place < 0 then named.nonces.length + place else place - 1
  if index < 0 then none else named.nonces[index.toNat]?

/-- The place of a nonce among those that were read from a stream. -/
def nonceNumber? (named : NamedStream) (nonce : String) : Option Nat :=
  (named.nonces.findIdx? fun each => each = nonce).map (· + 1)

/-- The connection of a discovery stream that can be reached. -/
def known? (console : Console) (name : String) : Option (NamedStream × DiscoveryStream) := do
  let named ← console.find? name
  let found ← console.host.plane.discovery.find? named.stream
  if named.isKnown then some (named, found) else none

/-- A single request for the current rules of some names. The result says whether its version is
    greater than all that were seen. -/
def fetch (console : Console) (typeUrl : String) (names : List String) :
    Except Discovery.FetchError (Discovery.Response × Bool) × Console :=
  match console.host.plane.fetch typeUrl names with
  | (.error fault, plane) => (.error fault, console.withPlane plane)
  | (.ok response, plane) =>
      (.ok (response, decide (console.version < response.version)),
        { console.withPlane plane with version := max console.version response.version })

/-- Let everything happen that is bound to happen after a step, and read what arrived. -/
def settle (console : Console) : Arrivals × Console :=
  let console := console.withHost console.host.settle
  let automatic := console.streams.filter fun named => named.isWatched && !named.isManual
  let (received, console) := readStreams automatic console
  let ended := automatic.filter fun named => console.host.hasEnded named.stream
  let plane := console.host.plane
  let settled (named : NamedStream) : NamedStream :=
    let holds := plane.subscribers.discovery.connections.contains named.stream
    { named with
      isWatched := named.isWatched && !(ended.any fun each => each.name = named.name)
      isKnown := (named.isKnown || holds) && plane.discoveryValid named.stream }
  (⟨received, orderedTexts (ended.map NamedStream.name)⟩,
    { console with streams := console.streams.map settled })

end Console

end RulePlane
