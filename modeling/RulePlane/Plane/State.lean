import RulePlane.Discovery.WatchList
import RulePlane.Dispatcher
import RulePlane.Metrics
import RulePlane.Push.Outbox
import RulePlane.Push.Token
import RulePlane.Subscribers

/-!
# The state of the control plane

What the servers of both protocols, the watchers and the workers share: who subscribes to what, the
streams to the clients, the pushes that wait, and the numbers that are counted. Every operation on
it is a single step; which steps follow each other is not decided here.

Time is virtual: it passes while a send waits for room.
-/

namespace RulePlane

/-- How pushes are delivered. -/
structure PushSettings where
  fanOut : FanOutMode
  maxAttempts : Nat
  timeoutMillis : Nat
  controlPlane : String

/-- The stream of a transport client. It has a name once its first request has named it, and is
    valid until it is closed. -/
structure TransportStream where
  client : Option ClientId
  isValid : Bool
  outbox : Outbox Transport.Response

/-- The stream of a discovery client. It has a name once its first request has arrived. -/
structure DiscoveryStream where
  client : Option ClientId
  isStopped : Bool
  watchList : Discovery.WatchList
  outbox : Outbox Discovery.Response

/-- The numbers that are counted for one protocol. No streams are shown before one was served. -/
structure ProtocolCounts where
  delivered : Nat
  failed : Nat
  streams : Option Nat

/-- The state of the control plane. `opened` is the number of discovery connections so far. -/
structure Plane where
  settings : PushSettings
  subscribers : Subscribers
  transport : Table StreamId TransportStream
  discovery : Table StreamId DiscoveryStream
  dispatcher : Dispatcher
  tokens : Tokens
  clock : UInt64
  opened : UInt64
  transportCounts : ProtocolCounts
  discoveryCounts : ProtocolCounts
  millis : Nat

namespace ProtocolCounts

/-- Nothing was counted. -/
def zero : ProtocolCounts := ⟨0, 0, none⟩

instance : Inhabited ProtocolCounts := ⟨zero⟩

/-- Count a delivery. -/
def pushed (counts : ProtocolCounts) (succeeded : Bool) : ProtocolCounts :=
  if succeeded then { counts with delivered := counts.delivered + 1 }
  else { counts with failed := counts.failed + 1 }

/-- A stream is served from now on. -/
def streamOpened (counts : ProtocolCounts) : ProtocolCounts :=
  { counts with streams := some (counts.streams.getD 0 + 1) }

/-- A stream is not served any more. -/
def streamClosed (counts : ProtocolCounts) : ProtocolCounts :=
  { counts with streams := counts.streams.map (· - 1) }

/-- The numbers of a protocol. -/
def samples (protocol : Protocol) (counts : ProtocolCounts) : List Sample :=
  let pushes (result : String) (count : Nat) : List Sample :=
    Sample.counter "pushes" [("protocol", protocol.render), ("result", result)] count
  pushes "ok" counts.delivered ++ pushes "error" counts.failed ++
    (counts.streams.map fun streams =>
      ⟨"connections", [("protocol", protocol.render)], streams⟩).toList

end ProtocolCounts

namespace TransportStream

/-- A stream that nothing was sent on. -/
def fresh (client : Option ClientId) (capacity : Option Nat) : TransportStream :=
  ⟨client, true, .ofCapacity capacity⟩

end TransportStream

namespace DiscoveryStream

/-- A stream that nothing was sent on. -/
def fresh (capacity : Option Nat) : DiscoveryStream :=
  ⟨none, false, .empty, .ofCapacity capacity⟩

end DiscoveryStream

namespace Plane

/-- The control plane before the first client. -/
def start (settings : PushSettings) (kinds : KindTable) (dispatcher : Dispatcher)
    (clock : UInt64) : Plane where
  settings := settings
  subscribers := .ofKinds kinds
  transport := Table.empty
  discovery := Table.empty
  dispatcher := dispatcher
  tokens := .fresh
  clock := clock
  opened := 0
  transportCounts := .zero
  discoveryCounts := .zero
  millis := 0

/-- Make a token. -/
def nextToken (plane : Plane) : String × Plane :=
  let (token, tokens) := plane.tokens.next plane.clock
  (token, { plane with tokens })

/-- Make a version. -/
def nextVersion (plane : Plane) : UInt64 × Plane :=
  let (version, tokens) := plane.tokens.nextVersion plane.clock
  (version, { plane with tokens })

/-- Wait as long as a send waits for room. -/
def wait (plane : Plane) (millis : Nat) : Plane := { plane with millis := plane.millis + millis }

/-- The numbers of the watchers and of both protocols. -/
def samples (plane : Plane) : List Sample :=
  plane.subscribers.watchers.samples.map (Sample.under "index_") ++
    (plane.transportCounts.samples .transport ++
      plane.discoveryCounts.samples .discovery).map (Sample.under "push_")

end Plane

end RulePlane
