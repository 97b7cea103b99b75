import RulePlane.Push.Delivery
import RulePlane.Registry
import RulePlane.Watchers

/-!
# Subscribers

The clients of both protocols and the watchers that they keep busy. A watcher tracks a target as
long as a client of either protocol holds it. Subscribing and releasing are single steps, so that a
watcher never drops a target that a registry holds; a client is removed from its registry in a step
of its own, and each target that it held is released afterwards.
-/

namespace RulePlane

/-- The two protocols. Transport clients are pushed to directly; discovery clients acknowledge each
    response before they ask for more. -/
inductive Protocol where
  | transport
  | discovery
deriving DecidableEq, Repr

/-- The name of a protocol. -/
def Protocol.render : Protocol → String
  | transport => "transport"
  | discovery => "discovery"

/-- Why a client could not subscribe. -/
inductive SubscribeError where
  | watch (fault : WatchError)
  | registry (fault : RegistryError)
deriving DecidableEq, Repr

/-- The active watchers and the connections of both protocols. -/
structure Subscribers where
  watchers : Watchers
  transport : Registry StreamId
  discovery : Registry StreamId

namespace Subscribers

/-- No clients and no watchers. -/
def ofKinds (kinds : KindTable) : Subscribers :=
  ⟨.ofKinds kinds, Registry.empty, Registry.empty⟩

/-- The registry of a protocol. -/
def registry (subscribers : Subscribers) : Protocol → Registry StreamId
  | .transport => subscribers.transport
  | .discovery => subscribers.discovery

/-- Replace the registry of a protocol. -/
def withRegistry (subscribers : Subscribers) (protocol : Protocol)
    (registry : Registry StreamId) : Subscribers :=
  match protocol with
  | .transport => { subscribers with transport := registry }
  | .discovery => { subscribers with discovery := registry }

/-- Whether a client of either protocol holds a target. -/
def isHeld (subscribers : Subscribers) (target : Target) : Bool :=
  (subscribers.transport.holders? target).isSome || (subscribers.discovery.holders? target).isSome

/-- Let the watcher of a target drop it unless a client holds it. -/
def release (subscribers : Subscribers) (target : Target) : Subscribers :=
  if subscribers.isHeld target then subscribers
  else { subscribers with watchers := subscribers.watchers.unsubscribe target }

/-- Release several targets one after another. -/
def releaseAll (subscribers : Subscribers) (targets : List Target) : Subscribers :=
  targets.foldl release subscribers

/-- Subscribe a client to a target: the watcher of its kind tracks the target, and the connection
    is registered. If the connection cannot be registered, the target is released again. -/
def subscribe (subscribers : Subscribers) (alive : StreamId → Bool) (protocol : Protocol)
    (target : Target) (client : ClientId) (stream : StreamId) :
    Except SubscribeError Unit × Subscribers :=
  match subscribers.watchers.register target with
  | .error fault => (.error (.watch fault), subscribers)
  | .ok watchers =>
      let subscribers := { subscribers with watchers }
      match (subscribers.registry protocol).add alive target client stream with
      | .ok registry => (.ok (), subscribers.withRegistry protocol registry)
      | .error fault => (.error (.registry fault), subscribers.release target)

/-- Remove a client from one target, and say whether it held it. The target is not released. -/
def remove (subscribers : Subscribers) (protocol : Protocol) (target : Target)
    (client : ClientId) : Bool × Subscribers :=
  let (held, registry) := (subscribers.registry protocol).remove target client
  (held, subscribers.withRegistry protocol registry)

/-- Remove a client from all its targets, and list them. They are not released. -/
def removeClient (subscribers : Subscribers) (protocol : Protocol) (client : ClientId) :
    List Target × Subscribers :=
  let (held, registry) := (subscribers.registry protocol).removeClient client
  (held, subscribers.withRegistry protocol registry)

/-- Take a target from a client and release it. -/
def unsubscribe (subscribers : Subscribers) (protocol : Protocol) (target : Target)
    (client : ClientId) : Subscribers :=
  (subscribers.remove protocol target client).2.release target

/-- Take all its targets from a client and release them. -/
def disconnect (subscribers : Subscribers) (protocol : Protocol) (client : ClientId) :
    Subscribers :=
  let (held, subscribers) := subscribers.removeClient protocol client
  subscribers.releaseAll held

end Subscribers

end RulePlane
