import RulePlane.Plane.Discovery
import RulePlane.Plane.Transport

/-!
# Changes

The way of a change from the watch of a kind to the clients: the watcher takes it into account, the
rules of each changed application are read and handed to the dispatcher, and a worker publishes
them by both protocols.
-/

namespace RulePlane

/-- A number that spreads applications over workers. -/
def App.spread (app : App) : Nat :=
  app.render.toList.foldl (fun value character => 31 * value + character.toNat) 7

namespace Plane

/-- Whether the connection of a stream of a protocol is valid. -/
def isValid (plane : Plane) : Protocol → StreamId → Bool
  | .transport => plane.transportValid
  | .discovery => plane.discoveryValid

/-- Let the watcher of a kind take a change into account, and list the applications whose rules
    changed. -/
def notice (kind : Kind) (change : Change) (plane : Plane) : List App × Plane :=
  match plane.subscribers.watchers.watcher? kind with
  | none => ([], plane)
  | some watcher =>
      let (apps, watcher) := watcher.apply change
      let watchers := plane.subscribers.watchers.update kind watcher
      (apps, { plane with subscribers := { plane.subscribers with watchers } })

/-- The push of the current rules of an application among the resources of a kind. -/
def currentPush (kind : Kind) (app : App) (plane : Plane) : Push :=
  let (rules, version) := plane.subscribers.watchers.rules kind app
  { target := app.target kind, rules, version }

/-- Hand a push to the worker of its application. -/
def submit (push : Push) (plane : Plane) : Submission × Plane :=
  let (submission, dispatcher) := plane.dispatcher.submit App.spread push
  (submission, { plane with dispatcher })

/-- The engines of both protocols, in the order in which workers call them. -/
def engines : List (Engine Plane) := [publishTransport, publishDiscovery]

/-- Publish a push by both protocols. -/
def publishAll (push : Push) (plane : Plane) : Plane :=
  Dispatcher.publishAll engines push plane

/-- Let a worker publish the next push of its queue, and say whether there was one. -/
def work (worker : Nat) (plane : Plane) : Bool × Plane :=
  match plane.dispatcher.next? worker with
  | none => (false, plane)
  | some (push, dispatcher) => (true, { plane with dispatcher }.publishAll push)

/-- Publish the current rules of several applications. -/
def pushAll (kind : Kind) (apps : List App) (plane : Plane) : Plane :=
  apps.foldl (fun plane app => plane.publishAll (plane.currentPush kind app)) plane

/-- Take a change of a resource, with everything that it leads to, before anything else happens. -/
def handleChange (kind : Kind) (change : Change) (plane : Plane) : Plane :=
  let (apps, plane) := plane.notice kind change
  plane.pushAll kind apps

end Plane

end RulePlane
