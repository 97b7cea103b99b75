import RulePlane.Plane.State
import RulePlane.ResourceName

/-!
# The discovery server

What the control plane does with the requests of discovery clients and with pushes to them. The
watch list of a stream decides which names a request added and removed; each added name that can be
read and whose kind is supported is subscribed, and its current rules are sent.
-/

namespace RulePlane

namespace Discovery

/-- Why a single fetch is refused. -/
inductive FetchError where
  | unsupportedType (typeUrl : String)
  | invalidName (name : String)
deriving DecidableEq, Repr

/-- The report on a refused fetch. -/
def FetchError.message : FetchError → String
  | unsupportedType typeUrl => "unsupported type " ++ typeUrl
  | invalidName name => ResourceName.invalidMessage name

/-- The status code of a refused fetch: the request is at fault. -/
def FetchError.code : Nat := 3

end Discovery

namespace Plane

/-- Whether the connection of a discovery stream is valid: it was not stopped. -/
def discoveryValid (plane : Plane) (stream : StreamId) : Bool :=
  ((plane.discovery.find? stream).map fun found => !found.isStopped).getD false

/-- The name of a discovery stream, empty before its first request. -/
def discoveryClient (plane : Plane) (stream : StreamId) : ClientId :=
  ((plane.discovery.find? stream).bind DiscoveryStream.client).getD ⟨""⟩

/-- Whether a discovery stream was named by its first request. -/
def discoveryNamed (plane : Plane) (stream : StreamId) : Bool :=
  ((plane.discovery.find? stream).bind DiscoveryStream.client).isSome

/-- Change a discovery stream. -/
def modifyDiscovery (stream : StreamId) (change : DiscoveryStream → DiscoveryStream)
    (plane : Plane) : Plane :=
  { plane with discovery := plane.discovery.modify stream change }

/-- Stop a discovery stream. -/
def stopDiscovery (stream : StreamId) (plane : Plane) : Plane :=
  plane.modifyDiscovery stream fun found => { found with isStopped := true }

/-- Put a response into the outbox of a discovery stream, and wait for a time if it is full. -/
def attemptDiscovery (timeoutMillis : Nat) (stream : StreamId) (response : Discovery.Response)
    (plane : Plane) : SendOutcome × Plane :=
  match plane.discovery.find? stream with
  | none => (.closed, plane)
  | some found =>
      let (outcome, outbox) := found.outbox.offer response
      let plane :=
        { plane with discovery := plane.discovery.insert stream { found with outbox } }
      match outcome with
      | .timedOut => (outcome, plane.wait timeoutMillis)
      | _ => (outcome, plane)

/-- Settle a send on a discovery stream: a failed one restores the nonce before it, and one to a
    client that is gone stops the stream. -/
def settleDiscovery (stream : StreamId) (typeUrl nonce previous : String)
    (outcome : SendOutcome) (plane : Plane) : Plane :=
  let plane := if outcome = .closed then plane.stopDiscovery stream else plane
  plane.modifyDiscovery stream fun found =>
    { found with watchList := found.watchList.settle typeUrl nonce previous outcome }

/-- Send rules on a discovery stream for a type URL that its client watches, under a token and a
    version of their own. Nothing is sent if it does not watch it. -/
def sendDiscovery (timeoutMillis : Nat) (stream : StreamId) (typeUrl : String)
    (rules : List Rule) (plane : Plane) : Except PushError Unit × Plane :=
  let (nonce, plane) := plane.nextToken
  match (plane.discovery.find? stream).bind fun found =>
      (found.watchList.record? typeUrl nonce).map fun recorded => (found, recorded) with
  | none => (.ok (), plane)
  | some (found, previous, watchList) =>
      let plane :=
        { plane with discovery := plane.discovery.insert stream { found with watchList } }
      let (version, plane) := plane.nextVersion
      let (outcome, plane) :=
        plane.attemptDiscovery timeoutMillis stream ⟨typeUrl, rules, nonce, version⟩
      (outcome.result (plane.discoveryClient stream),
        plane.settleDiscovery stream typeUrl nonce previous outcome)

/-- Send rules of the served type on a discovery stream, and count how that ended. -/
def deliverDiscovery (stream : StreamId) (rules : List Rule) (plane : Plane) :
    Except PushError Unit × Plane :=
  let (result, plane) :=
    plane.sendDiscovery plane.settings.timeoutMillis stream Discovery.typeUrl rules
  (result, { plane with discoveryCounts := plane.discoveryCounts.pushed result.isOk })

/-- Deliver to one connection of a push; one that was stopped is passed over. -/
def deliverToDiscovery (rules : List Rule) (connection : ClientId × StreamId) (plane : Plane) :
    Except PushError Unit × Plane :=
  if plane.discoveryValid connection.2 then plane.deliverDiscovery connection.2 rules
  else (.ok (), plane)

/-- Push rules to the discovery clients that hold a target. -/
def publishDiscovery (push : Push) (plane : Plane) : Except PushError Unit × Plane :=
  match plane.subscribers.discovery.holders? push.target with
  | none => (.error (.noConnections push.target), plane)
  | some clients =>
      Push.fanOut plane.settings.fanOut (deliverToDiscovery push.rules) clients.entries plane

/-- Take the target of a name from a discovery client. -/
def unsubscribeDiscovery (stream : StreamId) (plane : Plane) (name : String) : Plane :=
  match ResourceName.parse? name with
  | none => plane
  | some name =>
      { plane with subscribers :=
          plane.subscribers.unsubscribe .discovery name.target (plane.discoveryClient stream) }

/-- Subscribe a discovery client to the target of a name, and send its current rules. A name that
    cannot be read or whose kind is not supported is passed over. -/
def subscribeDiscovery (stream : StreamId) (plane : Plane) (name : String) : Plane :=
  match ResourceName.parse? name with
  | none => plane
  | some name =>
      let (result, subscribers) :=
        plane.subscribers.subscribe plane.discoveryValid .discovery name.target
          (plane.discoveryClient stream) stream
      let plane := { plane with subscribers }
      match result with
      | .error _ => plane
      | .ok () =>
          let (rules, _) := plane.subscribers.watchers.rules name.kind name.target.app
          if rules.isEmpty then plane else (plane.deliverDiscovery stream rules).2

/-- Check a request against the watch list of a stream. -/
def takeDiscovery (stream : StreamId) (request : Discovery.Request) (plane : Plane) :
    (Bool × Discovery.NameChanges) × Plane :=
  match plane.discovery.find? stream with
  | none => ((false, .none), plane)
  | some found =>
      let (answer, watchList) := found.watchList.take request
      (answer, { plane with
        discovery := plane.discovery.insert stream { found with watchList } })

/-- Handle a request of a discovery client. Only one type of resources is served. -/
def handleDiscovery (stream : StreamId) (plane : Plane) (request : Discovery.Request) : Plane :=
  if request.typeUrl = Discovery.typeUrl then
    let ((respond, changes), plane) := plane.takeDiscovery stream request
    let plane := changes.unsubscribed.foldl (unsubscribeDiscovery stream) plane
    if respond then changes.subscribed.foldl (subscribeDiscovery stream) plane else plane
  else plane

/-- Begin to serve a discovery stream. -/
def beginDiscovery (plane : Plane) : Plane :=
  { plane with discoveryCounts := plane.discoveryCounts.streamOpened }

/-- Name a discovery stream after the node of its first request. -/
def nameDiscovery (stream : StreamId) (request : Discovery.Request) (plane : Plane) : Plane :=
  let number := plane.opened + 1
  { plane.modifyDiscovery stream fun found =>
      { found with client := some (Discovery.clientOf request.nodeName number) } with
    opened := number }

/-- End the service of a discovery stream: it is stopped, and what its client held is released. -/
def finishDiscovery (stream : StreamId) (plane : Plane) : Plane :=
  let plane := plane.stopDiscovery stream
  let plane :=
    match (plane.discovery.find? stream).bind DiscoveryStream.client with
    | none => plane
    | some client =>
        { plane with subscribers := plane.subscribers.disconnect .discovery client }
  { plane with discoveryCounts := plane.discoveryCounts.streamClosed }

/-- The current rules of a list of names, one name after another. -/
def snapshot (plane : Plane) : List String → Except Discovery.FetchError (List Rule)
  | [] => .ok []
  | written :: rest =>
      match ResourceName.parse? written with
      | none => .error (.invalidName written)
      | some name => do
          let (rules, _) := plane.subscribers.watchers.rules name.kind name.target.app
          return rules ++ (← plane.snapshot rest)

/-- Answer a single request for the current rules of some names. -/
def fetch (typeUrl : String) (names : List String) (plane : Plane) :
    Except Discovery.FetchError Discovery.Response × Plane :=
  if typeUrl = "" ∨ typeUrl = Discovery.typeUrl then
    match plane.snapshot names with
    | .error fault => (.error fault, plane)
    | .ok rules =>
        let (version, plane) := plane.nextVersion
        let (nonce, plane) := plane.nextToken
        (.ok ⟨Discovery.typeUrl, rules, nonce, version⟩, plane)
  else (.error (.unsupportedType typeUrl), plane)

end Plane

end RulePlane
