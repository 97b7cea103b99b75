import RulePlane.Plane.State

/-!
# The transport server

What the control plane does with the requests of transport clients and with pushes to them. A
stream is named by the first request on it that is not a mere acknowledgement, and all its
subscriptions are under that name. A client that subscribes receives the rules that are cached
already, and from then on a push whenever they change.
-/

namespace RulePlane

namespace Plane

/-- Whether the connection of a transport stream is valid. -/
def transportValid (plane : Plane) (stream : StreamId) : Bool :=
  ((plane.transport.find? stream).map TransportStream.isValid).getD false

/-- Mark the connection of a transport stream as closed. -/
def invalidateTransport (stream : StreamId) (plane : Plane) : Plane :=
  { plane with
    transport := plane.transport.modify stream fun found => { found with isValid := false } }

/-- Put a response into the outbox of a transport stream, and wait if it is full. -/
def attemptTransport (stream : StreamId) (response : Transport.Response) (plane : Plane) :
    SendOutcome × Plane :=
  match plane.transport.find? stream with
  | none => (.closed, plane)
  | some found =>
      let (outcome, outbox) := found.outbox.offer response
      let plane :=
        { plane with transport := plane.transport.insert stream { found with outbox } }
      match outcome with
      | .timedOut => (outcome, plane.wait plane.settings.timeoutMillis)
      | _ => (outcome, plane)

/-- How responses reach transport clients. -/
def transportChannels : Channels Plane Transport.Response where
  isValid := fun stream plane => plane.transportValid stream
  attempt := attemptTransport
  invalidate := invalidateTransport
  count := fun succeeded plane =>
    { plane with transportCounts := plane.transportCounts.pushed succeeded }

/-- Deliver a response to a transport stream, with the configured number of attempts. -/
def deliverTransport (stream : StreamId) (response : Transport.Response) (plane : Plane) :
    Plane :=
  (transportChannels.deliver plane.settings.maxAttempts stream response plane).2

/-- The response that a push carries to one connection, under a token of its own. -/
def pushedResponse (push : Push) (plane : Plane) : Transport.Response × Plane :=
  let (token, plane) := plane.nextToken
  (.ofRules plane.settings.controlPlane token push.target push.rules push.version, plane)

/-- Push rules to the transport clients that hold a target. -/
def publishTransport (push : Push) (plane : Plane) : Except PushError Unit × Plane :=
  match plane.subscribers.transport.holders? push.target with
  | none => (.error (.noConnections push.target), plane)
  | some clients =>
      transportChannels.publish plane.settings.fanOut plane.settings.maxAttempts
        (pushedResponse push) clients.entries plane

/-- The name of a transport stream. A stream that has none gets the given one, or a generated one
    if that is empty. -/
def nameTransport (stream : StreamId) (identifier : String) (plane : Plane) : ClientId × Plane :=
  match (plane.transport.find? stream).bind TransportStream.client with
  | some client => (client, plane)
  | none =>
      let (client, plane) :=
        if identifier = "" then
          let (token, plane) := plane.nextToken
          (⟨"transport-" ++ token⟩, plane)
        else (⟨identifier⟩, plane)
      (client, { plane with
        transport :=
          plane.transport.modify stream fun found => { found with client := some client } })

/-- Send the current rules of a target to a transport stream, unless there are none. -/
def sendSnapshot (stream : StreamId) (target : Target) (requestId : String) (plane : Plane) :
    Plane :=
  let (rules, version) := plane.subscribers.watchers.rules target.kind target.app
  if rules.isEmpty then plane
  else
    plane.deliverTransport stream
      (.ofRules plane.settings.controlPlane requestId target rules version)

/-- Subscribe a transport client to a target. -/
def subscribeTransport (stream : StreamId) (client : ClientId) (requestId : String)
    (plane : Plane) (target : Target) : Plane :=
  let (result, subscribers) :=
    plane.subscribers.subscribe plane.transportValid .transport target client stream
  let plane := { plane with subscribers }
  match result with
  | .ok () => plane.sendSnapshot stream target requestId
  | .error (.watch _) =>
      plane.deliverTransport stream (.unsupported plane.settings.controlPlane requestId target)
  | .error (.registry _) => plane

/-- Let a transport client leave a target. -/
def unsubscribeTransport (client : ClientId) (plane : Plane) (target : Target) : Plane :=
  { plane with subscribers := plane.subscribers.unsubscribe .transport target client }

/-- Handle a request of a transport client. An acknowledgement has no effect. A malformed request
    is answered once, without a second attempt. -/
def handleTransport (stream : StreamId) (plane : Plane) (request : Transport.Request) : Plane :=
  if request.isAcknowledgement then plane
  else
    let (client, plane) := plane.nameTransport stream request.identifier
    match request.validate with
    | .error fault =>
        (transportChannels.send stream
          (.malformed plane.settings.controlPlane request.requestId fault) plane).2
    | .ok (.subscribe, targets) =>
        targets.foldl (subscribeTransport stream client request.requestId) plane
    | .ok (.unsubscribe, targets) => targets.foldl (unsubscribeTransport client) plane

/-- Begin to serve a transport stream. -/
def beginTransport (plane : Plane) : Plane :=
  { plane with transportCounts := plane.transportCounts.streamOpened }

/-- End the service of a transport stream: its connection becomes invalid, and what its client held
    is released. -/
def finishTransport (stream : StreamId) (plane : Plane) : Plane :=
  let plane :=
    match (plane.transport.find? stream).bind TransportStream.client with
    | none => plane
    | some client =>
        let plane := plane.invalidateTransport stream
        { plane with subscribers := plane.subscribers.disconnect .transport client }
  { plane with transportCounts := plane.transportCounts.streamClosed }

end Plane

end RulePlane
