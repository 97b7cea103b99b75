import RulePlane.Plane.Change
import RulePlane.Push.Activity

/-!
# Activities of the control plane

What the control plane does with requests and pushes, cut at its sends. The activity of an operation
has the name of the operation in the progressive form, and completes as the operation does if
nothing else happens meanwhile.
-/

namespace RulePlane

/-- A message to a client of one of the protocols. -/
inductive Posting where
  | transport (response : Transport.Response)
  | discovery (response : Discovery.Response)

namespace Plane

/-- Put a message into the outbox of a stream, if it has room. -/
def offer (stream : StreamId) (posting : Posting) (plane : Plane) : SendOutcome × Plane :=
  match posting with
  | .transport response =>
      match plane.transport.find? stream with
      | none => (.closed, plane)
      | some found =>
          let (outcome, outbox) := found.outbox.offer response
          (outcome,
            { plane with transport := plane.transport.insert stream { found with outbox } })
  | .discovery response =>
      match plane.discovery.find? stream with
      | none => (.closed, plane)
      | some found =>
          let (outcome, outbox) := found.outbox.offer response
          (outcome,
            { plane with discovery := plane.discovery.insert stream { found with outbox } })

/-- Put a message into the outbox of a stream, and wait for a time if it is full. -/
def attempt (millis : Nat) (stream : StreamId) (posting : Posting) (plane : Plane) :
    SendOutcome × Plane :=
  let (outcome, plane) := plane.offer stream posting
  (outcome, if outcome = .timedOut then plane.wait millis else plane)

/-- Whether a message that has a number of others ahead of it has to wait for room on a stream. -/
def isCrowded (ahead : Nat) (stream : StreamId) (posting : Posting) (plane : Plane) : Bool :=
  match posting with
  | .transport _ =>
      (plane.transport.find? stream).any fun found => found.outbox.isCrowded ahead
  | .discovery _ =>
      (plane.discovery.find? stream).any fun found => found.outbox.isCrowded ahead

/-! ## Transport -/

/-- Send once on a transport stream; a connection whose client is gone becomes invalid. -/
def sendingTransport (stream : StreamId) (response : Transport.Response) (plane : Plane) :
    Activity Posting Plane SendOutcome :=
  .sending stream plane.settings.timeoutMillis (.transport response) plane fun outcome plane =>
    .finished outcome (if outcome = .closed then plane.invalidateTransport stream else plane)

/-- Deliver a response to a transport stream, with a number of attempts. -/
def deliveringTransport (maxAttempts : Nat) (stream : StreamId) (response : Transport.Response)
    (plane : Plane) : Activity Posting Plane SendOutcome :=
  (Activity.retry (sendingTransport stream response) (maxAttempts - 1) plane).bind
    fun outcome plane => .finished outcome (transportChannels.count (outcome = .sent) plane)

/-- Deliver to one transport connection of a push; an invalid one is passed over. -/
def deliveringToTransport (maxAttempts : Nat) (push : Push) (connection : ClientId × StreamId)
    (plane : Plane) : Activity Posting Plane (Except PushError Unit) :=
  let (response, plane) := pushedResponse push plane
  if plane.transportValid connection.2 then
    (deliveringTransport maxAttempts connection.2 response plane).map
      (SendOutcome.result connection.1)
  else .finished (.ok ()) plane

/-- Push rules to the transport clients that hold a target. -/
def publishingTransport (push : Push) (plane : Plane) :
    Activity Posting Plane (Except PushError Unit) :=
  match plane.subscribers.transport.holders? push.target with
  | none => .finished (.error (.noConnections push.target)) plane
  | some clients =>
      Activity.fanOut plane.settings.fanOut
        (deliveringToTransport plane.settings.maxAttempts push) clients.entries plane

/-- Deliver an answer to a transport stream. -/
def answeringTransport (stream : StreamId) (response : Transport.Response) (plane : Plane) :
    Activity Posting Plane Unit :=
  (deliveringTransport plane.settings.maxAttempts stream response plane).map fun _ => ()

/-- Send the current rules of a target to a transport stream, unless there are none. -/
def sendingSnapshot (stream : StreamId) (target : Target) (requestId : String) (plane : Plane) :
    Activity Posting Plane Unit :=
  let (rules, version) := plane.subscribers.watchers.rules target.kind target.app
  if rules.isEmpty then .finished () plane
  else
    plane.answeringTransport stream
      (.ofRules plane.settings.controlPlane requestId target rules version)

/-- Subscribe a transport client to a target. -/
def subscribingTransport (stream : StreamId) (client : ClientId) (requestId : String)
    (plane : Plane) (target : Target) : Activity Posting Plane Unit :=
  let (result, subscribers) :=
    plane.subscribers.subscribe plane.transportValid .transport target client stream
  let plane := { plane with subscribers }
  match result with
  | .ok () => plane.sendingSnapshot stream target requestId
  | .error (.watch _) =>
      plane.answeringTransport stream (.unsupported plane.settings.controlPlane requestId target)
  | .error (.registry _) => .finished () plane

/-- Handle a request of a transport client. -/
def handlingTransport (stream : StreamId) (plane : Plane) (request : Transport.Request) :
    Activity Posting Plane Unit :=
  if request.isAcknowledgement then .finished () plane
  else
    let (client, plane) := plane.nameTransport stream request.identifier
    match request.validate with
    | .error fault =>
        (plane.sendingTransport stream
          (.malformed plane.settings.controlPlane request.requestId fault)).map fun _ => ()
    | .ok (.subscribe, targets) =>
        Activity.each (subscribingTransport stream client request.requestId) targets plane
    | .ok (.unsubscribe, targets) =>
        .finished () (targets.foldl (unsubscribeTransport client) plane)

/-! ## Discovery -/

/-- Send rules on a discovery stream for a type URL that its client watches. The nonce is recorded
    before the send, which is settled when it has met its outcome. -/
def sendingDiscovery (timeoutMillis : Nat) (stream : StreamId) (typeUrl : String)
    (rules : List Rule) (plane : Plane) : Activity Posting Plane (Except PushError Unit) :=
  let (nonce, plane) := plane.nextToken
  match (plane.discovery.find? stream).bind fun found =>
      (found.watchList.record? typeUrl nonce).map fun recorded => (found, recorded) with
  | none => .finished (.ok ()) plane
  | some (found, previous, watchList) =>
      let plane :=
        { plane with discovery := plane.discovery.insert stream { found with watchList } }
      let (version, plane) := plane.nextVersion
      .sending stream timeoutMillis (.discovery ⟨typeUrl, rules, nonce, version⟩) plane
        fun outcome plane =>
          .finished (outcome.result (plane.discoveryClient stream))
            (plane.settleDiscovery stream typeUrl nonce previous outcome)

/-- Send rules of the served type on a discovery stream, and count how that ended. -/
def deliveringDiscovery (stream : StreamId) (rules : List Rule) (plane : Plane) :
    Activity Posting Plane (Except PushError Unit) :=
  (plane.sendingDiscovery plane.settings.timeoutMillis stream Discovery.typeUrl rules).bind
    fun result plane =>
      .finished result
        { plane with discoveryCounts := plane.discoveryCounts.pushed result.isOk }

/-- Deliver to one discovery connection of a push; one that was stopped is passed over. -/
def deliveringToDiscovery (rules : List Rule) (connection : ClientId × StreamId) (plane : Plane) :
    Activity Posting Plane (Except PushError Unit) :=
  if plane.discoveryValid connection.2 then plane.deliveringDiscovery connection.2 rules
  else .finished (.ok ()) plane

/-- Push rules to the discovery clients that hold a target. -/
def publishingDiscovery (push : Push) (plane : Plane) :
    Activity Posting Plane (Except PushError Unit) :=
  match plane.subscribers.discovery.holders? push.target with
  | none => .finished (.error (.noConnections push.target)) plane
  | some clients =>
      Activity.fanOut plane.settings.fanOut (deliveringToDiscovery push.rules) clients.entries
        plane

/-- Subscribe a discovery client to the target of a name, and send its current rules. -/
def subscribingDiscovery (stream : StreamId) (plane : Plane) (name : String) :
    Activity Posting Plane Unit :=
  match ResourceName.parse? name with
  | none => .finished () plane
  | some name =>
      let (result, subscribers) :=
        plane.subscribers.subscribe plane.discoveryValid .discovery name.target
          (plane.discoveryClient stream) stream
      let plane := { plane with subscribers }
      match result with
      | .error _ => .finished () plane
      | .ok () =>
          let (rules, _) := plane.subscribers.watchers.rules name.kind name.target.app
          if rules.isEmpty then .finished () plane
          else (plane.deliveringDiscovery stream rules).map fun _ => ()

/-- Handle a request of a discovery client. -/
def handlingDiscovery (stream : StreamId) (plane : Plane) (request : Discovery.Request) :
    Activity Posting Plane Unit :=
  if request.typeUrl = Discovery.typeUrl then
    let ((respond, changes), plane) := plane.takeDiscovery stream request
    let plane := changes.unsubscribed.foldl (unsubscribeDiscovery stream) plane
    if respond then Activity.each (subscribingDiscovery stream) changes.subscribed plane
    else .finished () plane
  else .finished () plane

/-! ## Pushes -/

/-- Publish a push by one protocol. -/
def publishing (protocol : Protocol) (push : Push) (plane : Plane) :
    Activity Posting Plane (Except PushError Unit) :=
  match protocol with
  | .transport => plane.publishingTransport push
  | .discovery => plane.publishingDiscovery push

/-- Publish a push by both protocols, whatever comes of it. -/
def publishingAll (push : Push) (plane : Plane) : Activity Posting Plane Unit :=
  (plane.publishingTransport push).bind fun _ plane =>
    (plane.publishingDiscovery push).map fun _ => ()

/-- Let a worker publish the next push of its queue; none if there is none. -/
def working? (worker : Nat) (plane : Plane) : Option (Activity Posting Plane Unit) :=
  (plane.dispatcher.next? worker).map fun (push, dispatcher) =>
    { plane with dispatcher }.publishingAll push

/-! ## Completion -/

theorem attempt_transport (stream : StreamId) (response : Transport.Response) (plane : Plane) :
    plane.attempt plane.settings.timeoutMillis stream (.transport response) =
      plane.attemptTransport stream response := by
  cases holds : plane.transport.find? stream with
  | none => simp [attempt, offer, attemptTransport, holds]
  | some found =>
      simp only [attempt, offer, attemptTransport, holds]
      cases (found.outbox.offer response).1 <;> rfl

theorem attempt_discovery (millis : Nat) (stream : StreamId) (response : Discovery.Response)
    (plane : Plane) :
    plane.attempt millis stream (.discovery response) =
      plane.attemptDiscovery millis stream response := by
  cases holds : plane.discovery.find? stream with
  | none => simp [attempt, offer, attemptDiscovery, holds]
  | some found =>
      simp only [attempt, offer, attemptDiscovery, holds]
      cases (found.outbox.offer response).1 <;> rfl

theorem complete_sendingTransport (stream : StreamId) (response : Transport.Response)
    (plane : Plane) :
    (plane.sendingTransport stream response).complete attempt =
      transportChannels.send stream response plane := by
  simp only [sendingTransport, Activity.complete, attempt_transport, Channels.send]
  have attempting : transportChannels.attempt = attemptTransport := rfl
  rw [attempting]
  obtain ⟨outcome, reached⟩ := plane.attemptTransport stream response
  cases outcome <;> rfl

theorem complete_deliveringTransport (maxAttempts : Nat) (stream : StreamId)
    (response : Transport.Response) (plane : Plane) :
    (plane.deliveringTransport maxAttempts stream response).complete attempt =
      transportChannels.deliver maxAttempts stream response plane := by
  simp only [deliveringTransport, Activity.complete_bind, Activity.complete_finished,
    Activity.complete_retry, complete_sendingTransport, Channels.deliver]

theorem complete_deliveringToTransport (maxAttempts : Nat) (push : Push)
    (connection : ClientId × StreamId) (plane : Plane) :
    (plane.deliveringToTransport maxAttempts push connection).complete attempt =
      transportChannels.deliverTo maxAttempts (pushedResponse push) connection plane := by
  simp only [deliveringToTransport, Channels.deliverTo]
  have valid : transportChannels.isValid connection.2 (pushedResponse push plane).2 =
      (pushedResponse push plane).2.transportValid connection.2 := rfl
  rw [valid]
  cases (pushedResponse push plane).2.transportValid connection.2 with
  | true => simp only [if_true, Activity.complete_map, complete_deliveringTransport]
  | false => rfl

theorem complete_publishingTransport (push : Push) (plane : Plane) :
    (plane.publishingTransport push).complete attempt = plane.publishTransport push := by
  unfold publishingTransport publishTransport
  cases plane.subscribers.transport.holders? push.target with
  | none => rfl
  | some clients =>
      simp only [Activity.complete_fanOut, complete_deliveringToTransport, Channels.publish]

theorem complete_answeringTransport (stream : StreamId) (response : Transport.Response)
    (plane : Plane) :
    (plane.answeringTransport stream response).complete attempt =
      ((), plane.deliverTransport stream response) := by
  rw [answeringTransport, Activity.complete_map, complete_deliveringTransport, deliverTransport]

theorem complete_subscribingTransport (stream : StreamId) (client : ClientId)
    (requestId : String) (plane : Plane) (target : Target) :
    (subscribingTransport stream client requestId plane target).complete attempt =
      ((), subscribeTransport stream client requestId plane target) := by
  simp only [subscribingTransport, subscribeTransport, sendingSnapshot, sendSnapshot]
  cases (plane.subscribers.subscribe plane.transportValid .transport target client stream).1 with
  | ok =>
      simp only
      split
      · rfl
      · exact complete_answeringTransport ..
  | error refusal =>
      cases refusal with
      | watch fault => exact complete_answeringTransport ..
      | registry fault => rfl

/-- The handling of a transport request completes as the whole operation. -/
theorem complete_handlingTransport (stream : StreamId) (plane : Plane)
    (request : Transport.Request) :
    (handlingTransport stream plane request).complete attempt =
      ((), handleTransport stream plane request) := by
  simp only [handlingTransport, handleTransport]
  cases request.isAcknowledgement with
  | true => rfl
  | false =>
      simp only [Bool.false_eq_true, if_false]
      rcases request.validate with fault | ⟨operation, targets⟩
      · simp only [Activity.complete_map, complete_sendingTransport]
      · cases operation with
        | subscribe =>
            exact Activity.complete_each _ (complete_subscribingTransport stream _ _) _ _
        | unsubscribe => rfl

theorem complete_sendingDiscovery (timeoutMillis : Nat) (stream : StreamId) (typeUrl : String)
    (rules : List Rule) (plane : Plane) :
    (plane.sendingDiscovery timeoutMillis stream typeUrl rules).complete attempt =
      plane.sendDiscovery timeoutMillis stream typeUrl rules := by
  simp only [sendingDiscovery, sendDiscovery]
  cases (plane.nextToken.2.discovery.find? stream).bind fun found =>
      (found.watchList.record? typeUrl plane.nextToken.1).map fun recorded => (found, recorded) with
  | none => rfl
  | some recorded => simp only [Activity.complete, attempt_discovery]

theorem complete_deliveringDiscovery (stream : StreamId) (rules : List Rule) (plane : Plane) :
    (plane.deliveringDiscovery stream rules).complete attempt =
      plane.deliverDiscovery stream rules := by
  simp only [deliveringDiscovery, Activity.complete_bind, Activity.complete_finished,
    complete_sendingDiscovery, deliverDiscovery]

theorem complete_publishingDiscovery (push : Push) (plane : Plane) :
    (plane.publishingDiscovery push).complete attempt = plane.publishDiscovery push := by
  have delivers : ∀ connection plane,
      (deliveringToDiscovery push.rules connection plane).complete attempt =
        deliverToDiscovery push.rules connection plane := by
    intro connection plane
    unfold deliveringToDiscovery deliverToDiscovery
    split
    · exact complete_deliveringDiscovery connection.2 push.rules plane
    · rfl
  unfold publishingDiscovery publishDiscovery
  cases plane.subscribers.discovery.holders? push.target with
  | none => rfl
  | some clients => simp only [Activity.complete_fanOut, delivers]

theorem complete_subscribingDiscovery (stream : StreamId) (plane : Plane) (name : String) :
    (subscribingDiscovery stream plane name).complete attempt =
      ((), subscribeDiscovery stream plane name) := by
  unfold subscribingDiscovery subscribeDiscovery
  cases ResourceName.parse? name with
  | none => rfl
  | some name =>
      simp only
      cases (plane.subscribers.subscribe plane.discoveryValid .discovery name.target
          (plane.discoveryClient stream) stream).1 with
      | error refusal => rfl
      | ok =>
          simp only
          split
          · rfl
          · rw [Activity.complete_map, complete_deliveringDiscovery]

/-- The handling of a discovery request completes as the whole operation. -/
theorem complete_handlingDiscovery (stream : StreamId) (plane : Plane)
    (request : Discovery.Request) :
    (handlingDiscovery stream plane request).complete attempt =
      ((), handleDiscovery stream plane request) := by
  unfold handlingDiscovery handleDiscovery
  split
  · simp only
    split
    · exact Activity.complete_each _ (complete_subscribingDiscovery stream) _ _
    · rfl
  · rfl

theorem complete_publishingAll (push : Push) (plane : Plane) :
    (plane.publishingAll push).complete attempt = ((), plane.publishAll push) := by
  simp only [publishingAll, Activity.complete_bind, Activity.complete_map,
    complete_publishingTransport, complete_publishingDiscovery, publishAll, Dispatcher.publishAll,
    engines, List.foldl_cons, List.foldl_nil]

/-- The work of a worker completes as the whole operation, if there is a push to publish. -/
theorem complete_working? {worker : Nat} {plane : Plane} {activity : Activity Posting Plane Unit}
    (taking : plane.working? worker = some activity) :
    plane.work worker = (true, (activity.complete attempt).2) := by
  unfold working? at taking
  unfold work
  cases next : plane.dispatcher.next? worker with
  | none => simp [next] at taking
  | some taken =>
      rw [next, Option.map_some, Option.some.injEq] at taking
      rw [← taking, complete_publishingAll]

end Plane

end RulePlane
