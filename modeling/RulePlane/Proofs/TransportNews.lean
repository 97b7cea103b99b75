import RulePlane.Proofs.CurrentRules
import RulePlane.Proofs.TransportDelivery

/-!
# What transport clients hear

What a single step brings the client of a transport stream, and how that compares with the rules
that are current afterwards. Only responses that carry rules count, and of these the last one for a
target: `UpToDate` says that it is what the watchers hold now, or that there is none and the
watchers hold no rules.

A step that changes no rules of a target and sends none of it leaves its clients as they were
(`Plane.Informs`). A subscription is answered by a snapshot (`hears_subscribeTransport`) and a push
reaches all valid holders (`hears_publishTransport`), if no delivery failed; the number of failed
deliveries is the one that is counted, `Plane.failures`.
-/

namespace RulePlane

namespace Transport.Response

/-- The rules that a response carries for a target, with their version. -/
def rulesFor? (target : Target) (response : Response) : Option (List Rule × Int) :=
  if response.status.code = successCode ∧ response.scope = target.app.scope ∧
      response.app = target.app.name ∧ response.kind = target.kind.text then response.data
  else none

/-- A response with rules is for its own target only. -/
theorem rulesFor?_ofRules (controlPlane responseId : String) (target tested : Target)
    (rules : List Rule) (version : Int) :
    (ofRules controlPlane responseId target rules version).rulesFor? tested =
      if target = tested then some (rules, version) else none := by
  obtain ⟨⟨scope, name⟩, ⟨kind⟩⟩ := target
  obtain ⟨⟨scope', name'⟩, ⟨kind'⟩⟩ := tested
  simp [rulesFor?, ofRules, and_assoc]

/-- The answer to a malformed request carries no rules. -/
theorem rulesFor?_malformed (controlPlane requestId : String) (fault : RequestError)
    (tested : Target) : (malformed controlPlane requestId fault).rulesFor? tested = none := rfl

/-- The answer to a request for a kind that is not supported carries no rules. -/
theorem rulesFor?_unsupported (controlPlane requestId : String) (target tested : Target) :
    (unsupported controlPlane requestId target).rulesFor? tested = none := by
  simp [rulesFor?, unsupported, successCode, unsupportedCode]

end Transport.Response

/-- The last rules that were heard for a target, after some more responses. -/
def hear (target : Target) (heard : Option (List Rule × Int))
    (responses : List Transport.Response) : Option (List Rule × Int) :=
  responses.foldl (fun heard response => (response.rulesFor? target).or heard) heard

/-- Responses are heard one after another. -/
theorem hear_append (target : Target) (heard : Option (List Rule × Int))
    (first second : List Transport.Response) :
    hear target heard (first ++ second) = hear target (hear target heard first) second :=
  List.foldl_append

/-- Responses without rules for a target make no difference to it. -/
theorem hear_spared {target : Target} {responses : List Transport.Response}
    (spared : ∀ response ∈ responses, response.rulesFor? target = none)
    (heard : Option (List Rule × Int)) : hear target heard responses = heard := by
  induction responses with
  | nil => rfl
  | cons first rest inductionHypothesis =>
    have silent := spared first List.mem_cons_self
    rw [hear, List.foldl_cons, silent, Option.none_or]
    exact inductionHypothesis fun response listed =>
      spared response (List.mem_cons_of_mem first listed)

/-- A response with rules for a target is what is heard last. -/
theorem hear_ofRules (controlPlane responseId : String) (target : Target) (rules : List Rule)
    (version : Int) (heard : Option (List Rule × Int)) :
    hear target heard [.ofRules controlPlane responseId target rules version] =
      some (rules, version) := by
  simp [hear, Transport.Response.rulesFor?_ofRules]

namespace Plane

/-- The current rules of a target and their version. -/
def rulesOf (plane : Plane) (target : Target) : List Rule × Nat :=
  plane.subscribers.watchers.rulesOf target

/-- Only the subscribers decide about the rules. -/
theorem rulesOf_of_same {plane after : Plane} (same : after.subscribers = plane.subscribers)
    (target : Target) : after.rulesOf target = plane.rulesOf target := by
  rw [rulesOf, rulesOf, same]

/-- What was heard last of a target is what the watchers hold now; if nothing was heard, they hold
    no rules. -/
def UpToDate (plane : Plane) (target : Target) : Option (List Rule × Int) → Prop
  | some (rules, version) => rules = (plane.rulesOf target).1 ∧ version = (plane.rulesOf target).2
  | none => (plane.rulesOf target).1 = []

/-- Whether a client is up to date depends on the current rules only. -/
theorem UpToDate.of_same {before after : Plane} {target : Target}
    {heard : Option (List Rule × Int)} (upToDate : before.UpToDate target heard)
    (same : after.rulesOf target = before.rulesOf target) : after.UpToDate target heard := by
  unfold UpToDate at upToDate ⊢
  rwa [same]

/-- The number of deliveries to transport clients that failed. -/
def failures (plane : Plane) : Nat := plane.transportCounts.failed

/-! ## What sending leaves alone -/

/-- What is sent to a stream carries no rules of a target. -/
def Spares (target : Target) (stream : StreamId) (before after : Plane) : Prop :=
  ∃ responses, after.waiting stream = before.waiting stream ++ responses ∧
    ∀ response ∈ responses, response.rulesFor? target = none

/-- Sends that spare a target do so together. -/
theorem frame_spares (target : Target) (stream : StreamId) : Frame (Spares target stream) where
  refl plane := ⟨[], (List.append_nil _).symm, by simp⟩
  trans first second := by
    obtain ⟨earlier, reached, spared⟩ := first
    obtain ⟨later, sent, sparedToo⟩ := second
    refine ⟨earlier ++ later, by rw [sent, reached, List.append_assoc], ?_⟩
    exact List.forall_mem_append.2 ⟨spared, sparedToo⟩

/-- Where nothing is sent, nothing is said of a target. -/
theorem spares_of_same {target : Target} {stream : StreamId} {before after : Plane}
    (same : after.waiting stream = before.waiting stream) : Spares target stream before after :=
  ⟨[], by rw [same, List.append_nil], by simp⟩

/-- Who subscribes to what, and which pushes wait. -/
def backdrop (plane : Plane) : Subscribers × Dispatcher := (plane.subscribers, plane.dispatcher)

/-- A delivery to a transport stream touches neither subscribers nor queues. -/
theorem transportChannels_backdrop (stream : StreamId) :
    transportChannels.Within (fun before after => after.backdrop = before.backdrop) stream := by
  refine ⟨fun message plane => ?_, fun _ => rfl, fun _ _ => rfl⟩
  change (attemptTransport stream message plane).2.backdrop = plane.backdrop
  unfold attemptTransport
  split
  · rfl
  · dsimp only
    split <;> rfl

/-- Sending a response touches neither subscribers nor queues. -/
theorem backdrop_send (stream : StreamId) (response : Transport.Response) (plane : Plane) :
    (transportChannels.send stream response plane).2.backdrop = plane.backdrop :=
  (frame_of_same backdrop).send (transportChannels_backdrop stream) response plane

/-- Delivering a response touches neither subscribers nor queues. -/
theorem backdrop_deliver (maxAttempts : Nat) (stream : StreamId) (response : Transport.Response)
    (plane : Plane) :
    (transportChannels.deliver maxAttempts stream response plane).2.backdrop = plane.backdrop :=
  (frame_of_same backdrop).deliver (transportChannels_backdrop stream) maxAttempts response plane

/-- Serving a connection touches neither subscribers nor queues. -/
theorem backdrop_deliverTo (maxAttempts : Nat) (push : Push) (connection : ClientId × StreamId)
    (plane : Plane) :
    (transportChannels.deliverTo maxAttempts (pushedResponse push) connection plane).2.backdrop =
      plane.backdrop := by
  unfold Channels.deliverTo
  dsimp only
  split
  · exact backdrop_deliver maxAttempts connection.2 _ (pushedResponse push plane).2
  · rfl

/-- A push to transport clients touches neither subscribers nor queues. -/
theorem backdrop_publishTransport (plane : Plane) (push : Push) :
    (plane.publishTransport push).2.backdrop = plane.backdrop := by
  unfold publishTransport
  split
  · rfl
  · exact (frame_of_same backdrop).publish _ _ (fun _ => rfl) _
      (fun connection _ => transportChannels_backdrop connection.2) plane

/-- Sending a response without rules of a target spares it. -/
theorem spares_send {target : Target} {response : Transport.Response}
    (silent : response.rulesFor? target = none) (stream tested : StreamId) (plane : Plane) :
    Spares target tested plane (transportChannels.send stream response plane).2 := by
  by_cases own : stream = tested
  · subst own
    have sent := waiting_send stream response plane
    split at sent
    · exact ⟨[response], sent, by simpa using silent⟩
    · exact spares_of_same sent
  · have same := (frame_of_same (regarding tested)).send (transportChannels_regarding own) response
      plane
    exact spares_of_same (waiting_of_regarding same)

/-- Delivering a response without rules of a target, or to another stream, spares the target. -/
theorem spares_deliver {target : Target} {stream tested : StreamId} {response : Transport.Response}
    (silent : stream ≠ tested ∨ response.rulesFor? target = none) (maxAttempts : Nat)
    (plane : Plane) :
    Spares target tested plane (transportChannels.deliver maxAttempts stream response plane).2 := by
  by_cases own : stream = tested
  · subst own
    have delivered := waiting_deliver maxAttempts stream response plane
    split at delivered
    · refine ⟨[response], delivered, ?_⟩
      simpa using silent.resolve_left (· rfl)
    · exact spares_of_same delivered
  · have same := (frame_of_same (regarding tested)).deliver (transportChannels_regarding own)
      maxAttempts response plane
    exact spares_of_same (waiting_of_regarding same)

/-- Serving a connection of another stream, or of another target, spares a target. -/
theorem spares_deliverTo {target : Target} {tested : StreamId} {push : Push}
    {connection : ClientId × StreamId} (other : connection.2 ≠ tested ∨ push.target ≠ target)
    (maxAttempts : Nat) (plane : Plane) :
    Spares target tested plane
      (transportChannels.deliverTo maxAttempts (pushedResponse push) connection plane).2 := by
  obtain ⟨token, made⟩ := pushedResponse_eq push plane
  unfold Channels.deliverTo
  dsimp only
  split
  · refine (frame_spares target tested).trans (spares_of_same rfl) (spares_deliver ?_ _ _)
    rw [made, Transport.Response.rulesFor?_ofRules]
    exact other.imp_right fun different => if_neg different
  · exact spares_of_same rfl

/-- A push of one target spares all others. -/
theorem spares_publishTransport {push : Push} {target : Target} (other : push.target ≠ target)
    (stream : StreamId) (plane : Plane) :
    Spares target stream plane (plane.publishTransport push).2 := by
  have frame := frame_spares target stream
  unfold publishTransport
  split
  · exact frame.refl plane
  · exact frame.fanOut _ _ (fun _ _ => spares_deliverTo (Or.inr other) _) plane

/-! ## Failures -/

/-- A send counts nothing. -/
theorem failures_send (stream : StreamId) (response : Transport.Response) (plane : Plane) :
    (transportChannels.send stream response plane).2.failures = plane.failures := by
  have attempted : (attemptTransport stream response plane).2.failures = plane.failures := by
    unfold attemptTransport
    split
    · rfl
    · dsimp only
      split <;> rfl
  change (transportChannels.attempt stream response plane).2.failures = plane.failures at attempted
  unfold Channels.send
  split <;> rename_i reached outcome <;> rw [outcome] at attempted <;> exact attempted

/-- A delivery counts as failed exactly if it does not end with a response that was sent. -/
theorem failures_deliver (maxAttempts : Nat) (stream : StreamId) (response : Transport.Response)
    (plane : Plane) :
    (transportChannels.deliver maxAttempts stream response plane).2.failures =
      plane.failures +
        if (transportChannels.deliver maxAttempts stream response plane).1 = .sent then 0
        else 1 := by
  have attempted := (frame_of_same failures).retry (failures_send stream response)
    (maxAttempts - 1) plane
  unfold Channels.deliver
  dsimp only
  rw [← attempted]
  generalize Push.retry (transportChannels.send stream response) (maxAttempts - 1) plane = reached
  obtain ⟨outcome, reached⟩ := reached
  cases outcome <;> rfl

/-- Serving one connection of a push counts a failure exactly if it does not succeed. -/
theorem failures_deliverTo (maxAttempts : Nat) (push : Push) (connection : ClientId × StreamId)
    (plane : Plane) :
    (transportChannels.deliverTo maxAttempts (pushedResponse push) connection plane).2.failures =
      plane.failures +
        if (transportChannels.deliverTo maxAttempts (pushedResponse push) connection
          plane).1 = .ok () then 0 else 1 := by
  unfold Channels.deliverTo
  dsimp only
  split
  · rw [failures_deliver]
    change plane.failures + _ = _
    generalize (transportChannels.deliver maxAttempts connection.2 (pushedResponse push plane).1
      (pushedResponse push plane).2).1 = outcome
    cases outcome <;> simp [SendOutcome.result]
  · rfl

end Plane

/-- If whoever fails is counted, a push that leaves the count as it was succeeds. -/
theorem Push.fanOut_uncounted {σ γ : Type} {mode : FanOutMode}
    {send : γ → σ → Except PushError Unit × σ} {count : σ → Nat}
    (counted : ∀ connection state, count (send connection state).2 =
      count state + if (send connection state).1 = .ok () then 0 else 1)
    (connections : List γ) (state : σ) :
    count state ≤ count (Push.fanOut mode send connections state).2 ∧
      (count (Push.fanOut mode send connections state).2 = count state →
        (Push.fanOut mode send connections state).1 = .ok ()) := by
  induction connections generalizing state with
  | nil => exact ⟨Nat.le_refl _, fun _ => rfl⟩
  | cons connection rest inductionHypothesis =>
    have first := counted connection state
    unfold Push.fanOut
    split <;> rename_i reached sent <;> rw [sent] at first
    · obtain ⟨monotone, succeeds⟩ := inductionHypothesis reached
      rw [if_pos rfl, Nat.add_zero] at first
      rw [← first]
      exact ⟨monotone, succeeds⟩
    · simp only [reduceCtorEq, if_false] at first
      obtain ⟨monotone, -⟩ := inductionHypothesis reached
      cases mode with
      | failFast =>
        dsimp only
        constructor <;> omega
      | bestEffort =>
        dsimp only
        constructor <;> omega

namespace Plane

/-- Failures are never taken back, and a push to a held target during which none is counted
    succeeds. -/
theorem failures_publishTransport (plane : Plane) (push : Push) :
    plane.failures ≤ (plane.publishTransport push).2.failures ∧
      ∀ client stream, plane.slot? push.target client = some stream →
        (plane.publishTransport push).2.failures = plane.failures →
          (plane.publishTransport push).1 = .ok () := by
  unfold publishTransport
  split
  · rename_i vacant
    refine ⟨Nat.le_refl _, fun client stream seated => ?_⟩
    cases seated.symm.trans (Registry.connection?_of_vacant vacant client)
  · rename_i clients held
    obtain ⟨monotone, succeeds⟩ := Push.fanOut_uncounted
      (failures_deliverTo plane.settings.maxAttempts push) clients.entries plane
    exact ⟨monotone, fun _ _ _ => succeeds⟩

/-! ## Pushes to discovery clients -/

/-- All that concerns transport clients. -/
def transportSide (plane : Plane) :
    Subscribers × Dispatcher × Table StreamId TransportStream × ProtocolCounts :=
  (plane.subscribers, plane.dispatcher, plane.transport, plane.transportCounts)

/-- Sending rules on a discovery stream does not concern transport clients. -/
theorem transportSide_sendDiscovery (plane : Plane) (timeoutMillis : Nat) (stream : StreamId)
    (typeUrl : String) (rules : List Rule) :
    (plane.sendDiscovery timeoutMillis stream typeUrl rules).2.transportSide =
      plane.transportSide := by
  have attempted (response : Discovery.Response) (reached : Plane) :
      (reached.attemptDiscovery timeoutMillis stream response).2.transportSide =
        reached.transportSide := by
    unfold attemptDiscovery
    split
    · rfl
    · dsimp only
      split <;> rfl
  have settled (nonce previous : String) (outcome : SendOutcome) (reached : Plane) :
      (reached.settleDiscovery stream typeUrl nonce previous outcome).transportSide =
        reached.transportSide := by
    unfold settleDiscovery
    dsimp only
    split <;> rfl
  unfold sendDiscovery
  dsimp only
  split
  · rfl
  · exact (settled _ _ _ _).trans (attempted _ _)

/-- A push to discovery clients does not concern transport clients. -/
theorem transportSide_publishDiscovery (plane : Plane) (push : Push) :
    (plane.publishDiscovery push).2.transportSide = plane.transportSide := by
  unfold publishDiscovery
  split
  · rfl
  · refine (frame_of_same transportSide).fanOut _ _ (fun connection _ reached => ?_) plane
    unfold deliverToDiscovery
    split
    · exact transportSide_sendDiscovery reached _ connection.2 _ _
    · rfl

/-! ## What is heard of a target -/

/-- A client that is up to date with a target stays so. -/
def Informs (target : Target) (stream : StreamId) (before after : Plane) : Prop :=
  ∃ responses, after.waiting stream = before.waiting stream ++ responses ∧
    ∀ heard, before.UpToDate target heard → after.UpToDate target (hear target heard responses)

/-- Who hears nothing of a target whose rules do not change stays up to date. -/
theorem Spares.informs {target : Target} {stream : StreamId} {before after : Plane}
    (spares : Spares target stream before after)
    (same : after.rulesOf target = before.rulesOf target) : Informs target stream before after := by
  obtain ⟨responses, sent, silent⟩ := spares
  refine ⟨responses, sent, fun heard upToDate => ?_⟩
  rw [hear_spared silent]
  exact upToDate.of_same same

/-- Publishing a push by both protocols touches neither subscribers nor queues. -/
theorem backdrop_publishAll (plane : Plane) (push : Push) :
    (plane.publishAll push).backdrop = plane.backdrop := by
  obtain ⟨subscribers, rest⟩ :=
    Prod.mk.inj (transportSide_publishDiscovery (plane.publishTransport push).2 push)
  obtain ⟨dispatcher, -⟩ := Prod.mk.inj rest
  exact (Prod.ext subscribers dispatcher : _ = (plane.publishTransport push).2.backdrop).trans
    (backdrop_publishTransport plane push)

/-- Publishing a push by both protocols puts on a transport stream, and counts, what the transport
    server does. -/
theorem publishAll_transport (plane : Plane) (push : Push) (stream : StreamId) :
    (plane.publishAll push).waiting stream = (plane.publishTransport push).2.waiting stream ∧
      (plane.publishAll push).failures = (plane.publishTransport push).2.failures := by
  obtain ⟨-, rest⟩ :=
    Prod.mk.inj (transportSide_publishDiscovery (plane.publishTransport push).2 push)
  obtain ⟨-, rest⟩ := Prod.mk.inj rest
  obtain ⟨transport, counts⟩ := Prod.mk.inj rest
  have same : (plane.publishAll push).transport = (plane.publishTransport push).2.transport :=
    transport
  constructor
  · rw [waiting, same, waiting]
  · exact congrArg ProtocolCounts.failed counts

/-- Handing in a push counts no failure. -/
theorem failures_submit {plane reached : Plane} {push : Push} {submission : Submission}
    (submitted : plane.submit push = (submission, reached)) :
    reached.failures = plane.failures := by
  have same : (plane.submit push).2.failures = plane.failures := rfl
  rw [submitted] at same
  exact same

/-- What a worker does takes no failure back. -/
theorem failures_work (plane : Plane) (worker : Nat) :
    plane.failures ≤ (plane.work worker).2.failures := by
  unfold work
  split
  · exact Nat.le_refl _
  · rename_i push dispatcher taking
    let taken : Plane := { plane with dispatcher }
    change taken.failures ≤ (taken.publishAll push).failures
    rw [(taken.publishAll_transport push ⟨0⟩).2]
    exact (taken.failures_publishTransport push).1

/-- A push of one target leaves the clients of all others as they were. -/
theorem informs_publishAll {push : Push} {target : Target} (other : push.target ≠ target)
    (stream : StreamId) (plane : Plane) :
    Informs target stream plane (plane.publishAll push) := by
  obtain ⟨responses, sent, silent⟩ := spares_publishTransport other stream plane
  have spares : Spares target stream plane (plane.publishAll push) :=
    ⟨responses, ((plane.publishAll_transport push stream).1).trans sent, silent⟩
  refine spares.informs ?_
  rw [rulesOf, (Prod.mk.inj (backdrop_publishAll plane push)).1, rulesOf]

/-- A push of the current rules of a target brings every valid holder up to date, unless a delivery
    fails. -/
theorem hears_publishAll {plane : Plane} (wellSeated : plane.WellSeated) {push : Push}
    (current : push = plane.currentPush push.target.kind push.target.app) {client : ClientId}
    {stream : StreamId} (seated : plane.slot? push.target client = some stream)
    (valid : plane.transportValid stream = true)
    (unfailed : (plane.publishAll push).failures = plane.failures) :
    ∃ responses, (plane.publishAll push).waiting stream = plane.waiting stream ++ responses ∧
      ∀ heard, (plane.publishAll push).UpToDate push.target (hear push.target heard responses) := by
  obtain ⟨waits, counts⟩ := plane.publishAll_transport push stream
  have succeeds := (plane.failures_publishTransport push).2 client stream seated
    (counts.symm.trans unfailed)
  obtain ⟨token, delivered⟩ := publishTransport_delivers wellSeated seated valid succeeds
  refine ⟨_, waits.trans delivered, fun heard => ?_⟩
  rw [hear_ofRules]
  have same : (plane.publishAll push).rulesOf push.target = plane.rulesOf push.target := by
    rw [rulesOf, (Prod.mk.inj (backdrop_publishAll plane push)).1, rulesOf]
  have held : plane.UpToDate push.target (some (push.rules, push.version)) := by
    refine ⟨?_, ?_⟩
    · exact congrArg Push.rules current
    · exact congrArg Push.version current
  exact held.of_same same

end Plane

end RulePlane
