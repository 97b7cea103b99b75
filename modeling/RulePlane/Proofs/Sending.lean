import RulePlane.Plane.Change
import RulePlane.Proofs.SupportedKinds
import RulePlane.Proofs.WatchedNames

/-!
# What sending leaves alone

Pushes reach many streams, and each send may fail in its own way. Yet there is little that a send
can change: what waits in an outbox, the nonce that is recorded before it, whether a stream lives,
and the numbers that are counted. `Plane.Keeps` collects what stays: who subscribes to what, how the
streams are named, which names they watch; and no stream that was ended comes to life again. A
change of a resource is of this form too: the watchers take it into account, and the rest is
sending.

A delivery is built from sends by repetition, so a law of this form is proved for one send and
carried over. `Frame` names the relations for which that is possible. Nothing here says what is
sent.
-/

namespace RulePlane

/-- A relation between a state and a later one that holds over several steps if it holds over each.
    -/
structure Frame {σ : Type} (relation : σ → σ → Prop) : Prop where
  refl : ∀ state, relation state state
  trans : ∀ {first second third}, relation first second → relation second third →
    relation first third

/-- Whatever is read from the states, that it stays the same is such a relation. -/
theorem frame_of_same {σ α : Type} (read : σ → α) :
    Frame fun before after : σ => read after = read before :=
  ⟨fun _ => rfl, fun first second => second.trans first⟩

section Deliveries

variable {σ γ μ : Type} {relation : σ → σ → Prop}

/-- If every attempt is within a relation, so are repeated ones. -/
theorem Frame.retry (frame : Frame relation) {attempt : σ → SendOutcome × σ}
    (within : ∀ state, relation state (attempt state).2) (more : Nat) (state : σ) :
    relation state (Push.retry attempt more state).2 := by
  induction more generalizing state with
  | zero => exact within state
  | succ more inductionHypothesis =>
    have first := within state
    unfold Push.retry
    split <;> rename_i _ reached attempted <;> rw [attempted] at first
    · exact frame.trans first (inductionHypothesis reached)
    · exact first
    · exact first

/-- If a step for every item is within a relation, so are the steps for several items. -/
theorem Frame.foldl (frame : Frame relation) {step : σ → γ → σ}
    (within : ∀ state item, relation state (step state item)) (items : List γ) (state : σ) :
    relation state (items.foldl step state) := by
  induction items generalizing state with
  | nil => exact frame.refl state
  | cons item rest inductionHypothesis =>
    exact frame.trans (within state item) (inductionHypothesis (step state item))

/-- If the send to every connection is within a relation, so is a push to all of them. -/
theorem Frame.fanOut (frame : Frame relation) (mode : FanOutMode)
    {send : γ → σ → Except PushError Unit × σ} (connections : List γ)
    (within : ∀ connection ∈ connections, ∀ state, relation state (send connection state).2)
    (state : σ) : relation state (Push.fanOut mode send connections state).2 := by
  induction connections generalizing state with
  | nil => exact frame.refl state
  | cons connection rest inductionHypothesis =>
    have first := within connection List.mem_cons_self state
    have others := inductionHypothesis fun other member =>
      within other (List.mem_cons_of_mem connection member)
    unfold Push.fanOut
    split <;> rename_i reached sent <;> rw [sent] at first
    · exact frame.trans first (others reached)
    · cases mode with
      | failFast => exact first
      | bestEffort => exact frame.trans first (others reached)

/-- What a delivery to one stream does of the streams is within a relation. -/
structure Channels.Within (channels : Channels σ μ) (relation : σ → σ → Prop)
    (stream : StreamId) : Prop where
  attempt : ∀ message state, relation state (channels.attempt stream message state).2
  invalidate : ∀ state, relation state (channels.invalidate stream state)
  count : ∀ succeeded state, relation state (channels.count succeeded state)

/-- A single send is within a relation if its parts are. -/
theorem Frame.send (frame : Frame relation) {channels : Channels σ μ} {stream : StreamId}
    (within : channels.Within relation stream) (message : μ) (state : σ) :
    relation state (channels.send stream message state).2 := by
  have attempted := within.attempt message state
  unfold Channels.send
  split <;> rename_i reached outcome <;> rw [outcome] at attempted
  · exact frame.trans attempted (within.invalidate reached)
  · exact attempted
  · exact attempted

/-- A delivery with several attempts is within a relation if its parts are. -/
theorem Frame.deliver (frame : Frame relation) {channels : Channels σ μ} {stream : StreamId}
    (within : channels.Within relation stream) (maxAttempts : Nat) (message : μ) (state : σ) :
    relation state (channels.deliver maxAttempts stream message state).2 :=
  frame.trans (frame.retry (frame.send within message) (maxAttempts - 1) state)
    (within.count _ _)

/-- A push is within a relation if making its messages and the deliveries to its connections are. -/
theorem Frame.publish (frame : Frame relation) {channels : Channels σ μ} (mode : FanOutMode)
    (maxAttempts : Nat) {make : σ → μ × σ} (made : ∀ state, relation state (make state).2)
    (connections : List (ClientId × StreamId))
    (within : ∀ connection ∈ connections, channels.Within relation connection.2) (state : σ) :
    relation state (channels.publish mode maxAttempts make connections state).2 := by
  refine frame.fanOut mode connections (fun connection member state => ?_) state
  unfold Channels.deliverTo
  dsimp only
  split
  · exact frame.trans (made state)
      (frame.deliver (within connection member) maxAttempts _ _)
  · exact made state

end Deliveries

/-- What stays the same of a discovery stream when something is sent: its name, and what its client
    watches. -/
def DiscoveryStream.identity (stream : DiscoveryStream) :
    Option ClientId × (String → List String) :=
  (stream.client, stream.watchList.namesOf)

namespace Plane

/-- What sending leaves alone: the settings, the number of discovery streams that were named, the
    slots of the registries, the names of the streams and what their clients watch. A stream that is
    valid afterwards was valid before. -/
structure Keeps (before after : Plane) : Prop where
  settings : after.settings = before.settings
  opened : after.opened = before.opened
  subscribers : before.subscribers.KeepsSlots after.subscribers
  transport : ∀ stream, (after.transport.find? stream).map TransportStream.client =
    (before.transport.find? stream).map TransportStream.client
  discovery : ∀ stream, (after.discovery.find? stream).map DiscoveryStream.identity =
    (before.discovery.find? stream).map DiscoveryStream.identity
  transportValid : ∀ stream, after.transportValid stream = true →
    before.transportValid stream = true
  discoveryValid : ∀ stream, after.discoveryValid stream = true →
    before.discoveryValid stream = true

/-- Sending may be repeated. -/
theorem frame_keeps : Frame Keeps where
  refl plane := ⟨rfl, rfl, Subscribers.keepsSlots_refl plane.subscribers, fun _ => rfl,
    fun _ => rfl, fun _ valid => valid, fun _ valid => valid⟩
  trans first second :=
    ⟨second.settings.trans first.settings, second.opened.trans first.opened,
      first.subscribers.trans second.subscribers,
      fun stream => (second.transport stream).trans (first.transport stream),
      fun stream => (second.discovery stream).trans (first.discovery stream),
      fun stream valid => first.transportValid stream (second.transportValid stream valid),
      fun stream valid => first.discoveryValid stream (second.discoveryValid stream valid)⟩

/-- Nothing is lost if settings and streams are the same and all slots are kept. -/
theorem Keeps.of_slots {before after : Plane} (settings : after.settings = before.settings)
    (opened : after.opened = before.opened)
    (subscribers : before.subscribers.KeepsSlots after.subscribers)
    (transport : after.transport = before.transport)
    (discovery : after.discovery = before.discovery) : Keeps before after := by
  refine ⟨settings, opened, subscribers, ?_, ?_, ?_, ?_⟩
  · simp [transport]
  · simp [discovery]
  · simp [Plane.transportValid, transport]
  · simp [Plane.discoveryValid, discovery]

/-- Nothing is lost if settings, subscribers and streams are the same. -/
theorem Keeps.of_same {before after : Plane} (settings : after.settings = before.settings)
    (opened : after.opened = before.opened) (subscribers : after.subscribers = before.subscribers)
    (transport : after.transport = before.transport)
    (discovery : after.discovery = before.discovery) : Keeps before after :=
  .of_slots settings opened (subscribers ▸ Subscribers.keepsSlots_refl before.subscribers) transport
    discovery

/-- Replacing a transport stream by one of the same name that is not revived. -/
theorem keeps_insert_transport {plane : Plane} {stream : StreamId} {found : TransportStream}
    (present : plane.transport.find? stream = some found) (changed : TransportStream)
    (client : changed.client = found.client)
    (valid : changed.isValid = true → found.isValid = true) :
    Keeps plane { plane with transport := plane.transport.insert stream changed } := by
  refine ⟨rfl, rfl, Subscribers.keepsSlots_refl _, fun tested => ?_, fun _ => rfl, fun tested => ?_,
    fun _ valid => valid⟩
  · rw [Table.find?_insert]
    split
    · rename_i same
      simp [← same, present, client]
    · rfl
  · simp only [Plane.transportValid, Table.find?_insert]
    split
    · rename_i same
      simpa [← same, present] using valid
    · exact fun valid => valid

/-- Replacing a discovery stream by one of the same name whose client watches the same and that is
    not revived. -/
theorem keeps_insert_discovery {plane : Plane} {stream : StreamId} {found : DiscoveryStream}
    (present : plane.discovery.find? stream = some found) (changed : DiscoveryStream)
    (identity : changed.identity = found.identity)
    (stopped : found.isStopped = true → changed.isStopped = true) :
    Keeps plane { plane with discovery := plane.discovery.insert stream changed } := by
  refine ⟨rfl, rfl, Subscribers.keepsSlots_refl _, fun _ => rfl, fun tested => ?_,
    fun _ valid => valid, fun tested => ?_⟩
  · rw [Table.find?_insert]
    split
    · rename_i same
      simp [← same, present, identity]
    · rfl
  · simp only [Plane.discoveryValid, Table.find?_insert]
    split
    · rename_i same
      rw [← same, present]
      simpa using mt stopped
    · exact fun valid => valid

/-- Changing a discovery stream, if that is named and watched as before and not revived. -/
theorem keeps_modifyDiscovery (plane : Plane) (stream : StreamId)
    {change : DiscoveryStream → DiscoveryStream}
    (identity : ∀ found, (change found).identity = found.identity)
    (stopped : ∀ found, found.isStopped = true → (change found).isStopped = true) :
    Keeps plane (plane.modifyDiscovery stream change) := by
  unfold modifyDiscovery Table.modify
  split
  · rename_i found present
    exact keeps_insert_discovery present (change found) (identity found) (stopped found)
  · exact frame_keeps.refl plane

/-- Stopping a discovery stream. -/
theorem keeps_stopDiscovery (plane : Plane) (stream : StreamId) :
    Keeps plane (plane.stopDiscovery stream) :=
  keeps_modifyDiscovery plane stream (fun _ => rfl) (fun _ _ => rfl)

/-- Putting a response into the outbox of a discovery stream. -/
theorem keeps_attemptDiscovery (plane : Plane) (timeoutMillis : Nat) (stream : StreamId)
    (response : Discovery.Response) :
    Keeps plane (plane.attemptDiscovery timeoutMillis stream response).2 := by
  unfold attemptDiscovery
  split
  · exact frame_keeps.refl plane
  · rename_i found present
    have offered := keeps_insert_discovery present
      { found with outbox := (found.outbox.offer response).2 } rfl (fun stopped => stopped)
    dsimp only
    split
    · exact frame_keeps.trans offered (.of_same rfl rfl rfl rfl rfl)
    · exact offered

/-- Settling a send on a discovery stream. -/
theorem keeps_settleDiscovery (plane : Plane) (stream : StreamId)
    (typeUrl nonce previous : String) (outcome : SendOutcome) :
    Keeps plane (plane.settleDiscovery stream typeUrl nonce previous outcome) := by
  have settled (reached : Plane) : Keeps reached (reached.modifyDiscovery stream fun found =>
      { found with watchList := found.watchList.settle typeUrl nonce previous outcome }) := by
    refine keeps_modifyDiscovery reached stream (fun found => ?_) (fun _ stopped => stopped)
    rw [DiscoveryStream.identity, Discovery.WatchList.namesOf_settle]
    rfl
  unfold settleDiscovery
  dsimp only
  split
  · exact frame_keeps.trans (keeps_stopDiscovery plane stream) (settled _)
  · exact settled plane

/-- Sending rules on a discovery stream. -/
theorem keeps_sendDiscovery (plane : Plane) (timeoutMillis : Nat) (stream : StreamId)
    (typeUrl : String) (rules : List Rule) :
    Keeps plane (plane.sendDiscovery timeoutMillis stream typeUrl rules).2 := by
  unfold sendDiscovery
  dsimp only
  split
  · exact .of_same rfl rfl rfl rfl rfl
  · rename_i found previous watchList recording
    obtain ⟨held, present, same⟩ := Option.bind_eq_some_iff.1 recording
    obtain ⟨_, recorded, pair⟩ := Option.map_eq_some_iff.1 same
    cases pair
    have named : DiscoveryStream.identity { found with watchList } = found.identity := by
      rw [DiscoveryStream.identity, Discovery.WatchList.namesOf_of_record? recorded]
      rfl
    refine frame_keeps.trans ?_ (keeps_settleDiscovery _ stream typeUrl _ _ _)
    refine frame_keeps.trans ?_ (keeps_attemptDiscovery _ timeoutMillis stream _)
    have token : Keeps plane plane.nextToken.2 := .of_same rfl rfl rfl rfl rfl
    have entered := frame_keeps.trans token
      (keeps_insert_discovery present { found with watchList } named (fun stopped => stopped))
    exact frame_keeps.trans entered (.of_same rfl rfl rfl rfl rfl)

/-- Delivering rules to a discovery stream. -/
theorem keeps_deliverDiscovery (plane : Plane) (stream : StreamId) (rules : List Rule) :
    Keeps plane (plane.deliverDiscovery stream rules).2 :=
  frame_keeps.trans (keeps_sendDiscovery plane _ stream Discovery.typeUrl rules)
    (.of_same rfl rfl rfl rfl rfl)

/-- Pushing rules to discovery clients. -/
theorem keeps_publishDiscovery (plane : Plane) (push : Push) :
    Keeps plane (plane.publishDiscovery push).2 := by
  unfold publishDiscovery
  split
  · exact frame_keeps.refl plane
  · refine frame_keeps.fanOut _ _ (fun connection _ reached => ?_) plane
    unfold deliverToDiscovery
    split
    · exact keeps_deliverDiscovery reached connection.2 push.rules
    · exact frame_keeps.refl reached

/-- Putting a response into the outbox of a transport stream. -/
theorem keeps_attemptTransport (plane : Plane) (stream : StreamId)
    (response : Transport.Response) :
    Keeps plane (plane.attemptTransport stream response).2 := by
  unfold attemptTransport
  split
  · exact frame_keeps.refl plane
  · rename_i found present
    have offered := keeps_insert_transport present
      { found with outbox := (found.outbox.offer response).2 } rfl (fun valid => valid)
    dsimp only
    split
    · exact frame_keeps.trans offered (.of_same rfl rfl rfl rfl rfl)
    · exact offered

/-- Changing a transport stream, if that is named as before and not revived. -/
theorem keeps_modifyTransport (plane : Plane) (stream : StreamId)
    {change : TransportStream → TransportStream}
    (client : ∀ found, (change found).client = found.client)
    (valid : ∀ found, (change found).isValid = true → found.isValid = true) :
    Keeps plane { plane with transport := plane.transport.modify stream change } := by
  unfold Table.modify
  split
  · rename_i found present
    exact keeps_insert_transport present (change found) (client found) (valid found)
  · exact .of_same rfl rfl rfl rfl rfl

/-- Marking a transport connection as closed. -/
theorem keeps_invalidateTransport (plane : Plane) (stream : StreamId) :
    Keeps plane (plane.invalidateTransport stream) :=
  keeps_modifyTransport plane stream (fun _ => rfl) (fun _ valid => absurd valid (by simp))

/-- Whatever a delivery to a transport stream does. -/
theorem transportChannels_keeps (stream : StreamId) :
    transportChannels.Within Keeps stream where
  attempt message state := keeps_attemptTransport state stream message
  invalidate state := keeps_invalidateTransport state stream
  count _ _ := .of_same rfl rfl rfl rfl rfl

/-- Delivering a response to a transport stream. -/
theorem keeps_deliverTransport (plane : Plane) (stream : StreamId)
    (response : Transport.Response) : Keeps plane (plane.deliverTransport stream response) :=
  frame_keeps.deliver (transportChannels_keeps stream) plane.settings.maxAttempts response plane

/-- Sending the current rules of a target to a transport stream. -/
theorem keeps_sendSnapshot (plane : Plane) (stream : StreamId) (target : Target)
    (requestId : String) : Keeps plane (plane.sendSnapshot stream target requestId) := by
  unfold sendSnapshot
  dsimp only
  split
  · exact frame_keeps.refl plane
  · exact keeps_deliverTransport plane stream _

/-- Pushing rules to transport clients. -/
theorem keeps_publishTransport (plane : Plane) (push : Push) :
    Keeps plane (plane.publishTransport push).2 := by
  unfold publishTransport
  split
  · exact frame_keeps.refl plane
  · exact frame_keeps.publish _ _ (fun _ => .of_same rfl rfl rfl rfl rfl) _
      (fun connection _ => transportChannels_keeps connection.2) plane

/-- A push to transport clients leaves all discovery streams as they were. -/
theorem discovery_publishTransport (plane : Plane) (push : Push) :
    (plane.publishTransport push).2.discovery = plane.discovery := by
  have frame := frame_of_same Plane.discovery
  have within (stream : StreamId) :
      transportChannels.Within (fun before after => after.discovery = before.discovery) stream := by
    refine ⟨fun message state => ?_, fun _ => rfl, fun _ _ => rfl⟩
    change (attemptTransport stream message state).2.discovery = state.discovery
    unfold attemptTransport
    split
    · rfl
    · dsimp only
      split <;> rfl
  unfold publishTransport
  split
  · rfl
  · exact frame.publish _ _ (fun _ => rfl) _ (fun connection _ => within connection.2) plane

/-- Publishing a push by both protocols. -/
theorem keeps_publishAll (plane : Plane) (push : Push) : Keeps plane (plane.publishAll push) :=
  frame_keeps.trans (keeps_publishTransport plane push) (keeps_publishDiscovery _ push)

/-- Publishing the current rules of several applications. -/
theorem keeps_pushAll (plane : Plane) (kind : Kind) (apps : List App) :
    Keeps plane (plane.pushAll kind apps) :=
  frame_keeps.foldl (fun reached app => keeps_publishAll reached (reached.currentPush kind app))
    apps plane

/-- Letting a watcher take a change into account. -/
theorem keeps_notice (plane : Plane) (kind : Kind) (change : Change) :
    Keeps plane (plane.notice kind change).2 := by
  unfold notice
  split
  · exact frame_keeps.refl plane
  · rename_i watcher found
    refine .of_slots rfl rfl ⟨rfl, rfl, rfl, fun wellKept => ?_⟩ rfl rfl
    obtain ⟨own, supported⟩ := wellKept kind watcher found
    exact wellKept.update ((watcher.kind_apply change).trans own) supported

/-- Taking a change of a resource with everything that it leads to. -/
theorem keeps_handleChange (plane : Plane) (kind : Kind) (change : Change) :
    Keeps plane (plane.handleChange kind change) :=
  frame_keeps.trans (keeps_notice plane kind change) (keeps_pushAll _ kind _)

end Plane

end RulePlane
