import RulePlane.Proofs.ActingStreams
import RulePlane.Proofs.TransportSnapshots

/-!
# The affairs of a stream

What a step of one stream may do to all the others, whichever the protocol. Clients of one name are
one client to a registry, so a stream that ends takes slots from its namesakes too; but a step of a
stream seats, names and revives nobody but that stream, and leaves the subscribers in order
(`Plane.Minds`). In order means that whatever is tracked is held by somebody (`Accounts`), and that
every slot is taken under the name of its stream (`SeatedBy`) and listed for it (`Listed`).

Each request is dealt with as a whole here, as is the end of a stream.
-/

namespace RulePlane

namespace Subscribers

/-! ## Subscribers in order -/

/-- The stream in the slot of a client at a target, by protocol. -/
def seat? (subscribers : Subscribers) (protocol : Protocol) (target : Target) (client : ClientId) :
    Option StreamId :=
  (subscribers.registry protocol).connection? target client

/-- What is tracked is held and conversely; the stream in a slot has the name of the slot, and the
    slots of a client are listed for it. -/
structure Tidy (name? : Protocol → StreamId → Option ClientId) (subscribers : Subscribers) :
    Prop where
  accounts : subscribers.Accounts []
  seated : ∀ protocol, (subscribers.registry protocol).SeatedBy (name? protocol)
  listed : ∀ protocol, (subscribers.registry protocol).Listed

/-- What one stream, or none, may do to the subscribers: they stay in order, and nobody else is
    seated. -/
structure Tends (name? : Protocol → StreamId → Option ClientId)
    (party : Option (Protocol × StreamId)) (before after : Subscribers) : Prop where
  tidy : before.Tidy name? → after.Tidy name?
  seats : ∀ protocol target client stream, after.seat? protocol target client = some stream →
    before.seat? protocol target client = some stream ∨ party = some (protocol, stream)

variable {name? : Protocol → StreamId → Option ClientId} {party : Option (Protocol × StreamId)}
  {before after : Subscribers}

/-- Without clients all is in order. -/
theorem tidy_ofKinds (kinds : KindTable) : (ofKinds kinds).Tidy name? where
  accounts := accounts_ofKinds kinds
  seated := fun protocol => by cases protocol <;> exact Registry.seatedBy_empty _
  listed := fun protocol => by cases protocol <;> exact Registry.listed_empty

/-- Names may be given to streams that have none. -/
theorem Tidy.renamed (tidy : before.Tidy name?) {other? : Protocol → StreamId → Option ClientId}
    (kept : ∀ protocol stream client, name? protocol stream = some client →
      other? protocol stream = some client) : before.Tidy other? :=
  ⟨tidy.accounts, fun protocol => (tidy.seated protocol).renamed (kept protocol), tidy.listed⟩

/-- A target that nobody holds is tracked by no watcher. -/
theorem Tidy.untracked (tidy : before.Tidy name?) {target : Target}
    (unheld : ¬ before.Holds target) : ¬ before.watchers.Tracks target := by
  intro tracks
  have tracked := (tidy.accounts.sorted.tracks_iff target).1 tracks
  exact unheld ((tidy.accounts.owing target tracked).resolve_right List.not_mem_nil)

/-- As long as no registry changes, the accounts are all there is to keep. -/
theorem tends_of_same (accounts : before.Accounts [] → after.Accounts [])
    (same : ∀ protocol, after.registry protocol = before.registry protocol) :
    Tends name? party before after where
  tidy := fun tidy => by
    refine ⟨accounts tidy.accounts, fun protocol => ?_, fun protocol => ?_⟩ <;> rw [same]
    · exact tidy.seated protocol
    · exact tidy.listed protocol
  seats := fun protocol target client stream seated => by
    rw [seat?, same] at seated
    exact Or.inl seated

/-- The registry of one protocol may be replaced by one that is in order, if that seats nobody
    else. -/
theorem tends_of_replaced (accounts : before.Accounts [] → after.Accounts []) {protocol : Protocol}
    {registry : Registry StreamId}
    (replaced : ∀ tested, after.registry tested =
      (before.withRegistry protocol registry).registry tested)
    (seated : (before.registry protocol).SeatedBy (name? protocol) →
      registry.SeatedBy (name? protocol))
    (listed : (before.registry protocol).Listed → registry.Listed)
    (seats : ∀ target client stream, registry.connection? target client = some stream →
      (before.registry protocol).connection? target client = some stream ∨
        party = some (protocol, stream)) :
    Tends name? party before after where
  tidy := fun tidy => by
    refine ⟨accounts tidy.accounts, fun tested => ?_, fun tested => ?_⟩ <;>
      rw [replaced, registry_withRegistry] <;> split
    · rename_i own
      exact own ▸ seated (tidy.seated protocol)
    · exact tidy.seated tested
    · exact listed (tidy.listed protocol)
    · exact tidy.listed tested
  seats := fun tested target client stream filled => by
    rw [seat?, replaced, registry_withRegistry] at filled
    split at filled
    · rename_i own
      exact own ▸ seats target client stream filled
    · exact Or.inl filled

/-- A stream may subscribe under its own name, whatever comes of it. -/
theorem tends_subscribe (subscribers : Subscribers) (alive : StreamId → Bool) (target : Target)
    {protocol : Protocol} {stream : StreamId} {client : ClientId}
    (named : name? protocol stream = some client) :
    Tends name? (some (protocol, stream)) subscribers
      (subscribers.subscribe alive protocol target client stream).2 := by
  have accounts (accounts : subscribers.Accounts []) :=
    accounts.subscribe alive protocol target client stream
  unfold subscribe at accounts ⊢
  cases registering : subscribers.watchers.register target with
  | error fault => exact tends_of_same id fun _ => rfl
  | ok registered =>
    have watching (tested : Protocol) :
        ({ subscribers with watchers := registered } : Subscribers).registry tested =
          subscribers.registry tested := by
      cases tested <;> rfl
    rw [registering] at accounts
    simp only [watching] at accounts ⊢
    cases adding : (subscribers.registry protocol).add alive target client stream with
    | error fault =>
      rw [adding] at accounts
      have released := keepsSlots_release { subscribers with watchers := registered } target
      exact tends_of_same accounts fun tested =>
        (released.registry tested).trans (watching tested)
    | ok registry =>
      rw [adding] at accounts
      refine tends_of_replaced accounts (fun tested => ?_) (fun seated => seated.add named adding)
        (fun listed => listed.add adding) fun tested other present filled => ?_
      · simp only [registry_withRegistry, watching]
      · rw [Registry.connection?_add adding] at filled
        split at filled
        · exact Or.inr (by rw [Option.some.inj filled])
        · exact Or.inl filled

/-- A client may leave a target. -/
theorem tends_unsubscribe (subscribers : Subscribers) (protocol : Protocol) (target : Target)
    (client : ClientId) :
    Tends name? party subscribers (subscribers.unsubscribe protocol target client) :=
  tends_of_replaced (fun accounts => accounts.unsubscribe protocol target client)
    (keepsSlots_release _ target).registry
    (fun seated => seated.fewer fun _ _ _ => Registry.connection?_of_remove)
    (fun listed => listed.remove target client)
    (fun _ _ _ filled => Or.inl (Registry.connection?_of_remove filled))

/-- A client may leave all its targets. -/
theorem tends_disconnect (subscribers : Subscribers) (protocol : Protocol) (client : ClientId) :
    Tends name? party subscribers (subscribers.disconnect protocol client) :=
  tends_of_replaced (fun accounts => accounts.disconnect protocol client)
    (keepsSlots_releaseAll _ _).registry
    (fun seated => seated.fewer fun _ _ _ => Registry.connection?_of_removeClient)
    (fun listed => listed.removeClient client)
    (fun _ _ _ filled => Or.inl (Registry.connection?_of_removeClient filled))

/-- A client that has left all its targets holds none, and all others hold what they held. -/
theorem Tidy.seat?_disconnect {subscribers : Subscribers} (tidy : subscribers.Tidy name?)
    (protocol tested : Protocol) (target : Target) (client other : ClientId) :
    (subscribers.disconnect protocol client).seat? tested target other =
      if protocol = tested ∧ client = other then none
      else subscribers.seat? tested target other := by
  have registries : (subscribers.disconnect protocol client).registry tested =
      if protocol = tested then ((subscribers.registry protocol).removeClient client).2
      else subscribers.registry tested :=
    ((keepsSlots_releaseAll _ _).registry tested).trans (registry_withRegistry _ _ _ _)
  unfold seat?
  rw [registries]
  by_cases own : protocol = tested
  · subst own
    rw [if_pos rfl, (tidy.listed protocol).connection?_removeClient]
    simp only [true_and]
  · rw [if_neg own, if_neg fun both => own both.1]

end Subscribers

namespace Plane

/-! ## Streams of both protocols -/

/-- The name of a stream of a protocol, if it has one. -/
def name? (plane : Plane) : Protocol → StreamId → Option ClientId
  | .transport => plane.transportClient?
  | .discovery => plane.discoveryName?

/-- Whether a stream of a protocol was opened. -/
def isOpen (plane : Plane) : Protocol → StreamId → Bool
  | .transport, stream => (plane.transport.find? stream).isSome
  | .discovery, stream => (plane.discovery.find? stream).isSome

/-- Open a stream of a protocol. -/
def openStream (plane : Plane) (stream : StreamId) (capacity : Option Nat) : Protocol → Plane
  | .transport => { plane with transport := plane.transport.insert stream (.fresh none capacity) }
  | .discovery => plane.openDiscovery stream capacity

/-- End the service of a stream of a protocol. -/
def finish (plane : Plane) (stream : StreamId) : Protocol → Plane
  | .transport => plane.finishTransport stream
  | .discovery => plane.finishDiscovery stream

/-- The streams have the names that they had, and none is revived. -/
structure KeepsStreams (before after : Plane) : Prop where
  names : ∀ protocol stream, after.name? protocol stream = before.name? protocol stream
  valid : ∀ protocol stream, after.isValid protocol stream = true →
    before.isValid protocol stream = true

/-- Streams may be kept again and again. -/
theorem frame_keepsStreams : Frame KeepsStreams where
  refl _ := ⟨fun _ _ => rfl, fun _ _ valid => valid⟩
  trans first second :=
    ⟨fun protocol stream => (second.names protocol stream).trans (first.names protocol stream),
      fun protocol stream valid => first.valid protocol stream (second.valid protocol stream valid)⟩

/-- Where no stream changes, all are kept. -/
theorem keepsStreams_of_same {before after : Plane} (transport : after.transport = before.transport)
    (discovery : after.discovery = before.discovery) : KeepsStreams before after where
  names := fun protocol stream => by
    cases protocol <;> simp only [name?, transportClient?, discoveryName?, transport, discovery]
  valid := fun protocol stream => by
    cases protocol <;> simp only [isValid, transportValid, discoveryValid, transport, discovery] <;>
      exact id

/-- Sending keeps all streams. -/
theorem Keeps.streams {before after : Plane} (keeps : Keeps before after) :
    KeepsStreams before after where
  names := fun protocol stream => by
    cases protocol with
    | transport => exact keeps.transportClient? stream
    | discovery => exact keeps.discoveryName? stream
  valid := fun protocol stream valid => by
    cases protocol with
    | transport => exact keeps.transportValid stream valid
    | discovery => exact keeps.discoveryValid stream valid

/-- What one stream, or none, may do: the subscribers stay in order; nobody else is seated, named or
    revived, and no stream loses its name. -/
structure Minds (party : Option (Protocol × StreamId)) (before after : Plane) : Prop where
  tidy : before.subscribers.Tidy before.name? → after.subscribers.Tidy after.name?
  seats : ∀ protocol target client stream,
    after.subscribers.seat? protocol target client = some stream →
      before.subscribers.seat? protocol target client = some stream ∨
        party = some (protocol, stream)
  named : ∀ protocol stream client, before.name? protocol stream = some client →
    after.name? protocol stream = some client
  names : ∀ protocol stream, party ≠ some (protocol, stream) →
    after.name? protocol stream = before.name? protocol stream
  valid : ∀ protocol stream, party ≠ some (protocol, stream) →
    after.isValid protocol stream = true → before.isValid protocol stream = true

variable {party : Option (Protocol × StreamId)} {before after plane : Plane}

/-- A stream may do one thing after another. -/
theorem frame_minds (party : Option (Protocol × StreamId)) : Frame (Minds party) where
  refl _ := ⟨id, fun _ _ _ _ => Or.inl, fun _ _ _ => id, fun _ _ _ => rfl, fun _ _ _ => id⟩
  trans first second := by
    refine ⟨fun tidy => second.tidy (first.tidy tidy),
      fun protocol target client stream seated => ?_,
      fun protocol stream client named =>
        second.named protocol stream client (first.named protocol stream client named),
      fun protocol stream other =>
        (second.names protocol stream other).trans (first.names protocol stream other),
      fun protocol stream other valid =>
        first.valid protocol stream other (second.valid protocol stream other valid)⟩
    rcases second.seats protocol target client stream seated with earlier | own
    · exact first.seats protocol target client stream earlier
    · exact Or.inr own

/-- What keeps the streams does to the control plane what it does to the subscribers. -/
theorem KeepsStreams.minds (streams : KeepsStreams before after)
    (tends : Subscribers.Tends before.name? party before.subscribers after.subscribers) :
    Minds party before after where
  tidy := fun tidy => (tends.tidy tidy).renamed fun protocol stream _ named =>
    (streams.names protocol stream).trans named
  seats := tends.seats
  named := fun protocol stream _ named => (streams.names protocol stream).trans named
  names := fun protocol stream _ => streams.names protocol stream
  valid := fun protocol stream _ => streams.valid protocol stream

/-- What keeps the streams and does not touch the subscribers is within what any stream may do. -/
theorem KeepsStreams.minds_of_same (streams : KeepsStreams before after)
    (same : after.subscribers = before.subscribers) : Minds party before after :=
  streams.minds (Subscribers.tends_of_same (fun accounts => same ▸ accounts) fun _ => by rw [same])

/-- What a stream does to the subscribers only. -/
theorem minds_of_tends {subscribers : Subscribers}
    (tends : Subscribers.Tends plane.name? party plane.subscribers subscribers) :
    Minds party plane { plane with subscribers } :=
  (keepsStreams_of_same rfl rfl : KeepsStreams plane { plane with subscribers }).minds tends

/-- What a stream does to its own record, unless it loses its name, is its own affair. -/
theorem minds_of_own {protocol : Protocol} {stream : StreamId}
    (subscribers : after.subscribers = before.subscribers)
    (named : ∀ client, before.name? protocol stream = some client →
      after.name? protocol stream = some client)
    (others : ∀ tested other, some (protocol, stream) ≠ some (tested, other) →
      after.name? tested other = before.name? tested other ∧
        (after.isValid tested other = true → before.isValid tested other = true)) :
    Minds (some (protocol, stream)) before after := by
  have keeps (tested : Protocol) (other : StreamId) (client : ClientId)
      (held : before.name? tested other = some client) :
      after.name? tested other = some client := by
    by_cases own : some (protocol, stream) = some (tested, other)
    · cases own
      exact named client held
    · exact (others tested other own).1.trans held
  refine ⟨fun tidy => ?_, fun _ _ _ _ seated => ?_, keeps,
    fun tested other foreign => (others tested other foreign).1,
    fun tested other foreign => (others tested other foreign).2⟩
  · rw [subscribers]
    exact tidy.renamed keeps
  · rw [subscribers] at seated
    exact Or.inl seated

/-- So it is for a transport stream. -/
theorem minds_of_transport {stream : StreamId}
    (subscribers : after.subscribers = before.subscribers)
    (discovery : after.discovery = before.discovery)
    (others : ∀ other, stream ≠ other →
      after.transport.find? other = before.transport.find? other)
    (named : ∀ client, before.transportClient? stream = some client →
      after.transportClient? stream = some client) :
    Minds (some (.transport, stream)) before after := by
  refine minds_of_own subscribers named fun tested other foreign => ?_
  cases tested with
  | transport =>
    have same := others other fun equal => foreign (by rw [equal])
    simp [name?, transportClient?, isValid, transportValid, same]
  | discovery =>
    simp [name?, discoveryName?, isValid, discoveryValid, discovery]

/-- So it is for a discovery stream. -/
theorem minds_of_discovery {stream : StreamId}
    (subscribers : after.subscribers = before.subscribers)
    (transport : after.transport = before.transport)
    (others : ∀ other, stream ≠ other →
      after.discovery.find? other = before.discovery.find? other)
    (named : ∀ client, before.discoveryName? stream = some client →
      after.discoveryName? stream = some client) :
    Minds (some (.discovery, stream)) before after := by
  refine minds_of_own subscribers named fun tested other foreign => ?_
  cases tested with
  | transport =>
    simp [name?, transportClient?, isValid, transportValid, transport]
  | discovery =>
    have same := others other fun equal => foreign (by rw [equal])
    simp [name?, discoveryName?, isValid, discoveryValid, same]

/-- What one stream does while it has its name may be repeated. -/
theorem lasting_minds (protocol : Protocol) (stream : StreamId) (client : ClientId) :
    Lasting (fun plane => plane.name? protocol stream = some client)
      (Minds (some (protocol, stream))) where
  frame := frame_minds _
  lasts := fun named minds => minds.named protocol stream client named

/-! ## Requests of transport clients -/

/-- Naming a transport stream is its own affair. -/
theorem minds_nameTransport (plane : Plane) (stream : StreamId) (identifier : String) :
    Minds (some (.transport, stream)) plane (plane.nameTransport stream identifier).2 := by
  obtain ⟨subscribers, -, named, -⟩ := plane.nameTransport_frame stream identifier
  refine minds_of_transport subscribers ?_ (fun other different => ?_) (named stream) <;>
    unfold nameTransport <;> split
  · rfl
  · dsimp only
    split <;> rfl
  · rfl
  · dsimp only
    split <;> exact (Table.find?_modify _ _ _ _).trans (if_neg different)

/-- Subscribing a target is the affair of the stream, whatever comes of it. -/
theorem minds_subscribeTransport {stream : StreamId} {client : ClientId}
    (named : plane.name? .transport stream = some client) (requestId : String) (target : Target) :
    Minds (some (.transport, stream)) plane
      (plane.subscribeTransport stream client requestId target) := by
  have streams : KeepsStreams plane (plane.subscribeTransport stream client requestId target) := by
    unfold subscribeTransport
    generalize plane.subscribers.subscribe plane.transportValid .transport target client stream =
      outcome
    obtain ⟨result, subscribers⟩ := outcome
    have entered : KeepsStreams plane { plane with subscribers } := keepsStreams_of_same rfl rfl
    dsimp only
    split
    · exact frame_keepsStreams.trans entered (keeps_sendSnapshot _ stream target requestId).streams
    · exact frame_keepsStreams.trans entered (keeps_deliverTransport _ stream _).streams
    · exact entered
  refine streams.minds ?_
  rw [(Prod.mk.inj (backdrop_subscribeTransport plane stream client requestId target)).1]
  exact plane.subscribers.tends_subscribe plane.transportValid target named

/-- Leaving a target seats, names and revives nobody. -/
theorem minds_unsubscribeTransport (plane : Plane) (client : ClientId) (target : Target) :
    Minds party plane (plane.unsubscribeTransport client target) :=
  minds_of_tends (plane.subscribers.tends_unsubscribe .transport target client)

/-- A transport request is the affair of its stream. -/
theorem minds_handleTransport {stream : StreamId}
    (present : plane.isOpen .transport stream = true) (request : Transport.Request) :
    Minds (some (.transport, stream)) plane (plane.handleTransport stream request) := by
  have naming := plane.minds_nameTransport stream request.identifier
  have named := (plane.nameTransport_frame stream request.identifier).2.2.2 present
  have frame := frame_minds (some (.transport, stream))
  have lasting := lasting_minds .transport stream
    (plane.nameTransport stream request.identifier).1
  unfold handleTransport
  split
  · exact frame.refl plane
  · dsimp only
    split
    · rename_i fault _
      refine frame.trans naming (KeepsStreams.minds_of_same
        (frame_keeps.send (transportChannels_keeps stream) _ _).streams ?_)
      exact (Prod.mk.inj (backdrop_send stream _ _)).1
    · exact frame.trans naming (lasting.foldl
        (fun _ target named => minds_subscribeTransport named _ target) _ named)
    · exact frame.trans naming
        (frame.foldl (fun reached => reached.minds_unsubscribeTransport _) _ _)

/-! ## Requests of discovery clients -/

/-- Subscribing the target of a name is the affair of the stream, whatever comes of it. -/
theorem minds_subscribeDiscovery {stream : StreamId} {client : ClientId}
    (named : plane.name? .discovery stream = some client) (name : String) :
    Minds (some (.discovery, stream)) plane (plane.subscribeDiscovery stream name) := by
  unfold subscribeDiscovery
  split
  · exact (frame_minds _).refl plane
  · rename_i parsed _
    rw [discoveryClient_of_named named]
    have entering := plane.subscribers.tends_subscribe plane.discoveryValid parsed.target named
    generalize plane.subscribers.subscribe plane.discoveryValid .discovery parsed.target client
      stream = outcome at entering
    obtain ⟨result, subscribers⟩ := outcome
    have entered : Minds (some (.discovery, stream)) plane { plane with subscribers } :=
      minds_of_tends entering
    dsimp only
    split
    · exact entered
    · split
      · exact entered
      · refine (frame_minds _).trans entered
          ((keeps_deliverDiscovery _ stream _).streams.minds_of_same ?_)
        exact (Prod.mk.inj (transportSide_sendDiscovery _ _ stream Discovery.typeUrl _)).1

/-- Leaving the target of a name seats, names and revives nobody. -/
theorem minds_unsubscribeDiscovery (plane : Plane) (stream : StreamId) (name : String) :
    Minds party plane (plane.unsubscribeDiscovery stream name) := by
  unfold unsubscribeDiscovery
  split
  · exact (frame_minds _).refl plane
  · exact minds_of_tends (plane.subscribers.tends_unsubscribe .discovery _ _)

/-- Checking a request against a watch list seats, names and revives nobody. -/
theorem minds_takeDiscovery (plane : Plane) (stream : StreamId) (request : Discovery.Request) :
    Minds party plane (plane.takeDiscovery stream request).2 := by
  obtain ⟨subscribers, -, names, valid, -⟩ := plane.takeDiscovery_frame stream request
  have transport : (plane.takeDiscovery stream request).2.transport = plane.transport := by
    unfold takeDiscovery
    split <;> rfl
  refine KeepsStreams.minds_of_same ⟨fun protocol other => ?_, fun protocol other living => ?_⟩
    subscribers
  · cases protocol with
    | transport => simp only [name?, transportClient?, transport]
    | discovery => exact names other
  · cases protocol with
    | transport => simpa only [isValid, transportValid, transport] using living
    | discovery => exact (valid other).symm.trans living

/-- A discovery request is the affair of its stream. -/
theorem minds_handleDiscovery {stream : StreamId} {client : ClientId}
    (named : plane.name? .discovery stream = some client) (request : Discovery.Request) :
    Minds (some (.discovery, stream)) plane (plane.handleDiscovery stream request) := by
  have frame := frame_minds (some (.discovery, stream))
  have lasting := lasting_minds .discovery stream client
  unfold handleDiscovery
  split
  · have taking : Minds (some (.discovery, stream)) plane _ :=
      plane.minds_takeDiscovery stream request
    have leaving := frame.foldl (fun reached => reached.minds_unsubscribeDiscovery stream)
      (plane.takeDiscovery stream request).1.2.unsubscribed (plane.takeDiscovery stream request).2
    have begun := frame.trans taking leaving
    dsimp only
    split
    · exact frame.trans begun (lasting.foldl
        (fun _ name named => minds_subscribeDiscovery named name) _ (lasting.lasts named begun))
    · exact begun
  · exact frame.refl plane

/-- The first request on an open discovery stream names it, and that is its own affair. -/
theorem minds_introduceDiscovery {stream : StreamId}
    (present : plane.isOpen .discovery stream = true) (request : Discovery.Request) :
    Minds (some (.discovery, stream)) plane (plane.introduceDiscovery stream request) ∧
      ∃ client,
        (plane.introduceDiscovery stream request).name? .discovery stream = some client := by
  rcases plane.introduceDiscovery_cases stream request with
    ⟨client, named, introduced⟩ | ⟨unnamed, introduced⟩ <;> rw [introduced]
  · exact ⟨(frame_minds _).refl plane, client, named⟩
  · have named := (discoveryName?_nameDiscovery present request stream).trans (if_pos rfl)
    refine ⟨minds_of_discovery rfl rfl (fun other different =>
      find?_modifyDiscovery_of_ne plane different _) fun client held => ?_, _, named⟩
    exact absurd (unnamed.symm.trans held) (by simp)

/-! ## Openings and endings -/

/-- Opening a stream under a fresh number is the affair of that stream. -/
theorem minds_openStream {protocol : Protocol} {stream : StreamId}
    (absent : plane.isOpen protocol stream = false) (capacity : Option Nat) :
    Minds (some (protocol, stream)) plane (plane.openStream stream capacity protocol) := by
  cases protocol with
  | transport =>
    have missing : plane.transport.find? stream = none := by simpa [isOpen] using absent
    refine minds_of_transport rfl rfl (fun other different => ?_) fun client named => ?_
    · exact (Table.find?_insert _ _ _ _).trans (if_neg different)
    · simp [transportClient?, missing] at named
  | discovery =>
    have missing : plane.discovery.find? stream = none := by simpa [isOpen] using absent
    refine minds_of_discovery rfl rfl (fun other different => ?_) fun client named => ?_
    · exact (Table.find?_insert _ _ _ _).trans (if_neg different)
    · simp [discoveryName?, missing] at named

/-- The end of a stream takes all its targets from its client, if it has a name. -/
theorem subscribers_finish (plane : Plane) (stream : StreamId) (protocol : Protocol) :
    (plane.finish stream protocol).subscribers =
      match plane.name? protocol stream with
      | none => plane.subscribers
      | some client => plane.subscribers.disconnect protocol client := by
  cases protocol with
  | transport =>
    have held : plane.name? .transport stream =
        (plane.transport.find? stream).bind TransportStream.client := rfl
    unfold finish finishTransport
    rw [held]
    cases (plane.transport.find? stream).bind TransportStream.client <;> rfl
  | discovery =>
    have held : ((plane.stopDiscovery stream).discovery.find? stream).bind DiscoveryStream.client =
        plane.name? .discovery stream := (keeps_stopDiscovery plane stream).discoveryName? stream
    unfold finish finishDiscovery
    dsimp only
    rw [held]
    cases plane.name? .discovery stream <;> rfl

/-- The end of a stream names and revives nobody. -/
theorem keepsStreams_finish (plane : Plane) (stream : StreamId) (protocol : Protocol) :
    KeepsStreams plane (plane.finish stream protocol) := by
  cases protocol with
  | transport =>
    have ended (closed : Plane) (subscribers : Subscribers) : KeepsStreams closed
        { closed with
          subscribers, transportCounts := closed.transportCounts.streamClosed } :=
      keepsStreams_of_same rfl rfl
    change KeepsStreams plane (plane.finishTransport stream)
    unfold finishTransport
    split
    · exact ended plane plane.subscribers
    · exact frame_keepsStreams.trans (keeps_invalidateTransport plane stream).streams (ended _ _)
  | discovery =>
    have ended (stopped : Plane) (subscribers : Subscribers) : KeepsStreams stopped
        { stopped with
          subscribers, discoveryCounts := stopped.discoveryCounts.streamClosed } :=
      keepsStreams_of_same rfl rfl
    have stopped := (keeps_stopDiscovery plane stream).streams
    change KeepsStreams plane (plane.finishDiscovery stream)
    unfold finishDiscovery
    dsimp only
    split
    · exact frame_keepsStreams.trans stopped (ended _ (plane.stopDiscovery stream).subscribers)
    · exact frame_keepsStreams.trans stopped (ended _ _)

/-- The end of a stream seats, names and revives nobody. -/
theorem minds_finish (plane : Plane) (stream : StreamId) (protocol : Protocol) :
    Minds party plane (plane.finish stream protocol) := by
  refine (plane.keepsStreams_finish stream protocol).minds ?_
  rw [subscribers_finish]
  split
  · exact Subscribers.tends_of_same id fun _ => rfl
  · exact plane.subscribers.tends_disconnect protocol _

/-- A stream with a name has no valid connection after its end. -/
theorem isValid_finish {stream : StreamId} {protocol : Protocol} {client : ClientId}
    (named : plane.name? protocol stream = some client) :
    (plane.finish stream protocol).isValid protocol stream = false := by
  cases protocol with
  | transport =>
    have held : (plane.transport.find? stream).bind TransportStream.client = some client := named
    obtain ⟨found, present, -⟩ := Option.bind_eq_some_iff.1 held
    unfold finish finishTransport
    rw [held]
    simp [isValid, transportValid, invalidateTransport, Table.find?_modify, present]
  | discovery =>
    obtain ⟨found, present, -⟩ := Option.bind_eq_some_iff.1 named
    unfold finish finishDiscovery
    dsimp only
    split <;> simp [isValid, discoveryValid, stopDiscovery, modifyDiscovery, Table.find?_modify,
      present]

/-! ## Changes and pushes -/

/-- A watcher that takes a change into account seats, names and revives nobody. -/
theorem minds_notice (plane : Plane) (kind : Kind) (change : Change) :
    Minds none plane (plane.notice kind change).2 := by
  refine (keeps_notice plane kind change).streams.minds
    (Subscribers.tends_of_same ?_ fun protocol => ?_) <;> unfold notice <;> split
  · exact id
  · rename_i watcher found
    exact fun accounts => accounts.apply found change
  · rfl
  · cases protocol <;> rfl

/-- A worker that publishes a push seats, names and revives nobody. -/
theorem minds_work (plane : Plane) (worker : Nat) :
    Minds none plane (plane.work worker).2 := by
  unfold work
  split
  · exact (frame_minds none).refl plane
  · rename_i push dispatcher _
    have taking : KeepsStreams plane { plane with dispatcher } :=
      keepsStreams_of_same rfl rfl
    have taken : Minds none plane { plane with dispatcher } := taking.minds_of_same rfl
    refine (frame_minds none).trans taken
      ((keeps_publishAll _ push).streams.minds_of_same ?_)
    exact (Prod.mk.inj (backdrop_publishAll _ push)).1

end Plane

end RulePlane
