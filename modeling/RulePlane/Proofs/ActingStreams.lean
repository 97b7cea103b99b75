import RulePlane.Proofs.BetweenSends
import RulePlane.Proofs.DiscoveryStreams
import RulePlane.Proofs.TransportStreams

/-!
# What one discovery stream does

Whatever the client of one discovery stream asks for, and however its stream ends, is the doing of
that stream (`Acts`): no other stream changes, nor does anything that clients of other names hold.
This is true of every piece of it, from one send to the next, and of the whole. As no two streams
have one name, nothing changes for any other stream (`Untouched`).

Pushes reach many streams, so they are not the doing of one: they are among the steps from elsewhere
(`Beside`), which neither name a stream nor change who holds what. So are the changes of resources,
and the requests of transport clients, which leave the records of discovery streams alone as well
(`Aside`).
-/

namespace RulePlane

namespace Plane

/-! ## The doing of one stream -/

/-- What a stream that has a name may do to the control plane: no other stream changes, nor does
    anything that clients of other names hold. -/
structure Acts (actor : StreamId) (before after : Plane) : Prop where
  wellNumbered : before.WellNumbered → after.WellNumbered
  name : after.discoveryName? actor = before.discoveryName? actor
  streams : ∀ stream, stream ≠ actor →
    after.discovery.find? stream = before.discovery.find? stream
  clients : ∀ client, before.discoveryName? actor ≠ some client →
    after.subscribers.discovery.targetsOf client =
        before.subscribers.discovery.targetsOf client ∧
      ∀ target, after.subscribers.discovery.connection? target client =
        before.subscribers.discovery.connection? target client

/-- A stream may do one thing after another. -/
theorem frame_acts (actor : StreamId) : Frame (Acts actor) where
  refl _ := ⟨id, rfl, fun _ _ => rfl, fun _ _ => ⟨rfl, fun _ => rfl⟩⟩
  trans first second := by
    refine ⟨fun before => second.wellNumbered (first.wellNumbered before),
      second.name.trans first.name, fun stream different =>
        (second.streams stream different).trans (first.streams stream different),
      fun client foreign => ?_⟩
    obtain ⟨listed, held⟩ := first.clients client foreign
    obtain ⟨stillListed, stillHeld⟩ := second.clients client (first.name ▸ foreign)
    exact ⟨stillListed.trans listed, fun target => (stillHeld target).trans (held target)⟩

/-- The other streams have their names still. -/
theorem Acts.names {actor : StreamId} {before after : Plane} (acts : Acts actor before after)
    (stream : StreamId) : after.discoveryName? stream = before.discoveryName? stream := by
  by_cases own : stream = actor
  · rw [own]
    exact acts.name
  · rw [discoveryName?, acts.streams stream own, discoveryName?]

/-- A stream that is well numbered and has a name may act. -/
def Acting (actor : StreamId) (client : ClientId) (plane : Plane) : Prop :=
  plane.WellNumbered ∧ plane.discoveryName? actor = some client

/-- A stream that acts may go on to do so. -/
theorem lasting_acts (actor : StreamId) (client : ClientId) :
    Lasting (Acting actor client) (Acts actor) where
  frame := frame_acts actor
  lasts acting acts := ⟨acts.wellNumbered acting.1, acts.name.trans acting.2⟩

/-- Sending is the doing of a stream if no other stream changes. -/
theorem Keeps.acts {before after : Plane} (keeps : Keeps before after) {actor : StreamId}
    (streams : ∀ stream, stream ≠ actor →
      after.discovery.find? stream = before.discovery.find? stream) : Acts actor before after where
  wellNumbered := keeps.wellNumbered
  name := keeps.discoveryName? actor
  streams := streams
  clients := fun _ _ => by
    rw [keeps.subscribers.discovery]
    exact ⟨rfl, fun _ => rfl⟩

/-- What concerns no stream is the doing of any. -/
theorem acts_of_same {actor : StreamId} {before after : Plane}
    (settings : after.settings = before.settings) (opened : after.opened = before.opened)
    (subscribers : after.subscribers = before.subscribers)
    (transport : after.transport = before.transport)
    (discovery : after.discovery = before.discovery) : Acts actor before after :=
  (Keeps.of_same settings opened subscribers transport discovery).acts fun _ _ => by rw [discovery]

/-- A stream may change its own slots. -/
theorem acts_withSlots {plane : Plane} {actor : StreamId} {client : ClientId}
    (named : plane.discoveryName? actor = some client) {registry : Registry StreamId}
    (wellNumbered : plane.WellNumbered → (plane.withSlots registry).WellNumbered)
    (others : ∀ other, client ≠ other →
      registry.targetsOf other = plane.subscribers.discovery.targetsOf other ∧
        ∀ target, registry.connection? target other =
          plane.subscribers.discovery.connection? target other) :
    Acts actor plane (plane.withSlots registry) where
  wellNumbered := wellNumbered
  name := rfl
  streams := fun _ _ => rfl
  clients := fun other foreign => others other fun same => foreign (same ▸ named)

/-- What a stream leaves is its own doing. -/
theorem acts_unsubscribeDiscovery {plane : Plane} {actor : StreamId} {client : ClientId}
    (named : plane.discoveryName? actor = some client) (name : String) :
    Acts actor plane (plane.unsubscribeDiscovery actor name) := by
  have streams : (plane.unsubscribeDiscovery actor name).discovery = plane.discovery := by
    unfold unsubscribeDiscovery
    split <;> rfl
  rcases unsubscribeDiscovery_cases plane actor name with ⟨-, keeps⟩ | ⟨target, -, keeps⟩
  · exact keeps.acts fun stream _ => by rw [streams]
  · rw [discoveryClient_of_named named] at keeps
    refine (frame_acts actor).trans (acts_withSlots named (fun wellNumbered => ?_) ?_)
      (keeps.acts fun stream _ => by rw [streams]; rfl)
    · exact wellNumbered.withSlots
        (wellNumbered.seated.fewer fun _ _ _ => Registry.connection?_of_remove)
        (wellNumbered.listed.remove target client)
    · intro other foreign
      refine ⟨?_, fun tested => ?_⟩
      · rw [Registry.targetsOf_remove, if_neg foreign]
      · rw [Registry.connection?_remove, if_neg fun own => foreign own.2]

/-- What a stream registers for is its own doing. -/
theorem acts_registering {plane : Plane} {actor : StreamId} {client : ClientId}
    (acting : plane.Acting actor client) (target : Target) :
    Acts actor plane { plane with
      subscribers :=
        (plane.subscribers.subscribe plane.discoveryValid .discovery target client actor).2 } := by
  obtain ⟨wellNumbered, named⟩ := acting
  have outcomes := Subscribers.subscribe_cases wellNumbered.wellKept plane.discoveryValid
    .discovery target client actor
  generalize plane.subscribers.subscribe plane.discoveryValid .discovery target client actor =
    outcome at outcomes
  obtain ⟨result, after⟩ := outcome
  rcases outcomes with ⟨-, kept, -⟩ | ⟨-, -, kept, -⟩ |
    ⟨-, -, -, registered, registry, kept, added, rfl⟩
  · have refused : Keeps plane { plane with subscribers := after } :=
      .of_slots rfl rfl kept rfl rfl
    exact refused.acts fun _ _ => rfl
  · have refused : Keeps plane { plane with subscribers := after } :=
      .of_slots rfl rfl kept rfl rfl
    exact refused.acts fun _ _ => rfl
  · have entered : Keeps (plane.withSlots registry)
        { plane with subscribers := registered.withRegistry .discovery registry } :=
      .of_slots rfl rfl ⟨kept.transport, rfl, kept.kinds, kept.wellKept⟩ rfl rfl
    refine (frame_acts actor).trans (acts_withSlots named (fun wellNumbered => ?_) ?_)
      (entered.acts fun _ _ => rfl)
    · exact wellNumbered.withSlots (wellNumbered.seated.add named added)
        (wellNumbered.listed.add added)
    · intro other foreign
      refine ⟨?_, fun tested => ?_⟩
      · rw [Registry.targetsOf_add added, if_neg foreign]
        rfl
      · rw [Registry.connection?_add added, if_neg fun filled => foreign filled.2.1]
        rfl

/-- Checking a request is the doing of its stream. -/
theorem acts_takeDiscovery (plane : Plane) (actor : StreamId) (request : Discovery.Request) :
    Acts actor plane (plane.takeDiscovery actor request).2 := by
  obtain ⟨subscribers, -, names, -⟩ := takeDiscovery_frame plane actor request
  refine ⟨fun wellNumbered => wellNumbered.takeDiscovery actor request, names actor,
    fun stream different => ?_, fun _ _ => ?_⟩
  · unfold takeDiscovery
    split
    · rfl
    · exact (Table.find?_insert _ _ _ _).trans (if_neg (Ne.symm different))
  · rw [subscribers]
    exact ⟨rfl, fun _ => rfl⟩

/-- Leaving several names is the doing of a stream. -/
theorem acts_leaving {plane : Plane} {actor : StreamId} {client : ClientId}
    (acting : plane.Acting actor client) (names : List String) :
    Acts actor plane (names.foldl (unsubscribeDiscovery actor) plane) :=
  (lasting_acts actor client).foldl
    (fun _ name acting => acts_unsubscribeDiscovery acting.2 name) names acting

/-! ## Piece by piece -/

/-- The messages of a discovery stream are on that stream. -/
def OnDiscovery (actor stream : StreamId) (posting : Posting) : Prop :=
  stream = actor ∧ ∃ response, posting = .discovery response

/-- What sending on one discovery stream does: it is sending, and no other stream changes. -/
def SendsOn (actor : StreamId) (before after : Plane) : Prop :=
  Keeps before after ∧ ∀ stream, stream ≠ actor →
    after.discovery.find? stream = before.discovery.find? stream

/-- Sending on a stream may be repeated. -/
theorem lasting_sendsOn (actor : StreamId) : Lasting (fun _ => True) (SendsOn actor) where
  frame :=
    { refl := fun plane => ⟨frame_keeps.refl plane, fun _ _ => rfl⟩
      trans := fun first second => ⟨frame_keeps.trans first.1 second.1, fun stream different =>
        (second.2 stream different).trans (first.2 stream different)⟩ }
  lasts := fun _ _ => trivial

/-- Each piece of a send on a stream is sending on that stream. -/
theorem within_sendingDiscovery (timeoutMillis : Nat) (actor : StreamId) (typeUrl : String)
    (rules : List Rule) (plane : Plane) :
    (plane.sendingDiscovery timeoutMillis actor typeUrl rules).Within (fun _ => True)
      (SendsOn actor) (OnDiscovery actor) plane := by
  have token : SendsOn actor plane plane.nextToken.2 :=
    ⟨.of_same rfl rfl rfl rfl rfl, fun _ _ => rfl⟩
  unfold sendingDiscovery
  dsimp only
  split
  · exact token
  · rename_i found previous watchList recording
    refine ⟨?_, ⟨rfl, _, rfl⟩, fun outcome later _ => ?_⟩
    · obtain ⟨held, present, same⟩ := Option.bind_eq_some_iff.1 recording
      obtain ⟨_, recorded, pair⟩ := Option.map_eq_some_iff.1 same
      cases pair
      have named : DiscoveryStream.identity { found with watchList } = found.identity := by
        rw [DiscoveryStream.identity, Discovery.WatchList.namesOf_of_record? recorded]
        rfl
      have noted : SendsOn actor plane.nextToken.2 { plane.nextToken.2 with
          discovery := plane.nextToken.2.discovery.insert actor { found with watchList } } :=
        ⟨keeps_insert_discovery present _ named (fun stopped => stopped),
          fun stream different => (Table.find?_insert _ _ _ _).trans (if_neg (Ne.symm different))⟩
      have frame := (lasting_sendsOn actor).frame
      exact frame.trans (frame.trans token noted) ⟨.of_same rfl rfl rfl rfl rfl, fun _ _ => rfl⟩
    · exact ⟨keeps_settleDiscovery later actor typeUrl _ previous outcome,
        fun stream different => find?_settleDiscovery_of_ne later (Ne.symm different) _ _ _ _⟩

/-- Each piece of a delivery to a stream is sending on that stream. -/
theorem within_deliveringDiscovery (actor : StreamId) (rules : List Rule) (plane : Plane) :
    (plane.deliveringDiscovery actor rules).Within (fun _ => True) (SendsOn actor)
      (OnDiscovery actor) plane :=
  (within_sendingDiscovery _ actor _ rules plane).bind (lasting_sendsOn actor) trivial
    fun _ _ _ => ⟨.of_same rfl rfl rfl rfl rfl, fun _ _ => rfl⟩

section Pieces

variable {plane : Plane} {actor : StreamId} {client : ClientId}

/-- Each piece of a subscription of a stream is its own doing. -/
theorem within_subscribingDiscovery (acting : plane.Acting actor client) (name : String) :
    (plane.subscribingDiscovery actor name).Within (Acting actor client) (Acts actor)
      (OnDiscovery actor) plane := by
  have silent : Acts actor plane plane := (frame_acts actor).refl plane
  unfold subscribingDiscovery
  split
  · exact silent
  · rename_i parsed readable
    rw [discoveryClient_of_named acting.2]
    have registering := acts_registering acting parsed.target
    have registered := (lasting_acts actor client).lasts acting registering
    dsimp only
    split
    · exact registering
    · split
      · exact registering
      · refine Activity.Within.begun (frame_acts actor) registering
          (Activity.Within.map (lasting_acts actor client) registered ?_ _)
        exact (within_deliveringDiscovery actor _ _).mono (fun _ _ => trivial)
          (fun _ _ sends => sends.1.acts sends.2) (fun _ _ own => own)

/-- Each piece of the handling of a request is the doing of its stream. -/
theorem within_handlingDiscovery (acting : plane.Acting actor client)
    (request : Discovery.Request) :
    (plane.handlingDiscovery actor request).Within (Acting actor client) (Acts actor)
      (OnDiscovery actor) plane := by
  have lasting := lasting_acts actor client
  unfold handlingDiscovery
  split
  · have taking := acts_takeDiscovery plane actor request
    have taken := lasting.lasts acting taking
    have leaving := acts_leaving taken (plane.takeDiscovery actor request).1.2.unsubscribed
    have left := lasting.lasts taken leaving
    have begun := (frame_acts actor).trans taking leaving
    dsimp only
    split
    · exact (Activity.within_each lasting (fun _ name acting =>
        within_subscribingDiscovery acting name) _ left).begun (frame_acts actor) begun
    · exact begun
  · exact (frame_acts actor).refl plane

end Pieces

/-- The end of a stream leaves the records of all others as they were. -/
theorem find?_finishDiscovery_of_ne (plane : Plane) {stream other : StreamId}
    (different : other ≠ stream) :
    (plane.finishDiscovery other).discovery.find? stream = plane.discovery.find? stream := by
  have stopped := find?_modifyDiscovery_of_ne plane different fun found =>
    { found with isStopped := true }
  unfold finishDiscovery
  dsimp only
  split <;> exact stopped

/-- The end of a stream is its own doing. -/
theorem acts_finishDiscovery (plane : Plane) (actor : StreamId) :
    Acts actor plane (plane.finishDiscovery actor) := by
  have streams (stream : StreamId) (different : stream ≠ actor) :=
    plane.find?_finishDiscovery_of_ne (Ne.symm different)
  rcases plane.finishDiscovery_cases actor with ⟨-, keeps⟩ | ⟨client, named, keeps⟩
  · exact keeps.acts streams
  · refine (frame_acts actor).trans (acts_withSlots named (fun wellNumbered => ?_) ?_)
      (keeps.acts streams)
    · exact wellNumbered.withSlots
        (wellNumbered.seated.fewer fun _ _ _ => Registry.connection?_of_removeClient)
        (wellNumbered.listed.removeClient client)
    · intro other foreign
      refine ⟨?_, fun tested => ?_⟩
      · rw [Registry.targetsOf_removeClient, if_neg foreign]
      · rw [Registry.connection?_removeClient, if_neg fun own => foreign own.2]

/-- Stopping a stream is its own doing. -/
theorem acts_stopDiscovery (plane : Plane) (actor : StreamId) :
    Acts actor plane (plane.stopDiscovery actor) :=
  (keeps_stopDiscovery plane actor).acts fun _ different =>
    find?_modifyDiscovery_of_ne plane (Ne.symm different) _

/-- Putting a message into an outbox is sending. -/
theorem keeps_offer (plane : Plane) (stream : StreamId) (posting : Posting) :
    Keeps plane (plane.offer stream posting).2 := by
  unfold offer
  split
  · split
    · exact frame_keeps.refl plane
    · rename_i response _ found present
      exact keeps_insert_transport present
        { found with outbox := (found.outbox.offer response).2 } rfl (fun valid => valid)
  · split
    · exact frame_keeps.refl plane
    · rename_i response _ found present
      exact keeps_insert_discovery present
        { found with outbox := (found.outbox.offer response).2 } rfl (fun stopped => stopped)

/-- Putting a response into the outbox of a stream is its own doing. -/
theorem acts_offer (plane : Plane) {actor stream : StreamId} {posting : Posting}
    (own : OnDiscovery actor stream posting) :
    Acts actor plane (plane.offer stream posting).2 := by
  obtain ⟨rfl, response, rfl⟩ := own
  refine (plane.keeps_offer stream _).acts fun other different => ?_
  unfold offer
  dsimp only
  split
  · rfl
  · exact (Table.find?_insert _ _ _ _).trans (if_neg (Ne.symm different))

/-- So is waiting for room in it. -/
theorem acts_attempt (plane : Plane) (millis : Nat) {actor stream : StreamId} {posting : Posting}
    (own : OnDiscovery actor stream posting) :
    Acts actor plane (plane.attempt millis stream posting).2 := by
  have offered := acts_offer plane own
  change Acts actor plane (if (plane.offer stream posting).1 = .timedOut then
    (plane.offer stream posting).2.wait millis else (plane.offer stream posting).2)
  split
  · exact (frame_acts actor).trans offered (acts_of_same rfl rfl rfl rfl rfl)
  · exact offered

/-- The handling of a request as a whole is the doing of its stream. -/
theorem acts_handleDiscovery {plane : Plane} {actor : StreamId} {client : ClientId}
    (acting : plane.Acting actor client) (request : Discovery.Request) :
    Acts actor plane (plane.handleDiscovery actor request) := by
  have attempts (millis : Nat) (stream : StreamId) (posting : Posting) (reached : Plane)
      (own : OnDiscovery actor stream posting) :
      Acts actor reached (reached.attempt millis stream posting).2 :=
    acts_attempt reached millis own
  have whole := Activity.Within.complete (lasting_acts actor client) attempts acting
    (within_handlingDiscovery acting request)
  rwa [complete_handlingDiscovery] at whole

/-! ## What another stream sees -/

/-- Nothing changes for a stream: its record is the same, with the names that are watched, the
    nonces and the outbox, and it is in the same slots, those of its client. -/
structure Untouched (stream : StreamId) (before after : Plane) : Prop where
  record : after.discovery.find? stream = before.discovery.find? stream
  slots : ∀ target client,
    after.subscribers.discovery.connection? target client = some stream ↔
      before.subscribers.discovery.connection? target client = some stream
  client : ∀ client, before.discoveryName? stream = some client →
    after.subscribers.discovery.targetsOf client =
        before.subscribers.discovery.targetsOf client ∧
      ∀ target, after.subscribers.discovery.connection? target client =
        before.subscribers.discovery.connection? target client

/-- If nothing changes twice for a stream, nothing changes. -/
theorem frame_untouched (stream : StreamId) : Frame (Untouched stream) where
  refl _ := ⟨rfl, fun _ _ => Iff.rfl, fun _ _ => ⟨rfl, fun _ => rfl⟩⟩
  trans {before between after} first second := by
    refine ⟨second.record.trans first.record,
      fun target client => (second.slots target client).trans (first.slots target client),
      fun client named => ?_⟩
    have still : between.discoveryName? stream = some client := by
      rw [discoveryName?, first.record]
      exact named
    obtain ⟨listed, held⟩ := first.client client named
    obtain ⟨stillListed, stillHeld⟩ := second.client client still
    exact ⟨stillListed.trans listed, fun target => (stillHeld target).trans (held target)⟩

/-- What one stream does changes nothing for another. -/
theorem Acts.untouched {actor stream : StreamId} {before after : Plane}
    (acts : Acts actor before after) (wellNumbered : before.WellNumbered)
    (different : stream ≠ actor) : Untouched stream before after where
  record := acts.streams stream different
  slots := by
    intro target client
    by_cases own : before.discoveryName? actor = some client
    · -- The actor is in all slots of its client, before and after.
      have absent {plane : Plane} (wellNumbered : plane.WellNumbered)
          (named : plane.discoveryName? actor = some client) :
          plane.subscribers.discovery.connection? target client ≠ some stream := fun seated =>
        different (wellNumbered.alone actor stream client named
          (wellNumbered.seated target client stream seated))
      exact iff_of_false (absent (acts.wellNumbered wellNumbered) (acts.name.trans own))
        (absent wellNumbered own)
    · rw [(acts.clients client own).2 target]
  client := by
    intro client named
    refine acts.clients client fun own => ?_
    exact different (wellNumbered.alone actor stream client own named)

/-- Naming a stream changes nothing for another. -/
theorem untouched_nameDiscovery (plane : Plane) {actor stream : StreamId}
    (different : stream ≠ actor) (request : Discovery.Request) :
    Untouched stream plane (plane.nameDiscovery actor request) where
  record := find?_modifyDiscovery_of_ne plane (Ne.symm different) _
  slots := fun _ _ => Iff.rfl
  client := fun _ _ => ⟨rfl, fun _ => rfl⟩

/-! ## The first request -/

/-- No stream loses its name. -/
def KeepsNames (before after : Plane) : Prop :=
  ∀ stream client, before.discoveryName? stream = some client →
    after.discoveryName? stream = some client

/-- Names may be kept again and again. -/
theorem frame_keepsNames : Frame KeepsNames where
  refl _ _ _ := id
  trans first second := fun stream client named => second stream client (first stream client named)

/-- What one stream does takes no names away. -/
theorem Acts.keepsNames {actor : StreamId} {before after : Plane}
    (acts : Acts actor before after) : KeepsNames before after := fun stream _ named =>
  (acts.names stream).trans named

/-- Name a stream for a request, unless a request before has done so. -/
def introduceDiscovery (stream : StreamId) (request : Discovery.Request) (plane : Plane) : Plane :=
  if plane.discoveryNamed stream then plane else plane.nameDiscovery stream request

/-- A stream that has a name is not named again. -/
theorem introduceDiscovery_cases (plane : Plane) (stream : StreamId)
    (request : Discovery.Request) :
    (∃ client, plane.discoveryName? stream = some client ∧
        plane.introduceDiscovery stream request = plane) ∨
      (plane.discoveryName? stream = none ∧
        plane.introduceDiscovery stream request = plane.nameDiscovery stream request) := by
  have isNamed : plane.discoveryNamed stream = (plane.discoveryName? stream).isSome := rfl
  unfold introduceDiscovery
  rw [isNamed]
  cases plane.discoveryName? stream with
  | some client => exact Or.inl ⟨client, rfl, rfl⟩
  | none => exact Or.inr ⟨rfl, rfl⟩

/-- Naming a stream that has no name takes no name away. -/
theorem keepsNames_nameDiscovery {plane : Plane} {actor : StreamId}
    (present : (plane.discovery.find? actor).isSome = true)
    (unnamed : plane.discoveryName? actor = none) (request : Discovery.Request) :
    KeepsNames plane (plane.nameDiscovery actor request) := by
  intro stream client held
  have different : actor ≠ stream := by
    rintro rfl
    rw [unnamed] at held
    cases held
  rw [discoveryName?_nameDiscovery present, if_neg different]
  exact held

/-- An open stream that is introduced may act, the others keep their names, and nothing changes for
    them, as long as the numbers do not wrap around. -/
theorem WellNumbered.introduceDiscovery {plane : Plane} (wellNumbered : plane.WellNumbered)
    {actor : StreamId} (present : (plane.discovery.find? actor).isSome = true)
    (few : plane.discoveryName? actor = none → plane.opened.toNat + 1 < UInt64.size)
    (request : Discovery.Request) :
    (∃ client, (plane.introduceDiscovery actor request).Acting actor client) ∧
      KeepsNames plane (plane.introduceDiscovery actor request) ∧
        ∀ stream, stream ≠ actor →
          Untouched stream plane (plane.introduceDiscovery actor request) := by
  rcases plane.introduceDiscovery_cases actor request with
    ⟨client, named, introduced⟩ | ⟨unnamed, introduced⟩ <;> rw [introduced]
  · exact ⟨⟨client, wellNumbered, named⟩, frame_keepsNames.refl plane,
      fun stream _ => (frame_untouched stream).refl plane⟩
  · have named := (discoveryName?_nameDiscovery present request actor).trans (if_pos rfl)
    exact ⟨⟨_, wellNumbered.nameDiscovery present unnamed (few unnamed) request, named⟩,
      keepsNames_nameDiscovery present unnamed request,
      fun stream different => untouched_nameDiscovery plane different request⟩

/-! ## Steps from elsewhere -/

/-- What happens elsewhere: no stream is named, and no discovery client takes or leaves a slot. -/
structure Beside (before after : Plane) : Prop where
  wellKept : before.subscribers.watchers.WellKept → after.subscribers.watchers.WellKept
  opened : after.opened = before.opened
  names : ∀ stream, after.discoveryName? stream = before.discoveryName? stream
  slots : after.subscribers.discovery = before.subscribers.discovery

/-- Steps from elsewhere may follow each other. -/
theorem frame_beside : Frame Beside where
  refl _ := ⟨id, rfl, fun _ => rfl, rfl⟩
  trans first second :=
    ⟨fun wellKept => second.wellKept (first.wellKept wellKept), second.opened.trans first.opened,
      fun stream => (second.names stream).trans (first.names stream),
      second.slots.trans first.slots⟩

/-- They keep all streams apart. -/
theorem Beside.wellNumbered {before after : Plane} (beside : Beside before after)
    (wellNumbered : before.WellNumbered) : after.WellNumbered := by
  have names := funext beside.names
  refine ⟨beside.wellKept wellNumbered.wellKept, ?_, ?_, ?_, ?_⟩
  · rw [names, beside.opened]
    exact wellNumbered.numbered
  · rw [names]
    exact wellNumbered.alone
  · rw [names, beside.slots]
    exact wellNumbered.seated
  · rw [beside.slots]
    exact wellNumbered.listed

/-- They take no names away. -/
theorem Beside.keepsNames {before after : Plane} (beside : Beside before after) :
    KeepsNames before after := fun stream _ named => (beside.names stream).trans named

/-- Sending, a push and a change of a resource among them, is a step from elsewhere. -/
theorem Keeps.beside {before after : Plane} (keeps : Keeps before after) : Beside before after :=
  ⟨keeps.subscribers.wellKept, keeps.opened, keeps.discoveryName?, keeps.subscribers.discovery⟩

/-- The watchers of a control plane are well kept. -/
def KeptWell (plane : Plane) : Prop := plane.subscribers.watchers.WellKept

/-- Sending goes on under any circumstances. -/
theorem lasting_keeps : Lasting (fun _ => True) Keeps := ⟨frame_keeps, fun _ _ => trivial⟩

/-- Each piece of a push to discovery clients is sending. -/
theorem within_publishingDiscovery (push : Push) (plane : Plane) :
    (plane.publishingDiscovery push).Within (fun _ => True) Keeps (fun _ _ => True) plane := by
  unfold publishingDiscovery
  split
  · exact frame_keeps.refl plane
  · refine Activity.within_fanOut lasting_keeps _ _ (fun connection _ reached _ => ?_) trivial
    unfold deliveringToDiscovery
    split
    · exact (within_deliveringDiscovery connection.2 _ reached).mono (fun _ _ => trivial)
        (fun _ _ sends => sends.1) (fun _ _ _ => trivial)
    · exact frame_keeps.refl reached

/-- A message is for a transport client. -/
def IsTransport (_ : StreamId) (posting : Posting) : Prop :=
  ∃ response, posting = .transport response

/-- What sending to transport clients does: it is sending, and no discovery stream changes, nor what
    is counted for them. -/
def SendsAside (before after : Plane) : Prop :=
  Keeps before after ∧ after.discovery = before.discovery ∧
    after.discoveryCounts = before.discoveryCounts

/-- Sending to transport clients goes on under any circumstances. -/
theorem lasting_sendsAside : Lasting (fun _ => True) SendsAside where
  frame :=
    { refl := fun plane => ⟨frame_keeps.refl plane, rfl, rfl⟩
      trans := fun first second => ⟨frame_keeps.trans first.1 second.1,
        second.2.1.trans first.2.1, second.2.2.trans first.2.2⟩ }
  lasts := fun _ _ => trivial

/-- Each piece of a send on a transport stream is sending to transport clients. -/
theorem within_sendingTransport (stream : StreamId) (response : Transport.Response)
    (plane : Plane) :
    (plane.sendingTransport stream response).Within (fun _ => True) SendsAside IsTransport
      plane := by
  refine ⟨lasting_sendsAside.frame.refl plane, ⟨response, rfl⟩, fun outcome later _ => ?_⟩
  change SendsAside later (if outcome = .closed then later.invalidateTransport stream else later)
  split
  · exact ⟨keeps_invalidateTransport later stream, rfl, rfl⟩
  · exact lasting_sendsAside.frame.refl later

/-- Each piece of a delivery to a transport stream is sending to transport clients. -/
theorem within_deliveringTransport (maxAttempts : Nat) (stream : StreamId)
    (response : Transport.Response) (plane : Plane) :
    (plane.deliveringTransport maxAttempts stream response).Within (fun _ => True) SendsAside
      IsTransport plane :=
  (Activity.within_retry lasting_sendsAside
    (fun reached _ => within_sendingTransport stream response reached) _ trivial).bind
      lasting_sendsAside trivial fun _ _ _ => ⟨.of_same rfl rfl rfl rfl rfl, rfl, rfl⟩

/-- Each piece of a push to transport clients is sending to them. -/
theorem within_publishingTransport (push : Push) (plane : Plane) :
    (plane.publishingTransport push).Within (fun _ => True) SendsAside IsTransport plane := by
  unfold publishingTransport
  split
  · exact lasting_sendsAside.frame.refl plane
  · refine Activity.within_fanOut lasting_sendsAside _ _ (fun connection _ reached _ => ?_) trivial
    have token : SendsAside reached (pushedResponse push reached).2 :=
      ⟨.of_same rfl rfl rfl rfl rfl, rfl, rfl⟩
    unfold deliveringToTransport
    dsimp only
    split
    · exact ((within_deliveringTransport _ connection.2 _ _).map lasting_sendsAside trivial
        _).begun lasting_sendsAside.frame token
    · exact token

/-- Each piece of what a worker does with a push is sending. -/
theorem within_publishingAll (push : Push) (plane : Plane) :
    (plane.publishingAll push).Within (fun _ => True) Keeps (fun _ _ => True) plane := by
  have toTransport : (plane.publishingTransport push).Within (fun _ => True) Keeps
      (fun _ _ => True) plane :=
    (within_publishingTransport push plane).mono (fun _ _ => trivial) (fun _ _ sends => sends.1)
      (fun _ _ _ => trivial)
  exact toTransport.bind lasting_keeps trivial fun _ reached _ =>
    (within_publishingDiscovery push reached).map lasting_keeps trivial _

/-- So it is a step from elsewhere. -/
theorem beside_publishingAll (push : Push) (plane : Plane) :
    (plane.publishingAll push).Within KeptWell Beside (fun _ _ => True) plane :=
  (within_publishingAll push plane).mono (fun _ _ => trivial) (fun _ _ keeps => keeps.beside)
    (fun _ _ own => own)

/-- So is each piece of the work of a worker, from the taking of the push on. -/
theorem beside_working {plane : Plane} {worker : Nat} {activity : Activity Posting Plane Unit}
    (working : plane.working? worker = some activity) :
    activity.Within KeptWell Beside (fun _ _ => True) plane := by
  obtain ⟨⟨push, dispatcher⟩, -, rfl⟩ := Option.map_eq_some_iff.1 working
  have taking : Keeps plane { plane with dispatcher } := .of_same rfl rfl rfl rfl rfl
  exact (beside_publishingAll push { plane with dispatcher }).begun frame_beside taking.beside

/-! ## What transport clients do -/

/-- What leaves all discovery streams alone: their records and slots are the same, the same kinds
    are supported, and nothing is counted for them. -/
structure Aside (before after : Plane) : Prop where
  wellKept : before.KeptWell → after.KeptWell
  kinds : after.subscribers.watchers.kinds = before.subscribers.watchers.kinds
  opened : after.opened = before.opened
  streams : after.discovery = before.discovery
  slots : after.subscribers.discovery = before.subscribers.discovery
  counts : after.discoveryCounts = before.discoveryCounts

/-- Discovery streams may be left alone again and again. -/
theorem lasting_aside : Lasting KeptWell Aside where
  frame :=
    { refl := fun _ => ⟨id, rfl, rfl, rfl, rfl, rfl⟩
      trans := fun first second => ⟨fun kept => second.wellKept (first.wellKept kept),
        second.kinds.trans first.kinds, second.opened.trans first.opened,
        second.streams.trans first.streams, second.slots.trans first.slots,
        second.counts.trans first.counts⟩ }
  lasts := fun kept aside => aside.wellKept kept

/-- To leave discovery streams alone is a step from elsewhere. -/
theorem Aside.beside {before after : Plane} (aside : Aside before after) : Beside before after :=
  ⟨aside.wellKept, aside.opened, fun _ => by rw [discoveryName?, aside.streams, discoveryName?],
    aside.slots⟩

/-- Sending leaves them alone if their records stay and nothing is counted. -/
theorem Keeps.aside {before after : Plane} (keeps : Keeps before after)
    (streams : after.discovery = before.discovery)
    (counts : after.discoveryCounts = before.discoveryCounts) : Aside before after :=
  ⟨keeps.subscribers.wellKept, keeps.subscribers.kinds, keeps.opened, streams,
    keeps.subscribers.discovery, counts⟩

/-- Whatever a transport client does with its slots leaves them alone. -/
theorem aside_withSeats (plane : Plane) (registry : Registry StreamId) :
    Aside plane (plane.withSeats registry) :=
  ⟨id, rfl, rfl, rfl, rfl, rfl⟩

/-- Each piece of a push to transport clients leaves them alone. -/
theorem aside_publishingTransport (push : Push) (plane : Plane) :
    (plane.publishingTransport push).Within KeptWell Aside IsTransport plane :=
  (within_publishingTransport push plane).mono (fun _ _ => trivial)
    (fun _ _ sends => sends.1.aside sends.2.1 sends.2.2) (fun _ _ own => own)

/-- Each piece of an answer to a transport client leaves them alone. -/
theorem aside_answeringTransport (stream : StreamId) (response : Transport.Response)
    (plane : Plane) :
    (plane.answeringTransport stream response).Within KeptWell Aside IsTransport plane := by
  have answering : (plane.answeringTransport stream response).Within (fun _ => True) SendsAside
      IsTransport plane :=
    (within_deliveringTransport _ stream response plane).map lasting_sendsAside trivial _
  exact answering.mono (fun _ _ => trivial)
    (fun _ _ sends => sends.1.aside sends.2.1 sends.2.2) (fun _ _ own => own)

/-- A target that a transport client subscribes leaves them alone. -/
theorem aside_registering {plane : Plane} (kept : plane.KeptWell) (stream : StreamId)
    (client : ClientId) (target : Target) :
    Aside plane { plane with
      subscribers :=
        (plane.subscribers.subscribe plane.transportValid .transport target client stream).2 } := by
  have outcomes := registering_cases kept stream client target
  generalize plane.subscribers.subscribe plane.transportValid .transport target client stream =
    outcome at outcomes
  obtain ⟨result, after⟩ := outcome
  rcases outcomes with ⟨keeps, -⟩ | ⟨keeps, -⟩ | ⟨-, -, registry, -, keeps⟩
  · exact keeps.aside rfl rfl
  · exact keeps.aside rfl rfl
  · exact lasting_aside.frame.trans (aside_withSeats plane registry) (keeps.aside rfl rfl)

/-- Each piece of a subscription of a transport client leaves them alone. -/
theorem aside_subscribingTransport {plane : Plane} (kept : plane.KeptWell) (stream : StreamId)
    (client : ClientId) (requestId : String) (target : Target) :
    (plane.subscribingTransport stream client requestId target).Within KeptWell Aside IsTransport
      plane := by
  have registering := aside_registering kept stream client target
  unfold subscribingTransport
  dsimp only
  split
  · unfold sendingSnapshot
    dsimp only
    split
    · exact registering
    · exact (aside_answeringTransport stream _ _).begun lasting_aside.frame registering
  · exact (aside_answeringTransport stream _ _).begun lasting_aside.frame registering
  · exact registering

/-- A transport stream that is named leaves them alone. -/
theorem aside_nameTransport (plane : Plane) (stream : StreamId) (identifier : String) :
    Aside plane (plane.nameTransport stream identifier).2 := by
  unfold nameTransport
  split
  · exact lasting_aside.frame.refl plane
  · dsimp only
    split <;> exact ⟨id, rfl, rfl, rfl, rfl, rfl⟩

/-- A target that a transport client leaves leaves them alone. -/
theorem aside_unsubscribeTransport (client : ClientId) (plane : Plane) (target : Target) :
    Aside plane (plane.unsubscribeTransport client target) :=
  lasting_aside.frame.trans (aside_withSeats plane _)
    ((plane.unsubscribeTransport_keeps client target).aside rfl rfl)

/-- Each piece of the handling of a transport request leaves them alone. -/
theorem aside_handlingTransport {plane : Plane} (kept : plane.KeptWell) (stream : StreamId)
    (request : Transport.Request) :
    (plane.handlingTransport stream request).Within KeptWell Aside IsTransport plane := by
  have frame := lasting_aside.frame
  have naming := plane.aside_nameTransport stream request.identifier
  have named := lasting_aside.lasts kept naming
  unfold handlingTransport
  split
  · exact frame.refl plane
  · dsimp only
    split
    · refine Activity.Within.begun frame naming (Activity.Within.map lasting_aside named ?_ _)
      exact (within_sendingTransport stream _ _).mono (fun _ _ => trivial)
        (fun _ _ sends => sends.1.aside sends.2.1 sends.2.2) (fun _ _ own => own)
    · exact (Activity.within_each lasting_aside (fun _ target kept =>
        aside_subscribingTransport kept stream _ _ target) _ named).begun frame naming
    · exact frame.trans naming (frame.foldl (aside_unsubscribeTransport _) _ _)

/-- So it is a step from elsewhere. -/
theorem beside_handlingTransport {plane : Plane} (kept : plane.KeptWell) (stream : StreamId)
    (request : Transport.Request) :
    (plane.handlingTransport stream request).Within KeptWell Beside (fun _ _ => True) plane :=
  (aside_handlingTransport kept stream request).mono (fun _ kept => kept)
    (fun _ _ aside => aside.beside) (fun _ _ _ => trivial)

/-- A transport stream that ends leaves them alone. -/
theorem aside_finishTransport (plane : Plane) (stream : StreamId) :
    Aside plane (plane.finishTransport stream) := by
  have frame := lasting_aside.frame
  have counted (ended : Plane) : Aside ended
      { ended with transportCounts := ended.transportCounts.streamClosed } :=
    ⟨id, rfl, rfl, rfl, rfl, rfl⟩
  unfold finishTransport
  split
  · exact counted plane
  · rename_i client named
    have closed : Aside plane (plane.invalidateTransport stream) :=
      (keeps_invalidateTransport plane stream).aside rfl rfl
    have emptied := aside_withSeats (plane.invalidateTransport stream)
      (plane.subscribers.transport.removeClient client).2
    have keeps : Keeps
        ((plane.invalidateTransport stream).withSeats
          (plane.subscribers.transport.removeClient client).2)
        { plane.invalidateTransport stream with
          subscribers :=
            (plane.invalidateTransport stream).subscribers.disconnect .transport client } :=
      .of_slots rfl rfl (Subscribers.keepsSlots_releaseAll _ _) rfl rfl
    have released := keeps.aside rfl rfl
    exact frame.trans closed (frame.trans emptied (frame.trans released (counted _)))

end Plane

end RulePlane
