import RulePlane.Proofs.RegistrySlots
import RulePlane.Proofs.Sending

/-!
# The state of transport streams

What happens to the slots and the names of transport streams in a single step. A slot is kept under
the name that the client gave, and two streams may be given one name, as when a client connects
again before its old stream has ended. The registry takes them for one client: a living connection
keeps its slot when another one of its name subscribes, and what one of them leaves, or holds when
it ends, is taken from both.

`WellSeated` says that whoever is found in a slot has the name of the slot, and `Retains` which
slots may be taken from a living stream: those of a name at a target that is left in that name,
those of a name when a stream of that name ends, and no others. Which steps follow each other is not
decided here.
-/

namespace RulePlane

namespace Plane

/-- The name of a transport stream, if it has one. -/
def transportClient? (plane : Plane) (stream : StreamId) : Option ClientId :=
  (plane.transport.find? stream).bind TransportStream.client

/-- The stream in the slot of a transport client at a target. -/
def slot? (plane : Plane) (target : Target) (client : ClientId) : Option StreamId :=
  plane.subscribers.transport.connection? target client

/-- Replace the slots of the transport clients. -/
def withSeats (plane : Plane) (registry : Registry StreamId) : Plane :=
  { plane with subscribers := plane.subscribers.withRegistry .transport registry }

/-- The watchers are well kept, and the stream in a slot has the name of the slot. -/
structure WellSeated (plane : Plane) : Prop where
  wellKept : plane.subscribers.watchers.WellKept
  named : plane.subscribers.transport.SeatedBy plane.transportClient?

/-- Before the first client no slot is taken. -/
theorem wellSeated_start (settings : PushSettings) (kinds : KindTable) (dispatcher : Dispatcher)
    (clock : UInt64) : (start settings kinds dispatcher clock).WellSeated :=
  ⟨Watchers.wellKept_ofKinds kinds, Registry.seatedBy_empty _⟩

/-- Sending does not rename transport streams. -/
theorem Keeps.transportClient? {before after : Plane} (keeps : Keeps before after)
    (stream : StreamId) : after.transportClient? stream = before.transportClient? stream := by
  have split (plane : Plane) : plane.transportClient? stream =
      ((plane.transport.find? stream).map TransportStream.client).bind id := by
    unfold Plane.transportClient?
    cases plane.transport.find? stream <;> rfl
  rw [split, split, keeps.transport]

/-- Sending takes no slot and gives none away. -/
theorem Keeps.slot? {before after : Plane} (keeps : Keeps before after) (target : Target)
    (client : ClientId) : after.slot? target client = before.slot? target client := by
  rw [Plane.slot?, keeps.subscribers.transport]
  rfl

/-- Sending keeps slots well seated. -/
theorem Keeps.wellSeated {before after : Plane} (keeps : Keeps before after)
    (wellSeated : before.WellSeated) : after.WellSeated where
  wellKept := keeps.subscribers.wellKept wellSeated.wellKept
  named := by
    rw [keeps.subscribers.transport, funext keeps.transportClient?]
    exact wellSeated.named

/-- What comes of registering a stream for a target: either the stream is added to the slots of its
    client, or no slot changes, because the kind is not supported or the connection is not valid. -/
theorem registering_cases {plane : Plane} (wellKept : plane.subscribers.watchers.WellKept)
    (stream : StreamId) (client : ClientId) (target : Target) :
    let (result, subscribers) :=
      plane.subscribers.subscribe plane.transportValid .transport target client stream
    (Keeps plane { plane with subscribers } ∧
        plane.subscribers.watchers.supports target.kind = false ∧
          ∃ fault, result = .error (.watch fault)) ∨
      (Keeps plane { plane with subscribers } ∧ plane.transportValid stream = false ∧
        ∃ fault, result = .error (.registry fault)) ∨
      (plane.transportValid stream = true ∧ result = .ok () ∧
        ∃ registry, plane.subscribers.transport.add plane.transportValid target client stream =
            .ok registry ∧
          Keeps (plane.withSeats registry) { plane with subscribers }) := by
  have outcomes := Subscribers.subscribe_cases wellKept plane.transportValid .transport target
    client stream
  generalize plane.subscribers.subscribe plane.transportValid .transport target client stream =
    outcome at outcomes ⊢
  obtain ⟨result, after⟩ := outcome
  rcases outcomes with ⟨unsupported, kept, refused⟩ | ⟨-, dead, kept, refused⟩ |
    ⟨-, valid, accepted, registered, registry, kept, added, rfl⟩
  · exact Or.inl ⟨.of_slots rfl rfl kept rfl rfl, unsupported, refused⟩
  · exact Or.inr (Or.inl ⟨.of_slots rfl rfl kept rfl rfl, dead, refused⟩)
  · refine Or.inr (Or.inr ⟨valid, accepted, registry, added, ?_⟩)
    exact .of_slots rfl rfl ⟨rfl, kept.discovery, kept.kinds, kept.wellKept⟩ rfl rfl

/-- What comes of a target that is subscribed: the stream is registered or refused, and the rest is
    sending. -/
theorem subscribeTransport_cases {plane : Plane} (wellKept : plane.subscribers.watchers.WellKept)
    (stream : StreamId) (client : ClientId) (requestId : String) (target : Target) :
    (Keeps plane (plane.subscribeTransport stream client requestId target) ∧
        (plane.transportValid stream = true →
          plane.subscribers.watchers.supports target.kind = false)) ∨
      ∃ registry, plane.subscribers.transport.add plane.transportValid target client stream =
          .ok registry ∧
        plane.transportValid stream = true ∧
          Keeps (plane.withSeats registry)
            (plane.subscribeTransport stream client requestId target) := by
  have outcomes := registering_cases wellKept stream client target
  unfold subscribeTransport
  generalize plane.subscribers.subscribe plane.transportValid .transport target client stream =
    outcome at outcomes
  obtain ⟨result, after⟩ := outcome
  rcases outcomes with ⟨entered, unsupported, fault, rfl⟩ | ⟨entered, dead, fault, rfl⟩ |
    ⟨valid, rfl, registry, added, entered⟩
  · refine Or.inl ⟨?_, fun _ => unsupported⟩
    exact frame_keeps.trans entered (keeps_deliverTransport _ stream _)
  · refine Or.inl ⟨entered, fun valid => ?_⟩
    exact absurd (dead.symm.trans valid) (by simp)
  · refine Or.inr ⟨registry, added, valid, ?_⟩
    exact frame_keeps.trans entered (keeps_sendSnapshot _ stream target requestId)

/-- What comes of a target that is left: it is taken from the client. -/
theorem unsubscribeTransport_keeps (plane : Plane) (client : ClientId) (target : Target) :
    Keeps (plane.withSeats (plane.subscribers.transport.remove target client).2)
      (plane.unsubscribeTransport client target) :=
  .of_slots rfl rfl (Subscribers.keepsSlots_release _ target) rfl rfl

/-- Giving a name to a stream that has none changes nothing else, and an open stream has the name
    then. -/
theorem rename_frame {plane : Plane} {stream : StreamId}
    (unnamed : plane.transportClient? stream = none) (client : ClientId) :
    let after : Plane := { plane with
      transport :=
        plane.transport.modify stream fun found => { found with client := some client } }
    (∀ other, after.transportValid other = plane.transportValid other) ∧
      (∀ other name, plane.transportClient? other = some name →
        after.transportClient? other = some name) ∧
        ((plane.transport.find? stream).isSome = true →
          after.transportClient? stream = some client) := by
  refine ⟨fun other => ?_, fun other name named => ?_, fun present => ?_⟩
  · simp only [transportValid, Table.find?_modify]
    split
    · rw [Option.map_map]
      rfl
    · rfl
  · have different : stream ≠ other := by
      rintro rfl
      rw [unnamed] at named
      cases named
    simpa [transportClient?, Table.find?_modify, different] using named
  · simp only [transportClient?, Table.find?_modify, if_true]
    obtain ⟨found, present⟩ := Option.isSome_iff_exists.1 present
    rw [present]
    rfl

/-- What naming a stream changes: nothing but the name of that stream, and that only if it has none.
    An open stream has the given name afterwards. -/
theorem nameTransport_frame (plane : Plane) (stream : StreamId) (identifier : String) :
    let after := (plane.nameTransport stream identifier).2
    after.subscribers = plane.subscribers ∧
      (∀ other, after.transportValid other = plane.transportValid other) ∧
        (∀ other name, plane.transportClient? other = some name →
          after.transportClient? other = some name) ∧
          ((plane.transport.find? stream).isSome = true →
            after.transportClient? stream = some (plane.nameTransport stream identifier).1) := by
  unfold nameTransport
  cases named : (plane.transport.find? stream).bind TransportStream.client with
  | some client => exact ⟨rfl, fun _ => rfl, fun _ _ same => same, fun _ => named⟩
  | none =>
    dsimp only
    split
    · exact ⟨rfl, rename_frame named _⟩
    · exact ⟨rfl, rename_frame named _⟩

/-! ## What gives a slot -/

/-- A stream that subscribes a target of a supported kind has the slot of its client there, unless
    another living connection has it, and as long as the stream itself lives. -/
theorem slot?_subscribeTransport {plane : Plane} (wellKept : plane.subscribers.watchers.WellKept)
    {stream : StreamId} {client : ClientId} {requestId : String} {target : Target}
    (supported : plane.subscribers.watchers.supports target.kind = true)
    (vacant : ∀ other, plane.slot? target client = some other →
      other = stream ∨ plane.transportValid other = false)
    (valid : (plane.subscribeTransport stream client requestId target).transportValid stream =
      true) :
    (plane.subscribeTransport stream client requestId target).slot? target client =
      some stream := by
  rcases subscribeTransport_cases wellKept stream client requestId target with
    ⟨keeps, unsupported⟩ | ⟨registry, added, -, keeps⟩
  · have refused := unsupported (keeps.transportValid stream valid)
    exact absurd (refused.symm.trans supported) (by simp)
  · rw [keeps.slot?]
    exact Registry.connection?_add_self added vacant

/-! ## What takes a slot away -/

/-- No slot is taken from a living stream, except for those that may be lost. Slots stay well
    seated, no stream loses its name, and none that has one is revived. -/
def Retains (lost : Target → ClientId → Prop) (before after : Plane) : Prop :=
  before.WellSeated → after.WellSeated ∧
    (∀ stream name, before.transportClient? stream = some name →
      after.transportClient? stream = some name ∧
        (after.transportValid stream = true → before.transportValid stream = true)) ∧
      ∀ target client stream, ¬ lost target client →
        before.slot? target client = some stream → after.transportValid stream = true →
          after.slot? target client = some stream

/-- A slot that is kept over each of several steps is kept over all of them. -/
theorem frame_retains (lost : Target → ClientId → Prop) : Frame (Retains lost) where
  refl _ wellSeated := ⟨wellSeated, fun _ _ named => ⟨named, fun valid => valid⟩,
    fun _ _ _ _ seated _ => seated⟩
  trans first second wellSeated := by
    obtain ⟨between, earlierNames, earlier⟩ := first wellSeated
    obtain ⟨afterwards, laterNames, later⟩ := second between
    refine ⟨afterwards, fun stream name named => ?_,
      fun target client stream spared seated valid => ?_⟩
    · obtain ⟨namedBetween, livedBefore⟩ := earlierNames stream name named
      obtain ⟨namedAfter, livedBetween⟩ := laterNames stream name namedBetween
      exact ⟨namedAfter, fun valid => livedBefore (livedBetween valid)⟩
    · obtain ⟨namedBetween, -⟩ := earlierNames stream client (wellSeated.named _ _ _ seated)
      obtain ⟨-, livedBetween⟩ := laterNames stream client namedBetween
      have still := earlier target client stream spared seated (livedBetween valid)
      exact later target client stream spared still valid

variable {lost : Target → ClientId → Prop}

/-- If fewer slots may be lost, those that are left are still retained. -/
theorem Retains.mono {before after : Plane} (retains : Retains lost before after)
    {more : Target → ClientId → Prop} (weaker : ∀ target client, lost target client →
      more target client) : Retains more before after := by
  intro wellSeated
  obtain ⟨afterwards, names, kept⟩ := retains wellSeated
  exact ⟨afterwards, names, fun target client stream spared =>
    kept target client stream fun gone => spared (weaker target client gone)⟩

/-- Sending takes no slot away. -/
theorem Keeps.retains {before after : Plane} (keeps : Keeps before after) :
    Retains lost before after := by
  intro wellSeated
  refine ⟨keeps.wellSeated wellSeated, fun stream name named => ?_,
    fun target client stream _ seated _ => (keeps.slot? target client).trans seated⟩
  exact ⟨(keeps.transportClient? stream).trans named, keeps.transportValid stream⟩

/-- A stream that is added under its own name takes no slot away: a living connection keeps its
    slot. -/
theorem retains_seating {plane : Plane} {registry : Registry StreamId} {stream : StreamId}
    {name : ClientId} {subscribed : Target} (named : plane.transportClient? stream = some name)
    (added : plane.subscribers.transport.add plane.transportValid subscribed name stream =
      .ok registry) :
    Retains lost plane (plane.withSeats registry) := by
  intro wellSeated
  refine ⟨⟨wellSeated.wellKept, wellSeated.named.add named added⟩,
    fun _ _ named => ⟨named, fun valid => valid⟩,
    fun target client present _ seated living => ?_⟩
  change registry.connection? target client = some present
  rw [Registry.connection?_add added, if_neg]
  · exact seated
  · rintro ⟨rfl, rfl, vacant⟩
    change plane.transportValid present = true at living
    change plane.subscribers.transport.connection? subscribed name = some present at seated
    rw [seated] at vacant
    simp [living] at vacant

/-- A target that is subscribed takes no slot away. -/
theorem retains_subscribeTransport {plane : Plane} {stream : StreamId} {name : ClientId}
    (named : plane.transportValid stream = true → plane.transportClient? stream = some name)
    (requestId : String) (subscribed : Target) :
    Retains lost plane (plane.subscribeTransport stream name requestId subscribed) := by
  intro wellSeated
  rcases subscribeTransport_cases wellSeated.wellKept stream name requestId subscribed with
    ⟨keeps, -⟩ | ⟨registry, added, valid, keeps⟩
  · exact keeps.retains wellSeated
  · exact (frame_retains lost).trans (retains_seating (named valid) added) keeps.retains wellSeated

/-- Emptying slots that may be lost takes no other slot away. -/
theorem retains_withSeats {plane : Plane} {registry : Registry StreamId}
    (fewer : ∀ target client stream, registry.connection? target client = some stream →
      plane.slot? target client = some stream)
    (spared : ∀ target client, ¬ lost target client →
      registry.connection? target client = plane.slot? target client) :
    Retains lost plane (plane.withSeats registry) := by
  intro wellSeated
  exact ⟨⟨wellSeated.wellKept, wellSeated.named.fewer fewer⟩,
    fun _ _ named => ⟨named, fun valid => valid⟩,
    fun target client _ kept seated _ => (spared target client kept).trans seated⟩

/-- A target that is left takes away the slot of its client at this target, and no other. -/
theorem retains_unsubscribeTransport (plane : Plane) {name : ClientId} {left : Target}
    (gone : lost left name) : Retains lost plane (plane.unsubscribeTransport name left) := by
  refine (frame_retains lost).trans
    (retains_withSeats (fun _ _ _ => Registry.connection?_of_remove) ?_)
    (unsubscribeTransport_keeps plane name left).retains
  intro target client kept
  rw [Registry.connection?_remove, if_neg]
  · rfl
  · rintro ⟨rfl, rfl⟩
    exact kept gone

/-- A stream that ends takes away the slots of its name, and no others. -/
theorem retains_finishTransport {plane : Plane} {ending : StreamId}
    (gone : ∀ name, plane.transportClient? ending = some name → ∀ target, lost target name) :
    Retains lost plane (plane.finishTransport ending) := by
  unfold finishTransport
  split
  · have counted : Keeps plane
        { plane with transportCounts := plane.transportCounts.streamClosed } :=
      .of_same rfl rfl rfl rfl rfl
    exact counted.retains
  · rename_i name named
    let closed := plane.invalidateTransport ending
    let registry := (closed.subscribers.transport.removeClient name).2
    have emptied : Retains lost closed (closed.withSeats registry) := by
      refine retains_withSeats (fun _ _ _ => Registry.connection?_of_removeClient) ?_
      intro target client kept
      rw [Registry.connection?_removeClient, if_neg]
      · rfl
      · rintro ⟨-, rfl⟩
        exact kept (gone name named target)
    have released : Keeps (closed.withSeats registry) { closed with
        subscribers := closed.subscribers.disconnect .transport name
        transportCounts := closed.transportCounts.streamClosed } :=
      .of_slots rfl rfl (Subscribers.keepsSlots_releaseAll _ _) rfl rfl
    have frame := frame_retains lost
    exact frame.trans (keeps_invalidateTransport plane ending).retains
      (frame.trans emptied released.retains)

/-- A stream that is opened under a fresh number takes no slot away. -/
theorem retains_opening {plane : Plane} {opened : StreamId}
    (absent : plane.transport.find? opened = none) (capacity : Option Nat) :
    Retains lost plane { plane with
      transport := plane.transport.insert opened (.fresh none capacity) } := by
  intro wellSeated
  have same {stream : StreamId} {name : ClientId}
      (named : plane.transportClient? stream = some name) :
      (plane.transport.insert opened (.fresh none capacity)).find? stream =
        plane.transport.find? stream := by
    rw [Table.find?_insert, if_neg]
    rintro rfl
    simp [transportClient?, absent] at named
  have names {stream : StreamId} {name : ClientId}
      (named : plane.transportClient? stream = some name) :
      (((plane.transport.insert opened (.fresh none capacity)).find? stream).bind
        TransportStream.client) = some name := by
    rw [same named]
    exact named
  refine ⟨⟨wellSeated.wellKept, wellSeated.named.renamed fun _ _ => names⟩,
    fun stream name named => ⟨names named, ?_⟩, fun _ _ _ _ seated _ => seated⟩
  simp only [transportValid, same named]
  exact fun valid => valid

/-- Naming a stream takes no slot away. -/
theorem retains_nameTransport (plane : Plane) (stream : StreamId) (identifier : String) :
    Retains lost plane (plane.nameTransport stream identifier).2 := by
  intro wellSeated
  obtain ⟨subscribers, valid, names, -⟩ := nameTransport_frame plane stream identifier
  have slots (target : Target) (client : ClientId) :
      (plane.nameTransport stream identifier).2.slot? target client =
        plane.slot? target client := by
    rw [Plane.slot?, Plane.slot?, subscribers]
  refine ⟨⟨?_, ?_⟩, fun tested name named => ?_,
    fun target client _ _ seated _ => (slots target client).trans seated⟩
  · rw [subscribers]
    exact wellSeated.wellKept
  · rw [subscribers]
    exact wellSeated.named.renamed names
  · exact ⟨names tested name named, fun living => (valid tested).symm.trans living⟩

end Plane

end RulePlane
