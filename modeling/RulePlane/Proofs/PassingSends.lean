import RulePlane.Proofs.ActingStreams

/-!
# What passes discovery streams by

Pushes, the requests of transport clients and the answers to other discovery clients are cut at
their sends, and each of them may be held up for a while. Whatever they go on with when they do,
nothing changes for the discovery streams but what is sent to them (`Passes`): no piece of it names
a stream, and none gives a slot or takes one.

A push is sent to those that held its target when its publication to the discovery clients began. To
any other stream it sends nothing, however long it is held up and whatever comes in between
(`within_publishingDiscovery_of_unheld`).
-/

namespace RulePlane

namespace Plane

/-- What passes all discovery streams by: none is named, and nothing changes for any of them. -/
structure Passes (before after : Plane) : Prop where
  wellNumbered : before.WellNumbered → after.WellNumbered
  opened : after.opened = before.opened
  sameFor : ∀ stream, SameFor stream before after

/-- Streams that are well numbered may be passed by again and again. -/
theorem lasting_passes : Lasting WellNumbered Passes where
  frame :=
    { refl := fun plane => ⟨id, rfl, (frame_keeps.refl plane).sameFor⟩
      trans := fun first second =>
        ⟨fun wellNumbered => second.wellNumbered (first.wellNumbered wellNumbered),
          second.opened.trans first.opened,
          fun stream => (first.sameFor stream).trans (second.sameFor stream)⟩ }
  lasts := fun wellNumbered passes => passes.wellNumbered wellNumbered

/-- Sending passes all streams by. -/
theorem Keeps.passes {before after : Plane} (keeps : Keeps before after) : Passes before after :=
  ⟨keeps.wellNumbered, keeps.opened, keeps.sameFor⟩

/-- What leaves all streams alone passes them by. -/
theorem Aside.passes {before after : Plane} (aside : Aside before after) : Passes before after where
  wellNumbered := aside.beside.wellNumbered
  opened := aside.opened
  sameFor stream :=
    { name := aside.beside.names stream
      slots := fun _ _ _ => by rw [aside.slots]
      names := by rw [watchedNames, aside.streams, watchedNames]
      kinds := aside.kinds
      valid := fun _ living => by
        rw [discoveryValid, aside.streams] at living
        exact living }

/-- A transport stream that is opened passes all discovery streams by. -/
theorem passes_openTransport (plane : Plane) (opened : StreamId) (capacity : Option Nat) :
    Passes plane
      { plane with transport := plane.transport.insert opened (.fresh none capacity) } :=
  Aside.passes ⟨id, rfl, rfl, rfl, rfl, rfl⟩

/-- Whatever only sends passes all streams by with each of its pieces. -/
theorem passes_of_keeps {α : Type} {activity : Activity Posting Plane α} {plane : Plane}
    (within : activity.Within (fun _ => True) Keeps (fun _ _ => True) plane) :
    activity.Within WellNumbered Passes (fun _ _ => True) plane :=
  within.mono (fun _ _ => trivial) (fun _ _ keeps => keeps.passes) (fun _ _ own => own)

/-- So does the handling of a transport request. -/
theorem passes_handlingTransport {plane : Plane} (wellNumbered : plane.WellNumbered)
    (stream : StreamId) (request : Transport.Request) :
    (plane.handlingTransport stream request).Within WellNumbered Passes (fun _ _ => True) plane :=
  (aside_handlingTransport wellNumbered.wellKept stream request).mono
    (fun _ wellNumbered => wellNumbered.wellKept) (fun _ _ aside => aside.passes)
    (fun _ _ _ => trivial)

/-- What comes of a name that is subscribed: either its target is added to the slots of the client,
    or no slot changes, because the name cannot be read, its kind is not supported or the stream was
    stopped. The rest is sending, piece by piece. -/
theorem subscribingDiscovery_cases {plane : Plane}
    (wellKept : plane.subscribers.watchers.WellKept) (stream : StreamId) (name : String) :
    ((plane.subscribingDiscovery stream name).Within (fun _ => True) Keeps (fun _ _ => True)
          plane ∧
        (plane.discoveryValid stream = true → ∀ target, Discovery.targetOf? name = some target →
          plane.subscribers.watchers.supports target.kind = false)) ∨
      ∃ target registry, Discovery.targetOf? name = some target ∧
        plane.subscribers.watchers.supports target.kind = true ∧
          plane.subscribers.discovery.add plane.discoveryValid target
            (plane.discoveryClient stream) stream = .ok registry ∧
          (plane.subscribingDiscovery stream name).Within (fun _ => True) Keeps (fun _ _ => True)
            (plane.withSlots registry) := by
  unfold subscribingDiscovery Discovery.targetOf?
  cases ResourceName.parse? name with
  | none => exact Or.inl ⟨frame_keeps.refl plane, by simp⟩
  | some parsed =>
    have outcomes := Subscribers.subscribe_cases wellKept plane.discoveryValid .discovery
      parsed.target (plane.discoveryClient stream) stream
    simp only [Option.map_some, Option.some.injEq]
    generalize plane.subscribers.subscribe plane.discoveryValid .discovery parsed.target
      (plane.discoveryClient stream) stream = outcome at outcomes
    obtain ⟨result, after⟩ := outcome
    rcases outcomes with ⟨unsupported, kept, fault, rfl⟩ | ⟨-, dead, kept, fault, rfl⟩ |
      ⟨supported, -, rfl, registered, registry, kept, added, rfl⟩
    · refine Or.inl ⟨.of_slots rfl rfl kept rfl rfl, ?_⟩
      rintro - _ rfl
      exact unsupported
    · refine Or.inl ⟨.of_slots rfl rfl kept rfl rfl, fun valid => ?_⟩
      exact absurd (dead.symm.trans valid) (by simp)
    · refine Or.inr ⟨parsed.target, registry, rfl, supported, added, ?_⟩
      have entered : Keeps (plane.withSlots registry)
          { plane with subscribers := registered.withRegistry .discovery registry } :=
        .of_slots rfl rfl ⟨kept.transport, rfl, kept.kinds, kept.wellKept⟩ rfl rfl
      dsimp only
      split
      · exact entered
      · refine Activity.Within.begun frame_keeps entered
          (Activity.Within.map lasting_keeps trivial ?_ _)
        exact (within_deliveringDiscovery stream _ _).mono (fun _ _ => trivial)
          (fun _ _ sends => sends.1) (fun _ _ _ => trivial)

/-- Whatever a stream that has a name subscribes, it passes all others by: it begins with a change
    of its own slots, and the rest is sending. -/
theorem exists_within_subscribingDiscovery {plane : Plane} (wellNumbered : plane.WellNumbered)
    {stream : StreamId} {client : ClientId} (named : plane.discoveryName? stream = some client)
    (name : String) :
    ∃ between : Plane, between.WellNumbered ∧
      (∀ other, stream ≠ other → SameFor other plane between) ∧
        (plane.subscribingDiscovery stream name).Within (fun _ => True) Keeps (fun _ _ => True)
          between := by
  rcases subscribingDiscovery_cases wellNumbered.wellKept stream name with
    ⟨sends, -⟩ | ⟨target, registry, -, -, added, sends⟩
  · exact ⟨plane, wellNumbered, fun other _ => (frame_keeps.refl plane).sameFor other, sends⟩
  · rw [discoveryClient_of_named named] at added
    refine ⟨plane.withSlots registry, wellNumbered.withSlots (wellNumbered.seated.add named added)
      (wellNumbered.listed.add added), fun other different => ?_, sends⟩
    refine sameFor_withSlots fun owner own tested => ?_
    have apart := wellNumbered.foreign different own named
    rw [Registry.connection?_add added, if_neg (fun filled => apart filled.2.1)]

/-- What a stream subscribes gives out no number. -/
theorem opened_subscribingDiscovery {plane : Plane}
    (wellKept : plane.subscribers.watchers.WellKept) (stream : StreamId) (name : String) :
    (plane.subscribingDiscovery stream name).reached.opened = plane.opened := by
  rcases subscribingDiscovery_cases wellKept stream name with
    ⟨sends, -⟩ | ⟨_, _, -, -, -, sends⟩ <;> exact sends.reached.opened

/-! ## Pushes that pass a stream by -/

/-- The record of a discovery stream is the same, with all that waits in its outbox. -/
def Skips (stream : StreamId) (before after : Plane) : Prop :=
  after.discovery.find? stream = before.discovery.find? stream

/-- A message is not sent on a discovery stream. -/
def NotOn (stream addressee : StreamId) (posting : Posting) : Prop :=
  ¬ OnDiscovery stream addressee posting

/-- A stream may be skipped again and again. -/
theorem lasting_skips (stream : StreamId) : Lasting (fun _ => True) (Skips stream) :=
  ⟨frame_of_same fun plane : Plane => plane.discovery.find? stream, fun _ _ => trivial⟩

/-- A push sends nothing to a stream that had no slot at its target when its publication to the
    discovery clients began, and changes nothing for it, whatever comes between its sends. -/
theorem within_publishingDiscovery_of_unheld {plane : Plane} {stream : StreamId} {push : Push}
    (unheld : ∀ client,
      plane.subscribers.discovery.connection? push.target client ≠ some stream) :
    (plane.publishingDiscovery push).Within (fun _ => True) (Skips stream) (NotOn stream)
      plane := by
  unfold publishingDiscovery
  split
  · rfl
  · rename_i clients holders
    refine Activity.within_fanOut (lasting_skips stream) _ _
      (fun connection member reached _ => ?_) trivial
    have slot := (Registry.mem_holders_iff holders connection).1 member
    have different : stream ≠ connection.2 := by
      rintro rfl
      exact unheld connection.1 slot
    unfold deliveringToDiscovery
    split
    · exact (within_deliveringDiscovery connection.2 push.rules reached).mono
        (fun _ _ => trivial) (fun _ _ sends => sends.2 stream different)
        (fun _ _ own on => different (on.1.symm.trans own.1))
    · rfl

/-- Putting a message elsewhere skips a stream. -/
theorem skips_attempt (plane : Plane) (millis : Nat) {stream addressee : StreamId}
    {posting : Posting} (elsewhere : NotOn stream addressee posting) :
    Skips stream plane (plane.attempt millis addressee posting).2 := by
  have offered : Skips stream plane (plane.offer addressee posting).2 := by
    unfold offer
    split
    · split <;> rfl
    · rename_i response
      have different : addressee ≠ stream := fun same => elsewhere ⟨same, response, rfl⟩
      split
      · rfl
      · exact (Table.find?_insert _ _ _ _).trans (if_neg different)
  change Skips stream plane (if (plane.offer addressee posting).1 = .timedOut then
    (plane.offer addressee posting).2.wait millis else (plane.offer addressee posting).2)
  split <;> exact offered

/-- A push as a whole for a target that a stream has no slot at skips it. -/
theorem find?_publishAll_of_unheld {plane : Plane} {stream : StreamId} {push : Push}
    (unheld : ∀ client,
      plane.subscribers.discovery.connection? push.target client ≠ some stream) :
    (plane.publishAll push).discovery.find? stream = plane.discovery.find? stream := by
  have sameSlots := (keeps_publishTransport plane push).subscribers.discovery
  have unheldStill (client : ClientId) :
      (plane.publishTransport push).2.subscribers.discovery.connection? push.target client ≠
        some stream := by
    rw [sameSlots]
    exact unheld client
  have attempts (millis : Nat) (addressee : StreamId) (posting : Posting) (reached : Plane)
      (elsewhere : NotOn stream addressee posting) :
      Skips stream reached (reached.attempt millis addressee posting).2 :=
    skips_attempt reached millis elsewhere
  change (publishDiscovery push (plane.publishTransport push).2).2.discovery.find? stream = _
  rw [← discovery_publishTransport plane push, ← complete_publishingDiscovery]
  exact Activity.Within.complete (lasting_skips stream) attempts trivial
    (within_publishingDiscovery_of_unheld unheldStill)

end Plane

end RulePlane
