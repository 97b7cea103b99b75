import RulePlane.Proofs.CountedPushes

/-!
# Slots of clients that watch something

A delivery to a discovery client is idle if its stream is in a slot and watches nothing. So what
matters is whether the slots of a stream keep up with the names that its client watches (`Covered`).
They do, with one exception: a session that is started anew without some of the names that were
watched leaves those over (`leftOver`), and their slots stay. Everything else that happens to a
stream, and everything that happens elsewhere, keeps all slots covered.

Along with this, requests and pushes are counted here: the handling of a request counts each of its
attempts and is never idle, since it subscribes only names that are watched by then
(`play_handlingDiscovery`); a push counts each of its attempts, and is never idle if all slots are
covered (`play_publishingAll`).
-/

namespace RulePlane

/-- The names that a request adds are watched behind it. -/
theorem Discovery.WatchList.subscribed_subset (list : WatchList) (request : Request) :
    ∀ name ∈ (list.take request).1.2.subscribed,
      name ∈ (list.take request).2.namesOf request.typeUrl := by
  intro name added
  rw [take_eq] at added ⊢
  cases meaning : list.verdict request <;> rw [meaning] at added
  case ignored => cases added
  case emptied => cases added
  case started => simpa [start, namesOf_insert] using added
  case acknowledged =>
    simp only [acknowledge, namesOf_insert, if_true, List.mem_filter] at added ⊢
    exact added.1

namespace Plane

variable {plane before after : Plane} {stream : StreamId} {client : ClientId}

/-! ## What is true of the slots -/

/-- The watchers are well kept, and the stream in a slot has the name of the slot. -/
structure Settled (plane : Plane) : Prop where
  wellKept : plane.KeptWell
  seated : plane.subscribers.discovery.SeatedBy plane.discoveryName?

/-- The client of a stream in a slot watches a name of the target, unless the stream is one that is
    about to leave the target. -/
def CoveredBut (plane : Plane) (actor : StreamId) (leaving : List String) : Prop :=
  ∀ target client stream, plane.subscribers.discovery.connection? target client = some stream →
    Discovery.Named (plane.watchedNames stream) target ∨
      (stream = actor ∧ Discovery.Named leaving target)

/-- The client of a stream in a slot watches a name of the target. -/
def Covered (plane : Plane) : Prop :=
  ∀ target client stream, plane.subscribers.discovery.connection? target client = some stream →
    Discovery.Named (plane.watchedNames stream) target

/-- A stream that has nothing to leave leaves nothing uncovered. -/
theorem CoveredBut.covered {actor : StreamId} (covered : plane.CoveredBut actor []) :
    plane.Covered := by
  intro target client stream slot
  refine (covered target client stream slot).resolve_right fun leaving => ?_
  exact Discovery.named_nil target leaving.2

/-- Before the first client all slots are settled and covered. -/
theorem settled_start (settings : PushSettings) (kinds : KindTable) (dispatcher : Dispatcher)
    (clock : UInt64) : (start settings kinds dispatcher clock).Settled :=
  ⟨Watchers.wellKept_ofKinds kinds, Registry.seatedBy_empty _⟩

/-- A client that watches a name watches something. -/
theorem watches_of_names {name : String} (watched : name ∈ plane.watchedNames stream) :
    plane.watches stream = true := by
  unfold watchedNames at watched
  unfold watches watched?
  cases present : plane.discovery.find? stream with
  | none =>
    rw [present] at watched
    cases watched
  | some found =>
    rw [present] at watched
    cases entry : found.watchList.watched? Discovery.typeUrl with
    | none => simp [Discovery.WatchList.namesOf, entry] at watched
    | some entry => simp [entry]

/-- If all slots are covered no delivery of a push is idle. -/
theorem Covered.idlePushes (covered : plane.Covered) (push : Push) (pattern : SendPattern) :
    plane.idlePushes push pattern = 0 := by
  refine idlePushes_eq_zero (fun client stream slot => ?_) pattern
  obtain ⟨name, watched, -⟩ := covered push.target client stream slot
  exact watches_of_names watched

/-- Slots stay settled, and covered ones stay covered. -/
structure Preserves (before after : Plane) : Prop where
  settled : before.Settled → after.Settled
  covered : before.Settled → before.Covered → after.Covered

/-- Slots may be preserved again and again. -/
theorem frame_preserves : Frame Preserves where
  refl _ := ⟨id, fun _ covered => covered⟩
  trans first second := ⟨fun settled => second.settled (first.settled settled),
    fun settled covered => second.covered (first.settled settled) (first.covered settled covered)⟩

/-- Slots are preserved if none is filled, no stream in a slot is renamed, and all watch what they
    watched. -/
theorem preserves_of_fewer (wellKept : before.KeptWell → after.KeptWell)
    (names : KeepsNames before after)
    (watched : ∀ stream, before.discoveryName? stream ≠ none →
      after.watchedNames stream = before.watchedNames stream)
    (fewer : ∀ target client stream,
      after.subscribers.discovery.connection? target client = some stream →
        before.subscribers.discovery.connection? target client = some stream) :
    Preserves before after where
  settled settled := ⟨wellKept settled.wellKept, (settled.seated.fewer fewer).renamed names⟩
  covered settled covered target client stream slot := by
    have earlier := fewer target client stream slot
    have named := settled.seated target client stream earlier
    rw [watched stream (by rw [named]; exact Option.some_ne_none client)]
    exact covered target client stream earlier

/-- Sending preserves slots. -/
theorem Keeps.preserves (keeps : Keeps before after) : Preserves before after := by
  refine preserves_of_fewer keeps.subscribers.wellKept keeps.beside.keepsNames
    (fun stream _ => keeps.watchedNames stream) fun target client stream slot => ?_
  rwa [keeps.subscribers.discovery] at slot

/-- What leaves discovery streams alone preserves their slots. -/
theorem Aside.preserves (aside : Aside before after) : Preserves before after := by
  refine preserves_of_fewer aside.wellKept (fun stream client named => ?_) (fun stream _ => ?_)
    fun target client stream slot => ?_
  · rwa [discoveryName?, aside.streams]
  · rw [watchedNames, aside.streams, watchedNames]
  · rwa [aside.slots] at slot

/-- A stream that is opened under a fresh number preserves slots. -/
theorem preserves_openDiscovery (absent : plane.discovery.find? stream = none)
    (capacity : Option Nat) : Preserves plane (plane.openDiscovery stream capacity) := by
  obtain ⟨names, watched⟩ := openDiscovery_frame absent capacity
  exact preserves_of_fewer id (fun tested client named => (names tested).trans named)
    (fun tested _ => watched tested) fun _ _ _ slot => slot

/-- Naming an open stream preserves slots. -/
theorem preserves_introduceDiscovery (present : (plane.discovery.find? stream).isSome = true)
    (request : Discovery.Request) :
    Preserves plane (plane.introduceDiscovery stream request) ∧
      ∃ client, (plane.introduceDiscovery stream request).discoveryName? stream = some client := by
  rcases plane.introduceDiscovery_cases stream request with
    ⟨client, named, introduced⟩ | ⟨unnamed, introduced⟩ <;> rw [introduced]
  · exact ⟨frame_preserves.refl plane, client, named⟩
  · refine ⟨?_, _, (discoveryName?_nameDiscovery present request stream).trans (if_pos rfl)⟩
    refine preserves_of_fewer id (keepsNames_nameDiscovery present unnamed request)
      (fun tested _ => ?_) fun _ _ _ slot => slot
    by_cases same : stream = tested
    · rw [← same, watchedNames_nameDiscovery]
    · exact (sameFor_nameDiscovery present same request).names

/-- The end of a stream preserves slots. -/
theorem preserves_finishDiscovery (plane : Plane) (stream : StreamId) :
    Preserves plane (plane.finishDiscovery stream) := by
  rcases plane.finishDiscovery_cases stream with ⟨-, keeps⟩ | ⟨client, -, keeps⟩
  · exact keeps.preserves
  · have emptied : Preserves plane
        (plane.withSlots (plane.subscribers.discovery.removeClient client).2) :=
      preserves_of_fewer id (frame_keepsNames.refl plane) (fun _ _ => rfl)
        fun _ _ _ => Registry.connection?_of_removeClient
    exact frame_preserves.trans emptied keeps.preserves

/-! ## Requests -/

/-- The names that a request leaves over: watched so far, and not left although they are not watched
    any more. -/
def leftOver (plane : Plane) (stream : StreamId) (request : Discovery.Request) : List String :=
  if request.typeUrl = Discovery.typeUrl then
    ((plane.watchList? stream).map fun list => list.leftOver request []).getD []
  else []

/-- What comes of a name that is subscribed while its client watches something, however the sends
    end: every attempt is counted; and either the target is added to the slots of the client, or no
    slot changes. The rest is sending. -/
theorem play_subscribingDiscovery_cases (kept : plane.KeptWell)
    (watching : plane.watches stream = true) (name : String) (pattern : SendPattern) :
    let played := (plane.subscribingDiscovery stream name).play land pattern
    Tallies plane played.state played.attempts 0 ∧
      (Keeps plane played.state ∨
        ∃ target registry, Discovery.targetOf? name = some target ∧
          plane.subscribers.discovery.add plane.discoveryValid target
            (plane.discoveryClient stream) stream = .ok registry ∧
          Keeps (plane.withSlots registry) played.state) := by
  unfold subscribingDiscovery Discovery.targetOf?
  cases ResourceName.parse? name with
  | none => exact ⟨⟨rfl, rfl⟩, Or.inl (frame_keeps.refl plane)⟩
  | some parsed =>
    have outcomes := Subscribers.subscribe_cases kept plane.discoveryValid .discovery
      parsed.target (plane.discoveryClient stream) stream
    simp only [Option.map_some, Option.some.injEq]
    generalize plane.subscribers.subscribe plane.discoveryValid .discovery parsed.target
      (plane.discoveryClient stream) stream = outcome at outcomes
    obtain ⟨result, subscribers⟩ := outcome
    rcases outcomes with ⟨-, kept, fault, rfl⟩ | ⟨-, -, kept, fault, rfl⟩ |
      ⟨-, -, rfl, registered, registry, kept, added, rfl⟩
    · exact ⟨⟨rfl, rfl⟩, Or.inl (.of_slots rfl rfl kept rfl rfl)⟩
    · exact ⟨⟨rfl, rfl⟩, Or.inl (.of_slots rfl rfl kept rfl rfl)⟩
    · have entered : Keeps (plane.withSlots registry)
          { plane with subscribers := registered.withRegistry .discovery registry } :=
        .of_slots rfl rfl ⟨kept.transport, rfl, kept.kinds, kept.wellKept⟩ rfl rfl
      dsimp only
      split
      · exact ⟨⟨rfl, rfl⟩, Or.inr ⟨parsed.target, registry, rfl, added, entered⟩⟩
      · rw [Activity.play_map]
        have still : ({ plane with subscribers := registered.withRegistry .discovery registry } :
            Plane).watches stream = true := watching
        obtain ⟨-, tallies⟩ := play_deliveringDiscovery_of_watched still
          (Watchers.rules _ parsed.kind parsed.target.app).1 pattern
        obtain ⟨sends, -⟩ := sendsOn_deliveringDiscovery stream
          (Watchers.rules _ parsed.kind parsed.target.app).1 _ pattern
        exact ⟨tallies.begun rfl, Or.inr ⟨parsed.target, registry, rfl, added,
          frame_keeps.trans entered sends.1⟩⟩

/-- A stream that has a name and whose client watches some names may subscribe them. -/
structure Entering (stream : StreamId) (client : ClientId) (names : List String) (plane : Plane) :
    Prop where
  settled : plane.Settled
  named : plane.discoveryName? stream = some client
  watched : ∀ name ∈ names, name ∈ plane.watchedNames stream

/-- Subscribing names that are watched is counted, and preserves slots: one that is filled is for a
    target of a name that is watched. -/
theorem play_entering {names : List String} (entering : plane.Entering stream client names)
    (pattern : SendPattern) :
    let played := (Activity.each (subscribingDiscovery stream) names plane).play land pattern
    Tallies plane played.state played.attempts 0 ∧ played.state.Settled ∧
      (plane.Covered → played.state.Covered) := by
  induction names generalizing plane pattern with
  | nil => exact ⟨⟨rfl, rfl⟩, entering.settled, id⟩
  | cons name rest inductionHypothesis =>
    have own := entering.watched name List.mem_cons_self
    have ⟨settled, named, watched⟩ := entering
    rw [Activity.play_each_cons]
    dsimp only
    obtain ⟨tallies, outcome⟩ :=
      play_subscribingDiscovery_cases settled.wellKept (watches_of_names own) name pattern
    generalize (plane.subscribingDiscovery stream name).play land pattern = played
      at tallies outcome
    have behind : Entering stream client rest played.state ∧
        (plane.Covered → played.state.Covered) := by
      rcases outcome with keeps | ⟨target, registry, asks, added, keeps⟩
      · refine ⟨⟨keeps.preserves.settled settled, ?_, ?_⟩, keeps.preserves.covered settled⟩
        · exact (keeps.discoveryName? stream).trans named
        · intro other listed
          rw [keeps.watchedNames]
          exact watched other (List.mem_cons_of_mem name listed)
      · rw [discoveryClient_of_named named] at added
        have filled : (plane.withSlots registry).Settled :=
          ⟨settled.wellKept, settled.seated.add named added⟩
        refine ⟨⟨keeps.preserves.settled filled, ?_, ?_⟩, fun covered => ?_⟩
        · exact (keeps.discoveryName? stream).trans named
        · intro other listed
          rw [keeps.watchedNames]
          exact watched other (List.mem_cons_of_mem name listed)
        · refine keeps.preserves.covered filled fun tested owner holder slot => ?_
          change registry.connection? tested owner = some holder at slot
          rw [Registry.connection?_add added] at slot
          split at slot
          · rename_i filled
            obtain ⟨rfl, -, -⟩ := filled
            obtain rfl := Option.some.inj slot
            exact ⟨name, own, asks⟩
          · exact covered tested owner holder slot
    obtain ⟨rest, settled, covered⟩ :=
      inductionHypothesis behind.1 (pattern.after played.attempts)
    exact ⟨tallies.append rest, settled, fun before => covered (behind.2 before)⟩

/-- Leaving names changes no stream, is not counted, and takes the slots away that the stream has at
    their targets. -/
theorem leaving_frame (settled : plane.Settled) (named : plane.discoveryName? stream = some client)
    (names : List String) :
    let left := names.foldl (unsubscribeDiscovery stream) plane
    left.Settled ∧ left.discovery = plane.discovery ∧
      left.discoveryCounts = plane.discoveryCounts ∧
        (plane.CoveredBut stream names → left.Covered) := by
  induction names generalizing plane with
  | nil => exact ⟨settled, rfl, rfl, CoveredBut.covered⟩
  | cons name rest inductionHypothesis =>
    have streams : (plane.unsubscribeDiscovery stream name).discovery = plane.discovery ∧
        (plane.unsubscribeDiscovery stream name).discoveryCounts = plane.discoveryCounts := by
      unfold unsubscribeDiscovery
      split <;> exact ⟨rfl, rfl⟩
    have still : (plane.unsubscribeDiscovery stream name).discoveryName? stream = some client := by
      rw [discoveryName?, streams.1]
      exact named
    have left : (plane.unsubscribeDiscovery stream name).Settled ∧
        (plane.CoveredBut stream (name :: rest) →
          (plane.unsubscribeDiscovery stream name).CoveredBut stream rest) := by
      rcases plane.unsubscribeDiscovery_cases stream name with
        ⟨unread, keeps⟩ | ⟨target, asks, keeps⟩
      · refine ⟨keeps.preserves.settled settled, fun covered tested owner holder slot => ?_⟩
        rw [keeps.subscribers.discovery] at slot
        rw [keeps.watchedNames]
        refine (covered tested owner holder slot).imp id fun leaving => ⟨leaving.1, ?_⟩
        exact ((Discovery.named_cons_iff _ _ _).1 leaving.2).resolve_left (by simp [unread])
      · rw [discoveryClient_of_named named] at keeps
        have emptied : (plane.withSlots
            (plane.subscribers.discovery.remove target client).2).Settled :=
          ⟨settled.wellKept, settled.seated.fewer fun _ _ _ => Registry.connection?_of_remove⟩
        refine ⟨keeps.preserves.settled emptied, fun covered tested owner holder slot => ?_⟩
        rw [keeps.subscribers.discovery] at slot
        rw [keeps.watchedNames]
        have earlier := Registry.connection?_of_remove slot
        refine (covered tested owner holder earlier).imp id fun leaving => ⟨leaving.1, ?_⟩
        refine ((Discovery.named_cons_iff _ _ _).1 leaving.2).resolve_left fun same => ?_
        -- The slots of the stream are under its own name, and that one was emptied.
        obtain rfl : target = tested := Option.some.inj (asks.symm.trans same)
        have owned := settled.seated target owner holder earlier
        obtain rfl : client = owner := by
          rw [leaving.1] at owned
          exact Option.some.inj (named.symm.trans owned)
        change (plane.subscribers.discovery.remove target client).2.connection? target client =
          some holder at slot
        rw [Registry.connection?_remove, if_pos ⟨rfl, rfl⟩] at slot
        cases slot
    obtain ⟨after, same, counts, covered⟩ := inductionHypothesis left.1 still
    exact ⟨after, same.trans streams.1, counts.trans streams.2,
      fun before => covered (left.2 before)⟩

/-- A request that is checked leaves all slots settled. The names that it adds are watched, and if
    it leaves no names over, all slots stay covered but those of the names that it removes. -/
theorem takeDiscovery_covers (settled : plane.Settled)
    (named : plane.discoveryName? stream = some client) {request : Discovery.Request}
    (served : request.typeUrl = Discovery.typeUrl) :
    let taken := plane.takeDiscovery stream request
    taken.2.Settled ∧ taken.2.discoveryName? stream = some client ∧
      taken.2.discoveryCounts = plane.discoveryCounts ∧
        (∀ name ∈ taken.1.2.subscribed, name ∈ taken.2.watchedNames stream) ∧
          (plane.leftOver stream request = [] → plane.Covered →
            taken.2.CoveredBut stream taken.1.2.unsubscribed) := by
  obtain ⟨found, present, -⟩ := Option.bind_eq_some_iff.1 named
  obtain ⟨subscribers, -, names, -, others⟩ := plane.takeDiscovery_frame stream request
  obtain ⟨answer, watched⟩ := takeDiscovery_of_present present request
  have added := found.watchList.subscribed_subset request
  have before : plane.watchedNames stream = found.watchList.namesOf request.typeUrl := by
    simp [watchedNames, present, served]
  have accounts := found.watchList.take_accounts request [] (List.forall_mem_nil _)
  rw [served, ← watched] at added
  rw [← before, served, ← watched] at accounts
  refine ⟨⟨?_, ?_⟩, (names stream).trans named, ?_, ?_, fun nothing covered => ?_⟩
  · unfold KeptWell
    rw [subscribers]
    exact settled.wellKept
  · rw [subscribers, funext names]
    exact settled.seated
  · unfold takeDiscovery
    split <;> rfl
  · rw [answer]
    exact added
  · intro target owner holder slot
    rw [subscribers] at slot
    obtain ⟨name, watches, asks⟩ := covered target owner holder slot
    by_cases same : holder = stream
    · subst same
      have none : found.watchList.leftOver request [] = [] := by
        simpa [leftOver, served, watchList?, present] using nothing
      rw [none, answer.symm] at accounts
      by_cases removed : name ∈ (plane.takeDiscovery holder request).1.2.unsubscribed
      · exact Or.inr ⟨rfl, name, removed, asks⟩
      · refine Or.inl ⟨name, ?_, asks⟩
        simpa using (accounts.1 name).2 (Or.inl ⟨Or.inl watches, removed⟩)
    · rw [others holder same]
      exact Or.inl ⟨name, watches, asks⟩

/-- The handling of a request counts every attempt, and no delivery is idle. Slots stay settled, and
    covered if the request leaves no names over. -/
theorem play_handlingDiscovery (settled : plane.Settled)
    (named : plane.discoveryName? stream = some client) (request : Discovery.Request)
    (pattern : SendPattern) :
    let played := (plane.handlingDiscovery stream request).play land pattern
    Tallies plane played.state played.attempts 0 ∧ played.state.Settled ∧
      (plane.leftOver stream request = [] → plane.Covered → played.state.Covered) := by
  unfold handlingDiscovery
  split
  · rename_i served
    obtain ⟨taken, still, counts, added, covered⟩ := takeDiscovery_covers settled named served
    generalize plane.takeDiscovery stream request = answer at taken still counts added covered
    obtain ⟨⟨respond, changes⟩, reached⟩ := answer
    obtain ⟨left, same, unchanged, uncovers⟩ := leaving_frame taken still changes.unsubscribed
    dsimp only at counts added covered ⊢
    generalize changes.unsubscribed.foldl (unsubscribeDiscovery stream) reached = behind
      at left same unchanged uncovers
    split
    · have entering : behind.Entering stream client changes.subscribed := by
        refine ⟨left, ?_, fun name listed => ?_⟩
        · rw [discoveryName?, same]
          exact still
        · rw [watchedNames, same]
          exact added name listed
      obtain ⟨tallies, after, covers⟩ := play_entering entering pattern
      exact ⟨tallies.begun (unchanged.trans counts), after,
        fun nothing before => covers (uncovers (covered nothing before))⟩
    · exact ⟨tallies_of_same (unchanged.trans counts) (List.forall_mem_nil _), left,
        fun nothing before => uncovers (covered nothing before)⟩
  · exact ⟨⟨rfl, rfl⟩, settled, fun _ covered => covered⟩

/-! ## Pushes -/

/-- How many deliveries to discovery clients are idle when a push is published by both protocols. -/
def idleDeliveries (plane : Plane) (push : Push) (pattern : SendPattern) : Nat :=
  let first := (plane.publishingTransport push).play land pattern
  first.state.idlePushes push (pattern.after first.attempts)

/-- Publishing a push counts every attempt to send to a discovery client, and the idle deliveries,
    of which there are none if all slots are covered. It preserves slots. -/
theorem play_publishingAll (settled : plane.Settled) (push : Push) (pattern : SendPattern) :
    let played := (plane.publishingAll push).play land pattern
    Tallies plane played.state played.attempts (plane.idleDeliveries push pattern) ∧
      Preserves plane played.state ∧
        (plane.Covered → plane.idleDeliveries push pattern = 0) := by
  unfold publishingAll idleDeliveries
  rw [Activity.play_bind]
  simp only [Activity.play_map]
  obtain ⟨aside, silent⟩ := (aside_publishingTransport push plane).play lasting_aside
    aside_land settled.wellKept pattern
  generalize (plane.publishingTransport push).play land pattern = first at aside silent
  have reached := aside.preserves.settled settled
  have tallies := tallies_publishingDiscovery reached.seated push (pattern.after first.attempts)
  obtain ⟨keeps, -⟩ := (within_publishingDiscovery push first.state).play lasting_keeps
    (fun millis made state _ => keeps_land millis made state) trivial (pattern.after first.attempts)
  have together := (tallies_of_same aside.counts silent).append tallies
  rw [Nat.zero_add] at together
  refine ⟨together, frame_preserves.trans aside.preserves keeps.preserves, fun covered => ?_⟩
  exact (aside.preserves.covered settled covered).idlePushes push _

end Plane

end RulePlane
