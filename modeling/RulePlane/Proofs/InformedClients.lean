import RulePlane.Proofs.Dialogue

/-!
# Informed clients

Whoever holds a target is up to date with it, unless its subscription is still to be dealt with or a
push of the target is under way. `Dialogue.Informed` is the invariant that says so, together with
what it rests on: who wants a target of a supported kind holds it, the pushes that wait carry the
current rules, and a request is handled in the name of its stream.

There is one law for each thing that may happen; here are those for opening a stream and for
requests. Two streams of one name share their slots, so the names of the streams that are open have
to differ; and a delivery that fails is lost, so none may be counted.
-/

namespace RulePlane

namespace Dialogue

variable {dialogue after : Dialogue}

/-- What holds whenever a target has been dealt with or a push has been delivered. -/
structure Informed (dialogue : Dialogue) : Prop where
  sound : dialogue.plane.Sound
  running : dialogue.plane.dispatcher.stopped = false
  present : ∀ stream client, dialogue.plane.transportClient? stream = some client →
    dialogue.plane.transportValid stream = true → stream ∉ dialogue.ended
  /-- A request is handled in the name of its stream, while no push is under way. -/
  serving : ∀ handling, dialogue.handling = some handling →
    handling.stream ∉ dialogue.ended ∧
      dialogue.plane.transportClient? handling.stream = some handling.client ∧
        ∀ target, ¬ dialogue.Pending target
  leaving : ∀ handling, dialogue.handling = some handling → handling.operation = .unsubscribe →
    ∀ target ∈ handling.targets, Entry.wants target (dialogue.log handling.stream) = false
  /-- The pushes that wait carry the current rules. -/
  current : ∀ worker, ∀ push ∈ dialogue.plane.dispatcher.queue worker,
    push = dialogue.plane.currentPush push.target.kind push.target.app
  /-- Who wants a target of a supported kind holds it. -/
  wanted : ∀ stream target, Entry.wants target (dialogue.log stream) = true →
    ∃ client, dialogue.plane.transportClient? stream = some client ∧
      (dialogue.plane.transportValid stream = true →
        dialogue.plane.subscribers.watchers.supports target.kind = true →
          dialogue.Awaits stream target ∨ dialogue.plane.slot? target client = some stream)
  fresh : ∀ stream target, dialogue.Awaits stream target →
    Entry.heard target (dialogue.log stream) = none ∨
      dialogue.plane.subscribers.watchers.hasTarget target = true ∧
        dialogue.plane.UpToDate target (Entry.heard target (dialogue.log stream))
  /-- Who holds a target is up to date with it. -/
  told : ∀ target client stream, dialogue.plane.slot? target client = some stream →
    dialogue.plane.transportValid stream = true →
      dialogue.Awaits stream target ∨ dialogue.Pending target ∨
        dialogue.plane.UpToDate target (Entry.heard target (dialogue.log stream))

/-- Before the first stream is opened everybody is informed. -/
theorem informed_start (settings : PushSettings) (kinds : KindTable) (workers capacity : Nat)
    (clock : UInt64) :
    (start (Plane.start settings kinds (.ofSizes workers capacity) clock)).Informed where
  sound := Plane.sound_start settings kinds _ clock
  running := rfl
  present := nofun
  serving := nofun
  leaving := nofun
  current := nofun
  wanted := nofun
  fresh := nofun
  told := nofun

/-- Who wanted a target and holds it, or is about to, does so after a step that does not take the
    slot away. -/
theorem Informed.wanted_of_retains (informed : dialogue.Informed) {lost : Target → ClientId → Prop}
    (retains : Plane.Retains lost dialogue.plane after.plane)
    (supports : ∀ kind, after.plane.subscribers.watchers.supports kind =
      dialogue.plane.subscribers.watchers.supports kind)
    {stream : StreamId} {target : Target}
    (wants : Entry.wants target (dialogue.log stream) = true)
    (spared : ∀ client, dialogue.plane.transportClient? stream = some client →
      after.plane.transportValid stream = true → ¬ lost target client)
    (settled : ∀ client, dialogue.plane.transportClient? stream = some client →
      after.plane.transportValid stream = true →
        dialogue.plane.subscribers.watchers.supports target.kind = true →
          dialogue.Awaits stream target →
            after.Awaits stream target ∨ after.plane.slot? target client = some stream) :
    ∃ client, after.plane.transportClient? stream = some client ∧
      (after.plane.transportValid stream = true →
        after.plane.subscribers.watchers.supports target.kind = true →
          after.Awaits stream target ∨ after.plane.slot? target client = some stream) := by
  obtain ⟨-, names, slots⟩ := retains informed.sound.wellSeated
  obtain ⟨client, named, holds⟩ := informed.wanted stream target wants
  obtain ⟨stillNamed, lived⟩ := names stream client named
  refine ⟨client, stillNamed, fun valid supported => ?_⟩
  rw [supports] at supported
  rcases holds (lived valid) supported with awaits | seated
  · exact settled client named valid supported awaits
  · exact Or.inr (slots target client stream (spared client named valid) seated valid)

/-- A step that only sends keeps everybody informed, if those to whom it sends stay up to date. -/
theorem Informed.sent (informed : dialogue.Informed)
    (keeps : Plane.Keeps dialogue.plane after.plane)
    (subscribers : after.plane.subscribers = dialogue.plane.subscribers)
    (ended : after.ended = dialogue.ended) (handling : after.handling = dialogue.handling)
    (wants : ∀ stream target, Entry.wants target (after.log stream) =
      Entry.wants target (dialogue.log stream))
    (running : after.plane.dispatcher.stopped = false)
    (current : ∀ worker, ∀ push ∈ after.plane.dispatcher.queue worker,
      push = dialogue.plane.currentPush push.target.kind push.target.app)
    (pending : ∀ target, after.Pending target → dialogue.Pending target)
    (fresh : ∀ stream target, dialogue.Awaits stream target →
      Entry.heard target (after.log stream) = Entry.heard target (dialogue.log stream))
    (told : ∀ target client stream, dialogue.plane.slot? target client = some stream →
      after.plane.transportValid stream = true →
        dialogue.Pending target ∨
          dialogue.plane.UpToDate target (Entry.heard target (dialogue.log stream)) →
        after.Pending target ∨
          after.plane.UpToDate target (Entry.heard target (after.log stream))) :
    after.Informed := by
  have awaits (stream : StreamId) (target : Target) :
      after.Awaits stream target ↔ dialogue.Awaits stream target := by
    unfold Awaits
    rw [handling]
  have rules (target : Target) : after.plane.rulesOf target = dialogue.plane.rulesOf target :=
    Plane.rulesOf_of_same subscribers target
  refine ⟨informed.sound.kept keeps ?_, running, ?_, ?_, ?_, ?_, ?_, ?_, ?_⟩
  · rw [subscribers]
    exact informed.sound.accounts
  · intro stream client named valid
    rw [ended]
    exact informed.present stream client ((keeps.transportClient? stream).symm.trans named)
      (keeps.transportValid stream valid)
  · intro handled being
    obtain ⟨opened, named, quiet⟩ := informed.serving handled (handling ▸ being)
    refine ⟨ended ▸ opened, (keeps.transportClient? _).trans named, fun target waits => ?_⟩
    exact quiet target (pending target waits)
  · intro handled being left target listed
    rw [wants]
    exact informed.leaving handled (handling ▸ being) left target listed
  · intro worker push waits
    have carried := current worker push waits
    rwa [Plane.currentPush, ← subscribers] at carried
  · intro stream target wanted
    rw [wants] at wanted
    have retains : Plane.Retains (fun _ _ => False) dialogue.plane after.plane := keeps.retains
    refine informed.wanted_of_retains retains (fun kind => ?_) wanted (fun _ _ _ => id)
      (fun _ _ _ _ waits => Or.inl ((awaits stream target).2 waits))
    rw [subscribers]
  · intro stream target waits
    have before := (awaits stream target).1 waits
    rw [fresh stream target before, subscribers]
    rcases informed.fresh stream target before with silent | ⟨tracked, upToDate⟩
    · exact Or.inl silent
    · exact Or.inr ⟨tracked, upToDate.of_same (rules target)⟩
  · intro target client stream seated valid
    have before := (keeps.slot? target client).symm.trans seated
    rcases informed.told target client stream before (keeps.transportValid stream valid) with
      waits | state
    · exact Or.inl ((awaits stream target).2 waits)
    · exact Or.inr (told target client stream before valid state)

/-- Opening a stream. -/
theorem Informed.opening (informed : dialogue.Informed) {stream : StreamId}
    (absent : dialogue.plane.transport.find? stream = none) (capacity : Option Nat) :
    (dialogue.openStream stream capacity).Informed := by
  have others {tested : StreamId} (different : tested ≠ stream) :
      (dialogue.plane.transport.insert stream (.fresh none capacity)).find? tested =
        dialogue.plane.transport.find? tested := by
    rw [Table.find?_insert, if_neg (Ne.symm different)]
  have unnamed {client : ClientId}
      (named : dialogue.plane.transportClient? stream = some client) : False := by
    simp [Plane.transportClient?, absent] at named
  have retains : Plane.Retains (fun _ _ => False) dialogue.plane
      (dialogue.openStream stream capacity).plane := Plane.retains_opening absent capacity
  obtain ⟨wellSeated, names, -⟩ := retains informed.sound.wellSeated
  have log {tested : StreamId} (different : tested ≠ stream) :
      (dialogue.openStream stream capacity).log tested = dialogue.log tested := if_neg different
  have blank : (dialogue.openStream stream capacity).log stream = [] := if_pos rfl
  refine ⟨⟨informed.sound.accounts, wellSeated⟩, informed.running, ?_, ?_, ?_, informed.current,
    ?_, ?_, ?_⟩
  · intro tested client named valid
    by_cases same : tested = stream
    · subst same
      simp [openStream, Plane.transportClient?, TransportStream.fresh] at named
    · simp only [openStream, Plane.transportClient?, Plane.transportValid, others same]
        at named valid
      exact informed.present tested client named valid
  · intro handling being
    obtain ⟨stays, named, quiet⟩ := informed.serving handling being
    exact ⟨stays, (names _ _ named).1, quiet⟩
  · intro handling being left target listed
    have different : handling.stream ≠ stream := by
      rintro rfl
      exact unnamed (informed.serving handling being).2.1
    rw [log different]
    exact informed.leaving handling being left target listed
  · intro tested target wanted
    by_cases same : tested = stream
    · rw [same, blank] at wanted
      cases wanted
    · rw [log same] at wanted
      exact informed.wanted_of_retains retains (fun _ => rfl) wanted (fun _ _ _ => id)
        (fun _ _ _ _ waits => Or.inl waits)
  · intro tested target waits
    obtain ⟨handling, being, subscribing, own, listed⟩ := waits
    have different : tested ≠ stream := by
      rintro rfl
      exact unnamed (own ▸ (informed.serving handling being).2.1)
    rw [log different]
    exact informed.fresh tested target ⟨handling, being, subscribing, own, listed⟩
  · intro target client tested seated valid
    have different : tested ≠ stream := by
      rintro rfl
      exact unnamed (informed.sound.wellSeated.named _ _ _ seated)
    simp only [openStream, Plane.transportValid, others different] at valid
    rw [log different]
    exact informed.told target client tested seated valid

/-- Naming a stream that is open. -/
theorem Informed.name (informed : dialogue.Informed) {stream : StreamId}
    (opened : stream ∉ dialogue.ended) (identifier : String) :
    (dialogue.name stream identifier).2.Informed := by
  obtain ⟨untouched, valid, names, -⟩ :=
    Plane.nameTransport_frame dialogue.plane stream identifier
  obtain ⟨-, others, undisturbed, -⟩ :=
    Plane.nameTransport_spares dialogue.plane stream identifier
  have subscribers : (dialogue.name stream identifier).2.plane.subscribers =
      dialogue.plane.subscribers := untouched
  have dispatcher : (dialogue.name stream identifier).2.plane.dispatcher =
      dialogue.plane.dispatcher := undisturbed
  have retains : Plane.Retains (fun _ _ => False) dialogue.plane
      (dialogue.name stream identifier).2.plane :=
    Plane.retains_nameTransport dialogue.plane stream identifier
  have pending (target : Target) :
      (dialogue.name stream identifier).2.Pending target ↔ dialogue.Pending target :=
    pending_iff_of_same dispatcher rfl target
  have rules (target : Target) : (dialogue.name stream identifier).2.plane.rulesOf target =
      dialogue.plane.rulesOf target := Plane.rulesOf_of_same subscribers target
  refine ⟨⟨?_, (retains informed.sound.wellSeated).1⟩, ?_, ?_, ?_, informed.leaving, ?_, ?_, ?_,
    ?_⟩
  · rw [subscribers]
    exact informed.sound.accounts
  · rw [dispatcher]
    exact informed.running
  · intro tested client named living
    by_cases same : tested = stream
    · exact same ▸ opened
    · exact informed.present tested client ((others tested (Ne.symm same)).symm.trans named)
        ((valid tested).symm.trans living)
  · intro handling being
    obtain ⟨stays, named, quiet⟩ := informed.serving handling being
    exact ⟨stays, names _ _ named, fun target waits => quiet target ((pending target).1 waits)⟩
  · intro worker push waits
    rw [dispatcher] at waits
    rw [Plane.currentPush, subscribers]
    exact informed.current worker push waits
  · intro tested target wanted
    refine informed.wanted_of_retains retains (fun kind => ?_) wanted (fun _ _ _ => id)
      (fun _ _ _ _ waits => Or.inl waits)
    rw [subscribers]
  · intro tested target waits
    rcases informed.fresh tested target waits with silent | ⟨tracked, upToDate⟩
    · exact Or.inl silent
    · refine Or.inr ⟨?_, upToDate.of_same (rules target)⟩
      rw [subscribers]
      exact tracked
  · intro target client tested seated living
    rw [Plane.slot?, subscribers] at seated
    rcases informed.told target client tested seated ((valid tested).symm.trans living) with
      waits | waits | upToDate
    · exact Or.inl waits
    · exact Or.inr (Or.inl ((pending target).2 waits))
    · exact Or.inr (Or.inr (upToDate.of_same (rules target)))

/-- Answering a malformed request. -/
theorem Informed.refuse (informed : dialogue.Informed) (stream : StreamId)
    (controlPlane requestId : String) (fault : Transport.RequestError) :
    (dialogue.advance (Plane.transportChannels.send stream
      (.malformed controlPlane requestId fault) dialogue.plane).2).Informed := by
  have spares (target : Target) (tested : StreamId) :=
    Plane.spares_send (Transport.Response.rulesFor?_malformed controlPlane requestId fault target)
      stream tested dialogue.plane
  obtain ⟨subscribers, undisturbed⟩ := Prod.mk.inj
    (Plane.backdrop_send stream (.malformed controlPlane requestId fault) dialogue.plane)
  have keeps := Plane.frame_keeps.send (Plane.transportChannels_keeps stream)
    (.malformed controlPlane requestId fault) dialogue.plane
  generalize (Plane.transportChannels.send stream (.malformed controlPlane requestId fault)
    dialogue.plane).2 = plane at spares subscribers undisturbed keeps ⊢
  have dispatcher : (dialogue.advance plane).plane.dispatcher = dialogue.plane.dispatcher :=
    undisturbed
  have pending (target : Target) :
      (dialogue.advance plane).Pending target ↔ dialogue.Pending target :=
    pending_iff_of_same dispatcher rfl target
  refine informed.sent keeps subscribers rfl rfl (wants_advance dialogue _) ?_ ?_
    (fun target => (pending target).1) ?_ ?_
  · rw [dispatcher]
    exact informed.running
  · intro worker push waits
    rw [dispatcher] at waits
    exact informed.current worker push waits
  · intro tested target _
    exact heard_advance_of_spares (spares target tested)
  · rintro target client tested - - (waits | upToDate)
    · exact Or.inl ((pending target).2 waits)
    · refine Or.inr (upToDate_advance ((spares target tested).informs ?_) upToDate)
      exact Plane.rulesOf_of_same subscribers target

/-- Noting a request of an open stream, when everything before it is dealt with. -/
theorem Informed.begin (informed : dialogue.Informed) (idle : dialogue.isIdle = true)
    (handling : Handling) (opened : handling.stream ∉ dialogue.ended)
    (named : dialogue.plane.transportClient? handling.stream = some handling.client) :
    (dialogue.begin handling).Informed := by
  have kept {stream : StreamId} {target : Target}
      (spared : ¬(dialogue.begin handling).Awaits stream target) :
      Entry.heard target ((dialogue.begin handling).log stream) =
        Entry.heard target (dialogue.log stream) := by
    change Entry.heard target (if stream = handling.stream then _ else _) = _
    split
    · rename_i own
      rw [Entry.heard_request, if_neg]
      rintro ⟨subscribing, listed⟩
      exact spared ⟨handling, rfl, subscribing, own.symm, listed⟩
    · rfl
  refine ⟨informed.sound, informed.running, informed.present, ?_, ?_, informed.current, ?_, ?_, ?_⟩
  · rintro _ ⟨⟩
    have quiet := fun target => not_pending_of_idle idle target
    exact ⟨opened, named, quiet⟩
  · rintro _ ⟨⟩ left target listed
    change Entry.wants target (if handling.stream = handling.stream then _ else _) = false
    rw [if_pos rfl, left, Entry.wants_unsubscribe]
    simp [listed]
  · intro stream target wanted
    by_cases awaits : (dialogue.begin handling).Awaits stream target
    · obtain ⟨_, ⟨⟩, -, own, -⟩ := id awaits
      exact ⟨handling.client, own ▸ named, fun _ _ => Or.inl awaits⟩
    · have before : Entry.wants target (dialogue.log stream) = true := by
        change Entry.wants target (if stream = handling.stream then _ else _) = true at wanted
        split at wanted
        · rename_i own
          cases operation : handling.operation with
          | subscribe =>
            rw [operation, Entry.wants_subscribe, Bool.or_eq_true, decide_eq_true_eq] at wanted
            rcases wanted with listed | before
            · exact absurd ⟨handling, rfl, operation, own.symm, listed⟩ awaits
            · exact before
          | unsubscribe =>
            rw [operation, Entry.wants_unsubscribe, Bool.and_eq_true] at wanted
            exact wanted.2
        · exact wanted
      obtain ⟨client, called, holds⟩ := informed.wanted stream target before
      refine ⟨client, called, fun valid supported => Or.inr ?_⟩
      exact (holds valid supported).resolve_left (not_awaits_of_idle idle stream target)
  · intro stream target awaits
    obtain ⟨_, ⟨⟩, subscribing, own, listed⟩ := id awaits
    left
    change Entry.heard target (if stream = handling.stream then _ else _) = none
    rw [if_pos own.symm, Entry.heard_request, if_pos ⟨subscribing, listed⟩]
  · intro target client stream seated valid
    by_cases awaits : (dialogue.begin handling).Awaits stream target
    · exact Or.inl awaits
    · rw [kept awaits]
      refine Or.inr ?_
      exact (informed.told target client stream seated valid).resolve_left
        (not_awaits_of_idle idle stream target)

/-- Taking a request of an open stream, when everything before it is dealt with. -/
theorem Informed.take (informed : dialogue.Informed) (idle : dialogue.isIdle = true)
    {stream : StreamId} (opened : dialogue.isOpen stream = true) (request : Transport.Request) :
    (dialogue.take stream request).Informed := by
  simp only [isOpen, Bool.and_eq_true, Bool.not_eq_true', List.contains_eq_mem,
    decide_eq_false_iff_not] at opened
  obtain ⟨present, opened⟩ := opened
  unfold Dialogue.take
  split
  · exact informed
  · have naming := informed.name opened request.identifier
    obtain ⟨-, -, -, called⟩ :=
      Plane.nameTransport_frame dialogue.plane stream request.identifier
    obtain ⟨-, -, dispatcher, -⟩ :=
      Plane.nameTransport_spares dialogue.plane stream request.identifier
    have stillIdle : (dialogue.name stream request.identifier).2.isIdle = true := by
      change (dialogue.handling.isNone && dialogue.changed.isEmpty && _) = true
      rw [show (dialogue.name stream request.identifier).2.plane.dispatcher =
        dialogue.plane.dispatcher from dispatcher]
      exact idle
    have stillOpened : stream ∉ (dialogue.name stream request.identifier).2.ended := opened
    have named : (dialogue.name stream request.identifier).2.plane.transportClient? stream =
        some (dialogue.name stream request.identifier).1 := called present
    generalize dialogue.name stream request.identifier = reached at *
    obtain ⟨client, reached⟩ := reached
    dsimp only
    cases request.validate with
    | error fault => exact naming.refuse stream _ request.requestId fault
    | ok asked =>
      exact naming.begin stillIdle ⟨stream, client, request.requestId, asked.1, asked.2⟩
        stillOpened named

/-- When the next target is subscribed, its stream does not wait for it any more. -/
theorem awaits_iff_of_due {handling : Handling} (being : dialogue.handling = some handling)
    (operation : handling.operation = .subscribe) {target : Target} {rest : List Target}
    (due : handling.targets = target :: rest) (plane : Plane) (stream : StreamId)
    (tested : Target) :
    dialogue.Awaits stream tested ↔
      handling.stream = stream ∧ target = tested ∨
        (dialogue.goOn plane { handling with targets := rest }).Awaits stream tested := by
  constructor
  · rintro ⟨other, same, subscribing, own, listed⟩
    obtain rfl := Option.some.inj (being.symm.trans same)
    rw [due] at listed
    rcases List.mem_cons.1 listed with first | behind
    · exact Or.inl ⟨own, first.symm⟩
    · exact Or.inr ⟨_, rfl, subscribing, own, behind⟩
  · rintro (⟨own, rfl⟩ | ⟨_, ⟨⟩, subscribing, own, listed⟩)
    · exact ⟨handling, being, operation, own, due ▸ List.mem_cons_self⟩
    · exact ⟨handling, being, subscribing, own, due ▸ List.mem_cons_of_mem target listed⟩

/-- A client that subscribes a supported target holds it, if its stream is still alive. -/
theorem Informed.slot?_subscribed (informed : dialogue.Informed) (distinct : dialogue.Distinct)
    {handling : Handling} (being : dialogue.handling = some handling) {target : Target}
    (supported : dialogue.plane.subscribers.watchers.supports target.kind = true)
    (valid : (dialogue.plane.subscribeTransport handling.stream handling.client handling.requestId
      target).transportValid handling.stream = true) :
    (dialogue.plane.subscribeTransport handling.stream handling.client handling.requestId
      target).slot? target handling.client = some handling.stream := by
  obtain ⟨opened, named, -⟩ := informed.serving handling being
  refine Plane.slot?_subscribeTransport informed.sound.wellSeated.wellKept supported ?_ valid
  intro other seated
  cases living : dialogue.plane.transportValid other with
  | false => exact Or.inr rfl
  | true =>
    have alsoNamed := informed.sound.wellSeated.named target _ other seated
    have alsoOpened := informed.present other handling.client alsoNamed living
    exact Or.inl (distinct.same alsoNamed named alsoOpened opened)

/-- What a stream has heard of a target when it is subscribed: the current rules, unless it was
    refused. -/
theorem Informed.heard_subscribed (informed : dialogue.Informed) {handling : Handling}
    {target : Target} (awaits : dialogue.Awaits handling.stream target) {plane : Plane}
    (subscribed : plane = dialogue.plane.subscribeTransport handling.stream handling.client
      handling.requestId target)
    (unfailed : plane.failures = dialogue.plane.failures) :
    plane.UpToDate target (Entry.heard target ((dialogue.advance plane).log handling.stream)) ∧
        plane.subscribers.watchers.hasTarget target = true ∨
      Entry.heard target ((dialogue.advance plane).log handling.stream) = none ∧
        (plane.subscribers.watchers.supports target.kind = false ∨
          dialogue.plane.transportValid handling.stream = false) := by
  subst subscribed
  rcases informed.fresh handling.stream target awaits with silent | ⟨tracked, upToDate⟩
  · obtain ⟨-, -, supports, -⟩ := Plane.subscribeTransport_frame
      informed.sound.wellSeated.wellKept handling.stream handling.client handling.requestId target
    obtain ⟨responses, sent, heard⟩ := Plane.hears_subscribeTransport informed.sound unfailed
    rw [heard_advance sent, silent, supports]
    exact heard
  · left
    constructor
    · exact upToDate_advance (Plane.informs_subscribeTransport tracked unfailed) upToDate
    · exact informed.sound.tracked_subscribe tracked handling.stream handling.client
        handling.requestId target

/-- Subscribing the next target of a request. -/
theorem Informed.subscribing (informed : dialogue.Informed) (distinct : dialogue.Distinct)
    {handling : Handling} (being : dialogue.handling = some handling)
    (operation : handling.operation = .subscribe) {target : Target} {rest : List Target}
    (due : handling.targets = target :: rest) {plane : Plane}
    (subscribed : plane = dialogue.plane.subscribeTransport handling.stream handling.client
      handling.requestId target)
    (unfailed : plane.failures = dialogue.plane.failures) :
    (dialogue.goOn plane { handling with targets := rest }).Informed := by
  obtain ⟨opened, named, quiet⟩ := informed.serving handling being
  have sound : plane.Sound :=
    subscribed ▸ informed.sound.subscribeTransport named handling.requestId target
  obtain ⟨names, lives, supports, slots⟩ := subscribed ▸ Plane.subscribeTransport_frame
    informed.sound.wellSeated.wellKept handling.stream handling.client handling.requestId target
  have dispatcher : plane.dispatcher = dialogue.plane.dispatcher := by
    rw [subscribed]
    exact (Prod.mk.inj (Plane.backdrop_subscribeTransport dialogue.plane handling.stream
      handling.client handling.requestId target)).2
  have retains : Plane.Retains (fun _ _ => False) dialogue.plane plane :=
    subscribed ▸ Plane.retains_subscribeTransport (fun _ => named) handling.requestId target
  have tracking {tested : Target}
      (tracked : dialogue.plane.subscribers.watchers.hasTarget tested = true) :
      plane.subscribers.watchers.hasTarget tested = true :=
    subscribed ▸ informed.sound.tracked_subscribe tracked handling.stream handling.client
      handling.requestId target
  have spares {stream : StreamId} {tested : Target}
      (other : handling.stream ≠ stream ∨ target ≠ tested) :
      Plane.Spares tested stream dialogue.plane plane :=
    subscribed ▸ Plane.spares_subscribeTransport other dialogue.plane handling.client
      handling.requestId
  have informs {stream : StreamId} {tested : Target}
      (tracked : dialogue.plane.subscribers.watchers.hasTarget tested = true)
      (upToDate : dialogue.plane.UpToDate tested (Entry.heard tested (dialogue.log stream))) :
      plane.UpToDate tested (Entry.heard tested ((dialogue.advance plane).log stream)) :=
    upToDate_advance
      (subscribed ▸ Plane.informs_subscribeTransport tracked (subscribed ▸ unfailed)) upToDate
  have awaiting := awaits_iff_of_due being operation due plane
  have heard := informed.heard_subscribed
    ((awaiting handling.stream target).2 (Or.inl ⟨rfl, rfl⟩)) subscribed unfailed
  have idle (worker : Nat) {push : Push} (waits : push ∈ plane.dispatcher.queue worker) : False :=
    quiet push.target (Or.inr ⟨worker, push, dispatcher ▸ waits, rfl⟩)
  refine ⟨sound, ?_, ?_, ?_, ?_, ?_, ?_, ?_, ?_⟩
  · change plane.dispatcher.stopped = false
    rw [dispatcher]
    exact informed.running
  · intro stream client called valid
    exact informed.present stream client ((names stream).symm.trans called) (lives stream valid)
  · rintro _ ⟨⟩
    refine ⟨opened, (names handling.stream).trans named, fun tested pending => ?_⟩
    rcases pending with changed | ⟨worker, push, waits, -⟩
    · exact quiet tested (Or.inl changed)
    · exact idle worker waits
  · rintro _ ⟨⟩ left
    rw [operation] at left
    cases left
  · intro worker push waits
    exact (idle worker waits).elim
  · intro stream tested wanted
    change Entry.wants tested ((dialogue.advance plane).log stream) = true at wanted
    rw [wants_advance] at wanted
    refine informed.wanted_of_retains retains supports wanted (fun _ _ _ => id) ?_
    intro client called valid supported awaits
    rcases (awaiting stream tested).1 awaits with ⟨rfl, rfl⟩ | still
    · right
      obtain rfl : handling.client = client := Option.some.inj (named.symm.trans called)
      change plane.slot? target handling.client = some handling.stream
      change plane.transportValid handling.stream = true at valid
      rw [subscribed] at valid ⊢
      exact informed.slot?_subscribed distinct being supported valid
    · exact Or.inl still
  · intro stream tested awaits
    change Entry.heard tested ((dialogue.advance plane).log stream) = none ∨
      plane.subscribers.watchers.hasTarget tested = true ∧
        plane.UpToDate tested (Entry.heard tested ((dialogue.advance plane).log stream))
    by_cases own : handling.stream = stream ∧ target = tested
    · obtain ⟨rfl, rfl⟩ := own
      rcases heard with ⟨told, tracked⟩ | ⟨refused, -⟩
      · exact Or.inr ⟨tracked, told⟩
      · exact Or.inl refused
    · rcases informed.fresh stream tested ((awaiting stream tested).2 (Or.inr awaits)) with
        silent | ⟨tracked, upToDate⟩
      · left
        rw [heard_advance_of_spares (spares (not_and_or.1 own))]
        exact silent
      · exact Or.inr ⟨tracking tracked, informs tracked upToDate⟩
  · intro tested client stream seated valid
    change plane.slot? tested client = some stream at seated
    change plane.transportValid stream = true at valid
    have own (same : handling.stream = stream ∧ target = tested) :
        plane.UpToDate tested (Entry.heard tested ((dialogue.advance plane).log stream)) := by
      obtain ⟨rfl, rfl⟩ := same
      rcases heard with ⟨told, -⟩ | ⟨-, unsupported | dead⟩
      · exact told
      · have supported := sound.supported (sound.tracked seated)
        rw [unsupported] at supported
        cases supported
      · have living := lives handling.stream valid
        rw [dead] at living
        cases living
    rcases slots tested client stream seated with before | ⟨same, first⟩
    · rcases informed.told tested client stream before (lives stream valid) with
        awaits | pending | upToDate
      · rcases (awaiting stream tested).1 awaits with same | still
        · exact Or.inr (Or.inr (own same))
        · exact Or.inl still
      · exact absurd pending (quiet tested)
      · exact Or.inr (Or.inr (informs (informed.sound.tracked before) upToDate))
    · exact Or.inr (Or.inr (own ⟨same.symm, first.symm⟩))

/-- Leaving the next target of a request. -/
theorem Informed.unsubscribing (informed : dialogue.Informed) (distinct : dialogue.Distinct)
    {handling : Handling} (being : dialogue.handling = some handling)
    (operation : handling.operation = .unsubscribe) {target : Target} {rest : List Target}
    (due : handling.targets = target :: rest) :
    (dialogue.goOn (dialogue.plane.unsubscribeTransport handling.client target)
      { handling with targets := rest }).Informed := by
  obtain ⟨opened, named, quiet⟩ := informed.serving handling being
  obtain ⟨supports, slots⟩ :=
    dialogue.plane.unsubscribeTransport_frame handling.client target
  have retains : Plane.Retains (fun other name => other = target ∧ name = handling.client)
      dialogue.plane (dialogue.plane.unsubscribeTransport handling.client target) :=
    Plane.retains_unsubscribeTransport dialogue.plane ⟨rfl, rfl⟩
  have rules (tested : Target) :
      (dialogue.plane.unsubscribeTransport handling.client target).rulesOf tested =
        dialogue.plane.rulesOf tested :=
    Subscribers.rulesOf_unsubscribe dialogue.plane.subscribers .transport target handling.client
      tested
  have none (stream : StreamId) (tested : Target) : ¬ dialogue.Awaits stream tested := by
    rintro ⟨other, same, subscribing, -⟩
    obtain rfl := Option.some.inj (being.symm.trans same)
    rw [operation] at subscribing
    cases subscribing
  refine ⟨informed.sound.unsubscribeTransport handling.client target, informed.running,
    informed.present, ?_, ?_, ?_, ?_, ?_, ?_⟩
  · rintro _ ⟨⟩
    exact ⟨opened, named, quiet⟩
  · rintro _ ⟨⟩ - tested listed
    change Entry.wants tested ((dialogue.advance _).log handling.stream) = false
    rw [wants_advance]
    exact informed.leaving handling being operation tested
      (due ▸ List.mem_cons_of_mem target listed)
  · intro worker push waits
    exact absurd (Or.inr ⟨worker, push, waits, rfl⟩) (quiet push.target)
  · intro stream tested wanted
    change Entry.wants tested ((dialogue.advance _).log stream) = true at wanted
    rw [wants_advance] at wanted
    refine informed.wanted_of_retains retains supports wanted ?_
      (fun _ _ _ _ waits => absurd waits (none stream tested))
    rintro client called valid ⟨rfl, rfl⟩
    have alsoOpened := informed.present stream _ called valid
    obtain rfl := distinct.same called named alsoOpened opened
    have unwanted := informed.leaving handling being operation tested
      (due ▸ List.mem_cons_self)
    rw [unwanted] at wanted
    cases wanted
  · intro stream tested awaits
    obtain ⟨_, ⟨⟩, subscribing, -⟩ := awaits
    rw [operation] at subscribing
    cases subscribing
  · intro tested client stream seated valid
    rcases informed.told tested client stream (slots tested client stream seated) valid with
      awaits | pending | upToDate
    · exact absurd awaits (none stream tested)
    · exact absurd pending (quiet tested)
    · have same : (dialogue.plane.unsubscribeTransport handling.client target).waiting stream =
          dialogue.plane.waiting stream := rfl
      have informs := (Plane.spares_of_same same).informs (rules tested)
      exact Or.inr (Or.inr (upToDate_advance informs upToDate))

/-- When no target of a request is left, it is dealt with. -/
theorem Informed.conclude (informed : dialogue.Informed) {handling : Handling}
    (being : dialogue.handling = some handling) (done : handling.targets = []) :
    dialogue.conclude.Informed := by
  have none (stream : StreamId) (target : Target) : ¬ dialogue.Awaits stream target := by
    rintro ⟨other, same, -, -, listed⟩
    obtain rfl := Option.some.inj (being.symm.trans same)
    rw [done] at listed
    cases listed
  refine ⟨informed.sound, informed.running, informed.present, nofun, nofun, informed.current, ?_,
    ?_, ?_⟩
  · intro stream target wanted
    obtain ⟨client, named, holds⟩ := informed.wanted stream target wanted
    refine ⟨client, named, fun valid supported => Or.inr ?_⟩
    exact (holds valid supported).resolve_left (none stream target)
  · rintro stream target ⟨_, ⟨⟩, -⟩
  · intro target client stream seated valid
    exact Or.inr ((informed.told target client stream seated valid).resolve_left
      (none stream target))

/-- Dealing with the next target of a request, if no delivery fails. -/
theorem Informed.proceed (informed : dialogue.Informed) (distinct : dialogue.Distinct)
    (unfailed : dialogue.proceed.plane.failures = dialogue.plane.failures) :
    dialogue.proceed.Informed := by
  unfold Dialogue.proceed at unfailed ⊢
  split
  · exact informed
  · rename_i handling being
    rw [being] at unfailed
    dsimp only at unfailed ⊢
    split
    · rename_i done
      exact informed.conclude being done
    · rename_i target rest due
      rw [due] at unfailed
      change (handling.perform target dialogue.plane).failures = dialogue.plane.failures at unfailed
      rcases handling.perform_cases target dialogue.plane with
        ⟨operation, performed⟩ | ⟨operation, performed⟩
      · exact informed.subscribing distinct being operation due performed unfailed
      · rw [performed]
        exact informed.unsubscribing distinct being operation due

end Dialogue

end RulePlane
