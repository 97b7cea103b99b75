import RulePlane.Proofs.PassingSends
import RulePlane.Proofs.StreamIsolation

/-!
# The slots of a discovery stream

Which targets the registry lists for a discovery client. What the client watches is kept with its
stream, what it is pushed in the registry; the two are only tied by the changes that each request
reports. This module shows that they agree up to the names that new sessions leave over: the client
holds exactly the targets of the names that are watched or left over, as far as they can be read and
their kinds are supported.

A request is dealt with name by name, and in between the stream may be pushed to, resources may
change, and other streams of both protocols may be opened, served and ended. A send may be held up,
be it of a push or of an answer: it is noted, and what its task goes on with comes when it has met
its outcome, after any number of other steps. `Registered` is the invariant: what is held, less what
is still to be left and with what is still to be subscribed, is what is wanted. It holds from the
start of the control plane on, as long as the numbers of streams do not wrap around.

Whom a push is sent to is settled when its publication to the discovery clients begins. So what is
said of pushes is about those whose publication begins when the request has been dealt with, and
about all that comes of them, however long they are held up at other streams.
-/

namespace RulePlane

/-! ## A stream in service -/

/-- A control plane with one of its discovery streams, between two steps. The targets of the names
    in `leaving` and `entering` are still to be left and subscribed for the last request of the
    stream; `left` are the names that are left over, and `pending` the sends of all tasks that have
    not met their outcomes. -/
structure Attending where
  plane : Plane
  leaving : List String
  entering : List String
  left : List String
  pending : List Waiting

namespace Attending

/-- What may happen next. A stream is opened, or named by its first request. The attended stream
    takes a request when it has dealt with the one before, and proceeds with it name by name. In
    between another discovery stream takes a step, whichever that may be: it takes a request,
    subscribes or leaves a name, or ends. So does a transport stream: it is opened, begins with a
    request, or ends. A worker begins to publish a push; a resource changes; and a send that is held
    up is made, or has waited for too long. What else happens is no more than sending: a client
    reads or goes away, a push waits for a worker, time passes.

    No order is imposed on what is held up: there may be more of it at once than streams and workers
    can bring about. -/
inductive Move where
  | opening (opened : StreamId) (capacity : Option Nat)
  | naming (named : StreamId) (request : Discovery.Request)
  | request (request : Discovery.Request)
  | proceed
  | taking (other : StreamId) (request : Discovery.Request)
  | entering (other : StreamId) (name : String)
  | leaving (other : StreamId) (name : String)
  | ending (other : StreamId)
  | transportOpening (opened : StreamId) (capacity : Option Nat)
  | transportRequest (other : StreamId) (request : Transport.Request)
  | transportEnding (other : StreamId)
  | push (push : Push)
  | change (kind : Kind) (change : Change)
  | sent (place : Nat)
  | timedOut (place : Nat)
  | sending (change : Plane → Plane) (keeps : ∀ plane, Plane.Keeps plane (change plane))

/-- Whether a number is given out. -/
def Move.isNaming : Move → Bool
  | .naming _ _ => true
  | _ => false

/-- No stream has been opened yet. -/
def start (plane : Plane) : Attending := ⟨plane, [], [], [], []⟩

/-- Begin with something, and go on until it is done or a send has to wait. -/
def begin (activity : Activity Posting Plane Unit) (attending : Attending) : Attending :=
  { attending with
    plane := activity.reached
    pending := attending.pending ++ (Waiting.of? activity).toList }

/-- Let a send that is held up meet its outcome, and go on with what comes then. -/
def settle (place : Nat) (onward : Waiting → Activity Posting Plane Unit) (attending : Attending) :
    Attending :=
  match attending.pending[place]? with
  | none => attending
  | some waiting =>
      { attending with pending := attending.pending.eraseIdx place }.begin (onward waiting)

/-- Check a request against the watch list, and note what it asks for. -/
def take (stream : StreamId) (request : Discovery.Request) (attending : Attending) : Attending :=
  if request.typeUrl = Discovery.typeUrl then
    let ((respond, changes), plane) := attending.plane.takeDiscovery stream request
    { attending with
      plane
      leaving := changes.unsubscribed
      entering := if respond then changes.subscribed else []
      left :=
        match attending.plane.discovery.find? stream with
        | some found => found.watchList.leftOver request attending.left
        | none => attending.left }
  else attending

/-- Deal with one name: leave all targets that are to be left before any is subscribed. -/
def proceed (stream : StreamId) (attending : Attending) : Attending :=
  match attending.leaving, attending.entering with
  | name :: rest, _ =>
      { attending with
        plane := attending.plane.unsubscribeDiscovery stream name
        leaving := rest }
  | [], name :: rest =>
      { attending with entering := rest }.begin
        (attending.plane.subscribingDiscovery stream name)
  | [], [] => attending

/-- Let another discovery stream that has a name do something. -/
def elsewhere (stream other : StreamId) (step : Attending → Attending) (attending : Attending) :
    Attending :=
  if other ≠ stream ∧ attending.plane.discoveryNamed other then step attending else attending

/-- Let one thing happen. -/
def move (stream : StreamId) (attending : Attending) : Move → Attending
  | .opening opened capacity =>
      if (attending.plane.discovery.find? opened).isSome then attending
      else { attending with plane := attending.plane.openDiscovery opened capacity }
  | .naming named request =>
      if (attending.plane.discovery.find? named).isSome ∧
          !attending.plane.discoveryNamed named then
        { attending with plane := attending.plane.nameDiscovery named request }
      else attending
  | .request request =>
      if attending.plane.discoveryNamed stream ∧ attending.leaving = [] ∧
          attending.entering = [] then
        attending.take stream request
      else attending
  | .proceed => attending.proceed stream
  | .taking other request =>
      attending.elsewhere stream other fun attending =>
        { attending with plane := (attending.plane.takeDiscovery other request).2 }
  | .entering other name =>
      attending.elsewhere stream other fun attending =>
        attending.begin (attending.plane.subscribingDiscovery other name)
  | .leaving other name =>
      attending.elsewhere stream other fun attending =>
        { attending with plane := attending.plane.unsubscribeDiscovery other name }
  | .ending other =>
      attending.elsewhere stream other fun attending =>
        { attending with plane := attending.plane.finishDiscovery other }
  | .transportOpening opened capacity =>
      if (attending.plane.transport.find? opened).isSome then attending
      else
        let transport := attending.plane.transport.insert opened (.fresh none capacity)
        { attending with plane := { attending.plane with transport } }
  | .transportRequest other request =>
      attending.begin (attending.plane.handlingTransport other request)
  | .transportEnding other =>
      { attending with plane := attending.plane.finishTransport other }
  | .push push => attending.begin (attending.plane.publishingAll push)
  | .change kind change => { attending with plane := (attending.plane.notice kind change).2 }
  | .sent place =>
      attending.settle place fun waiting =>
        let (outcome, plane) := attending.plane.offer waiting.stream waiting.posting
        waiting.resume outcome plane
  | .timedOut place =>
      attending.settle place fun waiting => waiting.resume .timedOut attending.plane
  | .sending change _ => { attending with plane := change attending.plane }

/-- Let several things happen. -/
def run (stream : StreamId) (moves : List Move) (attending : Attending) : Attending :=
  moves.foldl (move stream) attending

theorem run_append (stream : StreamId) (moves more : List Move) (attending : Attending) :
    run stream (moves ++ more) attending = run stream more (run stream moves attending) :=
  List.foldl_append

/-- What was begun last can be brought to its end, with nothing in between. -/
theorem exists_run_complete (stream : StreamId) (activity : Activity Posting Plane Unit)
    (attending : Attending) :
    ∃ moves, run stream moves (attending.begin activity) =
      { attending with plane := (activity.complete Plane.attempt).2 } := by
  induction activity with
  | finished result plane =>
    refine ⟨[], ?_⟩
    simp [run, begin, Waiting.of?, Activity.reached]
  | sending addressee millis posting plane resume inductionHypothesis =>
    obtain ⟨moves, completed⟩ := inductionHypothesis
      (plane.attempt millis addressee posting).1 (plane.attempt millis addressee posting).2
    have released : (attending.pending ++ [Waiting.mk addressee posting resume]).eraseIdx
        attending.pending.length = attending.pending := by simp [List.eraseIdx_append]
    obtain ⟨first, met⟩ : ∃ first,
        run stream first (attending.begin (.sending addressee millis posting plane resume)) =
          attending.begin (resume (plane.attempt millis addressee posting).1
            (plane.attempt millis addressee posting).2) := by
      by_cases full : (plane.offer addressee posting).1 = .timedOut
      · refine ⟨[.sending (fun plane => (plane.offer addressee posting).2.wait millis)
          fun plane => ?_, .timedOut attending.pending.length], ?_⟩
        · exact Plane.frame_keeps.trans (plane.keeps_offer addressee posting)
            (.of_same rfl rfl rfl rfl rfl)
        · simp [run, move, settle, begin, Waiting.of?, Activity.reached, Plane.attempt, full,
            released]
      · refine ⟨[.sent attending.pending.length], ?_⟩
        simp [run, move, settle, begin, Waiting.of?, Activity.reached, Plane.attempt, full,
          released]
    refine ⟨first ++ moves, ?_⟩
    rw [run_append, met, completed]
    rfl

/-- Proceeding as often as there are targets to be left leaves all of them. -/
theorem run_leaving (stream : StreamId) (attending : Attending) :
    run stream (List.replicate attending.leaving.length .proceed) attending =
      { attending with
        plane := attending.leaving.foldl (Plane.unsubscribeDiscovery stream) attending.plane
        leaving := [] } := by
  obtain ⟨plane, leaving, entering, left, pending⟩ := attending
  induction leaving generalizing plane with
  | nil => rfl
  | cons name rest inductionHypothesis =>
    exact inductionHypothesis (plane.unsubscribeDiscovery stream name)

/-- If there are none to be left, all targets that are to be subscribed can be subscribed. -/
theorem exists_run_entering (stream : StreamId) (plane : Plane) (entering left : List String)
    (pending : List Waiting) :
    ∃ moves, run stream moves ⟨plane, [], entering, left, pending⟩ =
      ⟨entering.foldl (Plane.subscribeDiscovery stream) plane, [], [], left, pending⟩ := by
  induction entering generalizing plane with
  | nil => exact ⟨[], rfl⟩
  | cons name rest inductionHypothesis =>
    obtain ⟨sends, subscribed⟩ := exists_run_complete stream
      (plane.subscribingDiscovery stream name) ⟨plane, [], rest, left, pending⟩
    rw [Plane.complete_subscribingDiscovery] at subscribed
    obtain ⟨moves, entered⟩ := inductionHypothesis (plane.subscribeDiscovery stream name)
    refine ⟨.proceed :: (sends ++ moves), ?_⟩
    change run stream (sends ++ moves) (Attending.begin (plane.subscribingDiscovery stream name)
      ⟨plane, [], rest, left, pending⟩) = _
    rw [run_append, subscribed, entered]
    rfl

/-- A stream that just proceeds after a request, with nothing in between, has handled it. -/
theorem exists_run_handleDiscovery {stream : StreamId} {plane : Plane}
    (named : plane.discoveryNamed stream = true) (request : Discovery.Request)
    (left : List String) (pending : List Waiting) :
    ∃ moves,
      let handled := run stream (.request request :: moves) ⟨plane, [], [], left, pending⟩
      handled.plane = plane.handleDiscovery stream request ∧ handled.leaving = [] ∧
        handled.entering = [] ∧ handled.pending = pending := by
  have taken : run stream [.request request] ⟨plane, [], [], left, pending⟩ =
      take stream request ⟨plane, [], [], left, pending⟩ := by
    simp [run, move, named]
  let noted := take stream request ⟨plane, [], [], left, pending⟩
  obtain ⟨moves, entered⟩ := exists_run_entering stream
    (noted.leaving.foldl (Plane.unsubscribeDiscovery stream) noted.plane) noted.entering noted.left
    noted.pending
  refine ⟨List.replicate noted.leaving.length .proceed ++ moves, ?_⟩
  have split : run stream (.request request ::
      (List.replicate noted.leaving.length .proceed ++ moves)) ⟨plane, [], [], left, pending⟩ =
      run stream moves (run stream (List.replicate noted.leaving.length .proceed) noted) := by
    rw [← List.singleton_append, run_append, run_append]
    exact congrArg (fun reached => run stream _ (run stream _ reached)) taken
  rw [split, run_leaving, entered]
  refine ⟨?_, rfl, rfl, ?_⟩ <;> simp only [noted, take, Plane.handleDiscovery]
  · split
    · dsimp only
      split <;> rfl
    · rfl
  · split <;> rfl

/-! ## The invariant -/

/-- The targets that a stream is to hold: those of the names that are watched or left over, if their
    kinds are supported. -/
def Wants (stream : StreamId) (attending : Attending) (target : Target) : Prop :=
  Discovery.Named (attending.plane.watchedNames stream ++ attending.left) target ∧
    attending.plane.subscribers.watchers.supports target.kind = true

/-- Whatever a task goes on with when its send has met its outcome, it passes all streams by. -/
def Patient (waiting : Waiting) : Prop :=
  ∀ outcome later, later.WellNumbered →
    (waiting.resume outcome later).Within Plane.WellNumbered Plane.Passes (fun _ _ => True) later

/-- A stream in service is registered for what it wants, except for what is still to be done: the
    slots that are not going to be left, with those that are going to be filled, are those of the
    targets that it wants. This is so as long as the stream is not stopped. A stream without a name
    has nothing to do, and what is held up passes all streams by. -/
structure Registered (stream : StreamId) (attending : Attending) : Prop where
  wellNumbered : attending.plane.WellNumbered
  silent : attending.plane.discoveryName? stream = none →
    attending.leaving = [] ∧ attending.entering = [] ∧ attending.left = [] ∧
      attending.plane.watchedNames stream = []
  apart : ∀ name ∈ attending.left, name ∉ attending.plane.watchedNames stream
  slots : ∀ client, attending.plane.discoveryName? stream = some client →
    attending.plane.discoveryValid stream = true → ∀ target,
      (((attending.plane.subscribers.discovery.connection? target client).isSome = true ∧
            ¬ Discovery.Named attending.leaving target) ∨
          (Discovery.Named attending.entering target ∧
            attending.plane.subscribers.watchers.supports target.kind = true)) ↔
        attending.Wants stream target
  patient : ∀ waiting ∈ attending.pending, Patient waiting

/-- Before any stream is opened there is nothing to be registered for. -/
theorem registered_start (stream : StreamId) (settings : PushSettings) (kinds : KindTable)
    (dispatcher : Dispatcher) (clock : UInt64) :
    Registered stream (start (Plane.start settings kinds dispatcher clock)) where
  wellNumbered := Plane.wellNumbered_start settings kinds dispatcher clock
  silent _ := ⟨rfl, rfl, rfl, rfl⟩
  apart := nofun
  slots := nofun
  patient := nofun

section Steps

variable {stream : StreamId}

/-- A stream that has a name is registered if its slots are right. -/
theorem Registered.of_named {attending : Attending} (wellNumbered : attending.plane.WellNumbered)
    {client : ClientId} (named : attending.plane.discoveryName? stream = some client)
    (apart : ∀ name ∈ attending.left, name ∉ attending.plane.watchedNames stream)
    (slots : attending.plane.discoveryValid stream = true → ∀ target,
      (((attending.plane.subscribers.discovery.connection? target client).isSome = true ∧
            ¬ Discovery.Named attending.leaving target) ∨
          (Discovery.Named attending.entering target ∧
            attending.plane.subscribers.watchers.supports target.kind = true)) ↔
        attending.Wants stream target)
    (patient : ∀ waiting ∈ attending.pending, Patient waiting) : attending.Registered stream where
  wellNumbered := wellNumbered
  silent unnamed := by cases unnamed.symm.trans named
  apart := apart
  slots owner own := by
    obtain rfl : owner = client := Option.some.inj (own.symm.trans named)
    exact slots
  patient := patient

/-- Whatever keeps all streams apart and changes nothing for a stream keeps it registered. -/
theorem Registered.spared {attending : Attending} (registered : attending.Registered stream)
    {after : Plane} (wellNumbered : after.WellNumbered)
    (same : Plane.SameFor stream attending.plane after) :
    Registered stream { attending with plane := after } := by
  refine ⟨wellNumbered, fun unnamed => ?_, ?_, fun client named valid target => ?_,
    registered.patient⟩
  · obtain ⟨leaving, entering, left, watched⟩ :=
      registered.silent (same.name.symm.trans unnamed)
    exact ⟨leaving, entering, left, same.names.trans watched⟩
  · rw [same.names]
    exact registered.apart
  · have before := same.name.symm.trans named
    have living := same.valid (by simp [before]) valid
    have slots := registered.slots client before living target
    simp only [Wants, Watchers.supports] at slots ⊢
    rw [same.slots client before, same.names, same.kinds]
    exact slots

/-- So does whatever passes it by. -/
theorem Registered.passed {attending : Attending} (registered : attending.Registered stream)
    {after : Plane} (passes : Plane.Passes attending.plane after) :
    Registered stream { attending with plane := after } :=
  registered.spared (passes.wellNumbered registered.wellNumbered) (passes.sameFor stream)

/-- Sending keeps a stream registered. -/
theorem Registered.kept {attending : Attending} (registered : attending.Registered stream)
    {after : Plane} (keeps : Plane.Keeps attending.plane after) :
    Registered stream { attending with plane := after } :=
  registered.passed keeps.passes

/-- A stream stays registered when something is begun that passes all streams by. -/
theorem Registered.begin {attending : Attending} (registered : attending.Registered stream)
    {activity : Activity Posting Plane Unit}
    (within : activity.Within Plane.WellNumbered Plane.Passes (fun _ _ => True) attending.plane) :
    (attending.begin activity).Registered stream := by
  have passes := within.reached
  refine { registered.passed passes with patient := fun waiting member => ?_ }
  rcases List.mem_append.1 member with before | begun
  · exact registered.patient waiting before
  · cases activity with
    | finished result plane => cases begun
    | sending addressee millis posting plane resume =>
      obtain rfl := List.mem_singleton.1 begun
      exact within.2.2

/-- So it does when a send meets its outcome. -/
theorem Registered.settle {attending : Attending} (registered : attending.Registered stream)
    (place : Nat) {onward : Waiting → Activity Posting Plane Unit}
    (within : ∀ waiting, Patient waiting →
      (onward waiting).Within Plane.WellNumbered Plane.Passes (fun _ _ => True)
        attending.plane) : (attending.settle place onward).Registered stream := by
  unfold Attending.settle
  split
  · exact registered
  · rename_i waiting found
    have released : Registered stream
        { attending with pending := attending.pending.eraseIdx place } :=
      { registered with patient := fun other member =>
          registered.patient other (List.mem_of_mem_eraseIdx member) }
    exact released.begin (within waiting
      (registered.patient waiting (List.mem_of_getElem? found)))

/-- A stream that has something to do has a name. -/
theorem Registered.named_of_busy {attending : Attending}
    (registered : attending.Registered stream)
    (busy : attending.leaving ≠ [] ∨ attending.entering ≠ []) :
    ∃ client, attending.plane.discoveryName? stream = some client := by
  cases named : attending.plane.discoveryName? stream with
  | some client => exact ⟨client, rfl⟩
  | none =>
    obtain ⟨leaving, entering, -⟩ := registered.silent named
    exact absurd busy (by simp [leaving, entering])

/-- Leaving the target of a name keeps a stream registered. -/
theorem Registered.leave {plane : Plane} {name : String} {rest entering left : List String}
    {pending : List Waiting}
    (registered : Registered stream ⟨plane, name :: rest, entering, left, pending⟩) :
    Registered stream
      ⟨plane.unsubscribeDiscovery stream name, rest, entering, left, pending⟩ := by
  obtain ⟨client, named⟩ := registered.named_of_busy (Or.inl (List.cons_ne_nil name rest))
  have wellNumbered := registered.wellNumbered
  rcases plane.unsubscribeDiscovery_cases stream name with ⟨unread, keeps⟩ | ⟨target, asks, keeps⟩
  · have passed : Registered stream ⟨plane, rest, entering, left, pending⟩ := by
      refine .of_named wellNumbered named registered.apart (fun valid tested => ?_)
        registered.patient
      have before := registered.slots client named valid tested
      simpa [Discovery.named_cons_iff, unread, Wants] using before
    exact passed.kept keeps
  · rw [Plane.discoveryClient_of_named named] at keeps
    have emptied : Registered stream ⟨plane.withSlots
        (plane.subscribers.discovery.remove target client).2, rest, entering, left, pending⟩ := by
      refine .of_named (wellNumbered.withSlots
          (wellNumbered.seated.fewer fun _ _ _ => Registry.connection?_of_remove)
          (wellNumbered.listed.remove target client)) named registered.apart
        (fun valid tested => ?_) registered.patient
      have before := registered.slots client named valid tested
      rw [Discovery.named_cons_iff, asks] at before
      change ((((plane.subscribers.discovery.remove target client).2.connection? tested
        client).isSome = true ∧ _) ∨ _) ↔ _
      rw [Registry.connection?_remove]
      refine Iff.trans (or_congr_left ?_) before
      by_cases same : target = tested
      · simp [same]
      · simp [same]
    exact emptied.kept keeps

/-- Subscribing the target of a name keeps a stream registered, also while an answer is held up. -/
theorem Registered.enter {plane : Plane} {name : String} {rest left : List String}
    {pending : List Waiting}
    (registered : Registered stream ⟨plane, [], name :: rest, left, pending⟩) :
    Registered stream (Attending.begin (plane.subscribingDiscovery stream name)
      ⟨plane, [], rest, left, pending⟩) := by
  obtain ⟨client, named⟩ := registered.named_of_busy (Or.inr (List.cons_ne_nil name rest))
  have wellNumbered := registered.wellNumbered
  rcases Plane.subscribingDiscovery_cases wellNumbered.wellKept stream name with
    ⟨sends, refused⟩ | ⟨target, registry, asks, supported, added, sends⟩
  · have passed : Registered stream ⟨plane, [], rest, left, pending⟩ := by
      refine .of_named wellNumbered named registered.apart (fun valid tested => ?_)
        registered.patient
      refine Iff.trans (or_congr_right ?_) (registered.slots client named valid tested)
      have unsupported := refused valid tested
      rw [Discovery.named_cons_iff]
      constructor
      · exact fun both => ⟨Or.inr both.1, both.2⟩
      · rintro ⟨asks | wanted, supported⟩
        · exact absurd (supported.symm.trans (unsupported asks)) (by simp)
        · exact ⟨wanted, supported⟩
    exact passed.begin (Plane.passes_of_keeps sends)
  · rw [Plane.discoveryClient_of_named named] at added
    have filled : Registered stream ⟨plane.withSlots registry, [], rest, left, pending⟩ := by
      refine .of_named (wellNumbered.withSlots (wellNumbered.seated.add named added)
        (wellNumbered.listed.add added)) named registered.apart (fun valid tested => ?_)
          registered.patient
      refine Iff.trans ?_ (registered.slots client named valid tested)
      change (((registry.connection? tested client).isSome = true ∧ _) ∨
        (_ ∧ plane.subscribers.watchers.supports tested.kind = true)) ↔ _
      rw [Registry.isSome_connection?_add added, Discovery.named_cons_iff, asks]
      by_cases same : target = tested
      · simp [← same, supported]
      · simp [same]
    exact filled.begin (Plane.passes_of_keeps sends)

/-- Checking a request keeps a stream registered: the names that it changes are still to be dealt
    with. -/
theorem Registered.take {plane : Plane} {left : List String} {pending : List Waiting}
    (registered : Registered stream ⟨plane, [], [], left, pending⟩)
    (speaking : plane.discoveryNamed stream = true) (request : Discovery.Request) :
    Registered stream (Attending.take stream request ⟨plane, [], [], left, pending⟩) := by
  unfold Attending.take
  split
  · rename_i served
    obtain ⟨subscribers, -, clients, living, -⟩ := plane.takeDiscovery_frame stream request
    have wellNumbered := registered.wellNumbered.takeDiscovery stream request
    obtain ⟨client, named⟩ := Option.isSome_iff_exists.1 speaking
    obtain ⟨found, present, -⟩ := Option.bind_eq_some_iff.1 named
    obtain ⟨answer, names⟩ := Plane.takeDiscovery_of_present present request
    have before : plane.watchedNames stream = found.watchList.namesOf request.typeUrl := by
      simp [Plane.watchedNames, present, served]
    have accounts := found.watchList.take_accounts request left
      (by rw [← before]; exact registered.apart)
    rw [← before, served] at accounts
    obtain ⟨accounted, apart, silent⟩ := accounts
    rw [← names] at accounted apart
    -- A request that is not answered subscribes nothing, so nothing is lost by passing it over.
    have entering : (if (found.watchList.take request).1.1 = true then
        (found.watchList.take request).1.2.subscribed else []) =
          (found.watchList.take request).1.2.subscribed := by
      split
      · rfl
      · rename_i unanswered
        exact (silent (Bool.eq_false_iff.2 unanswered)).symm
    have joint (name : String) :
        name ∈ (plane.takeDiscovery stream request).2.watchedNames stream ++
            found.watchList.leftOver request left ↔
          (name ∈ plane.watchedNames stream ++ left ∧
              name ∉ (found.watchList.take request).1.2.unsubscribed) ∨
            name ∈ (found.watchList.take request).1.2.subscribed := by
      simpa only [List.mem_append] using accounted name
    simp only [present]
    refine .of_named wellNumbered ((clients stream).trans named) apart (fun valid target => ?_)
      registered.patient
    have held : (plane.subscribers.discovery.connection? target client).isSome = true ↔
        Wants stream ⟨plane, [], [], left, pending⟩ target := by
      simpa using registered.slots client named ((living stream).symm.trans valid) target
    have asked := Discovery.named_of_accounted joint target
    simp only [Wants, subscribers, answer, entering] at held ⊢
    rw [held, asked]
    by_cases supported : plane.subscribers.watchers.supports target.kind = true <;>
      simp [supported]
  · exact registered

/-- Naming an open stream that has no name keeps a stream registered, also if it is this stream: no
    slot is held under the new name, and nothing is watched yet. -/
theorem Registered.name {attending : Attending} (registered : attending.Registered stream)
    {fresh : StreamId} (present : (attending.plane.discovery.find? fresh).isSome = true)
    (unnamed : attending.plane.discoveryName? fresh = none)
    (few : attending.plane.opened.toNat + 1 < UInt64.size) (request : Discovery.Request) :
    Registered stream
      { attending with plane := attending.plane.nameDiscovery fresh request } := by
  have wellNumbered := registered.wellNumbered.nameDiscovery present unnamed few request
  by_cases same : fresh = stream
  · subst same
    obtain ⟨leaving, entering, left, watched⟩ := registered.silent unnamed
    have names := Plane.discoveryName?_nameDiscovery present request fresh
    rw [if_pos rfl] at names
    refine .of_named wellNumbered names ?_ (fun _ target => ?_) registered.patient
    · simp [left]
    · have vacant := registered.wellNumbered.connection?_of_unused
        (registered.wellNumbered.unused few request.nodeName) target
      change (((attending.plane.subscribers.discovery.connection? target _).isSome = true ∧ _) ∨
        _) ↔ _
      rw [vacant]
      simp [Wants, leaving, entering, left, Plane.watchedNames_nameDiscovery, watched]
  · exact registered.spared wellNumbered (Plane.sameFor_nameDiscovery present same request)

/-- What another stream does keeps a stream registered, if its steps do. -/
theorem Registered.elsewhere {attending : Attending} (registered : attending.Registered stream)
    {other : StreamId} {step : Attending → Attending}
    (spares : other ≠ stream → ∀ name, attending.plane.discoveryName? other = some name →
      (step attending).Registered stream) :
    (attending.elsewhere stream other step).Registered stream := by
  unfold Attending.elsewhere
  split
  · rename_i acts
    obtain ⟨name, named⟩ := Option.isSome_iff_exists.1 acts.2
    exact spares acts.1 name named
  · exact registered

/-- Whatever happens keeps a stream registered, as long as the numbers do not wrap around. -/
theorem Registered.move {attending : Attending} (registered : attending.Registered stream)
    (move : Move)
    (few : move.isNaming = true → attending.plane.opened.toNat + 1 < UInt64.size) :
    (attending.move stream move).Registered stream := by
  have wellNumbered := registered.wellNumbered
  cases move with
  | opening opened capacity =>
    simp only [Attending.move]
    split
    · exact registered
    · rename_i present
      have absent := Option.not_isSome_iff_eq_none.1 present
      exact registered.spared (wellNumbered.openDiscovery absent capacity)
        (Plane.sameFor_openDiscovery absent capacity stream)
  | naming fresh request =>
    simp only [Attending.move]
    split
    · rename_i ready
      refine registered.name ready.1 ?_ (few rfl) request
      simpa [Plane.discoveryNamed, Plane.discoveryName?] using ready.2
    · exact registered
  | request request =>
    obtain ⟨plane, leaving, entering, left⟩ := attending
    simp only [Attending.move]
    split
    · rename_i ready
      obtain ⟨speaking, rfl, rfl⟩ := ready
      exact registered.take speaking request
    · exact registered
  | proceed =>
    obtain ⟨plane, leaving, entering, left⟩ := attending
    cases leaving with
    | cons name rest => exact registered.leave
    | nil =>
      cases entering with
      | cons name rest => exact registered.enter
      | nil => exact registered
  | taking other request =>
    simp only [Attending.move]
    refine registered.elsewhere fun different _ _ => ?_
    exact registered.spared (wellNumbered.takeDiscovery other request)
      (Plane.sameFor_takeDiscovery _ different request)
  | entering other name =>
    simp only [Attending.move]
    refine registered.elsewhere fun different _ named => ?_
    obtain ⟨between, still, same, sends⟩ :=
      Plane.exists_within_subscribingDiscovery wellNumbered named name
    exact (registered.spared still (same stream different)).begin (Plane.passes_of_keeps sends)
  | leaving other name =>
    simp only [Attending.move]
    refine registered.elsewhere fun different _ named => ?_
    exact registered.spared (wellNumbered.unsubscribeDiscovery other name)
      (Plane.sameFor_unsubscribeDiscovery wellNumbered different named name)
  | ending other =>
    simp only [Attending.move]
    refine registered.elsewhere fun different _ _ => ?_
    exact registered.spared (wellNumbered.finishDiscovery other)
      (Plane.sameFor_finishDiscovery wellNumbered different)
  | transportOpening opened capacity =>
    simp only [Attending.move]
    split
    · exact registered
    · exact registered.passed (Plane.passes_openTransport _ opened capacity)
  | transportRequest other request =>
    exact registered.begin (Plane.passes_handlingTransport wellNumbered other request)
  | transportEnding other =>
    exact registered.passed (Plane.aside_finishTransport _ other).passes
  | push push =>
    exact registered.begin (Plane.passes_of_keeps (Plane.within_publishingAll push _))
  | change kind change => exact registered.kept (Plane.keeps_notice _ kind change)
  | sent place =>
    refine registered.settle place fun waiting patient => ?_
    have offered := (attending.plane.keeps_offer waiting.stream waiting.posting).passes
    exact (patient _ _ (offered.wellNumbered wellNumbered)).begun Plane.lasting_passes.frame offered
  | timedOut place =>
    exact registered.settle place fun waiting patient => patient .timedOut _ wellNumbered
  | sending change keeps => exact registered.kept (keeps attending.plane)

end Steps

/-- Numbers are given out one at a time, and only when a stream is named. -/
theorem opened_move {stream : StreamId} {attending : Attending}
    (registered : attending.Registered stream) (move : Move) :
    (attending.move stream move).plane.opened.toNat ≤
      attending.plane.opened.toNat + if move.isNaming then 1 else 0 := by
  have wellNumbered := registered.wellNumbered
  have elsewhere {other : StreamId} {step : Attending → Attending}
      (same : (step attending).plane.opened = attending.plane.opened) :
      (attending.elsewhere stream other step).plane.opened = attending.plane.opened := by
    unfold Attending.elsewhere
    split
    · exact same
    · rfl
  have settled {place : Nat} {onward : Waiting → Activity Posting Plane Unit}
      (same : ∀ waiting, Patient waiting →
        (onward waiting).reached.opened = attending.plane.opened) :
      (attending.settle place onward).plane.opened = attending.plane.opened := by
    unfold Attending.settle
    split
    · rfl
    · rename_i waiting found
      exact same waiting (registered.patient waiting (List.mem_of_getElem? found))
  cases move with
  | opening opened capacity =>
    simp only [Attending.move]
    split <;> exact Nat.le_refl _
  | naming fresh request =>
    simp only [Attending.move]
    split
    · change (attending.plane.opened + 1).toNat ≤ attending.plane.opened.toNat + 1
      rw [UInt64.toNat_add, UInt64.toNat_one]
      exact Nat.mod_le _ _
    · exact Nat.le_add_right _ _
  | request request =>
    simp only [Attending.move, Attending.take]
    split
    · split
      · exact Nat.le_of_eq (congrArg _ (Plane.takeDiscovery_frame _ stream request).2.1)
      · exact Nat.le_refl _
    · exact Nat.le_refl _
  | proceed =>
    simp only [Attending.move, Attending.proceed]
    split
    · exact Nat.le_of_eq (congrArg _ (Plane.opened_unsubscribeDiscovery _ stream _))
    · exact Nat.le_of_eq (congrArg _
        (Plane.opened_subscribingDiscovery wellNumbered.wellKept stream _))
    · exact Nat.le_refl _
  | taking other request =>
    exact Nat.le_of_eq (congrArg _ (elsewhere (Plane.takeDiscovery_frame _ other request).2.1))
  | entering other name =>
    exact Nat.le_of_eq (congrArg _
      (elsewhere (Plane.opened_subscribingDiscovery wellNumbered.wellKept other name)))
  | leaving other name =>
    exact Nat.le_of_eq (congrArg _ (elsewhere (Plane.opened_unsubscribeDiscovery _ other name)))
  | ending other =>
    exact Nat.le_of_eq (congrArg _ (elsewhere (Plane.opened_finishDiscovery _ other)))
  | transportOpening opened capacity =>
    simp only [Attending.move]
    split <;> exact Nat.le_refl _
  | transportRequest other request =>
    have passes := (Plane.passes_handlingTransport wellNumbered other request).reached
    exact Nat.le_of_eq (congrArg _ passes.opened)
  | transportEnding other =>
    exact Nat.le_of_eq (congrArg _ (Plane.aside_finishTransport _ other).opened)
  | push push =>
    have keeps := (Plane.within_publishingAll push attending.plane).reached
    exact Nat.le_of_eq (congrArg _ keeps.opened)
  | change kind change =>
    exact Nat.le_of_eq (congrArg _ (Plane.keeps_notice _ kind change).opened)
  | sent place =>
    refine Nat.le_of_eq (congrArg _ (settled fun waiting patient => ?_))
    have offered := (attending.plane.keeps_offer waiting.stream waiting.posting).passes
    have passes := (patient (attending.plane.offer waiting.stream waiting.posting).1 _
      (offered.wellNumbered wellNumbered)).reached
    exact passes.opened.trans offered.opened
  | timedOut place =>
    exact Nat.le_of_eq (congrArg _ (settled fun waiting patient =>
      (patient .timedOut _ wellNumbered).reached.opened))
  | sending change keeps => exact Nat.le_of_eq (congrArg _ (keeps attending.plane).opened)

/-- Whatever happens in whatever order, a stream stays registered, as long as fewer streams are
    named than there are numbers. -/
theorem registered_run {stream : StreamId} {attending : Attending}
    (registered : attending.Registered stream) {moves : List Move}
    (few : attending.plane.opened.toNat + moves.countP Move.isNaming < UInt64.size) :
    (run stream moves attending).Registered stream := by
  induction moves generalizing attending with
  | nil => exact registered
  | cons move rest inductionHypothesis =>
    have bound := opened_move registered move
    rw [List.countP_cons] at few
    refine inductionHypothesis (registered.move move fun naming => ?_) ?_
    · rw [if_pos naming] at few
      omega
    · omega

/-- What is true of an open stream of a client that has dealt with its last request. -/
structure Exact (stream : StreamId) (client : ClientId) (attending : Attending) : Prop where
  /-- The targets that the registry lists for the client are those that the stream wants. -/
  listed : ∀ target, target ∈ attending.plane.subscribers.discovery.targetsOf client ↔
    attending.Wants stream target
  /-- So are those at which the stream has a slot. -/
  held : ∀ target, attending.plane.subscribers.discovery.connection? target client = some stream ↔
    attending.Wants stream target
  /-- A push for any other target does not reach the stream if all of it happens at once. -/
  passedBy : ∀ push, ¬ attending.Wants stream push.target →
    (attending.plane.publishAll push).discovery.find? stream =
      attending.plane.discovery.find? stream
  /-- Nor does it if its publication to the discovery clients begins now, or after anything that
      passes the discovery streams by, and its sends are held up, with anything at all in between:
      it sends nothing on the stream. -/
  skipped : ∀ push, ¬ attending.Wants stream push.target →
    ∀ later, Plane.Passes attending.plane later →
      (later.publishingDiscovery push).Within (fun _ => True) (Plane.Skips stream)
        (Plane.NotOn stream) later
  /-- The next request can be dealt with, with nothing in between: what is held up then was held up
      before. -/
  handles : ∀ request, ∃ moves,
    let handled := run stream (.request request :: moves) attending
    handled.plane = attending.plane.handleDiscovery stream request ∧ handled.leaving = [] ∧
      handled.entering = [] ∧ handled.pending = attending.pending

/-- Whatever is requested on a discovery stream, and whatever else happens in between from the start
    of the control plane on, an open stream that has dealt with its last request is registered for
    exactly the targets of the names that its client watches or that new sessions left over, if they
    can be read and their kinds are supported. A push that begins then for any other target does not
    reach the stream. The names of streams tell them apart as long as fewer are named than there are
    numbers. -/
theorem slots_exact (settings : PushSettings) (kinds : KindTable) (dispatcher : Dispatcher)
    (clock : UInt64) (stream : StreamId) (moves : List Move)
    (few : moves.countP Move.isNaming < UInt64.size) :
    let attending := run stream moves (start (Plane.start settings kinds dispatcher clock))
    ∀ client, attending.plane.discoveryName? stream = some client →
      attending.plane.discoveryValid stream = true → attending.leaving = [] →
        attending.entering = [] → attending.Exact stream client := by
  have registered := registered_run (registered_start stream settings kinds dispatcher clock)
    (show 0 + moves.countP Move.isNaming < UInt64.size by rwa [Nat.zero_add])
  generalize run stream moves (start (Plane.start settings kinds dispatcher clock)) = attending
    at registered
  dsimp only
  intro client named valid leaving entering
  have wellNumbered := registered.wellNumbered
  have slots (target : Target) :
      (attending.plane.subscribers.discovery.connection? target client).isSome = true ↔
        attending.Wants stream target := by
    simpa [leaving, entering] using registered.slots client named valid target
  have unheld {push : Push} (unwanted : ¬ attending.Wants stream push.target) {later : Plane}
      (passes : Plane.Passes attending.plane later) (owner : ClientId) :
      later.subscribers.discovery.connection? push.target owner ≠ some stream := by
    intro slot
    have same := passes.sameFor stream
    have own := (passes.wellNumbered wellNumbered).seated push.target owner stream slot
    obtain rfl := Option.some.inj (named.symm.trans (same.name.symm.trans own))
    rw [same.slots client named] at slot
    exact unwanted ((slots push.target).1 (by rw [slot]; rfl))
  constructor
  case listed => exact fun target => (wellNumbered.listed client target).trans (slots target)
  case held =>
    intro target
    rw [← slots]
    constructor
    · intro slot
      rw [slot]
      rfl
    · intro filled
      obtain ⟨seated, slot⟩ := Option.isSome_iff_exists.1 filled
      have sameName := wellNumbered.seated target client seated slot
      rw [slot, wellNumbered.alone stream seated client named sameName]
  case passedBy =>
    intro push unwanted
    exact Plane.find?_publishAll_of_unheld
      (unheld unwanted (Plane.lasting_passes.frame.refl attending.plane))
  case skipped =>
    intro push unwanted later passes
    exact Plane.within_publishingDiscovery_of_unheld (unheld unwanted passes)
  case handles =>
    intro request
    have speaking : attending.plane.discoveryNamed stream = true :=
      Option.isSome_iff_exists.2 ⟨client, named⟩
    obtain ⟨plane, _, _, left, pending⟩ := attending
    cases leaving
    cases entering
    exact exists_run_handleDiscovery speaking request left pending

/-- The name of the rate limits of an application. -/
def rateLimitName (app : String) : String :=
  "fault-tolerance.opensergo.io/v1alpha1/RateLimitStrategy/" ++ app ++ "/default"

/-- The target of the rate limits of an application. -/
def rateLimitTarget (app : String) : Target :=
  ⟨⟨"default", app⟩, ⟨"fault-tolerance.opensergo.io/v1alpha1/RateLimitStrategy"⟩⟩

/-- A first request for the rate limits of an application. -/
def session (app : String) : Discovery.Request :=
  ⟨some "node", Discovery.typeUrl, [rateLimitName app], none, "", ""⟩

/-- A control plane for the built-in kinds, without clients. -/
def vacant : Plane :=
  Plane.start ⟨.bestEffort, 3, 1000, "control-plane"⟩ KindTable.builtIn (Dispatcher.ofSizes 1 1) 0

/-- A client watches one application and then, by a new session, another one instead. -/
def renewed : List Move :=
  [.opening ⟨0⟩ none, .naming ⟨0⟩ (session "first"), .request (session "first"), .proceed,
    .request (session "second"), .proceed]

/-- Before that, another client watches a third application, and a push for it is held up. -/
def besideAnother : List Move :=
  [.opening ⟨1⟩ none, .naming ⟨1⟩ (session "third"), .taking ⟨1⟩ (session "third"),
    .entering ⟨1⟩ (rateLimitName "third"), .push ⟨rateLimitTarget "third", [], 1⟩] ++ renewed

/-- The first client holds the first two applications then, and a push for the third, which the
    other client holds, passes it by. -/
theorem slots_exact_renewed :
    besideAnother.countP Move.isNaming < UInt64.size ∧
      let attending := run ⟨0⟩ besideAnother (start vacant)
      let registry := attending.plane.subscribers.discovery
      attending.plane.discoveryName? ⟨0⟩ = some ⟨"node-2"⟩ ∧
        attending.plane.discoveryValid ⟨0⟩ = true ∧
          attending.leaving = [] ∧ attending.entering = [] ∧ attending.pending.length = 1 ∧
            registry.connection? (rateLimitTarget "first") ⟨"node-2"⟩ = some ⟨0⟩ ∧
            registry.connection? (rateLimitTarget "second") ⟨"node-2"⟩ = some ⟨0⟩ ∧
            registry.connection? (rateLimitTarget "third") ⟨"node-1"⟩ = some ⟨1⟩ ∧
              (attending.plane.publishingDiscovery ⟨rateLimitTarget "third", [], 2⟩).Within
                (fun _ => True) (Plane.Skips ⟨0⟩) (Plane.NotOn ⟨0⟩) attending.plane := by
  have few : besideAnother.countP Move.isNaming < UInt64.size := by decide +kernel
  have reached :
      let attending := run ⟨0⟩ besideAnother (start vacant)
      attending.plane.discoveryName? ⟨0⟩ = some ⟨"node-2"⟩ ∧
        attending.plane.discoveryValid ⟨0⟩ = true ∧
          attending.leaving = [] ∧ attending.entering = [] ∧ attending.pending.length = 1 ∧
            attending.plane.subscribers.discovery.targetsOf ⟨"node-2"⟩ =
                [rateLimitTarget "first", rateLimitTarget "second"] ∧
              attending.plane.subscribers.discovery.connection? (rateLimitTarget "third")
                ⟨"node-1"⟩ = some ⟨1⟩ := by
    decide +kernel
  obtain ⟨named, valid, leaving, entering, heldUp, targets, third⟩ := reached
  obtain ⟨listed, seated, -, skipped, -⟩ := slots_exact ⟨.bestEffort, 3, 1000, "control-plane"⟩
    KindTable.builtIn (Dispatcher.ofSizes 1 1) 0 ⟨0⟩ besideAnother few ⟨"node-2"⟩ named valid
    leaving entering
  rw [vacant] at targets
  rw [targets] at listed
  refine ⟨few, named, valid, leaving, entering, heldUp, (seated _).2 ?_, (seated _).2 ?_, third,
    skipped _ (fun wants => ?_) _ (Plane.lasting_passes.frame.refl _)⟩
  · exact (listed _).1 (by simp)
  · exact (listed _).1 (by simp)
  · have member := (listed _).2 wants
    exact absurd member (by decide +kernel)

/-- So a client may hold more than it watches: a new session does not give up what the one before it
    watched, and the client is pushed to for a target that it does not ask for any more. -/
theorem slots_beyond_watched :
    let attending := run ⟨0⟩ renewed (start vacant)
    attending.leaving = [] ∧ attending.entering = [] ∧
      attending.plane.discoveryValid ⟨0⟩ = true ∧
        ((attending.plane.publishAll ⟨rateLimitTarget "first", [], 1⟩).discovery.find? ⟨0⟩).map
            (fun found => found.outbox.waiting.length) = some 1 ∧
          ¬ ∀ target, target ∈ attending.plane.subscribers.discovery.targetsOf ⟨"node-1"⟩ ↔
            Discovery.Named (attending.plane.watchedNames ⟨0⟩) target ∧
              attending.plane.subscribers.watchers.supports target.kind = true := by
  have reached :
      let attending := run ⟨0⟩ renewed (start vacant)
      attending.leaving = [] ∧ attending.entering = [] ∧
        attending.plane.discoveryValid ⟨0⟩ = true ∧
          attending.plane.watchedNames ⟨0⟩ = [rateLimitName "second"] ∧
            attending.plane.subscribers.discovery.targetsOf ⟨"node-1"⟩ =
              [rateLimitTarget "first", rateLimitTarget "second"] := by
    decide +kernel
  obtain ⟨leaving, entering, valid, watched, targets⟩ := reached
  refine ⟨leaving, entering, valid, by decide +kernel, ?_⟩
  intro watchedOnly
  rw [targets, watched] at watchedOnly
  obtain ⟨⟨name, member, asks⟩, -⟩ := (watchedOnly (rateLimitTarget "first")).1 (by simp)
  rw [List.mem_singleton.1 member] at asks
  exact absurd asks (by decide +kernel)

end Attending

end RulePlane
