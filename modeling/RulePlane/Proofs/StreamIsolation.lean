import Mathlib.Logic.Relation
import RulePlane.Host.State
import RulePlane.Proofs.ActingStreams

/-!
# Discovery streams that leave each other alone

Any number of discovery streams are served side by side, and the handling of each request is cut at
its sends: in between, others go on, and anything may happen elsewhere. No two streams are ever
named alike, whatever the nodes call themselves, as long as the numbers do not wrap around; and
whatever is done for one stream, another does not see it: its record is the same, with all that its
client watches, the nonces and what waits in its outbox, and so are its slots.
-/

namespace RulePlane

/-! ## Streams side by side -/

/-- A task that waits for the outcome of a send. -/
structure Waiting where
  stream : StreamId
  posting : Posting
  resume : SendOutcome → Plane → Activity Posting Plane Unit

/-- The send that an activity waits for, unless it is finished. -/
def Waiting.of? : Activity Posting Plane Unit → Option Waiting
  | .finished _ _ => none
  | .sending stream _ posting _ resume => some ⟨stream, posting, resume⟩

/-- A control plane and the sends that its tasks wait for. -/
structure Neighbours where
  plane : Plane
  waiting : Task → Option Waiting

namespace Neighbours

/-- Go on with a task until it is done or waits for a send. -/
def proceed (neighbours : Neighbours) (task : Task) (activity : Activity Posting Plane Unit) :
    Neighbours where
  plane := activity.reached
  waiting := fun other => if other = task then Waiting.of? activity else neighbours.waiting other

/-- Whether an open discovery stream is done with the request before. -/
def IsFree (neighbours : Neighbours) (actor : StreamId) : Prop :=
  (neighbours.plane.discovery.find? actor).isSome = true ∧
    neighbours.waiting (.discovery actor) = none

/-- Take a request on a discovery stream, which names the stream if it is the first one. -/
def hear (neighbours : Neighbours) (actor : StreamId) (request : Discovery.Request) : Neighbours :=
  neighbours.proceed (.discovery actor)
    ((neighbours.plane.introduceDiscovery actor request).handlingDiscovery actor request)

/-- What a task may do next. A stream takes a request or ends when it is done with the request
    before, and a worker takes a push; a send is made or has waited for too long; and the client of
    a discovery stream goes away. -/
inductive Does : Task → Neighbours → Neighbours → Prop
  | discoveryRequest {neighbours : Neighbours} {actor : StreamId} (free : neighbours.IsFree actor)
      (few : neighbours.plane.discoveryName? actor = none →
        neighbours.plane.opened.toNat + 1 < UInt64.size)
      (request : Discovery.Request) :
      Does (.discovery actor) neighbours (neighbours.hear actor request)
  | discoveryEnd {neighbours : Neighbours} {actor : StreamId} (free : neighbours.IsFree actor) :
      Does (.discovery actor) neighbours
        { neighbours with plane := neighbours.plane.finishDiscovery actor }
  | discoveryStop (neighbours : Neighbours) (actor : StreamId) :
      Does (.discovery actor) neighbours
        { neighbours with plane := neighbours.plane.stopDiscovery actor }
  | transportRequest {neighbours : Neighbours} {stream : StreamId}
      (free : neighbours.waiting (.transport stream) = none) (request : Transport.Request) :
      Does (.transport stream) neighbours
        (neighbours.proceed (.transport stream)
          (neighbours.plane.handlingTransport stream request))
  | transportEnd {neighbours : Neighbours} {stream : StreamId}
      (free : neighbours.waiting (.transport stream) = none) :
      Does (.transport stream) neighbours
        { neighbours with plane := neighbours.plane.finishTransport stream }
  | work {neighbours : Neighbours} {number : Nat} {activity : Activity Posting Plane Unit}
      (free : neighbours.waiting (.worker number) = none)
      (working : neighbours.plane.working? number = some activity) :
      Does (.worker number) neighbours (neighbours.proceed (.worker number) activity)
  | send {neighbours : Neighbours} {task : Task} {waiting : Waiting}
      (sending : neighbours.waiting task = some waiting) :
      Does task neighbours
        (neighbours.proceed task
          (waiting.resume (neighbours.plane.offer waiting.stream waiting.posting).1
            (neighbours.plane.offer waiting.stream waiting.posting).2))
  | giveUp {neighbours : Neighbours} {task : Task} {waiting : Waiting}
      (sending : neighbours.waiting task = some waiting) :
      Does task neighbours (neighbours.proceed task (waiting.resume .timedOut neighbours.plane))

/-- What happens next: a stream is opened, a discovery stream under a fresh number; a task goes on;
    or something else changes the control plane that no discovery stream does, as when a watcher
    takes a change into account, a push is handed in, time passes or a client reads. -/
inductive Step : Neighbours → Neighbours → Prop
  | opening {neighbours : Neighbours} {stream : StreamId}
      (absent : neighbours.plane.discovery.find? stream = none) (capacity : Option Nat) :
      Step neighbours
        { neighbours with plane := neighbours.plane.openDiscovery stream capacity }
  | task {neighbours after : Neighbours} {task : Task} (does : Does task neighbours after) :
      Step neighbours after
  | elsewhere {neighbours : Neighbours} {after : Plane}
      (beside : Plane.Beside neighbours.plane after) :
      Step neighbours { neighbours with plane := after }

/-- What is reached from some state. -/
abbrev Steps : Neighbours → Neighbours → Prop := Relation.ReflTransGen Step

/-- No stream has been opened yet. -/
def start (settings : PushSettings) (kinds : KindTable) (dispatcher : Dispatcher)
    (clock : UInt64) : Neighbours :=
  ⟨Plane.start settings kinds dispatcher clock, fun _ => none⟩

/-! ## What every step keeps -/

/-- What a task that waits goes on with: on a discovery stream that has a name it is the doing of
    that stream, and elsewhere it names none and changes no slots. -/
def Bides (waiting : Waiting) (plane : Plane) : Task → Prop
  | .discovery actor =>
      ∃ client, plane.discoveryName? actor = some client ∧
        Plane.OnDiscovery actor waiting.stream waiting.posting ∧
          ∀ outcome later, Plane.Acting actor client later →
            (waiting.resume outcome later).Within (Plane.Acting actor client) (Plane.Acts actor)
              (Plane.OnDiscovery actor) later
  | _ =>
      ∀ outcome later, Plane.KeptWell later →
        (waiting.resume outcome later).Within Plane.KeptWell Plane.Beside (fun _ _ => True) later

/-- The streams are well numbered, and whatever waits goes on with its own affairs only. -/
structure Apart (neighbours : Neighbours) : Prop where
  wellNumbered : neighbours.plane.WellNumbered
  patient : ∀ task waiting, neighbours.waiting task = some waiting →
    Bides waiting neighbours.plane task

variable {neighbours after : Neighbours}

/-- Before the first stream nothing waits. -/
theorem apart_start (settings : PushSettings) (kinds : KindTable) (dispatcher : Dispatcher)
    (clock : UInt64) : (start settings kinds dispatcher clock).Apart :=
  ⟨Plane.wellNumbered_start settings kinds dispatcher clock, nofun⟩

/-- As long as no name is lost, whatever waits goes on in the same way. -/
theorem Bides.kept {waiting : Waiting} {before after : Plane} {task : Task}
    (bides : Bides waiting before task) (names : Plane.KeepsNames before after) :
    Bides waiting after task := by
  cases task with
  | discovery actor =>
    obtain ⟨client, named, own, resumed⟩ := bides
    exact ⟨client, names actor client named, own, resumed⟩
  | _ => exact bides

/-- Whatever keeps the streams well numbered and named keeps all tasks apart. -/
theorem Apart.spared (apart : neighbours.Apart) {plane : Plane} (wellNumbered : plane.WellNumbered)
    (names : Plane.KeepsNames neighbours.plane plane) : Apart { neighbours with plane } :=
  ⟨wellNumbered, fun task waiting sending => (apart.patient task waiting sending).kept names⟩

/-- So does a task that proceeds, if what it waits for then is its own affair too. -/
theorem Apart.proceed (apart : neighbours.Apart) {task : Task}
    {activity : Activity Posting Plane Unit} (wellNumbered : activity.reached.WellNumbered)
    (names : Plane.KeepsNames neighbours.plane activity.reached)
    (bides : ∀ waiting, Waiting.of? activity = some waiting →
      Bides waiting activity.reached task) : (neighbours.proceed task activity).Apart := by
  have spared := apart.spared wellNumbered names
  refine ⟨wellNumbered, fun other waiting sending => ?_⟩
  by_cases own : other = task
  · subst own
    have waits : (neighbours.proceed other activity).waiting other = Waiting.of? activity :=
      if_pos rfl
    exact bides waiting (waits.symm.trans sending)
  · exact spared.patient other waiting ((if_neg own).symm.trans sending)

/-- A discovery stream may proceed with its own doing. -/
theorem Apart.act (apart : neighbours.Apart) {actor : StreamId} {client : ClientId}
    {between : Plane} (acting : between.Acting actor client)
    (names : Plane.KeepsNames neighbours.plane between) {activity : Activity Posting Plane Unit}
    (within : activity.Within (Plane.Acting actor client) (Plane.Acts actor)
      (Plane.OnDiscovery actor) between) :
    (neighbours.proceed (.discovery actor) activity).Apart := by
  have acts := within.reached
  refine apart.proceed (acts.wellNumbered acting.1)
    (Plane.frame_keepsNames.trans names acts.keepsNames) fun waiting sending => ?_
  cases activity with
  | finished result plane => cases sending
  | sending stream millis posting plane resume =>
    cases sending
    exact ⟨client, acts.name.trans acting.2, within.2⟩

/-- The other tasks may proceed with what names no discovery stream and changes no slots. -/
theorem Apart.stepAside (apart : neighbours.Apart) {task : Task}
    (elsewhere : ∀ actor, task ≠ .discovery actor) {activity : Activity Posting Plane Unit}
    (within : activity.Within Plane.KeptWell Plane.Beside (fun _ _ => True) neighbours.plane) :
    (neighbours.proceed task activity).Apart ∧
      Plane.KeepsNames neighbours.plane (neighbours.proceed task activity).plane := by
  have beside := within.reached
  refine ⟨apart.proceed (beside.wellNumbered apart.wellNumbered) beside.keepsNames
    fun waiting sending => ?_, beside.keepsNames⟩
  cases activity with
  | finished result plane => cases sending
  | sending stream millis posting plane resume =>
    cases sending
    cases task with
    | discovery actor => exact absurd rfl (elsewhere actor)
    | _ => exact within.2.2

/-- Whatever is done for a discovery stream keeps all tasks apart and the names as they are, and
    changes nothing for any other discovery stream. -/
theorem Apart.does (apart : neighbours.Apart) {actor : StreamId}
    (does : Does (.discovery actor) neighbours after) :
    after.Apart ∧ Plane.KeepsNames neighbours.plane after.plane ∧
      ∀ stream, stream ≠ actor → Plane.Untouched stream neighbours.plane after.plane := by
  -- What the stream proceeds with, or has done, is its own doing.
  have acted {between : Plane} (acts : Plane.Acts actor neighbours.plane between) :
      Plane.KeepsNames neighbours.plane between ∧
        ∀ stream, stream ≠ actor → Plane.Untouched stream neighbours.plane between :=
    ⟨acts.keepsNames, fun _ different => acts.untouched apart.wellNumbered different⟩
  cases does with
  | discoveryRequest free few request =>
    obtain ⟨⟨client, acting⟩, names, untouched⟩ :=
      apart.wellNumbered.introduceDiscovery free.1 few request
    have within := Plane.within_handlingDiscovery acting request
    have acts := within.reached
    exact ⟨apart.act acting names within, Plane.frame_keepsNames.trans names acts.keepsNames,
      fun stream different => (Plane.frame_untouched stream).trans (untouched stream different)
        (acts.untouched acting.1 different)⟩
  | discoveryEnd free =>
    have acts := neighbours.plane.acts_finishDiscovery actor
    exact ⟨apart.spared (acts.wellNumbered apart.wellNumbered) acts.keepsNames, acted acts⟩
  | discoveryStop =>
    have acts := neighbours.plane.acts_stopDiscovery actor
    exact ⟨apart.spared (acts.wellNumbered apart.wellNumbered) acts.keepsNames, acted acts⟩
  | @send _ _ waiting sending =>
    obtain ⟨client, named, own, resumed⟩ := apart.patient _ _ sending
    have offering := Plane.acts_offer neighbours.plane own
    have acting := (Plane.lasting_acts actor client).lasts ⟨apart.wellNumbered, named⟩ offering
    have within := resumed (neighbours.plane.offer waiting.stream waiting.posting).1 _ acting
    exact ⟨apart.act acting offering.keepsNames within,
      acted ((Plane.frame_acts actor).trans offering within.reached)⟩
  | giveUp sending =>
    obtain ⟨client, named, -, resumed⟩ := apart.patient _ _ sending
    have acting : neighbours.plane.Acting actor client := ⟨apart.wellNumbered, named⟩
    have within := resumed .timedOut _ acting
    exact ⟨apart.act acting (Plane.frame_keepsNames.refl _) within, acted within.reached⟩

/-- Whatever any other task does keeps all tasks apart and the names as they are. -/
theorem Apart.elsewhere (apart : neighbours.Apart) {task : Task}
    (other : ∀ actor, task ≠ .discovery actor) (does : Does task neighbours after) :
    after.Apart ∧ Plane.KeepsNames neighbours.plane after.plane := by
  have wellKept := apart.wellNumbered.wellKept
  have resuming {waiting : Waiting} (sending : neighbours.waiting task = some waiting)
      (outcome : SendOutcome) (later : Plane) (kept : later.KeptWell) :
      (waiting.resume outcome later).Within Plane.KeptWell Plane.Beside (fun _ _ => True)
        later := by
    have bides := apart.patient task waiting sending
    cases task with
    | discovery actor => exact absurd rfl (other actor)
    | _ => exact bides outcome later kept
  cases does with
  | discoveryRequest => exact absurd rfl (other _)
  | discoveryEnd => exact absurd rfl (other _)
  | discoveryStop => exact absurd rfl (other _)
  | transportRequest free request =>
    exact apart.stepAside other (Plane.beside_handlingTransport wellKept _ request)
  | @transportEnd _ stream free =>
    have beside := (neighbours.plane.aside_finishTransport stream).beside
    exact ⟨apart.spared (beside.wellNumbered apart.wellNumbered) beside.keepsNames,
      beside.keepsNames⟩
  | work free working => exact apart.stepAside other (Plane.beside_working working)
  | @send _ _ waiting sending =>
    have offering := (neighbours.plane.keeps_offer waiting.stream waiting.posting).beside
    exact apart.stepAside other ((resuming sending _ _ (offering.wellKept wellKept)).begun
      Plane.frame_beside offering)
  | giveUp sending => exact apart.stepAside other (resuming sending _ _ wellKept)

/-- Whatever happens keeps all tasks apart and the names as they are. -/
theorem Apart.step (apart : neighbours.Apart) (step : Step neighbours after) :
    after.Apart ∧ Plane.KeepsNames neighbours.plane after.plane := by
  cases step with
  | @opening stream absent capacity =>
    obtain ⟨names, -⟩ := Plane.openDiscovery_frame absent capacity
    have keeps : Plane.KeepsNames neighbours.plane
        (neighbours.plane.openDiscovery stream capacity) :=
      fun other _ named => (names other).trans named
    exact ⟨apart.spared (apart.wellNumbered.openDiscovery absent capacity) keeps, keeps⟩
  | @task _ task does =>
    cases task with
    | discovery actor => exact (apart.does does).imp id And.left
    | _ => exact apart.elsewhere (fun _ => Task.noConfusion) does
  | elsewhere beside =>
    exact ⟨apart.spared (beside.wellNumbered apart.wellNumbered) beside.keepsNames,
      beside.keepsNames⟩

/-- So does whatever happens one after another. -/
theorem Apart.steps (apart : neighbours.Apart) (steps : Steps neighbours after) :
    after.Apart ∧ Plane.KeepsNames neighbours.plane after.plane := by
  induction steps with
  | refl => exact ⟨apart, Plane.frame_keepsNames.refl neighbours.plane⟩
  | tail _ step ih =>
    obtain ⟨still, kept⟩ := ih
    obtain ⟨apart, keeps⟩ := still.step step
    exact ⟨apart, Plane.frame_keepsNames.trans kept keeps⟩

/-- A step of any other discovery stream. -/
def Foreign (stream : StreamId) (before after : Neighbours) : Prop :=
  ∃ actor, stream ≠ actor ∧ Does (.discovery actor) before after

/-- Whatever is done for other streams changes nothing for one. -/
theorem Apart.untouched (apart : neighbours.Apart) {stream : StreamId}
    (served : Relation.ReflTransGen (Foreign stream) neighbours after) :
    after.Apart ∧ Plane.Untouched stream neighbours.plane after.plane := by
  induction served with
  | refl => exact ⟨apart, (Plane.frame_untouched stream).refl neighbours.plane⟩
  | tail _ foreign ih =>
    obtain ⟨still, same⟩ := ih
    obtain ⟨actor, different, does⟩ := foreign
    obtain ⟨apart, -, untouched⟩ := still.does does
    exact ⟨apart, (Plane.frame_untouched stream).trans same (untouched stream different)⟩

/-! ## Isolation -/

/-- Whatever has happened to any number of discovery streams, no two streams of the past and the
    future have one name, and what is done for some streams changes nothing for another: no piece of
    it, with anything in between, nor the handling of a request as a whole. -/
theorem streams_isolated {settings : PushSettings} {kinds : KindTable} {dispatcher : Dispatcher}
    {clock : UInt64} (reached : Steps (start settings kinds dispatcher clock) neighbours) :
    (∀ later, Steps neighbours later → ∀ first second client,
      neighbours.plane.discoveryName? first = some client →
        later.plane.discoveryName? second = some client → second = first) ∧
    (∀ stream later, Relation.ReflTransGen (Foreign stream) neighbours later →
      Plane.Untouched stream neighbours.plane later.plane) ∧
    ∀ actor request, neighbours.IsFree actor →
      (neighbours.plane.discoveryName? actor = none →
        neighbours.plane.opened.toNat + 1 < UInt64.size) →
      ∀ stream, stream ≠ actor → Plane.Untouched stream neighbours.plane
        ((neighbours.plane.introduceDiscovery actor request).handleDiscovery actor request) := by
  have apart := ((apart_start settings kinds dispatcher clock).steps reached).1
  refine ⟨fun later steps first second client earlier named => ?_,
    fun stream later served => (apart.untouched served).2,
    fun actor request free few stream different => ?_⟩
  · obtain ⟨still, names⟩ := apart.steps steps
    exact still.wellNumbered.alone first second client (names first client earlier) named
  · obtain ⟨⟨client, acting⟩, -, untouched⟩ :=
      apart.wellNumbered.introduceDiscovery free.1 few request
    exact (Plane.frame_untouched stream).trans (untouched stream different)
      ((Plane.acts_handleDiscovery acting request).untouched acting.1 different)

/-- What one task proceeds with lets no other wait. -/
theorem waiting_proceed_of_ne {task other : Task} (different : other ≠ task)
    (activity : Activity Posting Plane Unit) :
    (neighbours.proceed task activity).waiting other = neighbours.waiting other :=
  if_neg different

/-- A first request of a node for the rate limits of an application. -/
def firstRequest (node app : String) : Discovery.Request :=
  ⟨some node, Discovery.typeUrl,
    ["fault-tolerance.opensergo.io/v1alpha1/RateLimitStrategy/" ++ app ++ "/default"], none, "",
    ""⟩

/-- Two streams are open. -/
def twoStreams : Neighbours where
  plane :=
    ((Plane.start ⟨.bestEffort, 3, 1000, "control-plane"⟩ KindTable.builtIn
      (Dispatcher.ofSizes 1 1) 0).openDiscovery ⟨0⟩ none).openDiscovery ⟨1⟩ none
  waiting := fun _ => none

/-- Two nodes of one name ask for the same application on streams of their own. -/
def namesakes : Neighbours :=
  (twoStreams.hear ⟨0⟩ (firstRequest "node" "app")).hear ⟨1⟩ (firstRequest "node" "app")

/-- The streams have different names, and what the first asks for next is nothing to the second. -/
theorem streams_isolated_namesakes :
    namesakes.plane.discoveryName? ⟨0⟩ = some ⟨"node-1"⟩ ∧
      namesakes.plane.subscribers.discovery.targetsOf ⟨"node-2"⟩ =
        [⟨⟨"default", "app"⟩, ⟨"fault-tolerance.opensergo.io/v1alpha1/RateLimitStrategy"⟩⟩] ∧
      (∀ stream, namesakes.plane.discoveryName? stream = some ⟨"node-1"⟩ → stream = ⟨0⟩) ∧
        namesakes.IsFree ⟨0⟩ ∧
          Plane.Untouched ⟨1⟩ namesakes.plane
            ((namesakes.plane.introduceDiscovery ⟨0⟩ (firstRequest "node" "other")).handleDiscovery
              ⟨0⟩ (firstRequest "node" "other")) := by
  have first : twoStreams.IsFree ⟨0⟩ := ⟨by decide +kernel, rfl⟩
  have second : (twoStreams.hear ⟨0⟩ (firstRequest "node" "app")).IsFree ⟨1⟩ :=
    ⟨by decide +kernel, waiting_proceed_of_ne (by decide) _⟩
  have free : namesakes.IsFree ⟨0⟩ := ⟨by decide +kernel, by rfl⟩
  have named : namesakes.plane.discoveryName? ⟨0⟩ = some ⟨"node-1"⟩ := by decide +kernel
  have firstHeard : Step twoStreams (twoStreams.hear ⟨0⟩ (firstRequest "node" "app")) :=
    .task (.discoveryRequest first (fun _ => by decide +kernel) _)
  have secondHeard : Step (twoStreams.hear ⟨0⟩ (firstRequest "node" "app")) namesakes :=
    .task (.discoveryRequest second (fun _ => by decide +kernel) _)
  have reached : Steps (start ⟨.bestEffort, 3, 1000, "control-plane"⟩ KindTable.builtIn
      (Dispatcher.ofSizes 1 1) 0) namesakes :=
    .tail (.tail (.tail (.single (.opening (by decide +kernel) none))
      (.opening (by decide +kernel) none)) firstHeard) secondHeard
  obtain ⟨distinct, -, handled⟩ := streams_isolated reached
  exact ⟨named, by decide +kernel, fun stream called => distinct _ .refl ⟨0⟩ stream _ named called,
    free, handled ⟨0⟩ _ free (fun unnamed => by rw [named] at unnamed; cases unnamed) ⟨1⟩
      (by decide)⟩

end Neighbours

end RulePlane
