import RulePlane.Proofs.TransportDelivery

/-!
# The slots of transport streams

How long a transport stream keeps what it has subscribed. Any number of streams are served at once,
under names that their clients choose and that need not differ. Each stream deals with the targets
of a request one by one, and between any two of them all the other streams may do the same, or end.

A stream that has got a slot keeps it as long as it lives, until a stream of its name leaves the
target or ends; it receives every push that does not fail exactly once (`slot_lasts`). What streams
of other names do never matters. That streams of one name do matter is shown by
`slot_lost_to_namesake`: when the first of them ends, the other one has lost its subscription.
-/

namespace RulePlane

/-! ## Streams in service -/

/-- One target of a request that is still to be dealt with, in the name of the client. -/
inductive Errand where
  | enter (client : ClientId) (requestId : String) (target : Target)
  | leave (client : ClientId) (target : Target)
deriving DecidableEq

namespace Errand

/-- What a request asks for one of its targets. -/
def ofRequest (client : ClientId) (requestId : String) : Transport.Operation → Target → Errand
  | .subscribe, target => .enter client requestId target
  | .unsubscribe, target => .leave client target

/-- The client in whose name a target is dealt with. -/
def client : Errand → ClientId
  | enter client _ _ => client
  | leave client _ => client

/-- What a request asks for is asked in the name of its client. -/
@[simp] theorem client_ofRequest (name : ClientId) (requestId : String)
    (operation : Transport.Operation) (target : Target) :
    (ofRequest name requestId operation target).client = name := by
  cases operation <;> rfl

/-- Deal with one target. -/
def perform (stream : StreamId) (plane : Plane) : Errand → Plane
  | enter client requestId target => plane.subscribeTransport stream client requestId target
  | leave client target => plane.unsubscribeTransport client target

end Errand

/-- Transport streams in service, each between two of its steps, with what it has still to do for
    its last request. -/
structure Serving where
  plane : Plane
  errands : Table StreamId (List Errand)

namespace Serving

/-- What may happen next. A client opens a stream; a stream takes a request when it has dealt with
    the one before, proceeds with it target by target, or ends; something is pushed, a resource
    changes, or a client reads or goes away. -/
inductive Move where
  | opening (stream : StreamId) (capacity : Option Nat)
  | request (stream : StreamId) (request : Transport.Request)
  | proceed (stream : StreamId)
  | ending (stream : StreamId)
  | push (push : Push)
  | notice (kind : Kind) (change : Change)
  | outbox (stream : StreamId) (change : Outbox Transport.Response → Outbox Transport.Response)

/-- No stream has been opened yet. -/
def start (plane : Plane) : Serving := ⟨plane, Table.empty⟩

/-- What a stream has still to do. -/
def due (serving : Serving) (stream : StreamId) : List Errand :=
  (serving.errands.find? stream).getD []

/-- Take a request: name the stream, and note what is asked for. -/
def take (stream : StreamId) (request : Transport.Request) (serving : Serving) : Serving :=
  if request.isAcknowledgement then serving
  else
    let (client, plane) := serving.plane.nameTransport stream request.identifier
    match request.validate with
    | .error fault =>
        { serving with
          plane := (Plane.transportChannels.send stream
            (.malformed plane.settings.controlPlane request.requestId fault) plane).2 }
    | .ok (operation, targets) =>
        { plane
          errands := serving.errands.insert stream
            (targets.map (Errand.ofRequest client request.requestId operation)) }

/-- Deal with one target. -/
def proceed (stream : StreamId) (serving : Serving) : Serving :=
  match serving.due stream with
  | [] => serving
  | errand :: rest =>
      { plane := errand.perform stream serving.plane
        errands := serving.errands.insert stream rest }

/-- Let one thing happen. -/
def move (serving : Serving) : Move → Serving
  | .opening stream capacity =>
      if (serving.plane.transport.find? stream).isSome then serving
      else
        { serving with plane := { serving.plane with
            transport := serving.plane.transport.insert stream (.fresh none capacity) } }
  | .request stream request =>
      if (serving.plane.transport.find? stream).isSome ∧ serving.due stream = [] then
        serving.take stream request
      else serving
  | .proceed stream => serving.proceed stream
  | .ending stream =>
      if serving.due stream = [] then
        { serving with plane := serving.plane.finishTransport stream }
      else serving
  | .push push => { serving with plane := serving.plane.publishAll push }
  | .notice kind change => { serving with plane := (serving.plane.notice kind change).2 }
  | .outbox stream change =>
      { serving with plane := { serving.plane with
          transport := serving.plane.transport.modify stream fun found =>
            { found with outbox := change found.outbox } } }

/-- Let several things happen. -/
def run (moves : List Move) (serving : Serving) : Serving := moves.foldl move serving

/-- What a stream has still to do after the errands of a stream were noted. -/
theorem due_insert (plane : Plane) (errands : Table StreamId (List Errand)) (stream : StreamId)
    (list : List Errand) (tested : StreamId) :
    due ⟨plane, errands.insert stream list⟩ tested =
      if stream = tested then list else due ⟨plane, errands⟩ tested := by
  simp only [due, Table.find?_insert]
  split <;> rfl

/-- Proceeding as often as there are targets deals with all of them. -/
theorem run_proceed (stream : StreamId) (serving : Serving) :
    let dealt := run (List.replicate (serving.due stream).length (.proceed stream)) serving
    dealt.plane = (serving.due stream).foldl (Errand.perform stream) serving.plane ∧
      dealt.due stream = [] := by
  induction remaining : serving.due stream generalizing serving with
  | nil => exact ⟨rfl, remaining⟩
  | cons errand rest inductionHypothesis =>
    have proceeded : serving.proceed stream =
        ⟨errand.perform stream serving.plane, serving.errands.insert stream rest⟩ := by
      simp only [proceed, remaining]
    have behind : (serving.proceed stream).due stream = rest := by
      rw [proceeded, due_insert, if_pos rfl]
    have dealt := inductionHypothesis (serving.proceed stream) behind
    rw [proceeded] at dealt
    simp only [List.length_cons, List.replicate_succ, run, List.foldl_cons, move, proceeded]
    exact dealt

/-- A stream that just proceeds after a request, with nothing in between, has handled it. -/
theorem exists_run_handleTransport {serving : Serving} {stream : StreamId}
    (opened : (serving.plane.transport.find? stream).isSome = true)
    (idle : serving.due stream = []) (request : Transport.Request) :
    ∃ count,
      let handled := run (.request stream request :: List.replicate count (.proceed stream)) serving
      handled.plane = serving.plane.handleTransport stream request ∧ handled.due stream = [] := by
  let noted := serving.take stream request
  obtain ⟨dealt, done⟩ := run_proceed stream noted
  have taken (rest : List Move) :
      run (.request stream request :: rest) serving = run rest noted := by
    simp [run, move, opened, idle, noted]
  refine ⟨(noted.due stream).length, ?_⟩
  rw [taken]
  refine ⟨dealt.trans ?_, done⟩
  simp only [noted, take, Plane.handleTransport]
  split
  · rw [idle]
    rfl
  · generalize serving.plane.nameTransport stream request.identifier = named
    obtain ⟨client, plane⟩ := named
    cases request.validate with
    | error fault => exact congrArg (List.foldl _ _) idle
    | ok answer =>
      obtain ⟨operation, targets⟩ := answer
      simp only [due_insert, if_true, List.foldl_map]
      cases operation <;> rfl

/-! ## The invariant -/

/-- Slots are well seated, and a stream does its errands in its own name. -/
structure Orderly (serving : Serving) : Prop where
  wellSeated : serving.plane.WellSeated
  named : ∀ stream, ∀ errand ∈ serving.due stream,
    serving.plane.transportClient? stream = some errand.client

/-- What happens next takes the slot of a client at a target: a stream leaves the target in the name
    of the client, or a stream of that name ends. -/
def Loses (serving : Serving) (move : Move) (target : Target) (client : ClientId) : Prop :=
  match move with
  | .proceed stream => (serving.due stream).head? = some (.leave client target)
  | .ending stream => serving.plane.transportClient? stream = some client
  | _ => False

/-- Before the first stream is opened all is in order. -/
theorem orderly_start (settings : PushSettings) (kinds : KindTable) (dispatcher : Dispatcher)
    (clock : UInt64) : Orderly (start (Plane.start settings kinds dispatcher clock)) :=
  ⟨Plane.wellSeated_start settings kinds dispatcher clock, nofun⟩

/-- A step that retains slots and adds no errands keeps order. -/
theorem Orderly.retained {serving after : Serving} (orderly : serving.Orderly)
    {lost : Target → ClientId → Prop} (retains : Plane.Retains lost serving.plane after.plane)
    (fewer : ∀ stream, ∀ errand ∈ after.due stream, errand ∈ serving.due stream) :
    after.Orderly := by
  obtain ⟨wellSeated, names, -⟩ := retains orderly.wellSeated
  refine ⟨wellSeated, fun stream errand listed => ?_⟩
  exact (names stream _ (orderly.named stream errand (fewer stream errand listed))).1

/-- Taking a request keeps order, and takes no slot away. -/
theorem Orderly.take {serving : Serving} (orderly : serving.Orderly) {stream : StreamId}
    (opened : (serving.plane.transport.find? stream).isSome = true) (request : Transport.Request)
    (lost : Target → ClientId → Prop) :
    (serving.take stream request).Orderly ∧
      Plane.Retains lost serving.plane (serving.take stream request).plane := by
  have frame := Plane.frame_retains lost
  unfold Serving.take
  split
  · exact ⟨orderly, frame.refl serving.plane⟩
  · have naming : Plane.Retains lost _ _ :=
      Plane.retains_nameTransport serving.plane stream request.identifier
    obtain ⟨-, -, -, named⟩ := Plane.nameTransport_frame serving.plane stream request.identifier
    have called := named opened
    generalize serving.plane.nameTransport stream request.identifier = answer at naming called
    obtain ⟨client, plane⟩ := answer
    cases request.validate with
    | error fault =>
      have rejected := Plane.frame_keeps.send (Plane.transportChannels_keeps stream)
        (.malformed plane.settings.controlPlane request.requestId fault) plane
      have retains := frame.trans naming rejected.retains
      exact ⟨orderly.retained retains fun _ _ listed => listed, retains⟩
    | ok asked =>
      obtain ⟨operation, targets⟩ := asked
      obtain ⟨wellSeated, names, -⟩ := naming orderly.wellSeated
      refine ⟨⟨wellSeated, fun tested errand listed => ?_⟩, naming⟩
      rw [due_insert] at listed
      split at listed
      · rename_i same
        obtain ⟨target, -, rfl⟩ := List.mem_map.1 listed
        rw [Errand.client_ofRequest, ← same]
        exact called
      · exact (names tested _ (orderly.named tested errand listed)).1

/-- Dealing with a target keeps order, and takes no slot away except by leaving it. -/
theorem Orderly.proceed {serving : Serving} (orderly : serving.Orderly) (stream : StreamId) :
    (serving.proceed stream).Orderly ∧
      Plane.Retains (serving.Loses (.proceed stream)) serving.plane
        (serving.proceed stream).plane := by
  unfold Serving.proceed
  split
  · exact ⟨orderly, (Plane.frame_retains _).refl serving.plane⟩
  · rename_i errand rest remaining
    have named := orderly.named stream errand (by simp [remaining])
    have retains : Plane.Retains (serving.Loses (.proceed stream)) serving.plane
        (errand.perform stream serving.plane) := by
      cases errand with
      | enter client requestId target =>
        exact Plane.retains_subscribeTransport (fun _ => named) requestId target
      | leave client target =>
        exact Plane.retains_unsubscribeTransport serving.plane (by simp [Loses, remaining])
    refine ⟨orderly.retained retains fun tested other listed => ?_, retains⟩
    rw [due_insert] at listed
    split at listed
    · rename_i same
      rw [← same, remaining]
      exact List.mem_cons_of_mem errand listed
    · exact listed

/-- Whatever happens keeps order, and takes away the slots that it is said to take, and no others.
    -/
theorem Orderly.move {serving : Serving} (orderly : serving.Orderly) (move : Move) :
    (serving.move move).Orderly ∧
      Plane.Retains (serving.Loses move) serving.plane (serving.move move).plane := by
  have frame := Plane.frame_retains (serving.Loses move)
  have alone {plane : Plane} (retains : Plane.Retains (serving.Loses move) serving.plane plane) :
      Orderly { serving with plane } ∧
        Plane.Retains (serving.Loses move) serving.plane plane :=
    ⟨orderly.retained retains fun _ _ listed => listed, retains⟩
  have stay : serving.Orderly ∧
      Plane.Retains (serving.Loses move) serving.plane serving.plane :=
    alone (frame.refl serving.plane)
  cases move with
  | opening stream capacity =>
    simp only [Serving.move]
    split
    · exact stay
    · rename_i absent
      exact alone (Plane.retains_opening (Option.not_isSome_iff_eq_none.1 absent) capacity)
  | request stream request =>
    simp only [Serving.move]
    split
    · rename_i ready
      exact orderly.take ready.1 request _
    · exact stay
  | proceed stream => exact orderly.proceed stream
  | ending stream =>
    simp only [Serving.move]
    split
    · exact alone (Plane.retains_finishTransport fun name named _ => named)
    · exact stay
  | push push => exact alone (Plane.keeps_publishAll _ push).retains
  | notice kind change => exact alone (Plane.keeps_notice _ kind change).retains
  | outbox stream change =>
    have read : Plane.Keeps serving.plane (serving.move (.outbox stream change)).plane :=
      Plane.keeps_modifyTransport serving.plane stream (fun _ => rfl) (fun _ valid => valid)
    exact alone read.retains

/-- Streams in service, however they were reached from a control plane without clients. -/
def Reachable (serving : Serving) : Prop :=
  ∃ settings kinds dispatcher clock moves,
    run moves (start (Plane.start settings kinds dispatcher clock)) = serving

/-- Whatever happens in whatever order, all is in order. -/
theorem Reachable.orderly {serving : Serving} (reachable : serving.Reachable) :
    serving.Orderly := by
  obtain ⟨settings, kinds, dispatcher, clock, moves, rfl⟩ := reachable
  have initial := orderly_start settings kinds dispatcher clock
  generalize start (Plane.start settings kinds dispatcher clock) = serving at initial
  induction moves generalizing serving with
  | nil => exact initial
  | cons move rest inductionHypothesis => exact inductionHypothesis _ (initial.move move).1

/-- Nothing of what happens takes the slot of a client at a target. -/
def Undisturbed (target : Target) (client : ClientId) : List Move → Serving → Prop
  | [], _ => True
  | move :: rest, serving =>
      ¬ serving.Loses move target client ∧ Undisturbed target client rest (serving.move move)

/-- Whether the next step takes a slot can be decided. -/
instance (serving : Serving) (move : Move) (target : Target) (client : ClientId) :
    Decidable (serving.Loses move target client) :=
  match move with
  | .proceed stream =>
      inferInstanceAs (Decidable ((serving.due stream).head? = some (.leave client target)))
  | .ending stream =>
      inferInstanceAs (Decidable (serving.plane.transportClient? stream = some client))
  | .opening _ _ | .request _ _ | .push _ | .notice _ _ | .outbox _ _ => isFalse id

/-- Whether several steps take a slot can be decided by following them. -/
instance decidableUndisturbed (target : Target) (client : ClientId) :
    (moves : List Move) → (serving : Serving) → Decidable (Undisturbed target client moves serving)
  | [], _ => isTrue trivial
  | move :: rest, serving =>
      have := decidableUndisturbed target client rest (serving.move move)
      inferInstanceAs (Decidable (¬ serving.Loses move target client ∧
        Undisturbed target client rest (serving.move move)))

/-- A slot is retained by whatever does not take it. -/
theorem Orderly.retains_run {serving : Serving} (orderly : serving.Orderly) {target : Target}
    {client : ClientId} {moves : List Move}
    (undisturbed : Undisturbed target client moves serving) :
    Plane.Retains (fun other name => ¬ (other = target ∧ name = client)) serving.plane
      (run moves serving).plane := by
  have frame := Plane.frame_retains fun other name => ¬ (other = target ∧ name = client)
  induction moves generalizing serving with
  | nil => exact frame.refl serving.plane
  | cons move rest inductionHypothesis =>
    obtain ⟨spared, following⟩ := undisturbed
    obtain ⟨after, retains⟩ := orderly.move move
    refine frame.trans (retains.mono ?_) (inductionHypothesis after following)
    rintro other name gone ⟨rfl, rfl⟩
    exact spared gone

/-- A stream that deals with the subscription of a target of a supported kind, while no other living
    stream of its name holds the target, has the slot as long as it lives and no stream of its name
    leaves the target or ends, whatever else all the streams do. Every push to the target that does
    not fail brings it exactly one response, and a push does not fail if all living holders read
    their responses and have room for one more. -/
theorem slot_lasts {serving : Serving} (reachable : serving.Reachable) {stream : StreamId}
    {client : ClientId} {requestId : String} {target : Target} {rest : List Errand}
    (due : serving.due stream = .enter client requestId target :: rest)
    (supported : serving.plane.subscribers.watchers.supports target.kind = true)
    (vacant : ∀ other, serving.plane.slot? target client = some other →
      other = stream ∨ serving.plane.transportValid other = false)
    {moves : List Move} (undisturbed : Undisturbed target client moves (serving.proceed stream))
    (valid : (run moves (serving.proceed stream)).plane.transportValid stream = true) :
    let reached := (run moves (serving.proceed stream)).plane
    reached.slot? target client = some stream ∧ ∀ push : Push, push.target = target →
      ((reached.publishTransport push).1 = .ok () →
        ∃ token, (reached.publishTransport push).2.waiting stream = reached.waiting stream ++
          [.ofRules reached.settings.controlPlane token target push.rules push.version]) ∧
      ((∀ owner other, reached.slot? target owner = some other →
          reached.transportValid other = true → reached.Accepts other) →
        (reached.publishTransport push).1 = .ok ()) := by
  have orderly := reachable.orderly
  obtain ⟨served, retains⟩ := orderly.proceed stream
  obtain ⟨-, keepsNames, -⟩ := retains orderly.wellSeated
  obtain ⟨wellSeated, names, kept⟩ := served.retains_run undisturbed served.wellSeated
  have proceeded : (serving.proceed stream).plane =
      serving.plane.subscribeTransport stream client requestId target := by
    simp only [Serving.proceed, due]
    rfl
  have named := orderly.named stream _ (due ▸ List.mem_cons_self)
  have alive := (names stream client (keepsNames stream client named).1).2 valid
  have seated : (serving.proceed stream).plane.slot? target client = some stream := by
    rw [proceeded] at alive ⊢
    exact Plane.slot?_subscribeTransport orderly.wellSeated.wellKept supported vacant alive
  have lasting := kept target client stream (fun apart => apart ⟨rfl, rfl⟩) seated valid
  refine ⟨lasting, ?_⟩
  rintro push rfl
  exact ⟨Plane.publishTransport_delivers wellSeated lasting valid,
    Plane.publishTransport_succeeds wellSeated lasting⟩

/-- The rate limits of one application. -/
def rateLimits : Target :=
  ⟨⟨"default", "first"⟩, ⟨"fault-tolerance.opensergo.io/v1alpha1/RateLimitStrategy"⟩⟩

/-- A request that subscribes the rate limits, if the operation is 0, or leaves them, if it is 1. -/
def asking (operation : Int) (identifier : String) : Transport.Request :=
  ⟨some ⟨"default", "first", ["fault-tolerance.opensergo.io/v1alpha1/RateLimitStrategy"]⟩,
    operation, "request", "", none, identifier⟩

/-- A control plane for the built-in kinds, without clients. -/
def vacant : Serving :=
  start (Plane.start ⟨.bestEffort, 3, 1000, "control-plane"⟩ KindTable.builtIn
    (Dispatcher.ofSizes 1 1) 0)

/-- A stream is opened and asks for the rate limits. -/
def joining (stream : StreamId) (identifier : String) : List Move :=
  [.opening stream none, .request stream (asking 0 identifier)]

/-- A second stream of the name subscribes as well, and a stream of another name comes and goes. -/
def passing : List Move :=
  joining ⟨1⟩ "client" ++ [.proceed ⟨1⟩] ++ joining ⟨2⟩ "other" ++
    [.proceed ⟨2⟩, .request ⟨2⟩ (asking 1 "other"), .proceed ⟨2⟩, .ending ⟨2⟩]

/-- A stream that subscribes the rate limits is pushed to after all that, and by one response. -/
theorem slot_lasts_passing :
    let served := run (joining ⟨0⟩ "client") vacant
    let reached := (run passing (served.proceed ⟨0⟩)).plane
    served.Reachable ∧ Undisturbed rateLimits ⟨"client"⟩ passing (served.proceed ⟨0⟩) ∧
      reached.slot? rateLimits ⟨"client"⟩ = some ⟨0⟩ ∧
        (reached.publishTransport ⟨rateLimits, [], 7⟩).1 = .ok () ∧
          ∃ token, (reached.publishTransport ⟨rateLimits, [], 7⟩).2.waiting ⟨0⟩ =
            [.ofRules "control-plane" token rateLimits [] 7] := by
  have reachable : (run (joining ⟨0⟩ "client") vacant).Reachable := ⟨_, _, _, _, _, rfl⟩
  have undisturbed : Undisturbed rateLimits ⟨"client"⟩ passing
      ((run (joining ⟨0⟩ "client") vacant).proceed ⟨0⟩) := by
    decide +kernel
  have due : (run (joining ⟨0⟩ "client") vacant).due ⟨0⟩ =
      [.enter ⟨"client"⟩ "request" rateLimits] := rfl
  have free : (run (joining ⟨0⟩ "client") vacant).plane.slot? rateLimits ⟨"client"⟩ = none := rfl
  obtain ⟨seated, pushed⟩ := slot_lasts reachable due (by decide +kernel)
    (fun other taken => absurd (free.symm.trans taken) (by simp)) undisturbed (by decide +kernel)
  obtain ⟨delivers, -⟩ := pushed ⟨rateLimits, [], 7⟩ rfl
  exact ⟨reachable, undisturbed, seated, rfl, delivers rfl⟩

/-- Two streams of one name subscribe the rate limits and both live, and their clients read all that
    comes. The second one receives nothing while the first one lives; and when the first one has
    ended a push reaches nobody, although the second one neither left the target nor ended. -/
theorem slot_lost_to_namesake :
    let served := run (joining ⟨0⟩ "client" ++ [.proceed ⟨0⟩] ++ joining ⟨1⟩ "client" ++
      [.proceed ⟨1⟩]) vacant
    let left := served.move (.ending ⟨0⟩)
    served.due ⟨1⟩ = [] ∧ served.plane.transportClient? ⟨1⟩ = some ⟨"client"⟩ ∧
      ((served.plane.publishTransport ⟨rateLimits, [], 7⟩).1 = .ok () ∧
        (served.plane.publishTransport ⟨rateLimits, [], 7⟩).2.waiting ⟨1⟩ = []) ∧
        left.plane.transportValid ⟨1⟩ = true ∧ left.plane.Accepts ⟨1⟩ ∧
          (left.plane.publishTransport ⟨rateLimits, [], 7⟩).1 =
            .error (.noConnections rateLimits) ∧
            (left.plane.publishTransport ⟨rateLimits, [], 7⟩).2.waiting ⟨1⟩ = [] :=
  ⟨rfl, rfl, ⟨rfl, rfl⟩, rfl, ⟨_, rfl, rfl, rfl⟩, rfl, rfl⟩

end Serving

end RulePlane
