import RulePlane.Proofs.TransportSlots

/-!
# The names of transport streams

Under which name a transport stream subscribes. The name is settled once, by the first request that
is not an acknowledgement, whether or not that request is well formed: if it carries an identifier,
that is the name, and otherwise one is generated. What acknowledgements carry is never looked at,
nor is what any later request carries.

`stream_name_exact` says so for all requests of a stream, in whatever order they come and whatever
other streams do in between. So a stream has the first identifier that its client sends only if the
naming request carries it; `malformed_request_hides_identifier` shows a client that sends one later
and is not known by it.
-/

namespace RulePlane

namespace Plane

variable {plane : Plane}

/-- A stream that has a name keeps it. -/
theorem nameTransport_of_named {stream : StreamId} {client : ClientId}
    (named : plane.transportClient? stream = some client) (identifier : String) :
    (plane.nameTransport stream identifier).1 = client := by
  unfold transportClient? at named
  unfold nameTransport
  rw [named]

/-- A name as a stream may get it that has none: the given identifier, or a generated name if that
    is empty. -/
def NamedAfter (identifier : String) (client : ClientId) : Prop :=
  if identifier = "" then ∃ token, client = ⟨"transport-" ++ token⟩ else client = ⟨identifier⟩

/-- A stream that has no name is named after the identifier that it is given. -/
theorem nameTransport_of_unnamed {stream : StreamId}
    (unnamed : plane.transportClient? stream = none) (identifier : String) :
    NamedAfter identifier (plane.nameTransport stream identifier).1 := by
  unfold transportClient? at unnamed
  unfold nameTransport NamedAfter
  rw [unnamed]
  dsimp only
  split
  · exact ⟨_, rfl⟩
  · rfl

/-- A name that is not a generated one is had by whoever was given it as identifier. -/
theorem NamedAfter.eq_iff {given identifier : String} {client : ClientId}
    (named : NamedAfter given client) (sent : identifier ≠ "")
    (chosen : ∀ token, identifier ≠ "transport-" ++ token) :
    client = ⟨identifier⟩ ↔ given = identifier := by
  unfold NamedAfter at named
  split at named
  · rename_i missing
    obtain ⟨token, rfl⟩ := named
    refine ⟨fun same => ?_, fun same => absurd (same.symm.trans missing) sent⟩
    exact absurd (congrArg ClientId.text same).symm (chosen token)
  · subst named
    exact ⟨congrArg ClientId.text, congrArg ClientId.mk⟩

/-- An open stream has its name when it has been named, and the names of all others stay. -/
theorem transportClient?_nameTransport {stream : StreamId}
    (opened : (plane.transport.find? stream).isSome = true) (identifier : String)
    (tested : StreamId) :
    (plane.nameTransport stream identifier).2.transportClient? tested =
      if stream = tested then some (plane.nameTransport stream identifier).1
      else plane.transportClient? tested := by
  by_cases same : stream = tested
  · subst same
    rw [if_pos rfl]
    exact (plane.nameTransport_frame stream identifier).2.2.2 opened
  · rw [if_neg same]
    unfold nameTransport
    split
    · rfl
    · dsimp only
      split <;> exact congrArg (Option.bind · TransportStream.client)
        ((Table.find?_modify _ _ _ _).trans (if_neg same))

/-- A target that is subscribed names nobody. -/
theorem transportClient?_subscribeTransport (wellKept : plane.subscribers.watchers.WellKept)
    (stream : StreamId) (client : ClientId) (requestId : String) (target : Target)
    (tested : StreamId) :
    (plane.subscribeTransport stream client requestId target).transportClient? tested =
      plane.transportClient? tested := by
  rcases subscribeTransport_cases wellKept stream client requestId target with
    ⟨keeps, -⟩ | ⟨registry, -, -, keeps⟩
  · exact keeps.transportClient? tested
  · exact keeps.transportClient? tested

/-- A stream that ends names nobody. -/
theorem transportClient?_finishTransport (plane : Plane) (stream tested : StreamId) :
    (plane.finishTransport stream).transportClient? tested = plane.transportClient? tested := by
  unfold finishTransport
  split
  · rfl
  · exact (keeps_invalidateTransport plane stream).transportClient? tested

end Plane

namespace Serving

variable {serving : Serving} {stream : StreamId}

/-! ## The requests of a stream -/

/-- The request that a stream takes by a step, if any: it has to be open and to have dealt with the
    one before. -/
def takes? (serving : Serving) (stream : StreamId) : Move → Option Transport.Request
  | .request addressed request =>
      if addressed = stream ∧ (serving.plane.transport.find? stream).isSome ∧
        serving.due stream = [] then some request else none
  | _ => none

/-- The requests that a stream takes during a run, in their order. -/
def taken (stream : StreamId) : List Move → Serving → List Transport.Request
  | [], _ => []
  | move :: rest, serving =>
      (serving.takes? stream move).toList ++ taken stream rest (serving.move move)

/-- The request that names a stream: the first that is not an acknowledgement. -/
def naming? (requests : List Transport.Request) : Option Transport.Request :=
  requests.find? fun request => !request.isAcknowledgement

/-- The first identifier that is not empty, on whatever request. -/
def firstIdentifier? (requests : List Transport.Request) : Option String :=
  (requests.map Transport.Request.identifier).find? fun identifier => identifier ≠ ""

/-- A stream is named after the first request that is not an acknowledgement, and has no name as
    long as there is none. -/
def NamedBy (requests : List Transport.Request) : Option ClientId → Prop
  | none => naming? requests = none
  | some client => ∃ first, naming? requests = some first ∧ Plane.NamedAfter first.identifier client

/-- Acknowledgements name nobody. -/
theorem naming?_concat_of_acknowledgement {request : Transport.Request}
    (acknowledgement : request.isAcknowledgement = true) (requests : List Transport.Request) :
    naming? (requests ++ [request]) = naming? requests := by
  simp [naming?, List.find?_append, acknowledgement]

/-- Every other request names a stream that had none. -/
theorem naming?_concat {request : Transport.Request}
    (asks : request.isAcknowledgement = false) (requests : List Transport.Request) :
    naming? (requests ++ [request]) = some ((naming? requests).getD request) := by
  unfold naming?
  rw [List.find?_append]
  cases requests.find? fun request => !request.isAcknowledgement with
  | some first => rfl
  | none => simp [asks]

/-! ## Naming -/

/-- Taking a request names the stream, unless the request is an acknowledgement or the stream has a
    name. -/
theorem transportClient?_take (opened : (serving.plane.transport.find? stream).isSome = true)
    (request : Transport.Request) (tested : StreamId) :
    (serving.take stream request).plane.transportClient? tested =
      if stream = tested ∧ request.isAcknowledgement = false then
        some (serving.plane.nameTransport stream request.identifier).1
      else serving.plane.transportClient? tested := by
  unfold Serving.take
  cases request.isAcknowledgement with
  | true => simp
  | false =>
    have named := Plane.transportClient?_nameTransport opened request.identifier tested
    generalize serving.plane.nameTransport stream request.identifier = answer at named
    obtain ⟨client, plane⟩ := answer
    simp only [Bool.false_eq_true, if_false, and_true]
    cases request.validate with
    | error fault =>
      have rejected := Plane.frame_keeps.send (Plane.transportChannels_keeps stream)
        (.malformed plane.settings.controlPlane request.requestId fault) plane
      exact (rejected.transportClient? tested).trans named
    | ok asked => exact named

/-- Nobody is named by a step but the stream that takes a request by it. -/
theorem transportClient?_move (orderly : serving.Orderly) (move : Move) (stream : StreamId) :
    (serving.move move).plane.transportClient? stream =
      match serving.takes? stream move with
      | some request =>
          if request.isAcknowledgement then serving.plane.transportClient? stream
          else some (serving.plane.nameTransport stream request.identifier).1
      | none => serving.plane.transportClient? stream := by
  cases move with
  | opening opened capacity =>
    simp only [Serving.move, takes?]
    split
    · rfl
    · rename_i absent
      simp only [Plane.transportClient?, Table.find?_insert]
      split
      · rename_i same
        rw [← same, Option.not_isSome_iff_eq_none.1 absent]
        rfl
      · rfl
  | request addressed request =>
    by_cases ready : (serving.plane.transport.find? addressed).isSome ∧ serving.due addressed = []
    · have moved : serving.move (.request addressed request) =
          serving.take addressed request := if_pos ready
      rw [moved, transportClient?_take ready.1]
      by_cases same : addressed = stream
      · subst same
        have takes : serving.takes? addressed (.request addressed request) = some request :=
          if_pos ⟨rfl, ready⟩
        rw [takes]
        cases kind : request.isAcknowledgement <;> simp [kind]
      · have misses : serving.takes? stream (.request addressed request) = none :=
          if_neg fun own => same own.1
        rw [misses, if_neg fun own => same own.1]
    · have idle : serving.move (.request addressed request) = serving := if_neg ready
      have misses : serving.takes? stream (.request addressed request) = none := by
        refine if_neg ?_
        rintro ⟨rfl, own⟩
        exact ready own
      rw [idle, misses]
  | proceed acting =>
    simp only [Serving.move, takes?, Serving.proceed]
    split
    · rfl
    · rename_i errand rest _
      cases errand with
      | enter client requestId target =>
        exact Plane.transportClient?_subscribeTransport orderly.wellSeated.wellKept _ _ _ _ stream
      | leave client target =>
        exact (Plane.unsubscribeTransport_keeps _ client target).transportClient? stream
  | ending ended =>
    simp only [Serving.move, takes?]
    split
    · exact Plane.transportClient?_finishTransport _ ended stream
    · rfl
  | push push => exact (Plane.keeps_publishAll _ push).transportClient? stream
  | notice kind change => exact (Plane.keeps_notice _ kind change).transportClient? stream
  | outbox reader change =>
    have read : Plane.Keeps serving.plane (serving.move (.outbox reader change)).plane :=
      Plane.keeps_modifyTransport serving.plane reader (fun _ => rfl) (fun _ valid => valid)
    exact read.transportClient? stream

/-- By a step a stream takes at most one request, and is named after the first that is not an
    acknowledgement. -/
theorem namedBy_move (orderly : serving.Orderly) {earlier : List Transport.Request}
    (named : NamedBy earlier (serving.plane.transportClient? stream)) (move : Move) :
    NamedBy (earlier ++ (serving.takes? stream move).toList)
      ((serving.move move).plane.transportClient? stream) := by
  rw [transportClient?_move orderly]
  cases serving.takes? stream move with
  | none =>
    rw [Option.toList_none, List.append_nil]
    exact named
  | some request =>
    rw [Option.toList_some]
    dsimp only
    split
    · rename_i acknowledgement
      unfold NamedBy
      rw [naming?_concat_of_acknowledgement acknowledgement]
      exact named
    · rename_i asks
      have naming := naming?_concat (Bool.eq_false_iff.2 asks) earlier
      cases before : serving.plane.transportClient? stream with
      | none =>
        rw [before] at named
        rw [show naming? earlier = none from named] at naming
        exact ⟨request, naming, Plane.nameTransport_of_unnamed before _⟩
      | some client =>
        rw [before] at named
        obtain ⟨first, found, after⟩ := named
        rw [found] at naming
        rw [Plane.nameTransport_of_named before]
        exact ⟨first, naming, after⟩

/-- During a run a stream is named after the first of all its requests that is not an
    acknowledgement. -/
theorem namedBy_run (orderly : serving.Orderly) {earlier : List Transport.Request}
    (named : NamedBy earlier (serving.plane.transportClient? stream)) (moves : List Move) :
    NamedBy (earlier ++ taken stream moves serving)
      ((run moves serving).plane.transportClient? stream) := by
  induction moves generalizing serving earlier with
  | nil => simpa [taken, run] using named
  | cons move rest inductionHypothesis =>
    rw [taken, ← List.append_assoc]
    exact inductionHypothesis (orderly.move move).1 (namedBy_move orderly named move)

/-- No step takes a name away or changes it. -/
theorem transportClient?_run_of_named (orderly : serving.Orderly) {client : ClientId}
    (named : serving.plane.transportClient? stream = some client) (moves : List Move) :
    (run moves serving).plane.transportClient? stream = some client := by
  induction moves generalizing serving with
  | nil => exact named
  | cons move rest inductionHypothesis =>
    refine inductionHypothesis (orderly.move move).1 ?_
    rw [transportClient?_move orderly]
    split
    · split
      · exact named
      · rw [Plane.nameTransport_of_named named]
    · exact named

/-- A run that goes on from a run in order is in order. -/
theorem Orderly.run (orderly : serving.Orderly) (moves : List Move) :
    (Serving.run moves serving).Orderly := by
  induction moves generalizing serving with
  | nil => exact orderly
  | cons move rest inductionHypothesis => exact inductionHypothesis (orderly.move move).1

/-- What a stream with a name has still to do it does under this name, and it is seated under no
    other. -/
theorem Orderly.under_name (orderly : serving.Orderly) {client : ClientId}
    (named : serving.plane.transportClient? stream = some client) :
    (∀ errand ∈ serving.due stream, errand.client = client) ∧
      ∀ target name, serving.plane.slot? target name = some stream → name = client := by
  refine ⟨fun errand listed => ?_, fun target name seated => ?_⟩
  · exact Option.some.inj ((orderly.named stream errand listed).symm.trans named)
  · exact Option.some.inj ((orderly.wellSeated.named target name stream seated).symm.trans named)

/-- A stream without a name has nothing to do and no slot. -/
theorem Orderly.unnamed (orderly : serving.Orderly)
    (unnamed : serving.plane.transportClient? stream = none) :
    serving.due stream = [] ∧ ∀ target name, serving.plane.slot? target name ≠ some stream := by
  refine ⟨List.eq_nil_iff_forall_not_mem.2 fun errand listed => ?_, fun target name seated => ?_⟩
  · rw [orderly.named stream errand listed] at unnamed
    cases unnamed
  · rw [show serving.plane.transportClient? stream = some name from
      orderly.wellSeated.named target name stream seated] at unnamed
    cases unnamed

/-- After any steps, a stream that has taken acknowledgements only has subscribed nothing and is
    about to subscribe nothing. From the first other request on, malformed or not, all that it
    subscribes from then on, whatever else happens, is subscribed under one name, and every slot
    that it has is a slot of that name: the identifier of that request, or a generated name if that
    is empty. So the first identifier that the stream was sent is its name exactly if that request
    carries it, unless it looks like a generated one. -/
theorem stream_name_exact (settings : PushSettings) (kinds : KindTable) (dispatcher : Dispatcher)
    (clock : UInt64) (moves : List Move) (stream : StreamId) :
    let vacant := start (Plane.start settings kinds dispatcher clock)
    let requests := taken stream moves vacant
    let serving := run moves vacant
    (naming? requests = none →
      serving.due stream = [] ∧ ∀ target name, serving.plane.slot? target name ≠ some stream) ∧
    ∀ first, naming? requests = some first →
      ∃ client, Plane.NamedAfter first.identifier client ∧
        (∀ rest, (∀ errand ∈ (run rest serving).due stream, errand.client = client) ∧
          ∀ target name, (run rest serving).plane.slot? target name = some stream →
            name = client) ∧
        ∀ identifier, firstIdentifier? requests = some identifier →
          (∀ token, identifier ≠ "transport-" ++ token) →
            (client = ⟨identifier⟩ ↔ first.identifier = identifier) := by
  intro vacant requests serving
  have initial : vacant.Orderly := orderly_start settings kinds dispatcher clock
  have orderly : serving.Orderly := initial.run moves
  have naming : NamedBy requests (serving.plane.transportClient? stream) := by
    have unnamed : NamedBy [] (vacant.plane.transportClient? stream) := rfl
    simpa using namedBy_run initial unnamed moves
  cases named : serving.plane.transportClient? stream with
  | none =>
    rw [named] at naming
    refine ⟨fun _ => orderly.unnamed named, fun first found => ?_⟩
    rw [show naming? requests = none from naming] at found
    cases found
  | some client =>
    rw [named] at naming
    obtain ⟨first, found, after⟩ := naming
    refine ⟨fun missing => ?_, fun other same => ?_⟩
    · rw [found] at missing
      cases missing
    · obtain rfl : first = other := Option.some.inj (found.symm.trans same)
      refine ⟨client, after, fun rest => ?_, fun identifier sent chosen => ?_⟩
      · exact (orderly.run rest).under_name (transportClient?_run_of_named orderly named rest)
      · have nonempty : identifier ≠ "" := by
          simpa using List.find?_some sent
        exact after.eq_iff nonempty chosen

/-- A request without a target. -/
def malformed (identifier : String) : Transport.Request :=
  ⟨none, 0, "request", "", none, identifier⟩

/-- An acknowledgement that carries an identifier. -/
def acknowledging (identifier : String) : Transport.Request :=
  ⟨none, 0, "request", Transport.ack, none, identifier⟩

/-- A client acknowledges under one identifier, which is not looked at, sends a malformed request
    under another, and asks for the rate limits under a third. -/
def calledTwice : List Move :=
  [.opening ⟨0⟩ none, .request ⟨0⟩ (acknowledging "early"), .request ⟨0⟩ (malformed "client"),
    .request ⟨0⟩ (asking 0 "late"), .proceed ⟨0⟩]

/-- It gets them under the second identifier. -/
theorem stream_name_exact_calledTwice :
    (run calledTwice vacant).plane.slot? rateLimits ⟨"client"⟩ = some ⟨0⟩ ∧
      firstIdentifier? (taken ⟨0⟩ calledTwice vacant) = some "early" ∧
        ∀ rest name, (run rest (run calledTwice vacant)).plane.slot? rateLimits name = some ⟨0⟩ →
          name = ⟨"client"⟩ := by
  have named : naming? (taken ⟨0⟩ calledTwice vacant) = some (malformed "client") := rfl
  obtain ⟨-, exact⟩ := stream_name_exact ⟨.bestEffort, 3, 1000, "control-plane"⟩ KindTable.builtIn
    (Dispatcher.ofSizes 1 1) 0 calledTwice ⟨0⟩
  obtain ⟨client, after, under, -⟩ := exact (malformed "client") named
  obtain rfl : client = ⟨"client"⟩ := after
  exact ⟨rfl, rfl, fun rest name seated => (under rest).2 rateLimits name seated⟩

/-- A client sends a malformed request without an identifier, and asks for the rate limits under the
    only identifier that it ever sends. It gets them under a name that was generated before. -/
theorem malformed_request_hides_identifier :
    let moves := [.opening ⟨0⟩ none, .request ⟨0⟩ (malformed ""), .request ⟨0⟩ (asking 0 "client"),
      .proceed ⟨0⟩]
    let plane := (run moves vacant).plane
    firstIdentifier? (taken ⟨0⟩ moves vacant) = some "client" ∧
      plane.slot? rateLimits ⟨"client"⟩ = none ∧
        plane.slot? rateLimits ⟨"transport-0-0"⟩ = some ⟨0⟩ :=
  ⟨rfl, rfl, by decide +kernel⟩

end Serving

end RulePlane
