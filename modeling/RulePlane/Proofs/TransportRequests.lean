import RulePlane.Proofs.CurrentRules
import RulePlane.Proofs.StreamIsolation
import RulePlane.Proofs.TransportPublication

/-!
# What one transport request does

The effects of a request on a stream whose sends succeed, branch by branch: the responses that it
causes, and what becomes of the slots, of the tracked targets and of the rules. `Subscribing` and
`Leaving` say what several targets do to the subscribers, each in a way that composes, and
`answers` what a client is told about a target that it subscribed. The run laws go through the
targets one by one. A target that is refused is not in the way of the others, and one that is named
twice is answered twice and held once.

The answer to a target is read off the watchers as they are after the whole request. That is the
answer that was sent, because a target that is tracked keeps its rules while others are subscribed.

`handlingTransport_effects` puts the branches together. The handling is played for itself here;
changes, pushes and other clients may come between its sends elsewhere.
-/

namespace RulePlane

namespace Transport

/-- The targets of a request, in the order of its kinds. -/
def TargetSpec.targets (spec : TargetSpec) : List Target :=
  spec.kinds.map fun kind => ⟨⟨spec.scope, spec.app⟩, ⟨kind⟩⟩

namespace Request

/-- Whether a request asks for nothing that is known: its operation is unknown, or it names no
    target, no namespace, no application or no kind. -/
def IsMalformed (request : Request) : Prop :=
  (request.operation ≠ 0 ∧ request.operation ≠ 1) ∨ request.target = none ∨
    ∃ spec, request.target = some spec ∧ (spec.scope = "" ∨ spec.app = "" ∨ spec.kinds = [])

/-- Whether a request has an operation for an application and some kinds. -/
def Asks (request : Request) (operation : Operation) (spec : TargetSpec) : Prop :=
  Operation.ofCode? request.operation = some operation ∧ request.target = some spec ∧
    spec.scope ≠ "" ∧ spec.app ≠ "" ∧ spec.kinds ≠ []

/-- Every request that is not malformed asks for something. -/
theorem isMalformed_or_asks (request : Request) :
    request.IsMalformed ∨ ∃ operation spec, request.Asks operation spec := by
  cases known : Operation.ofCode? request.operation with
  | none =>
    refine Or.inl (Or.inl ?_)
    constructor
    · intro zero
      simp [Operation.ofCode?, zero] at known
    · intro one
      simp [Operation.ofCode?, one] at known
  | some operation =>
    cases named : request.target with
    | none => exact Or.inl (Or.inr (Or.inl named))
    | some spec =>
      by_cases complete : spec.scope = "" ∨ spec.app = "" ∨ spec.kinds = []
      · exact Or.inl (Or.inr (Or.inr ⟨spec, named, complete⟩))
      · simp only [not_or] at complete
        exact Or.inr ⟨operation, spec, known, named, complete.1, complete.2.1, complete.2.2⟩

/-- A request that asks for something is accepted, with its targets. -/
theorem Asks.validate {request : Request} {operation : Operation} {spec : TargetSpec}
    (asks : request.Asks operation spec) :
    request.validate = .ok (operation, spec.targets) := by
  obtain ⟨known, named, scope, app, kinds⟩ := asks
  simp only [Request.validate, known, named, scope, app, kinds, or_self, if_false]
  rfl

/-- A malformed request is refused. -/
theorem IsMalformed.validate {request : Request} (malformed : request.IsMalformed) :
    ∃ fault, request.validate = .error fault := by
  unfold Request.validate
  cases known : Operation.ofCode? request.operation with
  | none => exact ⟨_, rfl⟩
  | some operation =>
    cases named : request.target with
    | none => exact ⟨_, rfl⟩
    | some spec =>
      rcases malformed with ⟨notZero, notOne⟩ | missing | ⟨present, found, incomplete⟩
      · simp [Operation.ofCode?, notZero, notOne] at known
      · cases named.symm.trans missing
      · obtain rfl := Option.some.inj (named.symm.trans found)
        by_cases unaddressed : spec.scope = "" ∨ spec.app = ""
        · exact ⟨.missingApp, by simp only [unaddressed, if_true]; rfl⟩
        · have none : spec.kinds = [] := by
            rcases incomplete with scope | app | kinds
            · exact absurd (Or.inl scope) unaddressed
            · exact absurd (Or.inr app) unaddressed
            · exact kinds
          exact ⟨.missingKinds, by simp only [unaddressed, none, if_false, if_true]; rfl⟩

end Request

end Transport

namespace Subscribers

variable {before between after : Subscribers} {client : ClientId}

/-- What becomes of the subscribers when a transport client subscribes several targets. -/
structure Subscribing (client : ClientId) (targets : List Target) (before after : Subscribers) :
    Prop where
  wellKept : after.watchers.WellKept
  kinds : after.watchers.kinds = before.watchers.kinds
  discovery : after.discovery = before.discovery
  /-- The client holds what it held before, and the targets of the supported kinds. -/
  slots : ∀ target other, (after.transport.connection? target other).isSome = true ↔
    (before.transport.connection? target other).isSome = true ∨
      (other = client ∧ target ∈ targets ∧ before.watchers.supports target.kind = true)
  listed : ∀ target other, target ∈ after.transport.targetsOf other ↔
    target ∈ before.transport.targetsOf other ∨
      (other = client ∧ target ∈ targets ∧ before.watchers.supports target.kind = true)
  /-- The same targets are tracked from now on. -/
  tracked : ∀ target, after.watchers.hasTarget target = true ↔
    before.watchers.hasTarget target = true ∨
      (target ∈ targets ∧ before.watchers.supports target.kind = true)
  /-- A target that was tracked already, or is not named, keeps its rules. -/
  rules : ∀ target, target ∉ targets ∨ before.watchers.hasTarget target = true →
    after.watchers.rulesOf target = before.watchers.rulesOf target

/-- What becomes of the subscribers when a transport client leaves several targets. -/
structure Leaving (client : ClientId) (targets : List Target) (before after : Subscribers) :
    Prop where
  discovery : after.discovery = before.discovery
  /-- The named slots of the client are empty, and all others are as they were. -/
  slots : ∀ target other, after.transport.connection? target other =
    if other = client ∧ target ∈ targets then none else before.transport.connection? target other
  listed : ∀ other, after.transport.targetsOf other =
    if other = client then
      (before.transport.targetsOf client).filter fun target => target ∉ targets
    else before.transport.targetsOf other
  /-- A named target is tracked no longer, unless a client of either protocol holds it still. -/
  tracked : ∀ target, after.watchers.hasTarget target = true ↔
    before.watchers.hasTarget target = true ∧ (target ∈ targets → after.Holds target)

/-- Whether a kind is supported depends on the table of kinds only. -/
theorem Subscribing.supports {targets : List Target}
    (subscribing : Subscribing client targets before after) (kind : Kind) :
    after.watchers.supports kind = before.watchers.supports kind := by
  rw [Watchers.supports, subscribing.kinds]
  rfl

/-- Subscribing no targets changes nothing. -/
theorem subscribing_nil (wellKept : before.watchers.WellKept) (client : ClientId) :
    Subscribing client [] before before where
  wellKept := wellKept
  kinds := rfl
  discovery := rfl
  slots := by simp
  listed := by simp
  tracked := by simp
  rules _ _ := rfl

/-- Targets that are subscribed after others. -/
theorem Subscribing.append {earlier later : List Target}
    (first : Subscribing client earlier before between)
    (second : Subscribing client later between after) :
    Subscribing client (earlier ++ later) before after where
  wellKept := second.wellKept
  kinds := second.kinds.trans first.kinds
  discovery := second.discovery.trans first.discovery
  slots target other := by
    rw [second.slots, first.slots, first.supports, List.mem_append]
    tauto
  listed target other := by
    rw [second.listed, first.listed, first.supports, List.mem_append]
    tauto
  tracked target := by
    rw [second.tracked, first.tracked, first.supports, List.mem_append]
    tauto
  rules target kept := by
    rw [List.mem_append, not_or] at kept
    rw [second.rules target ?_, first.rules target (kept.imp_left And.left)]
    exact kept.imp And.right fun tracked => (first.tracked target).2 (Or.inl tracked)

/-- A target of a kind that is not supported is refused, and nothing happens. -/
theorem subscribing_unsupported (wellKept : before.watchers.WellKept) (client : ClientId)
    {target : Target} (unsupported : before.watchers.supports target.kind = false) :
    Subscribing client [target] before before := by
  have none (tested : Target) :
      ¬ (tested ∈ [target] ∧ before.watchers.supports tested.kind = true) := by
    rintro ⟨member, supported⟩
    rw [List.mem_singleton.1 member, unsupported] at supported
    cases supported
  exact
    { wellKept, kinds := rfl, discovery := rfl
      slots := fun tested other => by simp only [none, and_false, or_false]
      listed := fun tested other => by simp only [none, and_false, or_false]
      tracked := fun tested => by simp only [none, or_false]
      rules := fun _ _ => rfl }

/-- A target of a supported kind is tracked, and held by the client. -/
theorem subscribing_supported (wellKept : before.watchers.WellKept) {alive : StreamId → Bool}
    {target : Target} {stream : StreamId} {registered : Watchers} {registry : Registry StreamId}
    (accepted : before.watchers.register target = .ok registered)
    (added : before.transport.add alive target client stream = .ok registry) :
    Subscribing client [target] before
      { before with watchers := registered, transport := registry } := by
  have supported : before.watchers.supports target.kind = true :=
    (wellKept.register_isOk_iff target).1 (by rw [accepted]; rfl)
  obtain ⟨kept, sameResult, kinds, keptWell⟩ := wellKept.register supported
  obtain rfl : registered = kept := Except.ok.inj (accepted.symm.trans sameResult)
  have own (tested : Target) : tested ∈ [target] ∧ before.watchers.supports tested.kind = true ↔
      target = tested := by
    constructor
    · exact fun listed => (List.mem_singleton.1 listed.1).symm
    · rintro rfl
      exact ⟨List.mem_singleton_self target, supported⟩
  refine
    { wellKept := keptWell, kinds, discovery := rfl
      slots := fun tested other => ?_, listed := fun tested other => ?_
      tracked := fun tested => ?_, rules := fun tested kept => ?_ }
  · rw [Registry.isSome_connection?_add added, own, or_comm, and_comm, eq_comm (a := client)]
  · rw [Registry.targetsOf_add added, own]
    by_cases mine : client = other
    · subst mine
      by_cases held : target ∈ before.transport.targetsOf client
      · simp only [held, if_true, true_and, iff_self_or]
        rintro rfl
        exact held
      · simp [held, eq_comm]
    · simp [mine, Ne.symm mine]
  · rw [Watchers.hasTarget_register accepted, own, Bool.or_eq_true, decide_eq_true_eq, or_comm,
      eq_comm (a := tested)]
  · refine Watchers.rulesOf_register accepted ?_
    by_cases same : target = tested
    · subst same
      exact Or.inr (kept.resolve_left fun unnamed => unnamed (List.mem_singleton_self target))
    · exact Or.inl same

/-- What one subscription of a transport client does. It is refused if the kind is not supported. -/
theorem subscribe_subscribing (wellKept : before.watchers.WellKept) {alive : StreamId → Bool}
    {stream : StreamId} (living : alive stream = true) (client : ClientId) (target : Target) :
    let (result, after) := before.subscribe alive .transport target client stream
    Subscribing client [target] before after ∧
      if before.watchers.supports target.kind then result = .ok ()
      else ∃ fault, result = .error (.watch fault) := by
  unfold subscribe
  cases registering : before.watchers.register target with
  | error fault =>
    have unsupported : before.watchers.supports target.kind = false := by
      rw [← Bool.not_eq_true, ← wellKept.register_isOk_iff target, registering]
      exact Bool.false_ne_true
    exact ⟨subscribing_unsupported wellKept client unsupported, by
      rw [unsupported]
      exact ⟨fault, rfl⟩⟩
  | ok registered =>
    have supported : before.watchers.supports target.kind = true :=
      (wellKept.register_isOk_iff target).1 (by rw [registering]; rfl)
    obtain ⟨registry, added⟩ : ∃ registry,
        before.transport.add alive target client stream = .ok registry := by
      simp [Registry.add, living]
    have entered : ({ before with watchers := registered }.registry .transport).add alive target
        client stream = .ok registry := added
    simp only [entered, supported, if_true]
    exact ⟨subscribing_supported wellKept registering added, trivial⟩

/-- Leaving a target takes it from the client, and it is tracked no longer unless somebody holds
    it. -/
theorem leaving_one (before : Subscribers) (client : ClientId) (target : Target) :
    Leaving client [target] before (before.unsubscribe .transport target client) := by
  have registries : KeepsSlots (before.remove .transport target client).2
      (before.unsubscribe .transport target client) := keepsSlots_release _ target
  refine ⟨registries.discovery, fun tested other => ?_, fun other => ?_, fun tested => ?_⟩
  · rw [registries.transport]
    refine (Registry.connection?_remove _ target client tested other).trans ?_
    simp only [List.mem_singleton, and_comm, eq_comm (a := target), eq_comm (a := client)]
    rfl
  · rw [registries.transport]
    refine (Registry.targetsOf_remove _ target client other).trans ?_
    simp only [List.mem_singleton, eq_comm (a := client)]
    rfl
  · have held : (before.unsubscribe .transport target client).Holds target ↔
        (before.remove .transport target client).2.isHeld target = true := by
      rw [← isHeld_iff, isHeld, isHeld, registries.transport, registries.discovery]
    have same : (before.remove .transport target client).2.watchers = before.watchers := rfl
    have released : (before.unsubscribe .transport target client).watchers.hasTarget tested =
        (before.watchers.hasTarget tested &&
          !(decide (tested = target) &&
            !(before.remove .transport target client).2.isHeld target)) := by
      rw [unsubscribe, release]
      split
      · rename_i stays
        simp [same, stays]
      · rename_i gone
        simp [Watchers.hasTarget_unsubscribe, same, gone]
    rw [released, List.mem_singleton]
    by_cases own : tested = target
    · subst own
      simp [held]
    · simp [own]

/-- Leaving no targets changes nothing. -/
theorem leaving_nil (before : Subscribers) (client : ClientId) :
    Leaving client [] before before where
  discovery := rfl
  slots := by simp
  listed other := by
    split
    · rename_i same
      subst same
      simp
    · rfl
  tracked := by simp

/-- A target at which the client has no slot is held afterwards if it was held before. -/
theorem Leaving.holds_iff {targets : List Target} (leaving : Leaving client targets before after)
    {target : Target} (vacant : before.transport.connection? target client = none) :
    after.Holds target ↔ before.Holds target := by
  have slots (protocol : Protocol) (other : ClientId) :
      (after.registry protocol).connection? target other =
        (before.registry protocol).connection? target other := by
    cases protocol with
    | discovery =>
      exact congrArg (fun slots : Registry StreamId => slots.connection? target other)
        leaving.discovery
    | transport =>
      refine (leaving.slots target other).trans ?_
      split
      · rename_i mine
        rw [mine.1]
        exact vacant.symm
      · rfl
  simp only [Holds, slots]

/-- Targets that are left after others. -/
theorem Leaving.append {earlier later : List Target}
    (first : Leaving client earlier before between)
    (second : Leaving client later between after) :
    Leaving client (earlier ++ later) before after where
  discovery := second.discovery.trans first.discovery
  slots target other := by
    rw [second.slots, first.slots]
    by_cases mine : other = client
    · by_cases behind : target ∈ later <;> by_cases ahead : target ∈ earlier <;>
        simp [mine, behind, ahead]
    · simp [mine]
  listed other := by
    rw [second.listed]
    split
    · rename_i mine
      rw [first.listed, if_pos rfl, List.filter_filter]
      exact List.filter_congr fun target _ => by simp [Bool.and_comm]
    · rename_i foreign
      rw [first.listed, if_neg foreign]
  tracked target := by
    rw [second.tracked, first.tracked, List.mem_append]
    by_cases ahead : target ∈ earlier
    · have vacant : between.transport.connection? target client = none := by
        rw [first.slots, if_pos ⟨rfl, ahead⟩]
      have lasts := second.holds_iff vacant
      tauto
    · tauto

/-- A client that leaves several targets one after another. -/
theorem leaving_foldl (before : Subscribers) (client : ClientId) (targets : List Target) :
    Leaving client targets before
      (targets.foldl (fun subscribers target => subscribers.unsubscribe .transport target client)
        before) := by
  induction targets generalizing before with
  | nil => exact leaving_nil before client
  | cons target rest inductionHypothesis =>
    exact (leaving_one before client target).append (inductionHypothesis _)

end Subscribers

namespace Plane

/-- What a client is told about a target that it subscribed: its current rules, unless there are
    none, or that its kind is not supported. -/
def answers (controlPlane requestId : String) (watchers : Watchers) (target : Target) :
    List Transport.Response :=
  if watchers.supports target.kind then
    let (rules, version) := watchers.rulesOf target
    if rules.isEmpty then [] else [.ofRules controlPlane requestId target rules version]
  else [.unsupported controlPlane requestId target]

/-- The attempts by which responses are sent on a stream without a failure. -/
def sentAtOnce (stream : StreamId) (responses : List Transport.Response) :
    List (SendAttempt Posting) :=
  responses.map fun response => ⟨stream, .transport response, .sent⟩

variable {plane : Plane} {stream : StreamId} {pattern : SendPattern}

/-- An answer on a stream whose sends succeed is sent with one attempt. -/
theorem play_answering_of_sends (sends : ∀ number, pattern stream number = .sent)
    (response : Transport.Response) (plane : Plane) :
    (plane.answeringTransport stream response).play land pattern =
      ⟨sentAtOnce stream [response], (), plane.delivered stream response 1 .sent⟩ := by
  have once : attemptsMade (pattern stream) (plane.settings.maxAttempts - 1) = 1 :=
    (settles_attemptsMade _ _).unique (settles_one (by simp [sends 0]) _)
  rw [answeringTransport, Activity.play_map, play_deliveringTransport]
  simp only [once, sends]
  rfl

/-- What becomes of targets that are subscribed on a stream whose sends succeed: the client is
    entered for those of supported kinds, and each target is answered at once. -/
structure Subscribed (client : ClientId) (requestId : String) (stream : StreamId)
    (targets : List Target) (plane : Plane) (played : Played Posting Plane Unit) : Prop where
  subscribing : Subscribers.Subscribing client targets plane.subscribers played.state.subscribers
  attempts : played.attempts = sentAtOnce stream (targets.flatMap
    (answers plane.settings.controlPlane requestId played.state.subscribers.watchers))
  settings : played.state.settings = plane.settings
  living : played.state.transportValid stream = true

/-- A target is subscribed if its client is entered and its one answer is sent. -/
theorem Subscribed.of_answering {client : ClientId} {requestId : String} {target : Target}
    {after : Subscribers} (valid : plane.transportValid stream = true)
    (sends : ∀ number, pattern stream number = .sent)
    (subscribing : Subscribers.Subscribing client [target] plane.subscribers after)
    {response : Transport.Response}
    (told : answers plane.settings.controlPlane requestId after.watchers target = [response]) :
    Subscribed client requestId stream [target] plane
      ((({ plane with subscribers := after } : Plane).answeringTransport stream
        response).play land pattern) := by
  have living : ({ plane with subscribers := after } : Plane).transportValid stream = true := valid
  rw [play_answering_of_sends sends]
  constructor
  · simpa only [subscribers_delivered] using subscribing
  · simp only [subscribers_delivered, List.flatMap_cons, List.flatMap_nil, List.append_nil, told]
  · simp only [settings_delivered]
  · simp [transportValid_delivered, living]

/-- What becomes of one target that is subscribed on a stream whose sends succeed. -/
theorem play_subscribing_of_sends (kept : plane.KeptWell)
    (valid : plane.transportValid stream = true)
    (sends : ∀ number, pattern stream number = .sent) (client : ClientId) (requestId : String)
    (target : Target) :
    Subscribed client requestId stream [target] plane
      ((subscribingTransport stream client requestId plane target).play land pattern) := by
  have registered := Subscribers.subscribe_subscribing kept valid client target
  unfold subscribingTransport
  generalize plane.subscribers.subscribe plane.transportValid .transport target client stream =
    outcome at registered
  obtain ⟨result, after⟩ := outcome
  obtain ⟨subscribing, decided⟩ := registered
  have supports := subscribing.supports target.kind
  cases supported : plane.subscribers.watchers.supports target.kind with
  | false =>
    rw [supported] at decided supports
    obtain ⟨fault, rfl⟩ := decided
    exact .of_answering valid sends subscribing (by rw [answers, supports]; rfl)
  | true =>
    rw [supported] at decided supports
    obtain rfl : result = .ok () := decided
    have told : answers plane.settings.controlPlane requestId after.watchers target =
        if (after.watchers.rulesOf target).1.isEmpty then [] else
          [.ofRules plane.settings.controlPlane requestId target (after.watchers.rulesOf target).1
            (after.watchers.rulesOf target).2] := by
      rw [answers, supports]
      rfl
    dsimp only [sendingSnapshot]
    split
    · rename_i none
      have silent : (after.watchers.rulesOf target).1.isEmpty = true := none
      rw [if_pos silent] at told
      refine ⟨subscribing, ?_, rfl, valid⟩
      rw [Activity.play_finished, List.flatMap_cons, told]
      rfl
    · rename_i some
      have loud : ¬ (after.watchers.rulesOf target).1.isEmpty = true := some
      rw [if_neg loud] at told
      exact .of_answering valid sends subscribing told

/-- The answer to a target is the same after further targets. -/
theorem answers_of_subscribing {client : ClientId} {target : Target} {rest : List Target}
    {before between after : Subscribers}
    (first : Subscribers.Subscribing client [target] before between)
    (second : Subscribers.Subscribing client rest between after)
    (controlPlane requestId : String) :
    answers controlPlane requestId between.watchers target =
      answers controlPlane requestId after.watchers target := by
  unfold answers
  rw [second.supports]
  cases supported : between.watchers.supports target.kind with
  | false => rfl
  | true =>
    have tracked : between.watchers.hasTarget target = true := by
      rw [first.tracked]
      right
      exact ⟨List.mem_singleton_self target, (first.supports target.kind).symm.trans supported⟩
    rw [second.rules target (Or.inr tracked)]

/-- What becomes of several targets that are subscribed on a stream whose sends succeed. -/
theorem play_subscribingAll_of_sends (kept : plane.KeptWell)
    (valid : plane.transportValid stream = true)
    (sends : ∀ number, pattern stream number = .sent) (client : ClientId) (requestId : String)
    (targets : List Target) :
    Subscribed client requestId stream targets plane
      ((Activity.each (subscribingTransport stream client requestId) targets
        plane).play land pattern) := by
  induction targets generalizing plane pattern with
  | nil => exact ⟨Subscribers.subscribing_nil kept client, rfl, rfl, valid⟩
  | cons target rest inductionHypothesis =>
    have first := play_subscribing_of_sends kept valid sends client requestId target
    rw [Activity.play_each_cons]
    generalize (subscribingTransport stream client requestId plane target).play land pattern =
      played at first
    have sendsOn : ∀ number, pattern.after played.attempts stream number = .sent :=
      fun number => sends _
    have second := inductionHypothesis first.subscribing.wellKept first.living sendsOn
    dsimp only
    generalize (Activity.each (subscribingTransport stream client requestId) rest
      played.state).play land (pattern.after played.attempts) = behind at second ⊢
    refine ⟨first.subscribing.append second.subscribing, ?_,
      second.settings.trans first.settings, second.living⟩
    have told := answers_of_subscribing first.subscribing second.subscribing
      plane.settings.controlPlane requestId
    rw [first.attempts, second.attempts, first.settings]
    simp only [List.flatMap_cons, List.flatMap_nil, List.append_nil, told, sentAtOnce,
      List.map_append]

/-- Naming a stream is none of the settings' business. -/
theorem settings_nameTransport (stream : StreamId) (identifier : String) (plane : Plane) :
    (plane.nameTransport stream identifier).2.settings = plane.settings := by
  unfold nameTransport
  split
  · rfl
  · dsimp only
    split <;> rfl

/-- Leaving targets is nothing but a change of the subscribers. -/
theorem subscribers_unsubscribeAll (client : ClientId) (targets : List Target) (plane : Plane) :
    (targets.foldl (unsubscribeTransport client) plane).subscribers =
      targets.foldl (fun subscribers target => subscribers.unsubscribe .transport target client)
        plane.subscribers := by
  induction targets generalizing plane with
  | nil => rfl
  | cons target rest inductionHypothesis => exact inductionHypothesis _

section Requests

variable {stream : StreamId} {plane between : Plane} {request : Transport.Request}
  {client : ClientId} {targets : List Target}

/-- An acknowledgement is not acted on. -/
theorem handlingTransport_of_acknowledgement (acknowledges : request.isAcknowledgement = true) :
    handlingTransport stream plane request = .finished () plane := by
  simp only [handlingTransport, acknowledges, if_true]

/-- A malformed request is answered once, with its fault. -/
theorem handlingTransport_of_malformed {fault : Transport.RequestError}
    (awaited : request.isAcknowledgement = false)
    (named : plane.nameTransport stream request.identifier = (client, between))
    (refused : request.validate = .error fault) :
    handlingTransport stream plane request =
      (between.sendingTransport stream
        (.malformed between.settings.controlPlane request.requestId fault)).map fun _ => () := by
  simp [handlingTransport, awaited, named, refused]

/-- A request to subscribe is handled target by target. -/
theorem handlingTransport_of_subscribe (awaited : request.isAcknowledgement = false)
    (named : plane.nameTransport stream request.identifier = (client, between))
    (valid : request.validate = .ok (.subscribe, targets)) :
    handlingTransport stream plane request =
      Activity.each (subscribingTransport stream client request.requestId) targets between := by
  simp [handlingTransport, awaited, named, valid]

/-- A request to unsubscribe is handled at once. -/
theorem handlingTransport_of_unsubscribe (awaited : request.isAcknowledgement = false)
    (named : plane.nameTransport stream request.identifier = (client, between))
    (valid : request.validate = .ok (.unsubscribe, targets)) :
    handlingTransport stream plane request =
      .finished () (targets.foldl (unsubscribeTransport client) between) := by
  simp [handlingTransport, awaited, named, valid]

end Requests

/-- What a request does on a stream whose sends succeed, in every state that is reached. An
    acknowledgement does nothing. A malformed request is answered once, with the fault and under the
    number of the request, and changes no subscribers. A request to subscribe, on a connection that
    has not been closed, is answered target by target, in their order, on this stream and under its
    number. A request to leave is not answered. What becomes of the subscribers is said by
    `Subscribing` and `Leaving`. -/
theorem handlingTransport_effects {settings : PushSettings} {kinds : KindTable}
    {dispatcher : Dispatcher} {clock : UInt64} {neighbours : Neighbours}
    (reached : Neighbours.Steps (Neighbours.start settings kinds dispatcher clock) neighbours)
    {stream : StreamId} {pattern : SendPattern}
    (sends : ∀ number, pattern stream number = .sent) (request : Transport.Request) :
    let plane := neighbours.plane
    let controlPlane := plane.settings.controlPlane
    let client := (plane.nameTransport stream request.identifier).1
    let played := (handlingTransport stream plane request).play land pattern
    (request.isAcknowledgement = true → played.attempts = [] ∧ played.state = plane) ∧
    (request.isAcknowledgement = false → request.IsMalformed →
      (∃ fault, request.validate = .error fault ∧ played.attempts =
        sentAtOnce stream [.malformed controlPlane request.requestId fault]) ∧
      played.state.subscribers = plane.subscribers) ∧
    (∀ spec, request.isAcknowledgement = false → request.Asks .subscribe spec →
      plane.transportValid stream = true →
      played.attempts = sentAtOnce stream (spec.targets.flatMap
        (answers controlPlane request.requestId played.state.subscribers.watchers)) ∧
      Subscribers.Subscribing client spec.targets plane.subscribers played.state.subscribers) ∧
    (∀ spec, request.isAcknowledgement = false → request.Asks .unsubscribe spec →
      played.attempts = [] ∧
      Subscribers.Leaving client spec.targets plane.subscribers played.state.subscribers) := by
  intro plane controlPlane client played
  have kept : plane.KeptWell := ((Neighbours.apart_start settings kinds dispatcher clock).steps
    reached).1.wellNumbered.wellKept
  obtain ⟨sameSubscribers, sameValid, -, -⟩ :=
    nameTransport_frame plane stream request.identifier
  have sameSettings := settings_nameTransport stream request.identifier plane
  generalize naming : plane.nameTransport stream request.identifier = named
    at sameSubscribers sameValid sameSettings
  obtain ⟨name, between⟩ := named
  have sameName : client = name := congrArg Prod.fst naming
  dsimp only at sameSubscribers sameValid sameSettings
  refine ⟨fun acknowledges => ?_, fun awaited malformed => ?_, fun spec awaited asks valid => ?_,
    fun spec awaited asks => ?_⟩
  · simp only [played, handlingTransport_of_acknowledgement acknowledges]
    exact ⟨rfl, rfl⟩
  · obtain ⟨fault, refused⟩ := malformed.validate
    simp only [played, handlingTransport_of_malformed awaited naming refused, Activity.play_map,
      play_sendingTransport, sends, sameSettings]
    exact ⟨⟨fault, refused, rfl⟩, sameSubscribers⟩
  · simp only [played, handlingTransport_of_subscribe awaited naming asks.validate]
    have subscribed := play_subscribingAll_of_sends
      (show between.KeptWell by rw [KeptWell, sameSubscribers]; exact kept)
      ((sameValid stream).trans valid) sends name request.requestId spec.targets
    have subscribing := subscribed.subscribing
    rw [subscribed.attempts, sameSettings]
    rw [sameSubscribers] at subscribing
    exact ⟨rfl, sameName ▸ subscribing⟩
  · simp only [played, handlingTransport_of_unsubscribe awaited naming asks.validate,
      Activity.play_finished, subscribers_unsubscribeAll, sameSubscribers, true_and, sameName]
    exact Subscribers.leaving_foldl plane.subscribers name spec.targets

/-- A request for some kinds of resources of one application. -/
def asking (identifier : String) (kinds : List String) : Transport.Request where
  target := some ⟨"default", "app", kinds⟩
  operation := 0
  requestId := "request"
  responseAck := ""
  status := none
  identifier := identifier

/-- Limits are supported, and two transport streams are open. -/
def openedPair : Neighbours where
  plane :=
    let kinds := KindTable.ofList [⟨⟨"limit"⟩, default, fun _ => some default⟩]
    { start ⟨.bestEffort, 3, 1000, "plane"⟩ kinds (.ofSizes 1 1) 0 with
      transport := Table.ofList
        [(⟨0⟩, TransportStream.fresh none none), (⟨1⟩, TransportStream.fresh none none)] }
  waiting := fun _ => none

/-- The client of the first stream has asked for the limits of an application. -/
def attendedPair : Neighbours :=
  openedPair.proceed (.transport ⟨0⟩)
    (openedPair.plane.handlingTransport ⟨0⟩ (asking "first" ["limit"]))

/-- A limit of the application has been observed. -/
def limitedPair : Neighbours :=
  { attendedPair with
    plane := attendedPair.plane.handleChange ⟨"limit"⟩
      ⟨⟨"default", "limit"⟩, some default, Labels.ofList [("app", "app")]⟩ }

/-- Every send succeeds. -/
def prompt : SendPattern := fun _ _ => .sent

/-- The second client asks for limits, for an unknown kind, and for limits again. It is answered
    three times, and holds the limits of the application from then on, and nothing else. -/
theorem handlingTransport_effects_mixed :
    let played := (limitedPair.plane.handlingTransport ⟨1⟩
      (asking "second" ["limit", "unknown", "limit"])).play land prompt
    played.attempts.map (fun made => (made.stream, made.outcome)) =
        [(⟨1⟩, .sent), (⟨1⟩, .sent), (⟨1⟩, .sent)] ∧
      ⟨⟨"default", "app"⟩, ⟨"limit"⟩⟩ ∈
          played.state.subscribers.transport.targetsOf ⟨"second"⟩ ∧
        ⟨⟨"default", "app"⟩, ⟨"unknown"⟩⟩ ∉
          played.state.subscribers.transport.targetsOf ⟨"second"⟩ := by
  have opening : Beside (start ⟨.bestEffort, 3, 1000, "plane"⟩
      (KindTable.ofList [⟨⟨"limit"⟩, default, fun _ => some default⟩]) (.ofSizes 1 1) 0)
      openedPair.plane := ⟨id, rfl, fun _ => rfl, rfl⟩
  have attending : Neighbours.Step openedPair attendedPair := .task (.transportRequest rfl _)
  have limiting : Neighbours.Step attendedPair limitedPair :=
    .elsewhere (keeps_handleChange _ _ _).beside
  have sends : ∀ number, prompt ⟨1⟩ number = .sent := fun _ => rfl
  obtain ⟨-, -, subscribe, -⟩ := handlingTransport_effects
    (.tail (.tail (.single (.elsewhere opening)) attending) limiting) sends
    (asking "second" ["limit", "unknown", "limit"])
  obtain ⟨told, subscribing⟩ := subscribe ⟨"default", "app", ["limit", "unknown", "limit"]⟩
    (by decide) ⟨rfl, rfl, by decide, by decide, by decide⟩ (by decide +kernel)
  refine ⟨?_, (subscribing.listed _ _).2 ?_, fun held => ?_⟩
  · rw [told]
    decide +kernel
  · exact Or.inr ⟨by decide +kernel, by decide, by decide +kernel⟩
  · rcases (subscribing.listed _ _).1 held with before | ⟨-, -, supported⟩
    · revert before
      decide +kernel
    · revert supported
      decide +kernel

end Plane

end RulePlane
