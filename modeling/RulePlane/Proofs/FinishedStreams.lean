import RulePlane.Proofs.StreamAffairs

/-!
# What a finished stream leaves behind

A stream of either protocol comes to its end, however that happens, and its service is over. Then
nothing is left of it: no slot of the registry holds it, its connection is not valid any more, and
whatever it had held is tracked no longer, unless another client of either protocol holds it. For
all its slots were listed under the name that is given up at the end, and each target that is given
up is released at once.

Steps of other streams seat and revive nobody but themselves, so a stream that is finished stays so,
whatever happens afterwards.
-/

namespace RulePlane

namespace Plane

variable {party : Option (Protocol × StreamId)} {before after plane : Plane}

/-! ## What is left -/

/-- Nothing is left of a stream: no slot holds it, and its connection is not valid. A stream without
    a name never had a connection. -/
structure Gone (plane : Plane) (protocol : Protocol) (stream : StreamId) : Prop where
  unseated : ∀ target client, plane.subscribers.seat? protocol target client ≠ some stream
  invalid : ∀ client, plane.name? protocol stream = some client →
    plane.isValid protocol stream = false

/-- Right after the end of a stream nothing is left of it. -/
theorem gone_finish (tidy : plane.subscribers.Tidy plane.name?) (stream : StreamId)
    (protocol : Protocol) : (plane.finish stream protocol).Gone protocol stream where
  unseated := by
    intro target client seated
    have minds : Minds none plane (plane.finish stream protocol) := plane.minds_finish _ _
    have before := (minds.seats protocol target client stream seated).resolve_right nofun
    have named := tidy.seated protocol target client stream before
    rw [subscribers_finish, named, tidy.seat?_disconnect, if_pos ⟨rfl, rfl⟩] at seated
    cases seated
  invalid := by
    intro client named
    exact isValid_finish (((plane.keepsStreams_finish stream protocol).names _ _).symm.trans named)

/-- Of a stream that is gone nothing comes back, whatever all others do. -/
theorem Gone.kept {protocol : Protocol} {stream : StreamId} (gone : before.Gone protocol stream)
    (minds : Minds party before after) (other : party ≠ some (protocol, stream)) :
    after.Gone protocol stream where
  unseated := by
    intro target client seated
    rcases minds.seats protocol target client stream seated with earlier | own
    · exact gone.unseated target client earlier
    · exact other own
  invalid := by
    intro client named
    have dead := gone.invalid client ((minds.names protocol stream other).symm.trans named)
    refine Bool.eq_false_iff.2 fun living => ?_
    exact absurd (minds.valid protocol stream other living) (by rw [dead]; simp)

/-- After the end of a stream its client holds nothing. -/
theorem seat?_finish (tidy : plane.subscribers.Tidy plane.name?) {stream : StreamId}
    {protocol : Protocol} {client : ClientId} (named : plane.name? protocol stream = some client)
    (target : Target) :
    (plane.finish stream protocol).subscribers.seat? protocol target client = none := by
  rw [subscribers_finish, named, tidy.seat?_disconnect, if_pos ⟨rfl, rfl⟩]

/-- After the end of a stream no watcher tracks what nobody held but its client. -/
theorem untracked_finish (tidy : plane.subscribers.Tidy plane.name?) {stream : StreamId}
    {protocol : Protocol} {target : Target}
    (alone : ∀ other client, (plane.subscribers.seat? other target client).isSome = true →
      other = protocol ∧ plane.name? protocol stream = some client) :
    ¬ (plane.finish stream protocol).subscribers.watchers.Tracks target := by
  have minds : Minds none plane (plane.finish stream protocol) := plane.minds_finish _ _
  refine (minds.tidy tidy).untracked ?_
  rintro ⟨other, client, held⟩
  obtain ⟨holder, seated⟩ := Option.isSome_iff_exists.1 held
  have before := (minds.seats other target client holder seated).resolve_right nofun
  obtain ⟨rfl, named⟩ := alone other client (by rw [before]; rfl)
  have emptied := seat?_finish tidy named target
  exact absurd (emptied.symm.trans seated) (by simp)

end Plane

/-! ## From the first stream on -/

/-- A control plane, and the streams whose service is over. -/
structure Lifetimes where
  plane : Plane
  finished : List (Protocol × StreamId)

namespace Lifetimes

/-- What may happen next. A stream is opened under a fresh number; one that is served handles a
    request as a whole, or its service ends; a discovery stream is stopped. A watcher takes a change
    into account, a push is handed to a worker, and a worker publishes one; a client reads or goes
    away. -/
inductive Move where
  | opening (protocol : Protocol) (stream : StreamId) (capacity : Option Nat)
  | transport (stream : StreamId) (request : Transport.Request)
  | discovery (stream : StreamId) (request : Discovery.Request)
  | ending (protocol : Protocol) (stream : StreamId)
  | stop (stream : StreamId)
  | notice (kind : Kind) (change : Change)
  | submit (push : Push)
  | work (worker : Nat)
  | transportOutbox (stream : StreamId)
      (change : Outbox Transport.Response → Outbox Transport.Response)
  | discoveryOutbox (stream : StreamId)
      (change : Outbox Discovery.Response → Outbox Discovery.Response)

/-- No stream has been opened yet. -/
def start (settings : PushSettings) (kinds : KindTable) (dispatcher : Dispatcher)
    (clock : UInt64) : Lifetimes :=
  ⟨Plane.start settings kinds dispatcher clock, []⟩

/-- A stream is served from its opening to its end. -/
def Serves (lifetimes : Lifetimes) (protocol : Protocol) (stream : StreamId) : Prop :=
  lifetimes.plane.isOpen protocol stream = true ∧ (protocol, stream) ∉ lifetimes.finished

instance (lifetimes : Lifetimes) (protocol : Protocol) (stream : StreamId) :
    Decidable (lifetimes.Serves protocol stream) :=
  inferInstanceAs (Decidable (_ ∧ _))

/-- A number that no stream has had. -/
def IsFresh (lifetimes : Lifetimes) (protocol : Protocol) (stream : StreamId) : Prop :=
  lifetimes.plane.isOpen protocol stream = false ∧ (protocol, stream) ∉ lifetimes.finished

instance (lifetimes : Lifetimes) (protocol : Protocol) (stream : StreamId) :
    Decidable (lifetimes.IsFresh protocol stream) :=
  inferInstanceAs (Decidable (_ ∧ _))

/-- Let one thing happen. -/
def move (lifetimes : Lifetimes) : Move → Lifetimes
  | .opening protocol stream capacity =>
      if lifetimes.IsFresh protocol stream then
        { lifetimes with plane := lifetimes.plane.openStream stream capacity protocol }
      else lifetimes
  | .transport stream request =>
      if lifetimes.Serves .transport stream then
        { lifetimes with plane := lifetimes.plane.handleTransport stream request }
      else lifetimes
  | .discovery stream request =>
      if lifetimes.Serves .discovery stream then
        { lifetimes with
          plane := (lifetimes.plane.introduceDiscovery stream request).handleDiscovery stream
            request }
      else lifetimes
  | .ending protocol stream =>
      if lifetimes.Serves protocol stream then
        ⟨lifetimes.plane.finish stream protocol, (protocol, stream) :: lifetimes.finished⟩
      else lifetimes
  | .stop stream => { lifetimes with plane := lifetimes.plane.stopDiscovery stream }
  | .notice kind change => { lifetimes with plane := (lifetimes.plane.notice kind change).2 }
  | .submit push => { lifetimes with plane := (lifetimes.plane.submit push).2 }
  | .work worker => { lifetimes with plane := (lifetimes.plane.work worker).2 }
  | .transportOutbox stream change =>
      { lifetimes with plane := { lifetimes.plane with
          transport := lifetimes.plane.transport.modify stream fun found =>
            { found with outbox := change found.outbox } } }
  | .discoveryOutbox stream change =>
      { lifetimes with
        plane := lifetimes.plane.modifyDiscovery stream fun found =>
          { found with outbox := change found.outbox } }

/-- Let several things happen. -/
def run (moves : List Move) (lifetimes : Lifetimes) : Lifetimes := moves.foldl move lifetimes

/-- The subscribers are in order, and nothing is left of the streams that are finished. -/
structure Kept (lifetimes : Lifetimes) : Prop where
  tidy : lifetimes.plane.subscribers.Tidy lifetimes.plane.name?
  gone : ∀ party ∈ lifetimes.finished, lifetimes.plane.Gone party.1 party.2

variable {lifetimes : Lifetimes}

/-- Before the first stream all is in order. -/
theorem kept_start (settings : PushSettings) (kinds : KindTable) (dispatcher : Dispatcher)
    (clock : UInt64) : (start settings kinds dispatcher clock).Kept :=
  ⟨Subscribers.tidy_ofKinds kinds, nofun⟩

/-- What a stream does that is not finished, or none, keeps all as it is. -/
theorem Kept.spared (kept : lifetimes.Kept) {party : Option (Protocol × StreamId)} {plane : Plane}
    (minds : Plane.Minds party lifetimes.plane plane)
    (living : ∀ own, party = some own → own ∉ lifetimes.finished) :
    Kept { lifetimes with plane } where
  tidy := minds.tidy kept.tidy
  gone := fun party atEnd => (kept.gone party atEnd).kept minds fun same => living party same atEnd

/-- What keeps the streams and changes no slots keeps all as it is. -/
theorem Kept.bystander (kept : lifetimes.Kept) {plane : Plane}
    (minds : Plane.Minds none lifetimes.plane plane) : Kept { lifetimes with plane } :=
  kept.spared minds nofun

/-- Whatever happens, all is kept in order. -/
theorem Kept.move (kept : lifetimes.Kept) (move : Move) : (lifetimes.move move).Kept := by
  have own {protocol : Protocol} {stream : StreamId}
      (living : (protocol, stream) ∉ lifetimes.finished) (party : Protocol × StreamId)
      (same : some (protocol, stream) = some party) : party ∉ lifetimes.finished :=
    Option.some.inj same ▸ living
  cases move with
  | opening protocol stream capacity =>
    unfold Lifetimes.move
    dsimp only
    split
    · rename_i fresh
      exact kept.spared (Plane.minds_openStream fresh.1 capacity) (own fresh.2)
    · exact kept
  | transport stream request =>
    unfold Lifetimes.move
    dsimp only
    split
    · rename_i serves
      exact kept.spared (Plane.minds_handleTransport serves.1 request) (own serves.2)
    · exact kept
  | discovery stream request =>
    unfold Lifetimes.move
    dsimp only
    split
    · rename_i serves
      obtain ⟨introducing, client, named⟩ := Plane.minds_introduceDiscovery serves.1 request
      exact kept.spared ((Plane.frame_minds _).trans introducing
        (Plane.minds_handleDiscovery named request)) (own serves.2)
    · exact kept
  | ending protocol stream =>
    unfold Lifetimes.move
    dsimp only
    split
    · have ended := kept.bystander (lifetimes.plane.minds_finish stream protocol)
      refine ⟨ended.tidy, fun party atEnd => ?_⟩
      rcases List.mem_cons.1 atEnd with rfl | before
      · exact Plane.gone_finish kept.tidy stream protocol
      · exact ended.gone party before
    · exact kept
  | stop stream =>
    exact kept.bystander ((Plane.keeps_stopDiscovery _ stream).streams.minds_of_same rfl)
  | notice kind change => exact kept.bystander (Plane.minds_notice _ kind change)
  | submit push =>
    have submitted : Plane.KeepsStreams lifetimes.plane (lifetimes.plane.submit push).2 :=
      Plane.keepsStreams_of_same rfl rfl
    exact kept.bystander (submitted.minds_of_same rfl)
  | work worker => exact kept.bystander (Plane.minds_work _ worker)
  | transportOutbox stream change =>
    have changed : Plane.Keeps lifetimes.plane
        (lifetimes.move (.transportOutbox stream change)).plane :=
      Plane.keeps_modifyTransport _ stream (fun _ => rfl) (fun _ valid => valid)
    exact kept.bystander (changed.streams.minds_of_same rfl)
  | discoveryOutbox stream change =>
    have changed : Plane.Keeps lifetimes.plane
        (lifetimes.move (.discoveryOutbox stream change)).plane :=
      Plane.keeps_modifyDiscovery _ stream (fun _ => rfl) (fun _ stopped => stopped)
    exact kept.bystander (changed.streams.minds_of_same rfl)

/-- So it is over a whole run. -/
theorem Kept.run (kept : lifetimes.Kept) (moves : List Move) : (lifetimes.run moves).Kept := by
  induction moves generalizing lifetimes with
  | nil => exact kept
  | cons move rest inductionHypothesis => exact inductionHypothesis (kept.move move)

/-- Whatever has happened, nothing is left of the streams that are finished, and what nobody holds
    is tracked by no watcher. Whichever stream ends next, nothing is left of it then: its client
    holds nothing, and what nobody held but that client is tracked by no watcher. -/
theorem finished_leaves_nothing (settings : PushSettings) (kinds : KindTable)
    (dispatcher : Dispatcher) (clock : UInt64) (moves : List Move) :
    let reached := run moves (start settings kinds dispatcher clock)
    (∀ party ∈ reached.finished, reached.plane.Gone party.1 party.2) ∧
    (∀ target, ¬ reached.plane.subscribers.Holds target →
      ¬ reached.plane.subscribers.watchers.Tracks target) ∧
    ∀ protocol stream, reached.Serves protocol stream →
      let after := reached.plane.finish stream protocol
      after.Gone protocol stream ∧
      (∀ client, reached.plane.name? protocol stream = some client →
        ∀ target, after.subscribers.seat? protocol target client = none) ∧
      ∀ target, (∀ other client,
        (reached.plane.subscribers.seat? other target client).isSome = true →
          other = protocol ∧ reached.plane.name? protocol stream = some client) →
        ¬ after.subscribers.watchers.Tracks target := by
  intro reached
  have kept : reached.Kept := (kept_start settings kinds dispatcher clock).run moves
  refine ⟨kept.gone, fun _ => kept.tidy.untracked, fun protocol stream _ => ?_⟩
  exact ⟨Plane.gone_finish kept.tidy stream protocol, fun _ => Plane.seat?_finish kept.tidy,
    fun _ => Plane.untracked_finish kept.tidy⟩

/-- A target that streams of both protocols hold is tracked until the second of them ends. -/
example :
    let target : Target :=
      ⟨⟨"default", "app"⟩, ⟨"fault-tolerance.opensergo.io/v1alpha1/RateLimitStrategy"⟩⟩
    let first := run
      [.opening .transport ⟨0⟩ none, .opening .discovery ⟨0⟩ none,
        .transport ⟨0⟩
          ⟨some ⟨"default", "app", [target.kind.text]⟩, 0, "request", "", none, "client"⟩,
        .discovery ⟨0⟩
          ⟨some "node", Discovery.typeUrl, [target.kind.text ++ "/app/default"], none, "", ""⟩,
        .ending .transport ⟨0⟩]
      (start ⟨.bestEffort, 3, 1000, "control-plane"⟩ KindTable.builtIn (Dispatcher.ofSizes 1 1) 0)
    let second := first.move (.ending .discovery ⟨0⟩)
    first.plane.subscribers.watchers.hasTarget target = true ∧
      second.plane.subscribers.watchers.hasTarget target = false ∧
        second.finished = [(.discovery, ⟨0⟩), (.transport, ⟨0⟩)] := by
  decide +kernel

end Lifetimes

end RulePlane
