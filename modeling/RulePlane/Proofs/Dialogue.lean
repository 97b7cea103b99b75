import RulePlane.Plane.Change
import RulePlane.Proofs.TransportSnapshots

/-!
# Dialogues

A control plane in its dialogue with transport clients. The requests of the clients, the ends of
their streams and the changes of resources are dealt with one after another: a request target by
target, a change by handing the rules of each changed application to the dispatcher, whose workers
deliver them before anything else happens. In which order they work, and when the clients read what
was put on their streams, is left open, and so is which events come and whether they name their
objects.

The log of a stream holds what its client asked for and what was put on the stream, in order. What
the client wants and what it has heard are read from the log alone.
-/

namespace RulePlane

/-- What happens on a transport stream: its client asks for a target or leaves one, or a response is
    put on the stream. -/
inductive Entry where
  | asked (target : Target)
  | left (target : Target)
  | received (response : Transport.Response)

namespace Entry

/-- The entry that a request makes for one of its targets. -/
def ofRequest : Transport.Operation → Target → Entry
  | .subscribe, target => .asked target
  | .unsubscribe, target => .left target

/-- What was heard last of a target since it was last asked for, after one more entry. -/
def note (target : Target) (heard : Option (List Rule × Int)) :
    Entry → Option (List Rule × Int)
  | asked other => if other = target then none else heard
  | left _ => heard
  | received response => (response.rulesFor? target).or heard

/-- The last rules of a target that were received since it was last asked for. -/
def heard (target : Target) (log : List Entry) : Option (List Rule × Int) :=
  log.foldl (note target) none

/-- Whether a target is wanted, after one more entry. -/
def turn (target : Target) (wanted : Bool) : Entry → Bool
  | asked other => other = target || wanted
  | left other => other ≠ target && wanted
  | received _ => wanted

/-- Whether a target was asked for and not left since. -/
def wants (target : Target) (log : List Entry) : Bool := log.foldl (turn target) false

/-- What is received is heard behind all that was received before. -/
theorem heard_received (target : Target) (log : List Entry)
    (responses : List Transport.Response) :
    heard target (log ++ responses.map received) = hear target (heard target log) responses := by
  rw [heard, List.foldl_append, List.foldl_map]
  rfl

/-- What is received does not change what is wanted. -/
theorem wants_received (target : Target) (log : List Entry)
    (responses : List Transport.Response) :
    wants target (log ++ responses.map received) = wants target log := by
  rw [wants, List.foldl_append, List.foldl_map, ← wants]
  induction responses with
  | nil => rfl
  | cons first rest inductionHypothesis => exact inductionHypothesis

/-- Whoever asks for a target again has heard nothing of it since. -/
theorem heard_request (operation : Transport.Operation) (targets : List Target) (target : Target)
    (log : List Entry) :
    heard target (log ++ targets.map (ofRequest operation)) =
      if operation = .subscribe ∧ target ∈ targets then none else heard target log := by
  rw [heard, List.foldl_append, ← heard]
  generalize heard target log = before
  induction targets generalizing before with
  | nil => simp
  | cons first rest inductionHypothesis =>
    rw [List.map_cons, List.foldl_cons, inductionHypothesis]
    cases operation with
    | subscribe =>
      by_cases same : first = target
      · simp [ofRequest, note, same]
      · simp [ofRequest, note, same, Ne.symm same]
    | unsubscribe => simp [ofRequest, note]

/-- The targets of a subscription are wanted from then on. -/
theorem wants_subscribe (targets : List Target) (target : Target) (log : List Entry) :
    wants target (log ++ targets.map (ofRequest .subscribe)) =
      (decide (target ∈ targets) || wants target log) := by
  rw [wants, List.foldl_append, ← wants]
  generalize wants target log = before
  induction targets generalizing before with
  | nil => simp
  | cons first rest inductionHypothesis =>
    rw [List.map_cons, List.foldl_cons, inductionHypothesis]
    by_cases same : first = target
    · simp [ofRequest, turn, same]
    · simp [ofRequest, turn, same, Ne.symm same]

/-- The targets of an unsubscription are not wanted any more. -/
theorem wants_unsubscribe (targets : List Target) (target : Target) (log : List Entry) :
    wants target (log ++ targets.map (ofRequest .unsubscribe)) =
      (decide (target ∉ targets) && wants target log) := by
  rw [wants, List.foldl_append, ← wants]
  generalize wants target log = before
  induction targets generalizing before with
  | nil => simp
  | cons first rest inductionHypothesis =>
    rw [List.map_cons, List.foldl_cons, inductionHypothesis]
    by_cases same : first = target
    · simp [ofRequest, turn, same]
    · simp [ofRequest, turn, same, Ne.symm same]

end Entry

/-- A dispatcher that has not stopped does not stop, and does not refuse a push for good. -/
theorem Dispatcher.submit_running (hash : App → Nat) {dispatcher : Dispatcher}
    (running : dispatcher.stopped = false) (push : Push) :
    (submit hash dispatcher push).2.stopped = false ∧
      (submit hash dispatcher push).1 ≠ .stopped := by
  simp only [submit, running, Bool.false_eq_true, if_false]
  split
  · exact ⟨running, by simp⟩
  · exact ⟨rfl, by simp⟩

/-- A push that is handed in does not change which worker delivers what. -/
theorem Dispatcher.workerOf_submit (hash : App → Nat) (dispatcher : Dispatcher) (push : Push) :
    workerOf hash (submit hash dispatcher push).2 = workerOf hash dispatcher := by
  simp only [submit]
  split
  · rfl
  · split <;> rfl

/-- Nor does a push that is taken; and nothing is stopped. -/
theorem Dispatcher.next?_frame {dispatcher taken : Dispatcher} {worker : Nat} {push : Push}
    (taking : dispatcher.next? worker = some (push, taken)) (hash : App → Nat) :
    workerOf hash taken = workerOf hash dispatcher ∧ taken.stopped = dispatcher.stopped := by
  unfold next? at taking
  split at taking
  · cases taking
  · cases taking
    exact ⟨rfl, rfl⟩

/-- If no queue holds a push, no worker has one to take. -/
theorem Dispatcher.queue_of_idle (dispatcher : Dispatcher)
    (idle : dispatcher.queues.values.flatten = []) (worker : Nat) :
    dispatcher.queue worker = [] := by
  unfold queue
  cases found : dispatcher.queues.find? worker with
  | none => rfl
  | some queue =>
    have entry := (Table.mem_entries_iff _ worker queue).2 found
    have listed : queue ∈ dispatcher.queues.values := List.mem_map.2 ⟨_, entry, rfl⟩
    exact List.flatten_eq_nil_iff.1 idle queue listed

/-- A request that is being handled, with the targets that are not dealt with yet. -/
structure Handling where
  stream : StreamId
  client : ClientId
  requestId : String
  operation : Transport.Operation
  targets : List Target

namespace Handling

/-- Deal with one target. -/
def perform (handling : Handling) (target : Target) (plane : Plane) : Plane :=
  match handling.operation with
  | .subscribe =>
      plane.subscribeTransport handling.stream handling.client handling.requestId target
  | .unsubscribe => plane.unsubscribeTransport handling.client target

/-- A target is either subscribed or left. -/
theorem perform_cases (handling : Handling) (target : Target) (plane : Plane) :
    (handling.operation = .subscribe ∧ handling.perform target plane =
        plane.subscribeTransport handling.stream handling.client handling.requestId target) ∨
      (handling.operation = .unsubscribe ∧ handling.perform target plane =
        plane.unsubscribeTransport handling.client target) := by
  unfold perform
  cases handling.operation with
  | subscribe => exact Or.inl ⟨rfl, rfl⟩
  | unsubscribe => exact Or.inr ⟨rfl, rfl⟩

end Handling

/-- A control plane with its transport clients: the streams whose service is over, the request that
    is being handled, the targets whose rules changed and are still to be handed to the dispatcher,
    and what happened on each stream. -/
structure Dialogue where
  plane : Plane
  ended : List StreamId
  handling : Option Handling
  changed : List Target
  log : StreamId → List Entry

namespace Dialogue

/-- What may happen next. -/
inductive Move where
  | opening (stream : StreamId) (capacity : Option Nat)
  | request (stream : StreamId) (request : Transport.Request)
  | proceed
  | ending (stream : StreamId)
  | change (kind : Kind) (change : Change)
  | handOver
  | work (worker : Nat)
  | outbox (stream : StreamId) (change : Outbox Transport.Response → Outbox Transport.Response)

/-- No stream has been opened yet. -/
def start (plane : Plane) : Dialogue := ⟨plane, [], none, [], fun _ => []⟩

/-- Whether everything is dealt with: no request is being handled, and no push is under way. -/
def isIdle (dialogue : Dialogue) : Bool :=
  dialogue.handling.isNone && dialogue.changed.isEmpty &&
    dialogue.plane.dispatcher.queues.values.flatten.isEmpty

/-- Whether a stream is open: it was opened, and its service is not over. -/
def isOpen (dialogue : Dialogue) (stream : StreamId) : Bool :=
  (dialogue.plane.transport.find? stream).isSome && !dialogue.ended.contains stream

/-- Let the control plane go on, and log what is put on the streams. -/
def advance (dialogue : Dialogue) (plane : Plane) : Dialogue :=
  { dialogue with
    plane
    log := fun stream => dialogue.log stream ++
      ((plane.waiting stream).drop (dialogue.plane.waiting stream).length).map .received }

/-- Open a stream, with an empty log. -/
def openStream (stream : StreamId) (capacity : Option Nat) (dialogue : Dialogue) : Dialogue :=
  { dialogue with
    plane := { dialogue.plane with
      transport := dialogue.plane.transport.insert stream (.fresh none capacity) }
    log := fun tested => if tested = stream then [] else dialogue.log tested }

/-- Name a stream. -/
def name (stream : StreamId) (identifier : String) (dialogue : Dialogue) :
    ClientId × Dialogue :=
  let (client, plane) := dialogue.plane.nameTransport stream identifier
  (client, { dialogue with plane })

/-- Note what a request asks for, and log it. -/
def begin (handling : Handling) (dialogue : Dialogue) : Dialogue :=
  { dialogue with
    handling := some handling
    log := fun stream =>
      if stream = handling.stream then
        dialogue.log stream ++ handling.targets.map (Entry.ofRequest handling.operation)
      else dialogue.log stream }

/-- Take a request. An acknowledgement has no effect, and a malformed request is answered at
    once. -/
def take (stream : StreamId) (request : Transport.Request) (dialogue : Dialogue) : Dialogue :=
  if request.isAcknowledgement then dialogue
  else
    let (client, dialogue) := dialogue.name stream request.identifier
    match request.validate with
    | .error fault =>
        dialogue.advance (Plane.transportChannels.send stream
          (.malformed dialogue.plane.settings.controlPlane request.requestId fault)
            dialogue.plane).2
    | .ok (operation, targets) =>
        dialogue.begin ⟨stream, client, request.requestId, operation, targets⟩

/-- Let the control plane go on with a request, of which something is left. -/
def goOn (plane : Plane) (handling : Handling) (dialogue : Dialogue) : Dialogue :=
  { dialogue.advance plane with handling := some handling }

/-- The request that is being handled is dealt with. -/
def conclude (dialogue : Dialogue) : Dialogue := { dialogue with handling := none }

/-- Deal with the next target of the request that is being handled. -/
def proceed (dialogue : Dialogue) : Dialogue :=
  match dialogue.handling with
  | none => dialogue
  | some handling =>
      match handling.targets with
      | [] => dialogue.conclude
      | target :: rest =>
          dialogue.goOn (handling.perform target dialogue.plane) { handling with targets := rest }

/-- End a stream. -/
def close (stream : StreamId) (dialogue : Dialogue) : Dialogue :=
  { dialogue.advance (dialogue.plane.finishTransport stream) with
    ended := stream :: dialogue.ended }

/-- Let the watcher of a kind take a change into account, and note the targets whose rules
    changed. -/
def notice (kind : Kind) (change : Change) (dialogue : Dialogue) : Dialogue :=
  let (apps, plane) := dialogue.plane.notice kind change
  { dialogue.advance plane with changed := apps.map (·.target kind) }

/-- Hand the current rules of a changed target to the dispatcher, unless the queue is full. -/
def handOver (dialogue : Dialogue) : Dialogue :=
  match dialogue.changed with
  | [] => dialogue
  | target :: rest =>
      match dialogue.plane.submit (dialogue.plane.currentPush target.kind target.app) with
      | (.full, _) => dialogue
      | (_, plane) => { dialogue with plane, changed := rest }

/-- Let one thing happen. A request, the end of a stream or a change comes only when everything
    before it is dealt with. -/
def move (dialogue : Dialogue) : Move → Dialogue
  | .opening stream capacity =>
      if (dialogue.plane.transport.find? stream).isSome then dialogue
      else dialogue.openStream stream capacity
  | .request stream request =>
      if dialogue.isIdle && dialogue.isOpen stream then dialogue.take stream request
      else dialogue
  | .proceed => dialogue.proceed
  | .ending stream =>
      if dialogue.isIdle && dialogue.isOpen stream then dialogue.close stream else dialogue
  | .change kind change =>
      if dialogue.isIdle then dialogue.notice kind change else dialogue
  | .handOver => dialogue.handOver
  | .work worker => dialogue.advance (dialogue.plane.work worker).2
  | .outbox stream change =>
      { dialogue with plane := { dialogue.plane with
          transport := dialogue.plane.transport.modify stream fun found =>
            { found with outbox := change found.outbox } } }

/-- Let several things happen. -/
def run (moves : List Move) (dialogue : Dialogue) : Dialogue := moves.foldl move dialogue

/-- The streams that are open have different names, as far as they have any. -/
def Distinct (dialogue : Dialogue) : Prop :=
  ∀ first ∈ dialogue.plane.transport.keys, ∀ second ∈ dialogue.plane.transport.keys,
    first ∉ dialogue.ended → second ∉ dialogue.ended →
      dialogue.plane.transportClient? first ≠ none →
        dialogue.plane.transportClient? first = dialogue.plane.transportClient? second →
          first = second

/-- The names differ all the time. -/
def DistinctThroughout : List Move → Dialogue → Prop
  | [], dialogue => dialogue.Distinct
  | move :: rest, dialogue => dialogue.Distinct ∧ DistinctThroughout rest (dialogue.move move)

/-- Whether the names of the open streams differ can be decided by comparing all pairs. -/
instance (dialogue : Dialogue) : Decidable dialogue.Distinct :=
  inferInstanceAs (Decidable (∀ first ∈ dialogue.plane.transport.keys,
    ∀ second ∈ dialogue.plane.transport.keys, first ∉ dialogue.ended → second ∉ dialogue.ended →
      dialogue.plane.transportClient? first ≠ none →
        dialogue.plane.transportClient? first = dialogue.plane.transportClient? second →
          first = second))

/-- Whether they differ all the time can be decided by following the moves. -/
instance decidableDistinctThroughout :
    (moves : List Move) → (dialogue : Dialogue) → Decidable (DistinctThroughout moves dialogue)
  | [], dialogue => inferInstanceAs (Decidable dialogue.Distinct)
  | move :: rest, dialogue =>
      have := decidableDistinctThroughout rest (dialogue.move move)
      inferInstanceAs (Decidable (dialogue.Distinct ∧
        DistinctThroughout rest (dialogue.move move)))

/-- A subscription of a target by a stream is still to be dealt with. -/
def Awaits (dialogue : Dialogue) (stream : StreamId) (target : Target) : Prop :=
  ∃ handling, dialogue.handling = some handling ∧ handling.operation = .subscribe ∧
    handling.stream = stream ∧ target ∈ handling.targets

/-- A push of a target is under way. -/
def Pending (dialogue : Dialogue) (target : Target) : Prop :=
  target ∈ dialogue.changed ∨
    ∃ worker, ∃ push ∈ dialogue.plane.dispatcher.queue worker, push.target = target

/-- When everything is dealt with, no request is being handled. -/
theorem handling_of_idle {dialogue : Dialogue} (idle : dialogue.isIdle = true) :
    dialogue.handling = none := by
  simp only [isIdle, Bool.and_eq_true, Option.isNone_iff_eq_none] at idle
  exact idle.1.1

/-- When everything is dealt with, no subscription is still to be dealt with. -/
theorem not_awaits_of_idle {dialogue : Dialogue} (idle : dialogue.isIdle = true)
    (stream : StreamId) (target : Target) : ¬ dialogue.Awaits stream target := by
  rintro ⟨handling, handled, -⟩
  cases (handling_of_idle idle).symm.trans handled

/-- Which pushes are under way is decided by the changes and the queues. -/
theorem pending_iff_of_same {dialogue after : Dialogue}
    (dispatcher : after.plane.dispatcher = dialogue.plane.dispatcher)
    (changed : after.changed = dialogue.changed) (target : Target) :
    after.Pending target ↔ dialogue.Pending target := by
  rw [Pending, Pending, dispatcher, changed]

/-- When everything is dealt with, no push is under way. -/
theorem not_pending_of_idle {dialogue : Dialogue} (idle : dialogue.isIdle = true)
    (target : Target) : ¬ dialogue.Pending target := by
  simp only [isIdle, Bool.and_eq_true, List.isEmpty_iff] at idle
  obtain ⟨⟨-, unchanged⟩, empty⟩ := idle
  rintro (changed | ⟨worker, push, waits, -⟩)
  · rw [unchanged] at changed
    cases changed
  · rw [dialogue.plane.dispatcher.queue_of_idle empty] at waits
    cases waits

/-- Two open streams of one name are the same. -/
theorem Distinct.same {dialogue : Dialogue} (distinct : dialogue.Distinct)
    {first second : StreamId} {client : ClientId}
    (named : dialogue.plane.transportClient? first = some client)
    (alsoNamed : dialogue.plane.transportClient? second = some client)
    (opened : first ∉ dialogue.ended) (alsoOpened : second ∉ dialogue.ended) : first = second := by
  have listed {stream : StreamId} (named : dialogue.plane.transportClient? stream = some client) :
      stream ∈ dialogue.plane.transport.keys := by
    obtain ⟨found, present, -⟩ := Option.bind_eq_some_iff.1 named
    rw [Table.mem_keys_iff, present]
    rfl
  exact distinct first (listed named) second (listed alsoNamed) opened alsoOpened
    (by rw [named]; simp) (named.trans alsoNamed.symm)

/-! ## The log -/

/-- What is put on a stream is heard behind all that was heard before. -/
theorem heard_advance {dialogue : Dialogue} {plane : Plane} {stream : StreamId}
    {responses : List Transport.Response}
    (sent : plane.waiting stream = dialogue.plane.waiting stream ++ responses) (target : Target) :
    Entry.heard target ((dialogue.advance plane).log stream) =
      hear target (Entry.heard target (dialogue.log stream)) responses := by
  change Entry.heard target (dialogue.log stream ++ _) = _
  rw [Entry.heard_received, sent, List.drop_left]

/-- What is put on a stream does not change what is wanted. -/
theorem wants_advance (dialogue : Dialogue) (plane : Plane) (stream : StreamId)
    (target : Target) :
    Entry.wants target ((dialogue.advance plane).log stream) =
      Entry.wants target (dialogue.log stream) :=
  Entry.wants_received target (dialogue.log stream) _

/-- A step that informs its clients leaves them up to date. -/
theorem upToDate_advance {dialogue : Dialogue} {plane : Plane} {stream : StreamId}
    {target : Target} (informs : Plane.Informs target stream dialogue.plane plane)
    (upToDate : dialogue.plane.UpToDate target (Entry.heard target (dialogue.log stream))) :
    plane.UpToDate target (Entry.heard target ((dialogue.advance plane).log stream)) := by
  obtain ⟨responses, sent, informed⟩ := informs
  rw [heard_advance sent]
  exact informed _ upToDate

/-- A step that spares a target adds nothing to what was heard of it. -/
theorem heard_advance_of_spares {dialogue : Dialogue} {plane : Plane} {stream : StreamId}
    {target : Target} (spares : Plane.Spares target stream dialogue.plane plane) :
    Entry.heard target ((dialogue.advance plane).log stream) =
      Entry.heard target (dialogue.log stream) := by
  obtain ⟨responses, sent, silent⟩ := spares
  rw [heard_advance sent, hear_spared silent]

/-! ## Whole requests -/

/-- Dealing with all targets of a request, and then concluding it. -/
theorem run_proceed (handling : Handling) (dialogue : Dialogue)
    (being : dialogue.handling = some handling) :
    let dealt := run (List.replicate (handling.targets.length + 1) .proceed) dialogue
    dealt.plane = handling.targets.foldl (fun plane target => handling.perform target plane)
        dialogue.plane ∧
      dealt.handling = none := by
  induction remaining : handling.targets generalizing dialogue handling with
  | nil =>
    have concluded : dialogue.proceed = dialogue.conclude := by
      simp only [proceed, being, remaining]
    simp only [List.length_nil, Nat.zero_add, List.replicate_one, run, List.foldl_cons,
      List.foldl_nil, move, concluded]
    exact ⟨rfl, rfl⟩
  | cons target rest inductionHypothesis =>
    have proceeded : dialogue.proceed = dialogue.goOn (handling.perform target dialogue.plane)
        { handling with targets := rest } := by
      simp only [proceed, being, remaining]
    have dealt := inductionHypothesis { handling with targets := rest } dialogue.proceed
      (by rw [proceeded]; rfl) rfl
    rw [proceeded] at dealt
    simp only [List.length_cons, List.replicate_succ, run, List.foldl_cons, move, proceeded]
      at dealt ⊢
    exact dealt

/-- A request that is taken and then dealt with target by target is handled as a whole. -/
theorem exists_run_handleTransport {dialogue : Dialogue} (idle : dialogue.isIdle = true)
    {stream : StreamId} (opened : dialogue.isOpen stream = true) (request : Transport.Request) :
    ∃ count,
      let handled := run (.request stream request :: List.replicate count .proceed) dialogue
      handled.plane = dialogue.plane.handleTransport stream request ∧ handled.handling = none := by
  have unoccupied := handling_of_idle idle
  have taken (rest : List Move) :
      run (.request stream request :: rest) dialogue = run rest (dialogue.take stream request) := by
    simp [run, move, idle, opened]
  unfold Plane.handleTransport
  split
  · rename_i acknowledgement
    refine ⟨0, ?_⟩
    rw [taken, take, if_pos acknowledgement]
    exact ⟨rfl, unoccupied⟩
  · rename_i meant
    cases asked : request.validate with
    | error fault =>
      refine ⟨0, ?_⟩
      rw [taken, take, if_neg meant]
      simp only [asked]
      exact ⟨rfl, unoccupied⟩
    | ok answer =>
      obtain ⟨operation, targets⟩ := answer
      let named := dialogue.name stream request.identifier
      let handling : Handling := ⟨stream, named.1, request.requestId, operation, targets⟩
      refine ⟨targets.length + 1, ?_⟩
      have begun : dialogue.take stream request = named.2.begin handling := by
        rw [take, if_neg meant]
        simp only [asked]
        rfl
      obtain ⟨dealt, done⟩ := run_proceed handling (named.2.begin handling) rfl
      rw [taken, begun]
      refine ⟨dealt.trans ?_, done⟩
      cases operation <;> rfl

end Dialogue

end RulePlane
