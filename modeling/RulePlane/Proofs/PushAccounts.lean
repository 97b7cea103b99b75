import RulePlane.Proofs.CoveredSlots
import RulePlane.Proofs.StreamAffairs

/-!
# The accounts of discovery pushes

What an operator reads of discovery pushes, compared with what was sent. Any number of streams of
both protocols are served, and one thing happens after another: requests, changes of resources,
pushes, streams that end. Each attempt to send may end in any way.

The failures that are counted are the attempts that failed. The successes are the responses that
were put on a stream, and the deliveries that were idle, to a live stream in a slot whose client
watches nothing. No delivery is idle unless a session was started anew without some of the names
that were watched before. `push_accounts_exact` states this for every run, and
`dropped_name_counts_as_sent` is a run in which a success is counted and nothing was sent.
-/

namespace RulePlane

/-- A control plane, the attempts that were made on it so far, the number of idle deliveries to
    discovery clients, and the names that their requests have left over. -/
structure Audit where
  plane : Plane
  attempts : List (SendAttempt Posting)
  idle : Nat
  dropped : List String

namespace Audit

/-- What may happen next. A stream is opened, handles a request as a whole, or its service ends; a
    discovery stream is stopped, or its client reads or goes away. A watcher takes a change into
    account, a push is handed to a worker, and a worker or somebody else publishes one; rules are
    fetched. A pattern says how the sends end. -/
inductive Move where
  | opening (protocol : Protocol) (stream : StreamId) (capacity : Option Nat)
  | transport (stream : StreamId) (request : Transport.Request) (pattern : SendPattern)
  | discovery (stream : StreamId) (request : Discovery.Request) (pattern : SendPattern)
  | ending (protocol : Protocol) (stream : StreamId)
  | stop (stream : StreamId)
  | outbox (stream : StreamId) (change : Outbox Discovery.Response → Outbox Discovery.Response)
  | notice (kind : Kind) (change : Change)
  | submit (push : Push)
  | work (worker : Nat) (pattern : SendPattern)
  | publish (push : Push) (pattern : SendPattern)
  | fetch (typeUrl : String) (names : List String)

/-- Nothing has happened yet. -/
def start (plane : Plane) : Audit := ⟨plane, [], 0, []⟩

/-- Go on to a state of the control plane, without an attempt to send. -/
def proceed (audit : Audit) (plane : Plane) : Audit := { audit with plane }

/-- Handle a request of a discovery client. The first one gives the stream a name. -/
def handle (audit : Audit) (stream : StreamId) (request : Discovery.Request)
    (pattern : SendPattern) : Audit :=
  let plane := audit.plane.introduceDiscovery stream request
  let played := (plane.handlingDiscovery stream request).play Plane.land pattern
  { audit with
    plane := played.state
    attempts := audit.attempts ++ played.attempts
    dropped := audit.dropped ++ plane.leftOver stream request }

/-- Publish a push by both protocols. -/
def publish (audit : Audit) (push : Push) (pattern : SendPattern) : Audit :=
  let played := (audit.plane.publishingAll push).play Plane.land pattern
  { audit with
    plane := played.state
    attempts := audit.attempts ++ played.attempts
    idle := audit.idle + audit.plane.idleDeliveries push pattern }

/-- Let one thing happen. -/
def move (audit : Audit) : Move → Audit
  | .opening protocol stream capacity =>
      if audit.plane.isOpen protocol stream then audit
      else audit.proceed (audit.plane.openStream stream capacity protocol)
  | .transport stream request pattern =>
      let played := (audit.plane.handlingTransport stream request).play Plane.land pattern
      { audit with plane := played.state, attempts := audit.attempts ++ played.attempts }
  | .discovery stream request pattern =>
      if audit.plane.isOpen .discovery stream then audit.handle stream request pattern else audit
  | .ending protocol stream => audit.proceed (audit.plane.finish stream protocol)
  | .stop stream => audit.proceed (audit.plane.stopDiscovery stream)
  | .outbox stream change =>
      audit.proceed (audit.plane.modifyDiscovery stream fun found =>
        { found with outbox := change found.outbox })
  | .notice kind change => audit.proceed (audit.plane.notice kind change).2
  | .submit push => audit.proceed (audit.plane.submit push).2
  | .work worker pattern =>
      match audit.plane.dispatcher.next? worker with
      | none => audit
      | some (push, dispatcher) =>
          (audit.proceed { audit.plane with dispatcher }).publish push pattern
  | .publish push pattern => audit.publish push pattern
  | .fetch typeUrl names => audit.proceed (audit.plane.fetch typeUrl names).2

/-- Let several things happen. -/
def run (moves : List Move) (audit : Audit) : Audit := moves.foldl move audit

/-- The work of a worker is that of the control plane. -/
theorem move_work {audit : Audit} {worker : Nat} {activity : Activity Posting Plane Unit}
    (working : audit.plane.working? worker = some activity) (pattern : SendPattern) :
    (audit.move (.work worker pattern)).plane = (activity.play Plane.land pattern).state := by
  obtain ⟨⟨push, dispatcher⟩, next, rfl⟩ := Option.map_eq_some_iff.1 working
  simp only [move, next]
  rfl

/-! ## The invariant -/

/-- The accounts are right: slots are settled, every attempt was counted, and every idle delivery as
    a success. If no name was left over, all slots are covered, and no delivery was idle. -/
structure Sound (audit : Audit) : Prop where
  settled : audit.plane.Settled
  failed : audit.plane.discoveryCounts.failed = audit.attempts.countP SendAttempt.fails
  delivered : audit.plane.discoveryCounts.delivered =
    audit.attempts.countP SendAttempt.delivers + audit.idle
  covered : audit.dropped = [] → audit.plane.Covered ∧ audit.idle = 0

variable {audit : Audit}

/-- Before the first move the accounts are right. -/
theorem sound_start (settings : PushSettings) (kinds : KindTable) (dispatcher : Dispatcher)
    (clock : UInt64) : (start (Plane.start settings kinds dispatcher clock)).Sound :=
  ⟨Plane.settled_start settings kinds dispatcher clock, rfl, rfl, fun _ => ⟨nofun, rfl⟩⟩

/-- What is counted as it happens keeps the accounts right. -/
theorem Sound.tallied (sound : audit.Sound) {plane : Plane} {attempts : List (SendAttempt Posting)}
    {idle : Nat} (dropped : List String)
    (tallies : Plane.Tallies audit.plane plane attempts idle) (settled : plane.Settled)
    (covered : dropped = [] → audit.plane.Covered → plane.Covered ∧ idle = 0) :
    Sound ⟨plane, audit.attempts ++ attempts, audit.idle + idle, audit.dropped ++ dropped⟩ where
  settled := settled
  failed := by
    rw [tallies.failed, sound.failed, List.countP_append]
  delivered := by
    rw [tallies.delivered, sound.delivered, List.countP_append]
    simp only [Nat.add_assoc, Nat.add_comm, Nat.add_left_comm]
  covered := by
    intro nothing
    obtain ⟨earlier, later⟩ := List.append_eq_nil_iff.1 nothing
    obtain ⟨before, none⟩ := sound.covered earlier
    obtain ⟨after, still⟩ := covered later before
    exact ⟨after, by rw [none, still]⟩

/-- Steps without an attempt that count nothing and preserve slots keep the accounts right. -/
theorem Sound.proceed (sound : audit.Sound) {plane : Plane}
    (preserves : audit.plane.Preserves plane)
    (delivered : plane.discoveryCounts.delivered = audit.plane.discoveryCounts.delivered)
    (failed : plane.discoveryCounts.failed = audit.plane.discoveryCounts.failed) :
    (audit.proceed plane).Sound where
  settled := preserves.settled sound.settled
  failed := failed.trans sound.failed
  delivered := delivered.trans sound.delivered
  covered := fun nothing => (sound.covered nothing).imp (preserves.covered sound.settled) id

/-- What transport clients do keeps the accounts right. -/
theorem Sound.aside (sound : audit.Sound) {plane : Plane} (aside : audit.plane.Aside plane) :
    (audit.proceed plane).Sound := by
  refine sound.proceed aside.preserves ?_ ?_ <;> rw [aside.counts]

/-- Handling a request keeps the accounts right. -/
theorem Sound.handle (sound : audit.Sound) {stream : StreamId}
    (present : audit.plane.isOpen .discovery stream = true) (request : Discovery.Request)
    (pattern : SendPattern) : (audit.handle stream request pattern).Sound := by
  obtain ⟨introducing, client, named⟩ := Plane.preserves_introduceDiscovery present request
  have counts : (audit.plane.introduceDiscovery stream request).discoveryCounts =
      audit.plane.discoveryCounts := by
    unfold Plane.introduceDiscovery
    split <;> rfl
  have introduced := introducing.settled sound.settled
  obtain ⟨tallies, settled, covered⟩ :=
    Plane.play_handlingDiscovery introduced named request pattern
  refine sound.tallied _ (tallies.begun counts) settled fun nothing before => ⟨?_, rfl⟩
  exact covered nothing (introducing.covered sound.settled before)

/-- Publishing a push keeps the accounts right. -/
theorem Sound.publish (sound : audit.Sound) (push : Push) (pattern : SendPattern) :
    (audit.publish push pattern).Sound := by
  obtain ⟨tallies, preserves, idle⟩ := Plane.play_publishingAll sound.settled push pattern
  have tallied := sound.tallied [] tallies (preserves.settled sound.settled)
    fun _ covered => ⟨preserves.covered sound.settled covered, idle covered⟩
  rwa [List.append_nil] at tallied

/-- The end of a stream is not counted as a push. -/
theorem counts_finishDiscovery (plane : Plane) (stream : StreamId) :
    let after := plane.finishDiscovery stream
    after.discoveryCounts.delivered = plane.discoveryCounts.delivered ∧
      after.discoveryCounts.failed = plane.discoveryCounts.failed := by
  unfold Plane.finishDiscovery
  dsimp only
  split <;> exact ⟨rfl, rfl⟩

/-- Whatever happens keeps the accounts right. -/
theorem Sound.move (sound : audit.Sound) (move : Move) : (audit.move move).Sound := by
  cases move with
  | opening protocol stream capacity =>
    simp only [Audit.move]
    split
    · exact sound
    · rename_i present
      cases protocol with
      | transport => exact sound.aside ⟨id, rfl, rfl, rfl, rfl, rfl⟩
      | discovery =>
        have absent := Option.not_isSome_iff_eq_none.1 present
        exact sound.proceed (Plane.preserves_openDiscovery absent capacity) rfl rfl
  | transport stream request pattern =>
    obtain ⟨aside, silent⟩ := (Plane.aside_handlingTransport sound.settled.wellKept stream
      request).play Plane.lasting_aside Plane.aside_land sound.settled.wellKept pattern
    have tallied := sound.tallied [] (Plane.tallies_of_same aside.counts silent)
      (aside.preserves.settled sound.settled)
      fun _ covered => ⟨aside.preserves.covered sound.settled covered, rfl⟩
    rwa [List.append_nil] at tallied
  | discovery stream request pattern =>
    simp only [Audit.move]
    split
    · rename_i present
      exact sound.handle present request pattern
    · exact sound
  | ending protocol stream =>
    cases protocol with
    | transport => exact sound.aside (Plane.aside_finishTransport audit.plane stream)
    | discovery =>
      obtain ⟨delivered, failed⟩ := counts_finishDiscovery audit.plane stream
      exact sound.proceed (Plane.preserves_finishDiscovery audit.plane stream) delivered failed
  | stop stream =>
    exact sound.proceed (Plane.keeps_stopDiscovery audit.plane stream).preserves rfl rfl
  | outbox stream change =>
    refine sound.proceed (Plane.Keeps.preserves ?_) rfl rfl
    exact Plane.keeps_modifyDiscovery _ stream (fun _ => rfl) (fun _ stopped => stopped)
  | notice kind change =>
    have counts : (audit.plane.notice kind change).2.discoveryCounts =
        audit.plane.discoveryCounts := by
      unfold Plane.notice
      split <;> rfl
    exact sound.proceed (Plane.keeps_notice audit.plane kind change).preserves
      (congrArg ProtocolCounts.delivered counts) (congrArg ProtocolCounts.failed counts)
  | submit push => exact sound.aside ⟨id, rfl, rfl, rfl, rfl, rfl⟩
  | work worker pattern =>
    simp only [Audit.move]
    split
    · exact sound
    · rename_i push dispatcher _
      have taken : audit.plane.Aside { audit.plane with dispatcher } :=
        ⟨id, rfl, rfl, rfl, rfl, rfl⟩
      exact (sound.aside taken).publish push pattern
  | publish push pattern => exact sound.publish push pattern
  | fetch typeUrl names =>
    refine sound.aside ?_
    unfold Plane.fetch
    split
    · split <;> exact ⟨id, rfl, rfl, rfl, rfl, rfl⟩
    · exact ⟨id, rfl, rfl, rfl, rfl, rfl⟩

/-- So does a whole run. -/
theorem Sound.run (sound : audit.Sound) (moves : List Move) : (Audit.run moves audit).Sound := by
  induction moves generalizing audit with
  | nil => exact sound
  | cons move rest inductionHypothesis => exact inductionHypothesis (sound.move move)

/-- After any run the discovery pushes that are counted as failures are the attempts that failed,
    and those that are counted as successes are the responses that were put on a stream and the idle
    deliveries. If no request of the run has left names over, no delivery was idle: exactly the
    responses that were put on a stream are counted as successes. -/
theorem push_accounts_exact (settings : PushSettings) (kinds : KindTable) (dispatcher : Dispatcher)
    (clock : UInt64) (moves : List Move) :
    let audit := run moves (start (Plane.start settings kinds dispatcher clock))
    let counts := audit.plane.discoveryCounts
    counts.failed = audit.attempts.countP SendAttempt.fails ∧
      counts.delivered = audit.attempts.countP SendAttempt.delivers + audit.idle ∧
      (audit.dropped = [] →
        counts.delivered = audit.attempts.countP SendAttempt.delivers) := by
  intro audit counts
  have sound : audit.Sound := (sound_start settings kinds dispatcher clock).run moves
  refine ⟨sound.failed, sound.delivered, fun nothing => ?_⟩
  obtain ⟨-, none⟩ := sound.covered nothing
  have delivered := sound.delivered
  rwa [none] at delivered

/-- A control plane for the built-in kinds, without clients. -/
def quiet : Audit :=
  start (Plane.start ⟨.bestEffort, 3, 1000, "control-plane"⟩ KindTable.builtIn
    (Dispatcher.ofSizes 1 1) 0)

/-- The name of the rate limits of an application. -/
def limitsOf (app : String) : String :=
  "fault-tolerance.opensergo.io/v1alpha1/RateLimitStrategy/" ++ app ++ "/default"

/-- A request for the rate limits of some applications that answers no response. -/
def watching (apps : List String) : Discovery.Request :=
  ⟨some "node", Discovery.typeUrl, apps.map limitsOf, none, "", ""⟩

/-- A push of the rate limits of an application. -/
def limitsPush (app : String) : Push :=
  ⟨⟨⟨"default", app⟩, ⟨"fault-tolerance.opensergo.io/v1alpha1/RateLimitStrategy"⟩⟩, [], 7⟩

/-- A client watches the rate limits of two applications. It receives the first push; the second one
    times out, and the third one finds that the client is gone. A fourth one passes it over. -/
def watchedTwice : List Move :=
  [.opening .discovery ⟨0⟩ none, .discovery ⟨0⟩ (watching ["first", "second"]) fun _ _ => .sent,
    .publish (limitsPush "first") fun _ _ => .sent,
    .publish (limitsPush "second") fun _ _ => .timedOut,
    .publish (limitsPush "first") fun _ _ => .closed,
    .publish (limitsPush "first") fun _ _ => .sent]

/-- One success and two failures are counted, as many as there were attempts of each kind. -/
theorem push_accounts_exact_watchedTwice :
    let audit := run watchedTwice quiet
    audit.dropped = [] ∧
      audit.attempts.map SendAttempt.outcome = [.sent, .timedOut, .closed] ∧
        audit.plane.discoveryCounts.delivered = 1 ∧ audit.plane.discoveryCounts.failed = 2 := by
  obtain ⟨nothing, outcomes, successes, failures⟩ : (run watchedTwice quiet).dropped = [] ∧
      (run watchedTwice quiet).attempts.map SendAttempt.outcome = [.sent, .timedOut, .closed] ∧
      (run watchedTwice quiet).attempts.countP SendAttempt.delivers = 1 ∧
        (run watchedTwice quiet).attempts.countP SendAttempt.fails = 2 := by
    decide +kernel
  have accounts := push_accounts_exact ⟨.bestEffort, 3, 1000, "control-plane"⟩ KindTable.builtIn
    (Dispatcher.ofSizes 1 1) 0 watchedTwice
  rw [← quiet] at accounts
  obtain ⟨failed, -, delivered⟩ := accounts
  exact ⟨nothing, outcomes, (delivered nothing).trans successes, failed.trans failures⟩

/-- A client watches the rate limits of one application, starts its session anew with those of
    another, and then stops watching. When the first rate limits are pushed it is still in their
    slot: a success is counted, although no response was ever made for it. -/
theorem dropped_name_counts_as_sent :
    let audit := run [.opening .discovery ⟨0⟩ none,
      .discovery ⟨0⟩ (watching ["first"]) fun _ _ => .sent,
      .discovery ⟨0⟩ (watching ["second"]) fun _ _ => .sent,
      .discovery ⟨0⟩ (watching []) fun _ _ => .sent,
      .publish (limitsPush "first") fun _ _ => .sent] quiet
    audit.plane.discoveryCounts.delivered = 1 ∧ audit.attempts.length = 0 ∧
      audit.dropped = [limitsOf "first"] := by
  decide +kernel

end Audit

end RulePlane
