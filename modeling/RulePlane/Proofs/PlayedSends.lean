import Mathlib.Logic.Function.Iterate
import RulePlane.Plane.Activity
import RulePlane.Proofs.TransportDelivery

/-!
# Playing activities against patterns of outcomes

How an activity goes if the outcome of each attempt to send is decided beforehand. A pattern names
the outcomes by stream and by the number of earlier attempts on it, so it leaves open which streams
an activity sends to and how often. `Activity.play` lists the attempts in the order in which they
are made. There is one law for each way of putting activities together; that of `retry` counts the
attempts of a delivery (`Settles`).

On the control plane, `Plane.land` says what an attempt with a given outcome does. A message that is
sent waits for its client, a time-out lets time pass, and nothing reaches a client that is gone. The
outboxes decide outcomes too: a completed activity is a play (`Activity.exists_pattern`). What the
laws leave open is who else acts between two attempts.
-/

namespace RulePlane

/-- The outcome of each attempt, by stream and by the number of earlier attempts on it. -/
abbrev SendPattern := StreamId → Nat → SendOutcome

/-- An attempt to send, and how it ended. -/
structure SendAttempt (μ : Type) where
  stream : StreamId
  message : μ
  outcome : SendOutcome
deriving DecidableEq, Repr

namespace SendPattern

variable {μ : Type}

/-- What is left of a pattern after some attempts. -/
def after (pattern : SendPattern) (attempts : List (SendAttempt μ)) : SendPattern :=
  fun stream number => pattern stream (attempts.countP (fun made => made.stream = stream) + number)

@[simp] theorem after_nil (pattern : SendPattern) : pattern.after ([] : List (SendAttempt μ)) =
    pattern := by
  funext stream number
  rw [after, List.countP_nil, Nat.zero_add]

theorem after_append (pattern : SendPattern) (earlier later : List (SendAttempt μ)) :
    pattern.after (earlier ++ later) = (pattern.after earlier).after later := by
  funext stream number
  rw [after, after, after, List.countP_append, Nat.add_assoc]

/-- One attempt takes the first outcome of its stream. -/
theorem after_singleton_self (pattern : SendPattern) (made : SendAttempt μ) (number : Nat) :
    pattern.after [made] made.stream number = pattern made.stream (number + 1) := by
  simp only [after, List.countP_singleton, decide_true, if_true, Nat.add_comm 1]

/-- Attempts on other streams take no outcome of a stream. -/
theorem after_of_other (pattern : SendPattern) {attempts : List (SendAttempt μ)}
    {stream : StreamId} (others : ∀ made ∈ attempts, made.stream ≠ stream) :
    pattern.after attempts stream = pattern stream := by
  funext number
  have none : attempts.countP (fun made => made.stream = stream) = 0 := by
    rw [List.countP_eq_zero]
    intro made member
    simpa using others made member
  rw [after, none, Nat.zero_add]

end SendPattern

/-- A number of attempts fits a pattern if all but the last time out, and the last one does so only
    if there may be no more. -/
structure Settles (outcomes : Nat → SendOutcome) (limit made : Nat) : Prop where
  some : 1 ≤ made
  most : made ≤ limit
  again : ∀ number, number + 1 < made → outcomes number = .timedOut
  stops : outcomes (made - 1) = .timedOut → made = limit

/-- If the first attempt does not time out there is no other. -/
theorem settles_one {outcomes : Nat → SendOutcome} (decided : outcomes 0 ≠ .timedOut)
    (more : Nat) : Settles outcomes (more + 1) 1 where
  some := Nat.le_refl 1
  most := Nat.le_add_left 1 more
  again number second := by omega
  stops last := absurd last decided

/-- If the first attempt times out, the others fit the rest of the pattern. -/
theorem Settles.retry {outcomes : Nat → SendOutcome} {limit made : Nat}
    (settles : Settles (fun number => outcomes (number + 1)) limit made)
    (first : outcomes 0 = .timedOut) : Settles outcomes (limit + 1) (made + 1) where
  some := Nat.le_add_left 1 made
  most := Nat.succ_le_succ settles.most
  again number inside := by
    cases number with
    | zero => exact first
    | succ number => exact settles.again number (by omega)
  stops last := by
    rw [Nat.add_sub_cancel, ← Nat.sub_add_cancel settles.some] at last
    exact congrArg (· + 1) (settles.stops last)

/-- The number of attempts of a delivery that may repeat the first one a number of times. -/
def attemptsMade (outcomes : Nat → SendOutcome) : Nat → Nat
  | 0 => 1
  | more + 1 =>
      match outcomes 0 with
      | .timedOut => attemptsMade (fun number => outcomes (number + 1)) more + 1
      | .sent => 1
      | .closed => 1

/-- The attempts of a delivery fit the pattern. -/
theorem settles_attemptsMade (outcomes : Nat → SendOutcome) (more : Nat) :
    Settles outcomes (more + 1) (attemptsMade outcomes more) := by
  induction more generalizing outcomes with
  | zero =>
    exact ⟨Nat.le_refl 1, Nat.le_refl 1, fun _ second => by simp [attemptsMade] at second,
      fun _ => rfl⟩
  | succ more inductionHypothesis =>
    cases first : outcomes 0 with
    | sent => simpa only [attemptsMade, first] using settles_one (by simp [first]) (more + 1)
    | closed => simpa only [attemptsMade, first] using settles_one (by simp [first]) (more + 1)
    | timedOut =>
      simpa only [attemptsMade, first] using (inductionHypothesis _).retry first

/-- There is one number of attempts that fits a pattern. -/
theorem Settles.unique {outcomes : Nat → SendOutcome} {limit made other : Nat}
    (settles : Settles outcomes limit made) (also : Settles outcomes limit other) :
    made = other := by
  have bounded {first second : Nat} (settles : Settles outcomes limit first)
      (also : Settles outcomes limit second) : ¬ first < second := by
    intro fewer
    have some := settles.some
    have stopped := settles.stops (also.again (first - 1) (by omega))
    have most := also.most
    omega
  have atLeast := bounded settles also
  have atMost := bounded also settles
  omega

/-- How an activity went: the attempts in their order, the result, and the state that is left. -/
structure Played (μ σ α : Type) where
  attempts : List (SendAttempt μ)
  result : α
  state : σ

namespace Activity

variable {μ σ α β γ : Type} (land : Nat → SendAttempt μ → σ → σ)

/-- Play an activity against a pattern. `land` says what an attempt does. -/
def play : Activity μ σ α → SendPattern → Played μ σ α
  | finished result state, _ => ⟨[], result, state⟩
  | sending stream millis message state resume, pattern =>
      let made : SendAttempt μ := ⟨stream, message, pattern stream 0⟩
      let rest := (resume made.outcome (land millis made state)).play (pattern.after [made])
      ⟨made :: rest.attempts, rest.result, rest.state⟩

@[simp] theorem play_finished (result : α) (state : σ) (pattern : SendPattern) :
    (finished result state : Activity μ σ α).play land pattern = ⟨[], result, state⟩ := rfl

/-- What follows an activity is played against what is left of the pattern. -/
theorem play_bind (activity : Activity μ σ α) (next : α → σ → Activity μ σ β)
    (pattern : SendPattern) :
    (activity.bind next).play land pattern =
      let first := activity.play land pattern
      let rest := (next first.result first.state).play land (pattern.after first.attempts)
      ⟨first.attempts ++ rest.attempts, rest.result, rest.state⟩ := by
  induction activity generalizing pattern with
  | finished result state => simp only [bind, play, SendPattern.after_nil, List.nil_append]
  | sending stream millis message state resume onResuming =>
    simp only [bind, play, onResuming, List.cons_append, ← SendPattern.after_append,
      List.nil_append]

/-- Doing something with the result makes no attempts. -/
theorem play_map (change : α → β) (activity : Activity μ σ α) (pattern : SendPattern) :
    (activity.map change).play land pattern =
      let first := activity.play land pattern
      ⟨first.attempts, change first.result, first.state⟩ := by
  rw [map, play_bind]
  simp only [play, List.append_nil]

/-- Repeated sends of one message: the attempts go on as long as they time out, and the last one
    decides. `settle` is what a single send does. -/
theorem play_retry {send : σ → Activity μ σ SendOutcome} {stream : StreamId} {message : μ}
    {settle : SendOutcome → σ → σ}
    (single : ∀ state pattern, (send state).play land pattern =
      ⟨[⟨stream, message, pattern stream 0⟩], pattern stream 0, settle (pattern stream 0) state⟩)
    (more : Nat) (state : σ) (pattern : SendPattern) :
    (retry send more state).play land pattern =
      let made := attemptsMade (pattern stream) more
      let last := pattern stream (made - 1)
      ⟨(List.range made).map fun number => ⟨stream, message, pattern stream number⟩, last,
        settle last ((settle .timedOut)^[made - 1] state)⟩ := by
  induction more generalizing state pattern with
  | zero => exact single state pattern
  | succ more inductionHypothesis =>
    rw [retry, play_bind, single]
    dsimp only
    cases first : pattern stream 0 with
    | sent => simp [attemptsMade, first, List.range_succ]
    | closed => simp [attemptsMade, first, List.range_succ]
    | timedOut =>
      have left : pattern.after [(⟨stream, message, .timedOut⟩ : SendAttempt μ)] stream =
          fun number => pattern stream (number + 1) :=
        funext (pattern.after_singleton_self ⟨stream, message, .timedOut⟩)
      have behind := (settles_attemptsMade (fun number => pattern stream (number + 1)) more).some
      dsimp only
      rw [inductionHypothesis, left]
      simp only [attemptsMade, first]
      generalize attemptsMade (fun number => pattern stream (number + 1)) more = made at behind ⊢
      rw [List.range_succ_eq_map, Nat.add_sub_cancel, Nat.sub_add_cancel behind]
      obtain ⟨made, rfl⟩ : ∃ fewer, made = fewer + 1 := ⟨made - 1, by omega⟩
      simp [first, Function.iterate_succ_apply]

/-- The first connection of a push, and what comes of the rest. -/
theorem play_fanOut_cons (mode : FanOutMode)
    (send : γ → σ → Activity μ σ (Except PushError Unit)) (connection : γ) (rest : List γ)
    (state : σ) (pattern : SendPattern) :
    (fanOut mode send (connection :: rest) state).play land pattern =
      let first := (send connection state).play land pattern
      let behind := (fanOut mode send rest first.state).play land (pattern.after first.attempts)
      match first.result, mode with
      | .ok (), _ => ⟨first.attempts ++ behind.attempts, behind.result, behind.state⟩
      | .error fault, .failFast => ⟨first.attempts, .error fault, first.state⟩
      | .error fault, .bestEffort =>
          ⟨first.attempts ++ behind.attempts, .error fault, behind.state⟩ := by
  rw [fanOut, play_bind]
  dsimp only
  cases ((send connection state).play land pattern).result with
  | ok success => rfl
  | error fault =>
    cases mode with
    | failFast => simp only [play_finished, List.append_nil]
    | bestEffort => simp only [play_map]

/-- The first item, and the items behind it. -/
theorem play_each_cons (step : σ → γ → Activity μ σ Unit) (item : γ) (rest : List γ) (state : σ)
    (pattern : SendPattern) :
    (each step (item :: rest) state).play land pattern =
      let first := (step state item).play land pattern
      let behind := (each step rest first.state).play land (pattern.after first.attempts)
      ⟨first.attempts ++ behind.attempts, (), behind.state⟩ := by
  rw [each, play_bind]

/-- Completing an activity is playing it, against the pattern of the outcomes that it meets. -/
theorem exists_pattern {attempt : Nat → StreamId → μ → σ → SendOutcome × σ}
    (lands : ∀ millis stream message state, (attempt millis stream message state).2 =
      land millis ⟨stream, message, (attempt millis stream message state).1⟩ state)
    (activity : Activity μ σ α) :
    ∃ pattern, activity.complete attempt =
      ((activity.play land pattern).result, (activity.play land pattern).state) := by
  induction activity with
  | finished result state => exact ⟨fun _ _ => .sent, rfl⟩
  | sending stream millis message state resume onResuming =>
    obtain ⟨behind, completes⟩ := onResuming (attempt millis stream message state).1
      (attempt millis stream message state).2
    let pattern : SendPattern := fun other number =>
      if other = stream then
        match number with
        | 0 => (attempt millis stream message state).1
        | number + 1 => behind other number
      else behind other number
    have first : pattern stream 0 = (attempt millis stream message state).1 := if_pos rfl
    have rest (made : SendAttempt μ) (same : made.stream = stream) :
        pattern.after [made] = behind := by
      funext other number
      subst same
      by_cases own : other = made.stream
      · subst own
        rw [SendPattern.after_singleton_self]
        exact if_pos rfl
      · rw [SendPattern.after_of_other pattern (by simpa using Ne.symm own)]
        exact if_neg own
    refine ⟨pattern, ?_⟩
    rw [complete, completes, play, first, rest _ rfl, ← lands]

end Activity

/-- A table in which a key has a value already is not changed by inserting that. -/
theorem Table.insert_of_find? {κ υ : Type} [DecidableEq κ] {table : Table κ υ} {key : κ}
    {value : υ} (found : table.find? key = some value) : table.insert key value = table := by
  have placed (entries : List (κ × υ)) (found : lookup key entries = some value) :
      place key value entries = entries := by
    induction entries with
    | nil => cases found
    | cons entry rest inductionHypothesis =>
      obtain ⟨present, old⟩ := entry
      rw [lookup] at found
      rw [place]
      split at found
      · rename_i same
        rw [if_pos same, Option.some.inj found]
      · rename_i different
        rw [if_neg different, inductionHypothesis found]
  obtain ⟨entries, distinct⟩ := table
  have same := placed entries found
  simp only [insert, same]

namespace Plane

/-- Put a message behind those that wait for a client. -/
def receive (stream : StreamId) (posting : Posting) (plane : Plane) : Plane :=
  match posting with
  | .transport response =>
      { plane with transport := plane.transport.modify stream fun found =>
          { found with outbox := { found.outbox with
            waiting := found.outbox.waiting ++ [response] } } }
  | .discovery response =>
      { plane with discovery := plane.discovery.modify stream fun found =>
          { found with outbox := { found.outbox with
            waiting := found.outbox.waiting ++ [response] } } }

/-- What an attempt with a given outcome does. -/
def land (millis : Nat) (made : SendAttempt Posting) (plane : Plane) : Plane :=
  match made.outcome with
  | .sent => plane.receive made.stream made.message
  | .timedOut => plane.wait millis
  | .closed => plane

/-- An offer that succeeds puts the message behind the others, and any other offer changes
    nothing. -/
theorem offer_eq_receive (stream : StreamId) (posting : Posting) (plane : Plane) :
    (plane.offer stream posting).2 =
      if (plane.offer stream posting).1 = .sent then plane.receive stream posting else plane := by
  cases posting with
  | transport response =>
    unfold offer receive Table.modify
    cases found : plane.transport.find? stream with
    | none => rfl
    | some present =>
      dsimp only
      unfold Outbox.offer
      split
      · exact congrArg (fun transport => { plane with transport }) (Table.insert_of_find? found)
      · split
        · exact congrArg (fun transport => { plane with transport }) (Table.insert_of_find? found)
        · rfl
  | discovery response =>
    unfold offer receive Table.modify
    cases found : plane.discovery.find? stream with
    | none => rfl
    | some present =>
      dsimp only
      unfold Outbox.offer
      split
      · exact congrArg (fun discovery => { plane with discovery }) (Table.insert_of_find? found)
      · split
        · exact congrArg (fun discovery => { plane with discovery }) (Table.insert_of_find? found)
        · rfl

/-- An attempt does what an attempt with its outcome does. -/
theorem attempt_eq_land (millis : Nat) (stream : StreamId) (posting : Posting) (plane : Plane) :
    (plane.attempt millis stream posting).2 =
      plane.land millis ⟨stream, posting, (plane.attempt millis stream posting).1⟩ := by
  have offered := plane.offer_eq_receive stream posting
  simp only [attempt, offered, land]
  cases (plane.offer stream posting).1 <;> rfl

/-- What the control plane does if nothing else happens between the sends is a play. -/
theorem exists_pattern_complete {α : Type} (activity : Activity Posting Plane α) :
    ∃ pattern, activity.complete attempt =
      ((activity.play land pattern).result, (activity.play land pattern).state) :=
  activity.exists_pattern land attempt_eq_land

/-! ## Deliveries to transport clients -/

/-- What comes of an attempt to send to a transport client. -/
def meet (stream : StreamId) (response : Transport.Response) (outcome : SendOutcome)
    (plane : Plane) : Plane :=
  match outcome with
  | .sent => plane.receive stream (.transport response)
  | .timedOut => plane.wait plane.settings.timeoutMillis
  | .closed => plane.invalidateTransport stream

/-- What comes of a delivery to a transport client, by its last outcome. All other attempts have
    timed out. -/
def delivered (stream : StreamId) (response : Transport.Response) (made : Nat)
    (outcome : SendOutcome) (plane : Plane) : Plane :=
  transportChannels.count (outcome = .sent)
    (meet stream response outcome (plane.wait ((made - 1) * plane.settings.timeoutMillis)))

/-- A single send takes the first outcome of its stream. -/
theorem play_sendingTransport (stream : StreamId) (response : Transport.Response) (plane : Plane)
    (pattern : SendPattern) :
    (plane.sendingTransport stream response).play land pattern =
      ⟨[⟨stream, .transport response, pattern stream 0⟩], pattern stream 0,
        meet stream response (pattern stream 0) plane⟩ := by
  simp only [sendingTransport, Activity.play, land, meet]
  cases pattern stream 0 <;> rfl

/-- Attempts that time out let time pass, and nothing else. -/
theorem iterate_meet_timedOut (stream : StreamId) (response : Transport.Response) (times : Nat)
    (plane : Plane) :
    (meet stream response .timedOut)^[times] plane =
      plane.wait (times * plane.settings.timeoutMillis) := by
  induction times generalizing plane with
  | zero => simp [wait]
  | succ times inductionHypothesis =>
    rw [Function.iterate_succ_apply, inductionHypothesis]
    simp only [meet, wait, Nat.succ_mul, Nat.add_assoc, Nat.add_comm, Nat.add_left_comm]

/-- A delivery makes the attempts that fit the pattern, and the last one decides. -/
theorem play_deliveringTransport (maxAttempts : Nat) (stream : StreamId)
    (response : Transport.Response) (plane : Plane) (pattern : SendPattern) :
    (plane.deliveringTransport maxAttempts stream response).play land pattern =
      let made := attemptsMade (pattern stream) (maxAttempts - 1)
      let last := pattern stream (made - 1)
      ⟨(List.range made).map fun number => ⟨stream, .transport response, pattern stream number⟩,
        last, plane.delivered stream response made last⟩ := by
  rw [deliveringTransport, Activity.play_bind,
    Activity.play_retry land (play_sendingTransport stream response)]
  simp only [Activity.play_finished, List.append_nil, iterate_meet_timedOut, delivered]

@[simp] theorem settings_delivered (stream : StreamId) (response : Transport.Response)
    (made : Nat) (outcome : SendOutcome) (plane : Plane) :
    (plane.delivered stream response made outcome).settings = plane.settings := by
  cases outcome <;> rfl

@[simp] theorem subscribers_delivered (stream : StreamId) (response : Transport.Response)
    (made : Nat) (outcome : SendOutcome) (plane : Plane) :
    (plane.delivered stream response made outcome).subscribers = plane.subscribers := by
  cases outcome <;> rfl

@[simp] theorem discovery_delivered (stream : StreamId) (response : Transport.Response)
    (made : Nat) (outcome : SendOutcome) (plane : Plane) :
    (plane.delivered stream response made outcome).discovery = plane.discovery := by
  cases outcome <;> rfl

/-- A delivery is counted once, by its last outcome. -/
@[simp] theorem transportCounts_delivered (stream : StreamId) (response : Transport.Response)
    (made : Nat) (outcome : SendOutcome) (plane : Plane) :
    (plane.delivered stream response made outcome).transportCounts =
      plane.transportCounts.pushed (outcome = .sent) := by
  cases outcome <;> rfl

/-- A delivery closes a connection exactly if its last attempt finds the client gone. -/
theorem transportValid_delivered (stream : StreamId) (response : Transport.Response)
    (made : Nat) (outcome : SendOutcome) (plane : Plane) (tested : StreamId) :
    (plane.delivered stream response made outcome).transportValid tested =
      (plane.transportValid tested && !decide (stream = tested ∧ outcome = .closed)) := by
  cases outcome with
  | timedOut => simp [delivered, transportChannels, meet, wait, transportValid]
  | sent =>
    simp only [delivered, transportChannels, meet, wait, receive, transportValid,
      Table.find?_modify]
    split <;> cases plane.transport.find? tested <;> simp
  | closed =>
    simp only [delivered, transportChannels, meet, wait, invalidateTransport, transportValid,
      Table.find?_modify]
    split <;> cases plane.transport.find? tested <;> simp [*]

/-- A delivery on a valid stream puts the response behind those that wait there exactly if its last
    attempt succeeds, and touches no other stream. -/
theorem waiting_delivered {stream : StreamId} {plane : Plane}
    (valid : plane.transportValid stream = true) (response : Transport.Response) (made : Nat)
    (outcome : SendOutcome) (tested : StreamId) :
    (plane.delivered stream response made outcome).waiting tested =
      plane.waiting tested ++
        if stream = tested ∧ outcome = .sent then [response] else [] := by
  cases outcome with
  | timedOut => simp [delivered, transportChannels, meet, wait, waiting]
  | closed =>
    simp only [delivered, transportChannels, meet, wait, invalidateTransport, waiting,
      Table.find?_modify]
    split <;> cases plane.transport.find? tested <;> simp
  | sent =>
    simp only [delivered, transportChannels, meet, wait, receive, waiting, Table.find?_modify]
    by_cases same : stream = tested
    · subst same
      cases found : plane.transport.find? stream with
      | none => simp [transportValid, found] at valid
      | some present => simp
    · simp [same]

end Plane

end RulePlane
