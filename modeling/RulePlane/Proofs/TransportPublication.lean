import Mathlib.Data.List.Basic
import RulePlane.Proofs.PlayedSends

/-!
# A push to all transport clients of a target

What one push does for every pattern of outcomes. The connections are tried in their order. One that
is invalid already is passed over. A valid one is attempted until an attempt does not time out, or
until there may be no more; the last attempt decides what is counted, and whether the connection is
closed. Failing fast, a push tries the connections up to the first one that fails (`Push.tried`);
the best effort tries all.

`Brings` is what a push does to the connections that it tries: it names the attempts in full, and
what every stream has received. It is carried along the list of connections by `Brings.cons`, whose
cases are those of a single delivery. Connections are distinct, so a delivery leaves the outcomes,
the validity and the outboxes of all others as they are. `publishingTransport_brings` is the law of
a whole push.
-/

namespace RulePlane

/-- The connections that a push tries if some of them fail: all of them, or those up to the first
    failure. -/
def Push.tried {γ : Type} (mode : FanOutMode) (fails : γ → Bool) (connections : List γ) : List γ :=
  match mode with
  | .bestEffort => connections
  | .failFast =>
      connections.takeWhile (fun connection => !fails connection) ++
        (connections.dropWhile fun connection => !fails connection).take 1

namespace Push

variable {γ : Type} {fails : γ → Bool} {connection : γ}

/-- A push goes on behind a connection that does not fail. -/
theorem tried_cons_of_passed (mode : FanOutMode) (passed : fails connection = false)
    (rest : List γ) :
    tried mode fails (connection :: rest) = connection :: tried mode fails rest := by
  cases mode with
  | bestEffort => rfl
  | failFast => simp [tried, passed]

/-- Failing fast, a push stops at a connection that fails. -/
theorem tried_failFast_of_failed (failed : fails connection = true) (rest : List γ) :
    tried .failFast fails (connection :: rest) = [connection] := by
  simp [tried, failed]

/-- The tried connections are the first of all. -/
theorem tried_prefix (mode : FanOutMode) (fails : γ → Bool) (connections : List γ) :
    tried mode fails connections <+: connections := by
  cases mode with
  | bestEffort => exact List.prefix_refl connections
  | failFast =>
    have shorter := (List.prefix_append_right_inj
      (connections.takeWhile fun connection => !fails connection)).2
        (List.take_prefix 1 (connections.dropWhile fun connection => !fails connection))
    rwa [List.takeWhile_append_dropWhile] at shorter

/-- The response that carries a push under a token. -/
def response (push : Push) (controlPlane token : String) : Transport.Response :=
  .ofRules controlPlane token push.target push.rules push.version

end Push

/-- A response without the token that it was made under. -/
def Transport.Response.untagged (response : Transport.Response) : Transport.Response :=
  { response with responseId := "" }

/-- A message without the token that it was made under. -/
def Posting.untagged : Posting → Posting
  | .transport response => .transport response.untagged
  | .discovery response => .discovery { response with nonce := "" }

/-- An attempt without the token of its message. -/
def SendAttempt.untagged (made : SendAttempt Posting) : SendAttempt Posting :=
  { made with message := made.message.untagged }

/-- What is settled before a push: which connections are valid, how attempts end, and how often the
    first attempt may be repeated. -/
structure Prospects where
  valid : StreamId → Bool
  outcomes : SendPattern
  more : Nat

namespace Prospects

/-- The number of attempts on a stream. -/
def made (prospects : Prospects) (stream : StreamId) : Nat :=
  attemptsMade (prospects.outcomes stream) prospects.more

/-- The outcome of the last attempt on a stream. -/
def final (prospects : Prospects) (stream : StreamId) : SendOutcome :=
  prospects.outcomes stream (prospects.made stream - 1)

/-- Whether a push reaches the client of a stream if it tries that. -/
def reaches (prospects : Prospects) (stream : StreamId) : Bool :=
  prospects.valid stream && decide (prospects.final stream = .sent)

/-- Whether a push fails on a connection if it tries that. A connection that is invalid already does
    not count as a failure. -/
def fails (prospects : Prospects) (connection : ClientId × StreamId) : Bool :=
  prospects.valid connection.2 && decide (prospects.final connection.2 ≠ .sent)

/-- The attempts on a stream if a push tries that. -/
def attempts (prospects : Prospects) (response : Transport.Response) (stream : StreamId) :
    List (SendAttempt Posting) :=
  if prospects.valid stream then
    (List.range (prospects.made stream)).map fun number =>
      ⟨stream, .transport response, prospects.outcomes stream number⟩
  else []

/-- The result of a push that meets several connections: the first failure, if there is one. -/
def result (prospects : Prospects) (connections : List (ClientId × StreamId)) :
    Except PushError Unit :=
  match connections.find? prospects.fails with
  | some connection => (prospects.final connection.2).result connection.1
  | none => .ok ()

variable {connection : ClientId × StreamId}

/-- The attempts on one stream are all on that stream. -/
theorem filter_attempts (prospects : Prospects) (response : Transport.Response)
    (stream tested : StreamId) :
    (prospects.attempts response stream).filter (fun made => made.stream = tested) =
      if stream = tested then prospects.attempts response stream else [] := by
  unfold attempts
  split
  · by_cases same : stream = tested <;> simp [List.filter_map, Function.comp_def, same]
  · simp

/-- Among the attempts on distinct streams, those on one of them are its own. -/
theorem filter_flatMap_attempts (prospects : Prospects) (responses : StreamId → Transport.Response)
    {tried : List (ClientId × StreamId)} (distinct : (tried.map Prod.snd).Nodup)
    (member : connection ∈ tried) :
    (tried.flatMap fun other => prospects.attempts (responses other.2) other.2).filter
        (fun made => made.stream = connection.2) =
      prospects.attempts (responses connection.2) connection.2 := by
  induction tried with
  | nil => cases member
  | cons first rest inductionHypothesis =>
    obtain ⟨apart, distinct⟩ := List.nodup_cons.1 distinct
    rw [List.flatMap_cons, List.filter_append, filter_attempts]
    rcases List.mem_cons.1 member with rfl | listed
    · have none : (rest.flatMap fun other => prospects.attempts (responses other.2) other.2).filter
          (fun made => made.stream = connection.2) = [] := by
        rw [List.filter_flatMap, List.flatMap_eq_nil_iff]
        intro other listed
        rw [filter_attempts, if_neg]
        exact fun same => apart (same ▸ List.mem_map_of_mem listed)
      rw [none, if_pos rfl, List.append_nil]
    · have different : first.2 ≠ connection.2 :=
        fun same => apart (same ▸ List.mem_map_of_mem listed)
      rw [if_neg different, List.nil_append, inductionHypothesis distinct listed]

/-- Which token a response has does not matter for the attempts. -/
theorem untagged_attempts (prospects : Prospects) (response : Transport.Response)
    (stream : StreamId) :
    (prospects.attempts response stream).map SendAttempt.untagged =
      prospects.attempts response.untagged stream := by
  unfold attempts
  split
  · simp [SendAttempt.untagged, Posting.untagged]
  · rfl

variable {prospects : Prospects}

/-- A connection that does not fail has no part in the result. -/
theorem result_cons_of_passed (passed : prospects.fails connection = false)
    (rest : List (ClientId × StreamId)) :
    prospects.result (connection :: rest) = prospects.result rest := by
  rw [result, List.find?_cons_of_neg (by simp [passed])]
  rfl

/-- A connection that fails decides the result, whatever is behind it. -/
theorem result_cons_of_failed (failed : prospects.fails connection = true)
    (rest : List (ClientId × StreamId)) :
    ∃ fault, prospects.result (connection :: rest) = .error fault ∧
      prospects.result [connection] = .error fault := by
  have found (behind : List (ClientId × StreamId)) : prospects.result (connection :: behind) =
      (prospects.final connection.2).result connection.1 := by
    rw [result, List.find?_cons_of_pos failed]
  rw [found rest, found []]
  have different : prospects.final connection.2 ≠ .sent := by
    simp only [fails, Bool.and_eq_true, decide_eq_true_eq] at failed
    exact failed.2
  cases last : prospects.final connection.2 with
  | sent => exact absurd last different
  | timedOut => exact ⟨_, rfl, rfl⟩
  | closed => exact ⟨_, rfl, rfl⟩

end Prospects

namespace Plane

/-- What a push does to the connections that it tries. Each stream has a token for its response. -/
structure Brings (prospects : Prospects) (push : Push) (token : StreamId → String) (before : Plane)
    (tried : List (ClientId × StreamId)) (attempts : List (SendAttempt Posting)) (after : Plane) :
    Prop where
  /-- The tried connections are attempted in their order. -/
  attempts : attempts = tried.flatMap fun connection =>
    prospects.attempts (push.response before.settings.controlPlane (token connection.2))
      connection.2
  /-- Every delivery is counted once, by its last outcome. -/
  delivered : after.transportCounts.delivered = before.transportCounts.delivered +
    tried.countP fun connection => prospects.reaches connection.2
  failed : after.transportCounts.failed = before.transportCounts.failed +
    tried.countP prospects.fails
  /-- A connection is closed exactly if it was tried and its last attempt found the client gone. -/
  valid : ∀ stream, after.transportValid stream = (before.transportValid stream &&
    !decide (stream ∈ tried.map Prod.snd ∧ prospects.final stream = .closed))
  /-- A client receives the response once if it was tried and reached, and else not at all. -/
  waiting : ∀ stream, after.waiting stream = before.waiting stream ++
    if stream ∈ tried.map Prod.snd ∧ prospects.reaches stream = true then
      [push.response before.settings.controlPlane (token stream)]
    else []
  settings : after.settings = before.settings
  subscribers : after.subscribers = before.subscribers

/-- The distinct connections of a push have the prospects that they had at its beginning. -/
def Expects (prospects : Prospects) (connections : List (ClientId × StreamId)) (plane : Plane)
    (pattern : SendPattern) : Prop :=
  ∀ connection ∈ connections, plane.transportValid connection.2 = prospects.valid connection.2 ∧
    pattern connection.2 = prospects.outcomes connection.2

variable {prospects : Prospects} {push : Push} {plane : Plane} {pattern : SendPattern}
  {connection : ClientId × StreamId}

/-- An invalid connection is passed over. -/
theorem play_deliveringTo_of_invalid (maxAttempts : Nat) (push : Push)
    (invalid : plane.transportValid connection.2 = false) (pattern : SendPattern) :
    (plane.deliveringToTransport maxAttempts push connection).play land pattern =
      ⟨[], .ok (), plane.nextToken.2⟩ := by
  have still : plane.nextToken.2.transportValid connection.2 = false := invalid
  simp only [deliveringToTransport, pushedResponse, still, Bool.false_eq_true, if_false,
    Activity.play_finished]

/-- A valid connection is attempted, and its last attempt decides. -/
theorem play_deliveringTo_of_valid (maxAttempts : Nat) (push : Push)
    (valid : plane.transportValid connection.2 = true) (pattern : SendPattern) :
    (plane.deliveringToTransport maxAttempts push connection).play land pattern =
      let response := push.response plane.settings.controlPlane plane.nextToken.1
      let made := attemptsMade (pattern connection.2) (maxAttempts - 1)
      let last := pattern connection.2 (made - 1)
      ⟨(List.range made).map fun number =>
          ⟨connection.2, .transport response, pattern connection.2 number⟩,
        last.result connection.1, plane.nextToken.2.delivered connection.2 response made last⟩ := by
  have still : plane.nextToken.2.transportValid connection.2 = true := valid
  simp only [deliveringToTransport, pushedResponse, still, if_true, Activity.play_map,
    play_deliveringTransport]
  rfl

/-- Making a token is nothing that a client sees. -/
theorem Brings.of_nextToken {token : StreamId → String} {tried : List (ClientId × StreamId)}
    {attempts : List (SendAttempt Posting)} {after : Plane}
    (brings : Brings prospects push token plane.nextToken.2 tried attempts after) :
    Brings prospects push token plane tried attempts after :=
  ⟨brings.attempts, brings.delivered, brings.failed, brings.valid, brings.waiting, brings.settings,
    brings.subscribers⟩

/-- A push without connections brings nothing. -/
theorem brings_nil (prospects : Prospects) (push : Push) (token : StreamId → String)
    (plane : Plane) : Brings prospects push token plane [] [] plane where
  attempts := rfl
  delivered := rfl
  failed := rfl
  valid := by simp
  waiting := by simp
  settings := rfl
  subscribers := rfl

/-- An invalid connection that is passed over has its prospects. -/
theorem brings_of_invalid (invalid : plane.transportValid connection.2 = false)
    (prospect : prospects.valid connection.2 = false) (push : Push) (token : StreamId → String) :
    Brings prospects push token plane [connection] [] plane where
  attempts := by simp [Prospects.attempts, prospect]
  delivered := by simp [Prospects.reaches, prospect]
  failed := by simp [Prospects.fails, prospect]
  valid stream := by
    by_cases same : stream = connection.2
    · simp [same, invalid]
    · simp [same]
  waiting stream := by
    by_cases same : stream = connection.2
    · simp [same, Prospects.reaches, prospect]
    · simp [same]
  settings := rfl
  subscribers := rfl

/-- A delivery to a valid connection has the prospects of that. -/
theorem brings_of_valid (valid : plane.transportValid connection.2 = true)
    (prospect : prospects.valid connection.2 = true) (push : Push) (token : String) :
    let response := push.response plane.settings.controlPlane token
    Brings prospects push (fun _ => token) plane [connection]
      (prospects.attempts response connection.2)
      (plane.delivered connection.2 response (prospects.made connection.2)
        (prospects.final connection.2)) where
  attempts := by rw [List.flatMap_singleton]
  delivered := by
    simp only [transportCounts_delivered, List.countP_singleton, Prospects.reaches, prospect,
      Bool.true_and]
    cases prospects.final connection.2 <;> rfl
  failed := by
    simp only [transportCounts_delivered, List.countP_singleton, Prospects.fails, prospect,
      Bool.true_and]
    cases prospects.final connection.2 <;> rfl
  valid stream := by
    rw [transportValid_delivered]
    by_cases same : stream = connection.2
    · simp [same]
    · simp [same, Ne.symm same]
  waiting stream := by
    rw [waiting_delivered valid]
    by_cases same : stream = connection.2
    · simp [same, Prospects.reaches, prospect]
    · simp [same, Ne.symm same]
  settings := settings_delivered _ _ _ _ _
  subscribers := subscribers_delivered _ _ _ _ _

/-- One delivery has the prospects of its connection. -/
theorem brings_deliveringTo {maxAttempts : Nat} (more : prospects.more = maxAttempts - 1)
    (push : Push) (expects : Expects prospects [connection] plane pattern) :
    let played := (plane.deliveringToTransport maxAttempts push connection).play land pattern
    played.result = prospects.result [connection] ∧
      Brings prospects push (fun _ => plane.nextToken.1) plane [connection] played.attempts
        played.state := by
  obtain ⟨sameValid, sameOutcomes⟩ := expects connection List.mem_cons_self
  cases valid : plane.transportValid connection.2 with
  | false =>
    have prospect := sameValid.symm.trans valid
    have invalid : plane.nextToken.2.transportValid connection.2 = false := valid
    rw [play_deliveringTo_of_invalid maxAttempts push valid]
    exact ⟨by simp [Prospects.result, Prospects.fails, prospect],
      (brings_of_invalid invalid prospect push _).of_nextToken⟩
  | true =>
    have prospect := sameValid.symm.trans valid
    have still : plane.nextToken.2.transportValid connection.2 = true := valid
    rw [play_deliveringTo_of_valid maxAttempts push valid, sameOutcomes, ← more]
    have brings := (brings_of_valid still prospect push plane.nextToken.1).of_nextToken
    rw [Prospects.attempts, if_pos prospect] at brings
    refine ⟨?_, brings⟩
    change (prospects.final connection.2).result connection.1 = prospects.result [connection]
    cases last : prospects.final connection.2 <;>
      simp [Prospects.result, Prospects.fails, prospect, last, SendOutcome.result]

/-- What a push does to some connections and what it does to those behind them, put together. -/
theorem Brings.append {first second : StreamId → String} {reached after : Plane}
    {earlier later : List (ClientId × StreamId)} {attempts further : List (SendAttempt Posting)}
    (brings : Brings prospects push first plane earlier attempts reached)
    (behind : Brings prospects push second reached later further after)
    (apart : ∀ stream ∈ earlier.map Prod.snd, stream ∉ later.map Prod.snd) :
    Brings prospects push
      (fun stream => if stream ∈ earlier.map Prod.snd then first stream else second stream)
      plane (earlier ++ later) (attempts ++ further) after where
  attempts := by
    have own : ∀ connection ∈ earlier, connection.2 ∈ earlier.map Prod.snd :=
      fun connection member => List.mem_map_of_mem member
    have foreign : ∀ connection ∈ later, connection.2 ∉ earlier.map Prod.snd :=
      fun connection member listed => apart _ listed (List.mem_map_of_mem member)
    rw [List.flatMap_append, brings.attempts, behind.attempts, brings.settings]
    refine congrArg₂ (· ++ ·) ?_ ?_
    · exact List.flatMap_congr fun connection member => by rw [if_pos (own connection member)]
    · exact List.flatMap_congr fun connection member => by rw [if_neg (foreign connection member)]
  delivered := by
    rw [behind.delivered, brings.delivered, List.countP_append, Nat.add_assoc]
  failed := by
    rw [behind.failed, brings.failed, List.countP_append, Nat.add_assoc]
  valid stream := by
    rw [behind.valid, brings.valid, Bool.and_assoc]
    by_cases closed : prospects.final stream = .closed
    · simp only [List.map_append, List.mem_append, closed, and_true, Bool.decide_or, Bool.not_or]
    · simp only [closed, and_false, decide_false, Bool.not_false, Bool.and_true]
  waiting stream := by
    rw [behind.waiting, brings.waiting, brings.settings, List.append_assoc]
    simp only [List.map_append, List.mem_append]
    by_cases listed : stream ∈ earlier.map Prod.snd
    · simp only [listed, apart stream listed, true_and, false_and, if_false, true_or, if_true,
        List.append_nil]
    · simp only [listed, false_and, false_or, if_false, List.nil_append]
  settings := behind.settings.trans brings.settings
  subscribers := behind.subscribers.trans brings.subscribers

/-- The connections behind the first one have the prospects that they had before it was tried. -/
theorem Expects.behind {rest : List (ClientId × StreamId)} {token : StreamId → String}
    {attempts : List (SendAttempt Posting)} {reached : Plane}
    (expects : Expects prospects (connection :: rest) plane pattern)
    (brings : Brings prospects push token plane [connection] attempts reached)
    (apart : connection.2 ∉ rest.map Prod.snd) :
    Expects prospects rest reached (pattern.after attempts) := by
  intro other listed
  obtain ⟨sameValid, sameOutcomes⟩ := expects other (List.mem_cons_of_mem connection listed)
  have different : other.2 ≠ connection.2 := by
    intro same
    exact apart (same ▸ List.mem_map_of_mem listed)
  constructor
  · simp [brings.valid, different, sameValid]
  · rw [pattern.after_of_other, sameOutcomes]
    intro made member
    rw [brings.attempts, List.flatMap_singleton, Prospects.attempts] at member
    split at member
    · obtain ⟨number, -, rfl⟩ := List.mem_map.1 member
      exact different.symm
    · cases member

/-- A push to distinct connections tries those up to the first failure, or all of them, and has the
    prospects of each. Its result is the first failure. -/
theorem brings_fanOut {maxAttempts : Nat} (more : prospects.more = maxAttempts - 1)
    (mode : FanOutMode) (push : Push) {connections : List (ClientId × StreamId)}
    (distinct : (connections.map Prod.snd).Nodup)
    (expects : Expects prospects connections plane pattern) :
    let played := (Activity.fanOut mode (deliveringToTransport maxAttempts push) connections
      plane).play land pattern
    played.result = prospects.result connections ∧
      ∃ token, Brings prospects push token plane
        (Push.tried mode prospects.fails connections)
        played.attempts played.state := by
  induction connections generalizing plane pattern with
  | nil =>
    refine ⟨rfl, fun _ => "", ?_⟩
    cases mode <;> exact brings_nil prospects push _ plane
  | cons connection rest inductionHypothesis =>
    obtain ⟨apart, distinct⟩ := List.nodup_cons.1 distinct
    have own : Expects prospects [connection] plane pattern := fun first single =>
      expects first (List.mem_singleton.1 single ▸ List.mem_cons_self)
    obtain ⟨result, brings⟩ := brings_deliveringTo more push own
    obtain ⟨others, token, behind⟩ :=
      inductionHypothesis distinct (expects.behind brings apart)
    have together := brings.append behind fun stream own listed => apart <| by
      obtain rfl : stream = connection.2 := by simpa using own
      exact ((Push.tried_prefix mode prospects.fails rest).map Prod.snd).subset listed
    rw [Activity.play_fanOut_cons]
    cases failed : prospects.fails connection with
    | false =>
      have success : prospects.result [connection] = .ok () :=
        Prospects.result_cons_of_passed failed []
      rw [success] at result
      rw [Prospects.result_cons_of_passed failed, Push.tried_cons_of_passed mode failed]
      simp only [result]
      exact ⟨others, _, together⟩
    | true =>
      obtain ⟨fault, reported, own⟩ := Prospects.result_cons_of_failed failed rest
      rw [own] at result
      simp only [result]
      rw [reported]
      cases mode with
      | failFast =>
        rw [Push.tried_failFast_of_failed failed]
        exact ⟨rfl, _, brings⟩
      | bestEffort => exact ⟨rfl, _, together⟩

/-- What one connection sees of a push that reaches it among others is what it sees of a push to it
    alone, up to the tokens of the responses. -/
structure SeesAlike (stream : StreamId)
    (played alone : Played Posting Plane (Except PushError Unit)) : Prop where
  attempts : (played.attempts.filter fun made => made.stream = stream).map SendAttempt.untagged =
    alone.attempts.map SendAttempt.untagged
  waiting : (played.state.waiting stream).map Transport.Response.untagged =
    (alone.state.waiting stream).map Transport.Response.untagged
  valid : played.state.transportValid stream = alone.state.transportValid stream

/-- A push does to each connection that it tries what it would do to it alone. -/
theorem Brings.seesAlike {token aloneToken : StreamId → String}
    {tried : List (ClientId × StreamId)}
    {played alone : Played Posting Plane (Except PushError Unit)}
    (brings : Brings prospects push token plane tried played.attempts played.state)
    (distinct : (tried.map Prod.snd).Nodup) (member : connection ∈ tried)
    (single : Brings prospects push aloneToken plane [connection] alone.attempts alone.state) :
    SeesAlike connection.2 played alone where
  attempts := by
    rw [brings.attempts, single.attempts, List.flatMap_singleton,
      prospects.filter_flatMap_attempts
        (fun stream => push.response plane.settings.controlPlane (token stream)) distinct member,
      prospects.untagged_attempts, prospects.untagged_attempts]
    rfl
  waiting := by
    have listed : connection.2 ∈ tried.map Prod.snd := List.mem_map_of_mem member
    rw [brings.waiting, single.waiting]
    simp only [listed, List.map_cons, List.map_nil, List.mem_singleton, true_and, List.map_append]
    split <;> rfl
  valid := by
    have listed : connection.2 ∈ tried.map Prod.snd := List.mem_map_of_mem member
    rw [brings.valid, single.valid]
    simp only [listed, List.map_cons, List.map_nil, List.mem_singleton, true_and]

/-- A push to the holders of a target, for every pattern of outcomes and however many of the
    connections are invalid already. The number of attempts on each stream fits the pattern. The
    push tries the connections in their order, up to the first failure or all of them as the mode
    says, and brings each what `Brings` says. Its result is the first failure. With the best effort,
    each connection sees what it would see if it were the only one. -/
theorem publishingTransport_brings (pattern : SendPattern) {plane : Plane} {push : Push}
    {clients : Table ClientId StreamId}
    (held : plane.subscribers.transport.holders? push.target = some clients)
    (distinct : (clients.entries.map Prod.snd).Nodup) :
    let prospects : Prospects := ⟨plane.transportValid, pattern, plane.settings.maxAttempts - 1⟩
    let mode := plane.settings.fanOut
    let played := (plane.publishingTransport push).play land pattern
    (∀ stream, Settles (pattern stream) (max 1 plane.settings.maxAttempts)
      (prospects.made stream)) ∧
    played.result = prospects.result clients.entries ∧
    (∃ token, Brings prospects push token plane
      (Push.tried mode prospects.fails clients.entries) played.attempts played.state) ∧
    (mode = .bestEffort → ∀ connection ∈ clients.entries,
      SeesAlike connection.2 played
        ((Activity.fanOut mode (deliveringToTransport plane.settings.maxAttempts push) [connection]
          plane).play land pattern)) := by
  intro prospects mode played
  have more : prospects.more = plane.settings.maxAttempts - 1 := rfl
  have expects (connections : List (ClientId × StreamId)) :
      Expects prospects connections plane pattern := fun _ _ => ⟨rfl, rfl⟩
  have publishing : plane.publishingTransport push =
      Activity.fanOut mode (deliveringToTransport plane.settings.maxAttempts push) clients.entries
        plane := by
    simp only [publishingTransport, held, mode]
  have whole := brings_fanOut more mode push distinct (expects _)
  rw [← publishing] at whole
  obtain ⟨result, token, brings⟩ := whole
  refine ⟨fun stream => ?_, result, ⟨token, brings⟩, fun effort connection member => ?_⟩
  · have settles := settles_attemptsMade (pattern stream) (plane.settings.maxAttempts - 1)
    rwa [show plane.settings.maxAttempts - 1 + 1 = max 1 plane.settings.maxAttempts by omega]
      at settles
  · have all (connections : List (ClientId × StreamId)) :
        Push.tried mode prospects.fails connections = connections := by
      rw [effort]
      rfl
    have single : (([connection] : List (ClientId × StreamId)).map Prod.snd).Nodup := by simp
    obtain ⟨-, aloneToken, alone⟩ := brings_fanOut more mode push single (expects _)
    rw [all] at brings alone
    exact brings.seesAlike distinct member alone

/-- A control plane with four clients at one target. The connection of the second is invalid. -/
def crowded (mode : FanOutMode) : Plane :=
  let stream (isValid : Bool) : TransportStream := { TransportStream.fresh none none with isValid }
  let clients : Table ClientId StreamId :=
    Table.ofList [(⟨"a"⟩, ⟨0⟩), (⟨"b"⟩, ⟨1⟩), (⟨"c"⟩, ⟨2⟩), (⟨"d"⟩, ⟨3⟩)]
  let plane := start ⟨mode, 3, 1000, "plane"⟩ (KindTable.ofList []) (.ofSizes 1 1) 0
  { plane with
    transport := Table.ofList
      [(⟨0⟩, stream true), (⟨1⟩, stream false), (⟨2⟩, stream true), (⟨3⟩, stream true)]
    subscribers := { plane.subscribers with
      transport := ⟨Table.empty.insert default (Table.empty.insert default clients), .empty⟩ } }

/-- The second attempt on the first stream succeeds, all on the third time out, and the client of
    the fourth is gone. -/
def unsteady : SendPattern := fun stream number =>
  match stream.number, number with
  | 0, 1 => .sent
  | 3, _ => .closed
  | _, _ => .timedOut

/-- With the best effort, a push to the four clients goes on behind the failure on the third stream,
    which is its result. -/
theorem publishingTransport_brings_unsteady :
    let played := ((crowded .bestEffort).publishingTransport default).play land unsteady
    played.result = .error (.timedOut ⟨"c"⟩) ∧
    played.attempts.map (fun made => (made.stream.number, made.outcome)) =
      [(0, .timedOut), (0, .sent), (2, .timedOut), (2, .timedOut), (2, .timedOut), (3, .closed)] ∧
    played.state.transportCounts = ⟨1, 2, none⟩ := by
  have held : (crowded .bestEffort).subscribers.transport.holders? (default : Push).target =
      some (Table.ofList [(⟨"a"⟩, ⟨0⟩), (⟨"b"⟩, ⟨1⟩), (⟨"c"⟩, ⟨2⟩), (⟨"d"⟩, ⟨3⟩)]) := rfl
  obtain ⟨-, result, ⟨token, brings⟩, -⟩ :=
    publishingTransport_brings unsteady held (by decide)
  refine ⟨result.trans rfl, ?_, ?_⟩
  · rw [brings.attempts]
    rfl
  · rfl

end Plane

end RulePlane
