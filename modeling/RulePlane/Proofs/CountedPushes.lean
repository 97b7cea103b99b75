import Mathlib.Data.List.Nodup
import RulePlane.Proofs.ActingStreams
import RulePlane.Proofs.RecordedNonces
import RulePlane.Proofs.TransportPublication

/-!
# What discovery deliveries are counted as

A delivery to a discovery client ends in one of four ways: the response is sent, the send times out,
the client is gone, or the client watches nothing, so that no response is made. The last of these is
counted like the first, since nothing has failed. `Tallies` keeps the two apart: it compares what
was counted with the attempts that were made, and with the deliveries that were idle.

A push tries the connections at its target as the mode says, and is idle on those that live and
whose clients watch nothing (`tallies_publishingDiscovery`). What transport clients are sent is not
counted here at all (`aside_land`).
-/

namespace RulePlane

/-! ## Plays -/

/-- If what the attempts do is within a relation too, so is a play as a whole, whatever the pattern;
    and every message is one that the activity may send. -/
theorem Activity.Within.play {μ σ α : Type} {holds : σ → Prop} {relation : σ → σ → Prop}
    {own : StreamId → μ → Prop} (lasting : Lasting holds relation)
    {land : Nat → SendAttempt μ → σ → σ}
    (lands : ∀ millis made state, own made.stream made.message →
      relation state (land millis made state))
    {activity : Activity μ σ α} {start : σ} (satisfied : holds start)
    (within : activity.Within holds relation own start) (pattern : SendPattern) :
    relation start (activity.play land pattern).state ∧
      ∀ made ∈ (activity.play land pattern).attempts, own made.stream made.message := by
  induction activity generalizing start pattern with
  | finished result state => exact ⟨within, nofun⟩
  | sending stream millis message state resume inductionHypothesis =>
    obtain ⟨step, allowed, resumed⟩ := within
    let made : SendAttempt μ := ⟨stream, message, pattern stream 0⟩
    have sent := lasting.frame.trans step (lands millis made state allowed)
    have still := lasting.lasts satisfied sent
    obtain ⟨reaches, rest⟩ := inductionHypothesis made.outcome _ still
      (resumed made.outcome _ still) (pattern.after [made])
    exact ⟨lasting.frame.trans sent reaches, List.forall_mem_cons.2 ⟨allowed, rest⟩⟩

namespace SendAttempt

/-- Whether a response was put on a discovery stream. -/
def delivers (made : SendAttempt Posting) : Bool :=
  match made.message with
  | .discovery _ => decide (made.outcome = .sent)
  | .transport _ => false

/-- Whether a response should have been put on a discovery stream and was not. -/
def fails (made : SendAttempt Posting) : Bool :=
  match made.message with
  | .discovery _ => decide (made.outcome ≠ .sent)
  | .transport _ => false

end SendAttempt

namespace Plane

variable {plane before between after : Plane} {attempts further : List (SendAttempt Posting)}

/-! ## Tallies -/

/-- Between two states every attempt to send a discovery response was counted by its outcome, and so
    was a number of deliveries without an attempt, as successes. -/
structure Tallies (before after : Plane) (attempts : List (SendAttempt Posting)) (idle : Nat) :
    Prop where
  delivered : after.discoveryCounts.delivered =
    before.discoveryCounts.delivered + attempts.countP SendAttempt.delivers + idle
  failed : after.discoveryCounts.failed =
    before.discoveryCounts.failed + attempts.countP SendAttempt.fails

/-- Attempts are counted one after another. -/
theorem Tallies.append {idle more : Nat} (first : Tallies before between attempts idle)
    (second : Tallies between after further more) :
    Tallies before after (attempts ++ further) (idle + more) where
  delivered := by
    rw [second.delivered, first.delivered, List.countP_append]
    omega
  failed := by
    rw [second.failed, first.failed, List.countP_append]
    omega

/-- Where nothing is counted there were no attempts to send to discovery clients. -/
theorem tallies_of_same (same : after.discoveryCounts = before.discoveryCounts)
    (silent : ∀ made ∈ attempts, ∃ response, made.message = .transport response) :
    Tallies before after attempts 0 := by
  have none : attempts.countP SendAttempt.delivers = 0 ∧
      attempts.countP SendAttempt.fails = 0 := by
    simp only [List.countP_eq_zero]
    refine ⟨fun made member => ?_, fun made member => ?_⟩ <;>
    · obtain ⟨response, message⟩ := silent made member
      simp [SendAttempt.delivers, SendAttempt.fails, message]
  refine ⟨?_, ?_⟩
  · rw [same, none.1]
    omega
  · rw [same, none.2, Nat.add_zero]

/-- A step before the first attempt may do anything but count. -/
theorem Tallies.begun {idle : Nat} (tallies : Tallies between after attempts idle)
    (same : between.discoveryCounts = before.discoveryCounts) :
    Tallies before after attempts idle := by
  refine ⟨?_, ?_⟩
  · rw [tallies.delivered, same]
  · rw [tallies.failed, same]

/-! ## One delivery -/

/-- Whether the client of a discovery stream watches anything of the served type. -/
def watches (plane : Plane) (stream : StreamId) : Bool :=
  (plane.watched? stream Discovery.typeUrl).isSome

/-- An attempt does nothing but sending. -/
theorem keeps_land (millis : Nat) (made : SendAttempt Posting) (plane : Plane) :
    Keeps plane (plane.land millis made) := by
  unfold land
  split
  · unfold receive
    split
    · exact keeps_modifyTransport plane made.stream (fun _ => rfl) (fun _ valid => valid)
    · exact keeps_modifyDiscovery plane made.stream (fun _ => rfl) (fun _ stopped => stopped)
  · exact .of_same rfl rfl rfl rfl rfl
  · exact frame_keeps.refl plane

/-- An attempt is not counted. -/
@[simp] theorem discoveryCounts_land (millis : Nat) (made : SendAttempt Posting) (plane : Plane) :
    (plane.land millis made).discoveryCounts = plane.discoveryCounts := by
  unfold land receive
  cases made.outcome <;> cases made.message <;> rfl

/-- An attempt on a discovery stream leaves all others alone. -/
theorem sendsOn_land {actor : StreamId} (millis : Nat) (made : SendAttempt Posting) (plane : Plane)
    (own : OnDiscovery actor made.stream made.message) :
    SendsOn actor plane (plane.land millis made) := by
  refine ⟨keeps_land millis made plane, fun stream different => ?_⟩
  obtain ⟨rfl, response, message⟩ := own
  unfold land receive
  rw [message]
  cases made.outcome with
  | sent => exact (Table.find?_modify _ _ _ _).trans (if_neg (Ne.symm different))
  | timedOut => rfl
  | closed => rfl

/-- A delivery to a stream is sending on that stream, however its send ends. -/
theorem sendsOn_deliveringDiscovery (stream : StreamId) (rules : List Rule) (plane : Plane)
    (pattern : SendPattern) :
    let played := (plane.deliveringDiscovery stream rules).play land pattern
    SendsOn stream plane played.state ∧ ∀ made ∈ played.attempts, made.stream = stream := by
  obtain ⟨sends, own⟩ := (within_deliveringDiscovery stream rules plane).play
    (lasting_sendsOn stream) sendsOn_land trivial pattern
  exact ⟨sends, fun made member => (own made member).1⟩

/-- Whether a send has succeeded is what its result says. -/
theorem isOk_result (client : ClientId) (outcome : SendOutcome) :
    (outcome.result client).isOk = decide (outcome = .sent) := by
  cases outcome <;> rfl

/-- A delivery to a client that watches something makes one attempt, and is counted by that. -/
theorem play_deliveringDiscovery_of_watched {stream : StreamId}
    (watching : plane.watches stream = true) (rules : List Rule) (pattern : SendPattern) :
    let played := (plane.deliveringDiscovery stream rules).play land pattern
    played.result.isOk = decide (pattern stream 0 = .sent) ∧
      Tallies plane played.state played.attempts 0 := by
  obtain ⟨watched, isWatched⟩ := Option.isSome_iff_exists.1 watching
  obtain ⟨found, present, inList⟩ := Option.bind_eq_some_iff.1 isWatched
  have recording : ∃ recorded, found.watchList.record? Discovery.typeUrl plane.nextToken.1 =
      some recorded := by
    simp [Discovery.WatchList.record?, inList]
  obtain ⟨⟨previous, watchList⟩, recording⟩ := recording
  have noted : (plane.nextToken.2.discovery.find? stream).bind (fun found =>
      (found.watchList.record? Discovery.typeUrl plane.nextToken.1).map fun recorded =>
        (found, recorded)) = some (found, previous, watchList) := by
    change (plane.discovery.find? stream).bind _ = _
    rw [present, Option.bind_some, recording, Option.map_some]
  have settled (reached : Plane) (typeUrl nonce previous : String) (outcome : SendOutcome) :
      (reached.settleDiscovery stream typeUrl nonce previous outcome).discoveryCounts =
        reached.discoveryCounts := by
    cases outcome <;> rfl
  simp only [deliveringDiscovery, sendingDiscovery, noted, Activity.bind, Activity.play,
    isOk_result, settled, discoveryCounts_land]
  refine ⟨trivial, ?_, ?_⟩
  · cases pattern stream 0 <;> rfl
  · cases pattern stream 0 <;> rfl

/-- A delivery to a client that watches nothing makes no attempt, and is counted as a success. -/
theorem play_deliveringDiscovery_of_unwatched {stream : StreamId}
    (unwatched : plane.watches stream = false) (rules : List Rule) (pattern : SendPattern) :
    let played := (plane.deliveringDiscovery stream rules).play land pattern
    played.result.isOk = true ∧ played.attempts = [] ∧ Tallies plane played.state [] 1 := by
  have nothing : (plane.nextToken.2.discovery.find? stream).bind (fun found =>
      (found.watchList.record? Discovery.typeUrl plane.nextToken.1).map fun recorded =>
        (found, recorded)) = none := by
    change (plane.discovery.find? stream).bind _ = _
    cases present : plane.discovery.find? stream with
    | none => rfl
    | some found =>
      have unlisted : found.watchList.watched? Discovery.typeUrl = none := by
        simpa [watches, watched?, present] using unwatched
      simp [Discovery.WatchList.record?, unlisted]
  simp only [deliveringDiscovery, sendingDiscovery, nothing, Activity.bind, Activity.play]
  exact ⟨rfl, trivial, rfl, rfl⟩

/-! ## A push to all discovery clients of a target -/

/-- What is settled before a push: which streams live, whose clients watch anything, and how the
    first attempt on each stream ends. -/
structure Outlook where
  valid : StreamId → Bool
  watches : StreamId → Bool
  outcome : StreamId → SendOutcome

namespace Outlook

/-- Whether a push fails on a connection if it tries that. -/
def fails (outlook : Outlook) (connection : ClientId × StreamId) : Bool :=
  outlook.valid connection.2 && outlook.watches connection.2 &&
    decide (outlook.outcome connection.2 ≠ .sent)

/-- Whether a push is idle on a connection if it tries that: the stream lives, and its client
    watches nothing. -/
def idles (outlook : Outlook) (connection : ClientId × StreamId) : Bool :=
  outlook.valid connection.2 && !outlook.watches connection.2

end Outlook

/-- What a push may expect of the streams as they are. -/
def outlook (plane : Plane) (pattern : SendPattern) : Outlook :=
  ⟨plane.discoveryValid, plane.watches, fun stream => pattern stream 0⟩

/-- The connections of a push are as expected. -/
def Foresees (outlook : Outlook) (connections : List (ClientId × StreamId)) (plane : Plane)
    (pattern : SendPattern) : Prop :=
  ∀ connection ∈ connections, plane.discoveryValid connection.2 = outlook.valid connection.2 ∧
    plane.watches connection.2 = outlook.watches connection.2 ∧
      pattern connection.2 0 = outlook.outcome connection.2

/-- How many deliveries of a push are idle. -/
def idlePushes (plane : Plane) (push : Push) (pattern : SendPattern) : Nat :=
  match plane.subscribers.discovery.holders? push.target with
  | none => 0
  | some clients =>
      let outlook := plane.outlook pattern
      (Push.tried plane.settings.fanOut outlook.fails clients.entries).countP outlook.idles

section Connections

variable {outlook : Outlook} {connection : ClientId × StreamId} {pattern : SendPattern}

/-- A delivery to one connection is sending on its stream. -/
theorem sendsOn_deliveringToDiscovery (rules : List Rule) (connection : ClientId × StreamId)
    (plane : Plane) (pattern : SendPattern) :
    let played := (plane.deliveringToDiscovery rules connection).play land pattern
    SendsOn connection.2 plane played.state ∧
      ∀ made ∈ played.attempts, made.stream = connection.2 := by
  unfold deliveringToDiscovery
  split
  · exact sendsOn_deliveringDiscovery connection.2 rules plane pattern
  · exact ⟨(lasting_sendsOn connection.2).frame.refl plane, nofun⟩

/-- A delivery to one connection ends as expected. -/
theorem tallies_deliveringTo (rules : List Rule)
    (foresees : Foresees outlook [connection] plane pattern) :
    let played := (plane.deliveringToDiscovery rules connection).play land pattern
    played.result.isOk = !outlook.fails connection ∧
      Tallies plane played.state played.attempts ([connection].countP outlook.idles) := by
  obtain ⟨valid, watching, outcome⟩ := foresees connection List.mem_cons_self
  unfold deliveringToDiscovery Outlook.fails
  rw [← valid, ← outcome, ← watching, List.countP_singleton]
  cases living : plane.discoveryValid connection.2 with
  | false =>
    have passed : outlook.idles connection = false := by
      simp [Outlook.idles, ← valid, living]
    rw [if_neg Bool.false_ne_true, passed]
    exact ⟨rfl, rfl, rfl⟩
  | true =>
    rw [if_pos rfl]
    cases watched : plane.watches connection.2 with
    | false =>
      have idle : outlook.idles connection = true := by
        simp [Outlook.idles, ← valid, ← watching, living, watched]
      obtain ⟨success, none, tallies⟩ :=
        play_deliveringDiscovery_of_unwatched watched rules pattern
      refine ⟨success, ?_⟩
      rw [idle, none]
      exact tallies
    | true =>
      have busy : outlook.idles connection = false := by
        simp [Outlook.idles, ← watching, watched]
      obtain ⟨result, tallies⟩ := play_deliveringDiscovery_of_watched watched rules pattern
      refine ⟨result.trans ?_, ?_⟩
      · cases pattern connection.2 0 <;> rfl
      · rw [busy]
        exact tallies

/-- The connections behind the first one are as expected when that was tried. -/
theorem Foresees.behind {rest : List (ClientId × StreamId)}
    (foresees : Foresees outlook (connection :: rest) plane pattern)
    (apart : connection.2 ∉ rest.map Prod.snd) (rules : List Rule) :
    let played := (plane.deliveringToDiscovery rules connection).play land pattern
    Foresees outlook rest played.state (pattern.after played.attempts) := by
  intro played other listed
  obtain ⟨valid, watching, outcome⟩ := foresees other (List.mem_cons_of_mem connection listed)
  obtain ⟨sends, own⟩ := sendsOn_deliveringToDiscovery rules connection plane pattern
  have different : other.2 ≠ connection.2 := fun same =>
    apart (same ▸ List.mem_map_of_mem listed)
  have same := sends.2 other.2 different
  refine ⟨?_, ?_, ?_⟩
  · rw [← valid, discoveryValid, discoveryValid, same]
  · rw [← watching, watches, watches, watched?, watched?, same]
  · rw [pattern.after_of_other fun made member foreign =>
      different (foreign.symm.trans (own made member)), outcome]

/-- A push to distinct connections tries those up to the first failure, or all of them, and counts
    what is expected of each. -/
theorem tallies_fanOut (mode : FanOutMode) (rules : List Rule)
    {connections : List (ClientId × StreamId)} (distinct : (connections.map Prod.snd).Nodup)
    (foresees : Foresees outlook connections plane pattern) :
    let played := (Activity.fanOut mode (deliveringToDiscovery rules) connections plane).play land
      pattern
    Tallies plane played.state played.attempts
      ((Push.tried mode outlook.fails connections).countP outlook.idles) := by
  induction connections generalizing plane pattern with
  | nil => cases mode <;> exact ⟨rfl, rfl⟩
  | cons connection rest inductionHypothesis =>
    obtain ⟨apart, distinct⟩ := List.nodup_cons.1 distinct
    have own : Foresees outlook [connection] plane pattern := fun first single =>
      foresees first (List.mem_singleton.1 single ▸ List.mem_cons_self)
    obtain ⟨result, first⟩ := tallies_deliveringTo rules own
    have behind := inductionHypothesis distinct (foresees.behind apart rules)
    have together := first.append behind
    rw [← List.countP_append] at together
    rw [Activity.play_fanOut_cons]
    dsimp only
    cases failed : outlook.fails connection with
    | false =>
      rw [failed] at result
      rw [Push.tried_cons_of_passed mode failed]
      split
      · exact together
      · rename_i fault _ reported
        rw [reported] at result
        cases result
      · rename_i fault _ reported
        rw [reported] at result
        cases result
    | true =>
      rw [failed] at result
      split
      · rename_i reported
        rw [reported] at result
        cases result
      · rw [Push.tried_failFast_of_failed failed]
        exact first
      · exact together

end Connections

/-- Slots that have the names of their streams are held by distinct streams. -/
theorem nodup_holders {registry : Registry StreamId} {name? : StreamId → Option ClientId}
    (seated : registry.SeatedBy name?) {target : Target} {clients : Table ClientId StreamId}
    (held : registry.holders? target = some clients) : (clients.entries.map Prod.snd).Nodup := by
  refine List.Nodup.map_on ?_ (List.Nodup.of_map Prod.fst clients.distinct)
  intro first firstListed second secondListed same
  have firstNamed := seated _ _ _ ((Registry.mem_holders_iff held first).1 firstListed)
  have secondNamed := seated _ _ _ ((Registry.mem_holders_iff held second).1 secondListed)
  rw [same, secondNamed] at firstNamed
  exact Prod.ext (Option.some.inj firstNamed).symm same

/-- A push to the discovery clients that hold a target counts its attempts, and is idle as it was to
    be expected. -/
theorem tallies_publishingDiscovery
    (seated : plane.subscribers.discovery.SeatedBy plane.discoveryName?) (push : Push)
    (pattern : SendPattern) :
    let played := (plane.publishingDiscovery push).play land pattern
    Tallies plane played.state played.attempts (plane.idlePushes push pattern) := by
  unfold publishingDiscovery idlePushes
  cases held : plane.subscribers.discovery.holders? push.target with
  | none => exact ⟨rfl, rfl⟩
  | some clients =>
    exact tallies_fanOut _ push.rules (nodup_holders seated held) fun _ _ => ⟨rfl, rfl, rfl⟩

/-- If the clients of all streams in slots at its target watch something, no delivery of a push is
    idle. -/
theorem idlePushes_eq_zero {push : Push}
    (watching : ∀ client stream, plane.subscribers.discovery.connection? push.target client =
      some stream → plane.watches stream = true) (pattern : SendPattern) :
    plane.idlePushes push pattern = 0 := by
  unfold idlePushes
  split
  · rfl
  · rename_i clients held
    refine List.countP_eq_zero.2 fun connection tried => ?_
    have listed := (Push.tried_prefix _ _ _).subset tried
    have watched := watching _ _ ((Registry.mem_holders_iff held connection).1 listed)
    simp [Outlook.idles, outlook, watched]

/-! ## What is not counted -/

/-- An attempt to send to a transport client leaves discovery streams alone. -/
theorem aside_land (millis : Nat) (made : SendAttempt Posting) (plane : Plane)
    (own : IsTransport made.stream made.message) : Aside plane (plane.land millis made) := by
  obtain ⟨response, message⟩ := own
  refine (keeps_land millis made plane).aside ?_ (discoveryCounts_land millis made plane)
  unfold land receive
  rw [message]
  cases made.outcome <;> rfl

end Plane

end RulePlane
