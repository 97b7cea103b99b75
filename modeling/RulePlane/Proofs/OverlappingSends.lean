import RulePlane.Proofs.FreshTokens
import RulePlane.Proofs.RecordedNonces

/-!
# Overlapping sends

Several sends for one type URL of a discovery stream may be under way at once. Each records a fresh
nonce, and remembers the one that it found. Later its response is put on the stream, or the send
fails; and after a failure it restores the nonce that it found, if its own is still recorded. These
steps of different sends may be mixed in any order, while the client reads, hangs up and
acknowledges, as long as no session is started or ended.

What is recorded then is the nonce of the last send that was begun and not undone
(`Coherent.recorded`): a failed send is undone when it is settled, unless a later one stands. That
is the nonce which the client got last if and only if all sends are undone that were begun after
that of the last response (`recorded_eq_last_iff`). So two things can go wrong. A response may be
overtaken on the stream by that of a later send; and a send that fails while a later one stands is
never undone, although the later one may fail as well and restore its nonce. In both cases the
client's acknowledgement is dropped as stale.
-/

namespace RulePlane

/-! ## Sends under way -/

/-- What has become of a send that was begun: it has not been attempted yet; its attempt has failed
    and it is not settled yet; or it is over. A failed send that is over was undone or left
    standing. -/
inductive Overlap.Fate where
  | waiting
  | timedOut
  | closed
  | sent
  | undone
  | stranded
deriving DecidableEq, Repr

/-- A send that was begun, and the rest of its activity. -/
structure Overlap.Call where
  millis : Nat
  response : Discovery.Response
  resume : SendOutcome → Plane → Activity Posting Plane (Except PushError Unit)
  fate : Overlap.Fate

/-- A control plane on which sends for one type URL of a discovery stream overlap: the sends, in the
    order in which they were begun, and the nonces of the responses that were put on the stream. -/
structure Overlap where
  plane : Plane
  calls : List Overlap.Call
  log : List String

namespace Overlap

/-- What may happen next. A send is named by its place among those that were begun. -/
inductive Move where
  | begin (millis : Nat) (rules : List Rule)
  | attempt (place : Nat)
  | expire (place : Nat)
  | settle (place : Nat)
  | request (request : Discovery.Request)
  | outbox (change : Outbox Discovery.Response → Outbox Discovery.Response)
  | clock (reading : UInt64)
  | token

namespace Call

/-- The nonce of a send. -/
def nonce (call : Call) : String := call.response.nonce

/-- Whether a send is under way. -/
def isUnderWay (call : Call) : Bool :=
  match call.fate with
  | .waiting => true
  | .timedOut => true
  | .closed => true
  | _ => false

/-- The nonce of a send that was not undone. -/
def standing? (call : Call) : Option String := if call.fate = .undone then none else some call.nonce

/-- Finish a send that has met its outcome. -/
def resumed (call : Call) (outcome : SendOutcome) (plane : Plane) : Plane :=
  ((call.resume outcome plane).complete Plane.attempt).2

end Call

/-- No send was begun yet. -/
def start (plane : Plane) : Overlap := ⟨plane, [], []⟩

/-- Replace what is known of a send. -/
def update (place : Nat) (call : Call) (overlap : Overlap) : Overlap :=
  { overlap with calls := overlap.calls.set place call }

/-- Begin a send. -/
def begin (stream : StreamId) (typeUrl : String) (millis : Nat) (rules : List Rule)
    (overlap : Overlap) : Overlap :=
  match overlap.plane.sendingDiscovery millis stream typeUrl rules with
  | .sending _ millis (.discovery response) plane resume =>
      { overlap with plane, calls := overlap.calls ++ [⟨millis, response, resume, .waiting⟩] }
  | .sending _ _ (.transport _) plane _ => { overlap with plane }
  | .finished _ plane => { overlap with plane }

/-- Try to put the response of a send on the stream. -/
def attempt (stream : StreamId) (place : Nat) (call : Call) (overlap : Overlap) : Overlap :=
  match overlap.plane.attempt call.millis stream (.discovery call.response) with
  | (.sent, plane) =>
      { overlap.update place { call with fate := .sent } with
        plane := call.resumed .sent plane
        log := overlap.log ++ [call.nonce] }
  | (.timedOut, plane) => { overlap.update place { call with fate := .timedOut } with plane }
  | (.closed, plane) => { overlap.update place { call with fate := .closed } with plane }

/-- Settle a send that has failed. It is undone unless one that was begun later stands. -/
def settle (place : Nat) (call : Call) (outcome : SendOutcome) (overlap : Overlap) : Overlap :=
  let later := (overlap.calls.drop (place + 1)).filterMap Call.standing?
  { overlap.update place { call with fate := if later = [] then .undone else .stranded } with
    plane := call.resumed outcome overlap.plane }

/-- Do something about a send, if it was begun. -/
def forCall (place : Nat) (act : Call → Overlap → Overlap) (overlap : Overlap) : Overlap :=
  match overlap.calls[place]? with
  | none => overlap
  | some call => act call overlap

/-- Let one thing happen. The time of a send may also run out when there is room, which is then for
    another one. -/
def move (stream : StreamId) (typeUrl : String) (overlap : Overlap) : Move → Overlap
  | .begin millis rules => overlap.begin stream typeUrl millis rules
  | .attempt place =>
      overlap.forCall place fun call overlap =>
        if call.fate = .waiting then overlap.attempt stream place call else overlap
  | .expire place =>
      overlap.forCall place fun call overlap =>
        if call.fate = .waiting then overlap.update place { call with fate := .timedOut }
        else overlap
  | .settle place =>
      overlap.forCall place fun call overlap =>
        match call.fate with
        | .timedOut => overlap.settle place call .timedOut
        | .closed => overlap.settle place call .closed
        | _ => overlap
  | .request request =>
      { overlap with plane := (overlap.plane.takeDiscovery stream request).2 }
  | .outbox change =>
      { overlap with plane := overlap.plane.modifyDiscovery stream fun found =>
          { found with outbox := change found.outbox } }
  | .clock reading => { overlap with plane := { overlap.plane with clock := reading } }
  | .token => { overlap with plane := overlap.plane.nextToken.2 }

/-- Let several things happen. -/
def run (stream : StreamId) (typeUrl : String) (moves : List Move) (overlap : Overlap) : Overlap :=
  moves.foldl (move stream typeUrl) overlap

/-- Whether a move leaves the session as it is. -/
def Move.keepsSession (typeUrl : String) : Move → Bool
  | .request asked => asked.keepsSession typeUrl
  | _ => true

/-- The nonce of the last send that was not undone; empty if there is none. -/
def latest (calls : List Call) : String := ((calls.filterMap Call.standing?).getLast?).getD ""

/-- The nonce of the last response that was put on the stream; empty if there was none. -/
def last (overlap : Overlap) : String := overlap.log.getLast?.getD ""

/-- The sends that were begun after the one whose response was put on the stream last; all of them
    if there was none. -/
def later (overlap : Overlap) : List Call :=
  match overlap.log.getLast? with
  | none => overlap.calls
  | some nonce => (overlap.calls.dropWhile fun call => call.nonce ≠ nonce).tail

/-- None of these was sent, or failed while a later one stood. -/
def Ordered (overlap : Overlap) : Prop :=
  ∀ call ∈ overlap.later, call.fate ≠ .sent ∧ call.fate ≠ .stranded

variable {overlap : Overlap} {stream : StreamId} {typeUrl : String} {start : UInt64}

/-! ## The last send that stands -/

/-- The nonce of a send that stands is its own. -/
theorem Call.eq_of_standing? {call : Call} {nonce : String} (stands : call.standing? = some nonce) :
    call.nonce = nonce := by
  unfold standing? at stands
  split at stands
  · cases stands
  · exact Option.some.inj stands

/-- The last send that stands is the last of the later ones, if one of these stands. -/
theorem latest_append (calls others : List Call) :
    latest (calls ++ others) =
      ((others.filterMap Call.standing?).getLast?).getD (latest calls) := by
  unfold latest
  rw [List.filterMap_append, List.getLast?_append]
  cases (others.filterMap Call.standing?).getLast? <;> rfl

/-- Sends that were undone do not count. -/
theorem latest_append_of_undone {calls others : List Call}
    (undone : others.filterMap Call.standing? = []) : latest (calls ++ others) = latest calls := by
  rw [latest_append, undone]
  rfl

/-- If some of the later sends stand, the last one does that is not undone. -/
theorem exists_latest_append (calls : List Call) {others : List Call}
    (standing : others.filterMap Call.standing? ≠ []) :
    ∃ call ∈ others, call.fate ≠ .undone ∧ latest (calls ++ others) = call.nonce := by
  have found := List.getLast?_eq_some_getLast standing
  obtain ⟨call, member, stands⟩ := List.mem_filterMap.1 (List.getLast_mem standing)
  refine ⟨call, member, fun undone => ?_, ?_⟩
  · rw [Call.standing?, if_pos undone] at stands
    cases stands
  · rw [latest_append, found]
    exact (Call.eq_of_standing? stands).symm

/-- Replacing an item by one that looks the same changes nothing that is looked at. -/
theorem map_set_of_same {α β : Type} {look : α → β} {items : List α} {place : Nat}
    {item changed : α} (found : items[place]? = some item) (same : look changed = look item) :
    (items.set place changed).map look = items.map look := by
  obtain ⟨inside, rfl⟩ := List.getElem?_eq_some_iff.1 found
  rw [List.map_set, same, ← List.getElem_map look (h := by simpa using inside),
    List.set_getElem_self]

/-- What becomes of a send that stands anyway changes nothing. -/
theorem latest_set {calls : List Call} {place : Nat} {call changed : Call}
    (found : calls[place]? = some call) (same : changed.standing? = call.standing?) :
    latest (calls.set place changed) = latest calls := by
  have standing (list : List Call) :
      list.filterMap Call.standing? = (list.map Call.standing?).filterMap id := by
    rw [List.filterMap_map]
    rfl
  unfold latest
  rw [standing, standing, map_set_of_same found same]

/-- The same is true of the sends that were begun before some other. -/
theorem latest_take_set {calls : List Call} {place : Nat} {call changed : Call}
    (found : calls[place]? = some call) (same : changed.standing? = call.standing?)
    (count : Nat) : latest ((calls.set place changed).take count) = latest (calls.take count) := by
  rw [List.take_set]
  by_cases before : place < count
  · exact latest_set (by rw [List.getElem?_take, if_pos before, found]) same
  · rw [List.set_eq_of_length_le]
    exact Nat.le_trans (List.length_take_le _ _) (Nat.le_of_not_lt before)

/-! ## What stays true -/

/-- What is true however the steps are mixed: the nonce of the last send that was not undone is
    recorded; a send that is under way restores that of the last one before it; the nonces are
    tokens, one for each send; and the responses on the stream are those of sends that succeeded.
    No more than a number of tokens were made since the first. -/
structure Coherent (stream : StreamId) (typeUrl : String) (start : UInt64) (most : Nat)
    (overlap : Overlap) : Prop where
  recorded : overlap.plane.recorded? stream typeUrl = some (latest overlap.calls)
  restores : ∀ (place : Nat) (call : Call), overlap.calls[place]? = some call →
    call.isUnderWay = true → ∀ outcome (plane : Plane), call.resumed outcome plane =
      plane.settleDiscovery stream typeUrl call.nonce (latest (overlap.calls.take place)) outcome
  made : Tokens.MadeSince start most overlap.plane.tokens.issued (overlap.calls.map Call.nonce)
  distinct : (overlap.calls.map Call.nonce).Nodup
  sent : ∀ nonce ∈ overlap.log, ∃ call ∈ overlap.calls, call.fate = .sent ∧ call.nonce = nonce

variable {most place : Nat} {call : Call}

/-- Before the first send, nothing needs to be true but that no response was sent in the session. -/
theorem coherent_start {plane : Plane} (fresh : plane.recorded? stream typeUrl = some "") :
    (Overlap.start plane).Coherent stream typeUrl plane.tokens.issued 0 where
  recorded := fresh
  restores := nofun
  made := Tokens.madeSince_nil _
  distinct := List.nodup_nil
  sent := nofun

/-- The number of tokens may be overestimated. -/
theorem Coherent.mono (coherent : overlap.Coherent stream typeUrl start most) {more : Nat}
    (atMost : most ≤ more) : overlap.Coherent stream typeUrl start more :=
  ⟨coherent.recorded, coherent.restores, coherent.made.mono atMost, coherent.distinct,
    coherent.sent⟩

/-- The control plane may change in any way that leaves what is recorded, and makes at most one
    token. -/
theorem Coherent.aside (coherent : overlap.Coherent stream typeUrl start most) (plane : Plane)
    (recorded : plane.recorded? stream typeUrl = overlap.plane.recorded? stream typeUrl)
    (issued : plane.tokens.issued = overlap.plane.tokens.issued ∨
      plane.tokens.issued = overlap.plane.tokens.issued + 1) :
    ({ overlap with plane } : Overlap).Coherent stream typeUrl start (most + 1) := by
  refine ⟨recorded.trans coherent.recorded, coherent.restores, ?_, coherent.distinct,
    coherent.sent⟩
  change Tokens.MadeSince start (most + 1) plane.tokens.issued _
  rcases issued with same | next
  · rw [same]
    exact coherent.made.mono (Nat.le_succ most)
  · rw [next]
    exact coherent.made.skip

/-- A send that is under way was not undone, whatever its nonce. -/
theorem Call.standing?_of_isUnderWay (underWay : call.isUnderWay = true) :
    call.standing? = some call.nonce := by
  unfold standing?
  rw [if_neg]
  intro undone
  simp [isUnderWay, undone] at underWay

/-- After a send was replaced, each send is as it was or is the new one. -/
theorem eq_or_of_set {calls : List Call} {changed other : Call} {tested : Nat}
    (listed : (calls.set place changed)[tested]? = some other) :
    (tested ≠ place ∧ calls[tested]? = some other) ∨ (tested = place ∧ other = changed) := by
  rw [List.getElem?_set] at listed
  split at listed
  · rename_i here
    split at listed
    · exact Or.inr ⟨here.symm, (Option.some.inj listed).symm⟩
    · cases listed
  · rename_i elsewhere
    exact Or.inl ⟨Ne.symm elsewhere, listed⟩

/-- A send stands between those that were begun before it and those that were begun after it. -/
theorem eq_append_of_getElem? {calls : List Call} (found : calls[place]? = some call) :
    calls = (calls.take place ++ [call]) ++ calls.drop (place + 1) := by
  obtain ⟨inside, rfl⟩ := List.getElem?_eq_some_iff.1 found
  rw [List.append_assoc, List.singleton_append, List.getElem_cons_drop, List.take_append_drop]

/-- After a send was begun, each send is one of those before or the new one. -/
theorem eq_or_of_append {calls : List Call} {added other : Call} {tested : Nat}
    (listed : (calls ++ [added])[tested]? = some other) :
    (tested < calls.length ∧ calls[tested]? = some other) ∨
      (tested = calls.length ∧ other = added) := by
  rcases Nat.lt_trichotomy tested calls.length with earlier | here | beyond
  · rw [List.getElem?_append_left earlier] at listed
    exact Or.inl ⟨earlier, listed⟩
  · subst here
    rw [List.getElem?_concat_length] at listed
    exact Or.inr ⟨rfl, (Option.some.inj listed).symm⟩
  · rw [List.getElem?_eq_none] at listed
    · cases listed
    · rw [List.length_append]
      exact beyond

/-- Every other send stays. -/
theorem mem_set_of_ne {calls : List Call} {other : Call} (changed : Call)
    (found : calls[place]? = some call) (member : other ∈ calls) (different : other ≠ call) :
    other ∈ calls.set place changed := by
  obtain ⟨tested, listed⟩ := List.mem_iff_getElem?.1 member
  apply List.mem_iff_getElem?.2
  refine ⟨tested, ?_⟩
  rw [List.getElem?_set_ne, listed]
  rintro rfl
  exact different (Option.some.inj (listed.symm.trans found))

/-- The responses on the stream are still those of sends that succeeded, whatever becomes of a send
    that is under way. -/
theorem exists_sent_of_set {calls : List Call} {nonce : String} (changed : Call)
    (found : calls[place]? = some call) (underWay : call.isUnderWay = true)
    (sent : ∃ other ∈ calls, other.fate = .sent ∧ other.nonce = nonce) :
    ∃ other ∈ calls.set place changed, other.fate = .sent ∧ other.nonce = nonce := by
  obtain ⟨other, member, succeeded, own⟩ := sent
  refine ⟨other, mem_set_of_ne changed found member ?_, succeeded, own⟩
  rintro rfl
  simp [Call.isUnderWay, succeeded] at underWay

/-- A send that is under way may come to any end that leaves it standing. -/
theorem Coherent.update (coherent : overlap.Coherent stream typeUrl start most)
    (found : overlap.calls[place]? = some call) (underWay : call.isUnderWay = true) (fate : Fate)
    (stands : fate ≠ .undone) :
    (overlap.update place { call with fate }).Coherent stream typeUrl start most := by
  have same : ({ call with fate } : Call).standing? = call.standing? := by
    rw [Call.standing?_of_isUnderWay underWay, Call.standing?, if_neg stands]
    rfl
  have nonces : (overlap.update place { call with fate }).calls.map Call.nonce =
      overlap.calls.map Call.nonce := map_set_of_same found rfl
  refine ⟨?_, ?_, ?_, ?_, ?_⟩
  · exact coherent.recorded.trans (congrArg some (latest_set found same).symm)
  · intro tested other listed still outcome plane
    refine Eq.trans ?_ (congrArg (fun previous => plane.settleDiscovery stream typeUrl other.nonce
      previous outcome) (latest_take_set found same tested).symm)
    rcases eq_or_of_set listed with ⟨-, unchanged⟩ | ⟨rfl, rfl⟩
    · exact coherent.restores tested other unchanged still outcome plane
    · exact coherent.restores tested call found underWay outcome plane
  · rw [nonces]
    exact coherent.made
  · rw [nonces]
    exact coherent.distinct
  · intro nonce logged
    exact exists_sent_of_set _ found underWay (coherent.sent nonce logged)

/-- Beginning a send records a fresh token. -/
theorem Coherent.begin (coherent : overlap.Coherent stream typeUrl start most)
    (few : most < 2 ^ 64) (millis : Nat) (rules : List Rule) :
    (overlap.begin stream typeUrl millis rules).Coherent stream typeUrl start (most + 1) := by
  obtain ⟨response, reached, resume, sending, own, recorded, issued, restores⟩ :=
    Plane.exists_sendingDiscovery coherent.recorded millis rules
  have began : overlap.begin stream typeUrl millis rules =
      { overlap with
        plane := reached, calls := overlap.calls ++ [⟨millis, response, resume, .waiting⟩] } := by
    rw [Overlap.begin, sending]
  have fresh : response.nonce ∉ overlap.calls.map Call.nonce := by
    rw [own]
    exact coherent.made.fresh few _
  rw [began]
  refine ⟨recorded.trans ?_, ?_, ?_, ?_, ?_⟩
  · rw [latest_append]
    rfl
  · intro place call listed underWay outcome plane
    rcases eq_or_of_append listed with ⟨earlier, listed⟩ | ⟨rfl, rfl⟩
    · rw [List.take_append_of_le_length (Nat.le_of_lt earlier)]
      exact coherent.restores place call listed underWay outcome plane
    · rw [List.take_left]
      exact congrArg (fun activity => (Activity.complete Plane.attempt activity).2)
        (restores outcome plane)
  · rw [issued, List.map_append]
    have next := coherent.made.make overlap.plane.clock
    rw [← own] at next
    exact next
  · rw [List.map_append]
    refine List.nodup_append.2 ⟨coherent.distinct, List.pairwise_singleton _ _, ?_⟩
    rintro nonce earlier other last rfl
    have same : nonce = response.nonce := List.mem_singleton.1 last
    exact fresh (same ▸ earlier)
  · intro nonce logged
    obtain ⟨call, member, sent⟩ := coherent.sent nonce logged
    exact ⟨call, List.mem_append_left _ member, sent⟩

/-- An attempt leaves what is recorded, whether it succeeds or fails. -/
theorem Coherent.attempt (coherent : overlap.Coherent stream typeUrl start most)
    (found : overlap.calls[place]? = some call) (waiting : call.fate = .waiting) :
    (overlap.attempt stream place call).Coherent stream typeUrl start (most + 1) := by
  have underWay : call.isUnderWay = true := by simp [Call.isUnderWay, waiting]
  obtain ⟨watched, tokens⟩ := overlap.plane.attempt_discovery_frame call.millis stream
    call.response typeUrl
  unfold Overlap.attempt
  split
  · rename_i plane sent
    rw [sent] at watched tokens
    have resumed := coherent.restores place call found underWay .sent plane
    have updated := coherent.update found underWay .sent nofun
    have settled := updated.aside (call.resumed .sent plane)
      (by
        rw [resumed]
        exact congrArg (Option.map Discovery.Watched.nonceSent)
          ((Plane.watched?_settleDiscovery_sent plane stream typeUrl _ _).trans watched))
      (Or.inl (by
        rw [resumed, Plane.tokens_settleDiscovery]
        exact congrArg Tokens.issued tokens))
    refine ⟨settled.recorded, settled.restores, settled.made, settled.distinct, ?_⟩
    intro nonce logged
    rcases List.mem_append.1 logged with before | last
    · exact settled.sent nonce before
    · refine ⟨{ call with fate := .sent }, ?_, rfl, (List.mem_singleton.1 last).symm⟩
      exact List.mem_set (List.getElem?_eq_some_iff.1 found).1 _
  all_goals
    rename_i plane failed
    rw [failed] at watched tokens
  · have updated := coherent.update found underWay .timedOut nofun
    exact updated.aside plane (congrArg (Option.map Discovery.Watched.nonceSent) watched)
      (Or.inl (congrArg Tokens.issued tokens))
  · have updated := coherent.update found underWay .closed nofun
    exact updated.aside plane (congrArg (Option.map Discovery.Watched.nonceSent) watched)
      (Or.inl (congrArg Tokens.issued tokens))

/-- A send that was not undone is the last that stands if and only if no later one does. -/
theorem Coherent.latest_eq_iff (coherent : overlap.Coherent stream typeUrl start most)
    {before after : List Call} (split : overlap.calls = before ++ [call] ++ after)
    (stands : call.standing? = some call.nonce) :
    latest overlap.calls = call.nonce ↔ after.filterMap Call.standing? = [] := by
  have own : latest (before ++ [call]) = call.nonce := by
    rw [latest_append, List.filterMap_cons, stands]
    rfl
  constructor
  · intro same
    by_contra standing
    obtain ⟨other, member, -, newest⟩ := exists_latest_append (before ++ [call]) standing
    have apart := coherent.distinct
    rw [split] at same
    rw [split, List.map_append, List.map_append] at apart
    refine (List.nodup_append.1 apart).2.2 call.nonce ?_ other.nonce
      (List.mem_map_of_mem member) (same.symm.trans newest)
    exact List.mem_append_right _ (List.mem_singleton.2 rfl)
  · intro undone
    rw [split, latest_append_of_undone undone, own]

/-- What is recorded when a failed send is settled: what the send found, if its own nonce still
    was. -/
theorem Coherent.recorded?_resumed (coherent : overlap.Coherent stream typeUrl start most)
    {outcome : SendOutcome} (found : overlap.calls[place]? = some call)
    (underWay : call.isUnderWay = true) (failed : outcome ≠ .sent) :
    (call.resumed outcome overlap.plane).recorded? stream typeUrl =
      some (if latest overlap.calls = call.nonce then latest (overlap.calls.take place)
        else latest overlap.calls) := by
  rw [coherent.restores place call found underWay outcome overlap.plane,
    Plane.recorded?_settleDiscovery overlap.plane stream typeUrl call.nonce _ failed,
    coherent.recorded]
  by_cases own : latest overlap.calls = call.nonce
  · rw [if_pos own, if_pos (congrArg some own)]
  · rw [if_neg own, if_neg fun same => own (Option.some.inj same)]

/-- A failed send is undone if no later one stands. -/
theorem Coherent.undo (coherent : overlap.Coherent stream typeUrl start most)
    {outcome : SendOutcome} (found : overlap.calls[place]? = some call)
    (underWay : call.isUnderWay = true) (failed : outcome ≠ .sent)
    (later : (overlap.calls.drop (place + 1)).filterMap Call.standing? = []) :
    ({ overlap.update place { call with fate := .undone } with
        plane := call.resumed outcome overlap.plane } : Overlap).Coherent stream typeUrl start
          most := by
  have inside := (List.getElem?_eq_some_iff.1 found).1
  have newest : latest overlap.calls = call.nonce :=
    (coherent.latest_eq_iff (eq_append_of_getElem? found)
      (Call.standing?_of_isUnderWay underWay)).2 later
  have nonces : (overlap.update place { call with fate := .undone }).calls.map Call.nonce =
      overlap.calls.map Call.nonce := map_set_of_same found rfl
  refine ⟨?_, ?_, ?_, ?_, ?_⟩
  · rw [coherent.recorded?_resumed found underWay failed, if_pos newest]
    change _ = some (latest (overlap.calls.set place _))
    rw [List.set_eq_take_append_cons_drop, if_pos inside, latest_append_of_undone]
    rw [List.filterMap_cons, later]
    rfl
  · intro tested other listed still outcome plane
    rcases eq_or_of_set listed with ⟨elsewhere, unchanged⟩ | ⟨-, rfl⟩
    · -- Whatever is under way was begun earlier.
      have earlier : tested < place := by
        by_contra notEarlier
        have member : other ∈ overlap.calls.drop (place + 1) := by
          apply List.mem_iff_getElem?.2
          refine ⟨tested - (place + 1), ?_⟩
          rw [List.getElem?_drop, show place + 1 + (tested - (place + 1)) = tested by omega]
          exact unchanged
        have stands := List.mem_filterMap.2 ⟨other, member, Call.standing?_of_isUnderWay still⟩
        rw [later] at stands
        cases stands
      change _ = plane.settleDiscovery stream typeUrl other.nonce
        (latest ((overlap.calls.set place _).take tested)) outcome
      rw [List.take_set_of_le (Nat.le_of_lt earlier)]
      exact coherent.restores tested other unchanged still outcome plane
    · cases still
  · rw [nonces, coherent.restores place call found underWay, Plane.tokens_settleDiscovery]
    exact coherent.made
  · rw [nonces]
    exact coherent.distinct
  · intro nonce logged
    exact exists_sent_of_set _ found underWay (coherent.sent nonce logged)

/-- A failed send is left as it is if a later one stands, and so is what is recorded. -/
theorem Coherent.strand (coherent : overlap.Coherent stream typeUrl start most)
    {outcome : SendOutcome} (found : overlap.calls[place]? = some call)
    (underWay : call.isUnderWay = true) (failed : outcome ≠ .sent)
    (later : (overlap.calls.drop (place + 1)).filterMap Call.standing? ≠ []) :
    ({ overlap.update place { call with fate := .stranded } with
        plane := call.resumed outcome overlap.plane } : Overlap).Coherent stream typeUrl start
          (most + 1) := by
  have different : latest overlap.calls ≠ call.nonce := fun newest => later <|
    (coherent.latest_eq_iff (eq_append_of_getElem? found)
      (Call.standing?_of_isUnderWay underWay)).1 newest
  have updated := coherent.update found underWay .stranded nofun
  apply updated.aside
  · rw [coherent.recorded?_resumed found underWay failed, if_neg different]
    exact coherent.recorded.symm
  · left
    rw [coherent.restores place call found underWay, Plane.tokens_settleDiscovery]
    rfl

/-- Settling a failed send undoes it, or leaves it if a later one stands. -/
theorem Coherent.settle (coherent : overlap.Coherent stream typeUrl start most)
    {outcome : SendOutcome} (found : overlap.calls[place]? = some call)
    (underWay : call.isUnderWay = true) (failed : outcome ≠ .sent) :
    (overlap.settle place call outcome).Coherent stream typeUrl start (most + 1) := by
  unfold Overlap.settle
  dsimp only
  split
  · rename_i later
    exact (coherent.undo found underWay failed later).mono (Nat.le_succ most)
  · rename_i later
    exact coherent.strand found underWay failed later

/-- Only what is done about sends that were begun needs to keep the invariant. -/
theorem Coherent.forCall (coherent : overlap.Coherent stream typeUrl start most)
    {act : Call → Overlap → Overlap}
    (keeps : ∀ call, overlap.calls[place]? = some call →
      (act call overlap).Coherent stream typeUrl start most) :
    (overlap.forCall place act).Coherent stream typeUrl start most := by
  unfold Overlap.forCall
  split
  · exact coherent
  · rename_i call found
    exact keeps call found

/-- Whatever happens next keeps the invariant, if it leaves the session as it is. -/
theorem Coherent.move (coherent : overlap.Coherent stream typeUrl start most)
    (few : most < 2 ^ 64) (move : Move) (kept : move.keepsSession typeUrl = true) :
    (overlap.move stream typeUrl move).Coherent stream typeUrl start (most + 1) := by
  have next := coherent.mono (Nat.le_succ most)
  cases move with
  | begin millis rules => exact coherent.begin few millis rules
  | attempt place =>
    apply next.forCall
    intro call found
    split
    · rename_i waiting
      exact coherent.attempt found waiting
    · exact next
  | expire place =>
    apply next.forCall
    intro call found
    split
    · rename_i waiting
      exact next.update found (by simp [Call.isUnderWay, waiting]) .timedOut nofun
    · exact next
  | settle place =>
    apply next.forCall
    intro call found
    split
    · rename_i failed
      exact coherent.settle found (by simp [Call.isUnderWay, failed]) nofun
    · rename_i failed
      exact coherent.settle found (by simp [Call.isUnderWay, failed]) nofun
    · exact next
  | request request =>
    apply coherent.aside
    · rw [coherent.recorded]
      exact Plane.recorded?_takeDiscovery coherent.recorded kept
    · exact Or.inl (congrArg Tokens.issued (Plane.tokens_takeDiscovery _ _ _))
  | outbox change =>
    refine coherent.aside _ ?_ (Or.inl rfl)
    exact congrArg (Option.map Discovery.Watched.nonceSent)
      (Plane.watched?_modify overlap.plane stream typeUrl fun _ => rfl)
  | clock reading => exact coherent.aside _ rfl (Or.inl rfl)
  | token => exact coherent.aside _ rfl (Or.inr rfl)

/-- So does a whole run. -/
theorem Coherent.run {moves : List Move} (coherent : overlap.Coherent stream typeUrl start most)
    (few : most + moves.length ≤ 2 ^ 64)
    (kept : ∀ move ∈ moves, move.keepsSession typeUrl = true) :
    (run stream typeUrl moves overlap).Coherent stream typeUrl start (most + moves.length) := by
  induction moves generalizing overlap most with
  | nil => exact coherent
  | cons move rest inductionHypothesis =>
    rw [List.length_cons] at few ⊢
    have moved := coherent.move (by omega) move (kept move List.mem_cons_self)
    have reached := inductionHypothesis moved (by omega) fun other member =>
      kept other (List.mem_cons_of_mem move member)
    rw [show most + (rest.length + 1) = most + 1 + rest.length by omega]
    exact reached

/-! ## The last response -/

/-- Sends were undone exactly if none of them stands. -/
theorem filterMap_standing?_eq_nil_iff (calls : List Call) :
    calls.filterMap Call.standing? = [] ↔ ∀ call ∈ calls, call.fate = .undone := by
  rw [List.filterMap_eq_nil_iff]
  refine forall₂_congr fun call _ => ?_
  by_cases undone : call.fate = .undone <;> simp [Call.standing?, undone]

/-- The later sends are among all of them. -/
theorem mem_of_mem_later (member : call ∈ overlap.later) : call ∈ overlap.calls := by
  unfold later at member
  split at member
  · exact member
  · exact (List.dropWhile_sublist _).subset (List.mem_of_mem_tail member)

/-- If a response was put on the stream, its send divides the others into earlier and later ones. -/
theorem Coherent.exists_later (coherent : overlap.Coherent stream typeUrl start most)
    {nonce : String} (logged : overlap.log.getLast? = some nonce) :
    ∃ before call, overlap.calls = before ++ [call] ++ overlap.later ∧ call.fate = .sent ∧
      call.nonce = nonce := by
  obtain ⟨call, member, sent, own⟩ := coherent.sent nonce (List.mem_of_getLast? logged)
  obtain ⟨before, after, split⟩ := List.append_of_mem member
  have apart := coherent.distinct
  rw [split, List.map_append] at apart
  have others : ∀ other ∈ before, decide (other.nonce ≠ nonce) = true := by
    intro other earlier
    refine decide_eq_true fun same => ?_
    exact (List.nodup_append.1 apart).2.2 other.nonce (List.mem_map_of_mem earlier) call.nonce
      List.mem_cons_self (same.trans own.symm)
  have later : overlap.later = after := by
    unfold Overlap.later
    rw [logged]
    dsimp only
    rw [split, List.dropWhile_append_of_pos others, List.dropWhile_cons_of_neg (by simpa using own)]
    rfl
  refine ⟨before, call, ?_, sent, own⟩
  rw [later, List.append_assoc, List.singleton_append]
  exact split

/-- The nonce of the last response is recorded if and only if all sends were undone that were begun
    after its own. -/
theorem Coherent.recorded_eq_last_iff (coherent : overlap.Coherent stream typeUrl start most) :
    overlap.plane.recorded? stream typeUrl = some overlap.last ↔
      ∀ call ∈ overlap.later, call.fate = .undone := by
  rw [coherent.recorded, Option.some.injEq, ← filterMap_standing?_eq_nil_iff]
  cases logged : overlap.log.getLast? with
  | none =>
    have all : overlap.later = overlap.calls := by simp [later, logged]
    have silent : overlap.last = "" := by simp [last, logged]
    rw [all, silent]
    constructor
    · intro unrecorded
      by_contra standing
      obtain ⟨call, member, -, newest⟩ := exists_latest_append [] standing
      exact coherent.made.ne_empty (List.mem_map_of_mem member) (newest.symm.trans unrecorded)
    · intro undone
      rw [latest, undone]
      rfl
  | some nonce =>
    obtain ⟨before, call, split, sent, own⟩ := coherent.exists_later logged
    have here : overlap.last = call.nonce := by simp [last, logged, own]
    rw [here]
    apply coherent.latest_eq_iff split
    rw [Call.standing?, if_neg]
    simp [sent]

/-- When no send is under way, this means that none of the later ones was sent, or left standing. -/
theorem undone_iff_ordered (quiet : ∀ call ∈ overlap.calls, call.isUnderWay = false) :
    (∀ call ∈ overlap.later, call.fate = .undone) ↔ overlap.Ordered := by
  refine forall₂_congr fun call member => ?_
  have idle := quiet call (mem_of_mem_later member)
  cases fate : call.fate with
  | waiting => simp [Call.isUnderWay, fate] at idle
  | timedOut => simp [Call.isUnderWay, fate] at idle
  | closed => simp [Call.isUnderWay, fate] at idle
  | sent => simp
  | undone => simp
  | stranded => simp

/-- If no send is under way, then the nonce of the last response is recorded if and only if none
    that was begun after its own was sent or left standing; and only then an acknowledgement of it
    is taken. -/
theorem last_response_recorded_iff {plane : Plane}
    (fresh : plane.recorded? stream typeUrl = some "") {moves : List Move}
    (few : moves.length ≤ 2 ^ 64) (kept : ∀ move ∈ moves, move.keepsSession typeUrl = true)
    (quiet : ∀ call ∈ (run stream typeUrl moves (.start plane)).calls, call.isUnderWay = false) :
    let reached := run stream typeUrl moves (.start plane)
    (reached.plane.recorded? stream typeUrl = some reached.last ↔ reached.Ordered) ∧
      ∀ request : Discovery.Request, request.typeUrl = typeUrl → request.errorDetail = none →
        request.names ≠ [] → reached.log.getLast? = some request.nonce →
          ((reached.plane.takeDiscovery stream request).2.watched? stream typeUrl =
            some ⟨orderedTexts request.names, request.nonce, request.nonce⟩ ↔
              reached.Ordered) := by
  intro reached
  have coherent := (coherent_start fresh).run (by omega) kept
  have recorded : reached.plane.recorded? stream typeUrl = some reached.last ↔ reached.Ordered :=
    coherent.recorded_eq_last_iff.trans (undone_iff_ordered quiet)
  refine ⟨recorded, ?_⟩
  rintro request rfl faultless wanted answer
  have named : request.nonce ≠ "" := by
    obtain ⟨call, member, -, own⟩ := coherent.sent _ (List.mem_of_getLast? answer)
    exact own ▸ coherent.made.ne_empty (List.mem_map_of_mem member)
  have here : reached.last = request.nonce := by
    rw [last, answer]
    rfl
  rw [Plane.watched?_takeDiscovery_answer_iff coherent.recorded faultless wanted named, ← recorded,
    coherent.recorded, Option.some.injEq, here]

/-! ## Without interruption -/

/-- A send that is attempted and then settled is finished with the outcome that it met. -/
theorem plane_attempt_settle (stream : StreamId) (typeUrl : String) (overlap : Overlap)
    (found : overlap.calls[place]? = some call) (waiting : call.fate = .waiting) :
    (run stream typeUrl [.attempt place, .settle place] overlap).plane =
      call.resumed (overlap.plane.attempt call.millis stream (.discovery call.response)).1
        (overlap.plane.attempt call.millis stream (.discovery call.response)).2 := by
  have replaced (changed : Call) : (overlap.calls.set place changed)[place]? = some changed :=
    List.getElem?_set_self (List.getElem?_eq_some_iff.1 found).1
  have attempted : overlap.move stream typeUrl (.attempt place) =
      overlap.attempt stream place call := by
    simp only [move, forCall, found, if_pos waiting]
  simp only [run, List.foldl_cons, List.foldl_nil, attempted]
  unfold Overlap.attempt
  cases overlap.plane.attempt call.millis stream (.discovery call.response) with
  | mk outcome plane =>
    cases outcome with
    | sent => simp only [move, forCall, update, replaced]
    | timedOut => simp only [move, forCall, update, replaced]; rfl
    | closed => simp only [move, forCall, update, replaced]; rfl

/-- With nothing in between, the steps of one send are the send. -/
theorem run_uninterrupted {previous : String}
    (recorded : overlap.plane.recorded? stream typeUrl = some previous) (millis : Nat)
    (rules : List Rule) :
    let place := overlap.calls.length
    (run stream typeUrl [.begin millis rules, .attempt place, .settle place] overlap).plane =
      (overlap.plane.sendDiscovery millis stream typeUrl rules).2 := by
  intro place
  obtain ⟨response, reached, resume, sending, -⟩ :=
    Plane.exists_sendingDiscovery recorded millis rules
  let call : Call := ⟨millis, response, resume, .waiting⟩
  let began : Overlap := ⟨reached, overlap.calls ++ [call], overlap.log⟩
  have beginning : overlap.begin stream typeUrl millis rules = began := by
    rw [Overlap.begin, sending]
  have completed := Plane.complete_sendingDiscovery millis stream typeUrl rules overlap.plane
  rw [sending, Activity.complete] at completed
  rw [← completed]
  change (run stream typeUrl [.attempt place, .settle place]
    (overlap.begin stream typeUrl millis rules)).plane = _
  rw [beginning]
  have found : began.calls[place]? = some call := List.getElem?_concat_length
  exact plane_attempt_settle stream typeUrl began found rfl

/-! ## Runs -/

/-- A request for one name that starts a session. -/
def asking : Discovery.Request := ⟨none, "type", ["name"], none, "", ""⟩

/-- An acknowledgement of a response. -/
def answering (nonce : String) : Discovery.Request := { asking with nonce }

/-- A control plane on which the client of one stream has started a session. -/
def listening (capacity : Option Nat) : Plane :=
  ({ Plane.start ⟨.bestEffort, 3, 1000, "control-plane"⟩ .builtIn (.ofSizes 1 4) 0 with
      discovery := Table.empty.insert ⟨0⟩
        { DiscoveryStream.fresh capacity with client := some ⟨"node-1"⟩ } }.takeDiscovery ⟨0⟩
          asking).2

/-- Three sends overlap; the last of them runs out of time and is undone. -/
def patient : List Move :=
  [.begin 20 [], .begin 20 [], .attempt 0, .begin 20 [], .request (answering "0-0"), .attempt 1,
    .expire 2, .settle 2]

/-- The acknowledgement of the second response is taken. -/
theorem last_response_recorded_iff_patient :
    let reached := run ⟨0⟩ "type" patient (.start (listening (some 2)))
    reached.log = ["0-0", "0-1"] ∧ reached.plane.recorded? ⟨0⟩ "type" = some "0-1" ∧
      (reached.plane.takeDiscovery ⟨0⟩ (answering "0-1")).2.watched? ⟨0⟩ "type" =
        some ⟨["name"], "0-1", "0-1"⟩ := by
  have logged : (run ⟨0⟩ "type" patient (.start (listening (some 2)))).log = ["0-0", "0-1"] := by
    decide +kernel
  have fresh : (listening (some 2)).recorded? ⟨0⟩ "type" = some "" := by decide +kernel
  have quiet : ∀ call ∈ (run ⟨0⟩ "type" patient (.start (listening (some 2)))).calls,
      call.isUnderWay = false := by decide +kernel
  have ordered : (run ⟨0⟩ "type" patient (.start (listening (some 2)))).Ordered := by
    unfold Ordered
    decide +kernel
  obtain ⟨recorded, taken⟩ := last_response_recorded_iff fresh (by decide) (by decide +kernel) quiet
  refine ⟨logged, ?_, ?_⟩
  · rw [recorded.2 ordered, last, logged]
    rfl
  · exact (taken (answering "0-1") rfl rfl (by decide) (by rw [logged]; rfl)).2 ordered

/-- Two sends wait for room on a stream that holds one response. When the first runs out of time,
    the nonce of the second is recorded, so nothing is restored; when the second does, it restores
    the nonce of the first. The client's acknowledgement is dropped. -/
theorem failed_send_hides_last_response :
    let reached := run ⟨0⟩ "type"
      [.begin 20 [], .attempt 0, .begin 20 [], .begin 20 [], .attempt 1, .settle 1, .attempt 2,
        .settle 2] (.start (listening (some 1)))
    (∀ call ∈ reached.calls, call.isUnderWay = false) ∧ reached.log = ["0-0"] ∧
      reached.plane.recorded? ⟨0⟩ "type" = some "0-1" ∧
      (reached.plane.takeDiscovery ⟨0⟩ (answering "0-0")).1 = (false, .none) := by
  decide +kernel

/-- Two sends record their nonces in one order and put their responses on the stream in the other.
    The client's acknowledgement of the last response is dropped. -/
theorem overtaken_response_is_not_recorded :
    let reached := run ⟨0⟩ "type" [.begin 20 [], .begin 20 [], .attempt 1, .attempt 0]
      (.start (listening none))
    (∀ call ∈ reached.calls, call.isUnderWay = false) ∧ reached.log = ["0-1", "0-0"] ∧
      reached.plane.recorded? ⟨0⟩ "type" = some "0-1" ∧
      (reached.plane.takeDiscovery ⟨0⟩ (answering "0-0")).1 = (false, .none) := by
  decide +kernel

end Overlap

end RulePlane
