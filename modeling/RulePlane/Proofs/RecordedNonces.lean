import RulePlane.Plane.Activity
import RulePlane.Proofs.WatchedNames

/-!
# Recorded nonces

For each type URL that its client watches, a discovery stream keeps the nonce of a response. Here is
what happens to it in a single step: a send that begins records a token of its own and remembers the
nonce that it finds; one that fails restores it, if its own nonce is still recorded; and a request
changes nothing unless it starts or ends a session. An acknowledgement is taken if it carries the
nonce that is recorded. Which step follows which is not decided here.
-/

namespace RulePlane

/-- Whether a request leaves the session of a type URL as it is: it is for another one, or it
    reports an error, or it answers a response and still lists names. -/
def Discovery.Request.keepsSession (typeUrl : String) (request : Request) : Bool :=
  request.typeUrl ≠ typeUrl || request.errorDetail.isSome ||
    (request.names ≠ [] && request.nonce ≠ "")

/-- Such a request for a type URL that is watched is ignored or acknowledges. -/
theorem Discovery.WatchList.verdict_of_keepsSession {list : WatchList} {request : Request}
    {watched : Watched} (watches : list.watched? request.typeUrl = some watched)
    (kept : request.keepsSession request.typeUrl = true) :
    list.verdict request = .ignored ∨ list.verdict request = .acknowledged := by
  unfold verdict
  split
  · exact Or.inl rfl
  · rename_i faultless
    have answers : request.names ≠ [] ∧ request.nonce ≠ "" := by
      simpa [Request.keepsSession, faultless] using kept
    rw [if_neg answers.1, watches]
    dsimp only
    rw [if_neg answers.2]
    split
    · exact Or.inr rfl
    · exact Or.inl rfl

/-- A request that answers the last response and lists names acknowledges it. -/
theorem Discovery.WatchList.verdict_of_answer {list : WatchList} {request : Request}
    {watched : Watched} (watches : list.watched? request.typeUrl = some watched)
    (faultless : request.errorDetail = none) (wanted : request.names ≠ [])
    (answer : request.nonce = watched.nonceSent) (named : request.nonce ≠ "") :
    list.verdict request = .acknowledged := by
  unfold verdict
  rw [if_neg (by simp [faultless]), if_neg wanted, watches]
  dsimp only
  rw [if_neg named, if_pos answer]

namespace Plane

/-- What the client of a discovery stream watches for a type URL. -/
def watched? (plane : Plane) (stream : StreamId) (typeUrl : String) : Option Discovery.Watched :=
  (plane.discovery.find? stream).bind fun found => found.watchList.watched? typeUrl

/-- The watch list of a discovery stream, if the stream is there. -/
def watchList? (plane : Plane) (stream : StreamId) : Option Discovery.WatchList :=
  (plane.discovery.find? stream).map DiscoveryStream.watchList

/-- The nonce that is recorded for a type URL, if it is watched. -/
def recorded? (plane : Plane) (stream : StreamId) (typeUrl : String) : Option String :=
  (plane.watched? stream typeUrl).map Discovery.Watched.nonceSent

variable {plane : Plane} {stream : StreamId} {typeUrl nonce previous : String}

/-- What is watched on a stream is what its watch list says. -/
theorem watched?_eq_bind (plane : Plane) (stream : StreamId) (typeUrl : String) :
    plane.watched? stream typeUrl =
      (plane.watchList? stream).bind fun list => list.watched? typeUrl := by
  unfold watched? watchList?
  cases plane.discovery.find? stream <;> rfl

/-- A stream that something is recorded for is there, and its client watches the type URL. -/
theorem exists_of_recorded? (recorded : plane.recorded? stream typeUrl = some previous) :
    ∃ found watched, plane.discovery.find? stream = some found ∧
      found.watchList.watched? typeUrl = some watched ∧ watched.nonceSent = previous := by
  obtain ⟨watched, watches, same⟩ := Option.map_eq_some_iff.1 recorded
  obtain ⟨found, present, watches⟩ := Option.bind_eq_some_iff.1 watches
  exact ⟨found, watched, present, watches, same⟩

/-- The watch list of a stream that is changed. -/
theorem watchList?_modify (plane : Plane) (stream : StreamId)
    {change : DiscoveryStream → DiscoveryStream}
    (update : Discovery.WatchList → Discovery.WatchList)
    (updates : ∀ found, (change found).watchList = update found.watchList) :
    (plane.modifyDiscovery stream change).watchList? stream =
      (plane.watchList? stream).map update := by
  unfold watchList? modifyDiscovery
  rw [Table.find?_modify, if_pos rfl]
  cases plane.discovery.find? stream with
  | none => rfl
  | some found => exact congrArg some (updates found)

/-- A stream may be changed in any way that leaves its watch list alone. -/
theorem watchList?_modify_of_same (plane : Plane) (stream : StreamId)
    {change : DiscoveryStream → DiscoveryStream}
    (same : ∀ found, (change found).watchList = found.watchList) :
    (plane.modifyDiscovery stream change).watchList? stream = plane.watchList? stream :=
  (watchList?_modify plane stream id same).trans (congrFun Option.map_id _)

/-- Such a change leaves what is watched. -/
theorem watched?_modify (plane : Plane) (stream : StreamId) (typeUrl : String)
    {change : DiscoveryStream → DiscoveryStream}
    (same : ∀ found, (change found).watchList = found.watchList) :
    (plane.modifyDiscovery stream change).watched? stream typeUrl =
      plane.watched? stream typeUrl := by
  rw [watched?_eq_bind, watchList?_modify_of_same plane stream same, ← watched?_eq_bind]

/-- An attempt to send leaves the watch list of its stream. -/
theorem watchList?_attempt (plane : Plane) (millis : Nat) (stream : StreamId)
    (response : Discovery.Response) :
    (plane.attempt millis stream (.discovery response)).2.watchList? stream =
      plane.watchList? stream := by
  rw [attempt_discovery]
  unfold attemptDiscovery
  cases present : plane.discovery.find? stream with
  | none => rfl
  | some found =>
    dsimp only
    split <;> simp [watchList?, wait, present]

/-- An attempt to send changes neither what is watched nor the tokens. -/
theorem attempt_discovery_frame (plane : Plane) (millis : Nat) (stream : StreamId)
    (response : Discovery.Response) (typeUrl : String) :
    let after := (plane.attempt millis stream (.discovery response)).2
    after.watched? stream typeUrl = plane.watched? stream typeUrl ∧
      after.tokens = plane.tokens := by
  refine ⟨by rw [watched?_eq_bind, watchList?_attempt, ← watched?_eq_bind], ?_⟩
  rw [attempt_discovery]
  unfold attemptDiscovery
  cases plane.discovery.find? stream with
  | none => rfl
  | some found =>
    dsimp only
    split <;> rfl

/-- A send for a type URL that is watched records a token before its response is put on the stream.
    What it found is what it restores. -/
theorem sendingDiscovery_of_record? {list recorded : Discovery.WatchList}
    (present : plane.watchList? stream = some list)
    (recording : list.record? typeUrl plane.nextToken.1 = some (previous, recorded))
    (millis : Nat) (rules : List Rule) :
    ∃ response reached resume,
      plane.sendingDiscovery millis stream typeUrl rules =
          .sending stream millis (.discovery response) reached resume ∧
        response.typeUrl = typeUrl ∧ response.nonce = plane.nextToken.1 ∧
        reached.watchList? stream = some recorded ∧
        reached.tokens.issued = plane.tokens.issued + 1 ∧
        ∀ outcome state, resume outcome state =
          .finished (SendOutcome.result (state.discoveryClient stream) outcome)
            (state.settleDiscovery stream typeUrl response.nonce previous outcome) := by
  obtain ⟨found, there, rfl⟩ := Option.map_eq_some_iff.1 present
  have noted : (plane.nextToken.2.discovery.find? stream).bind (fun found =>
      (found.watchList.record? typeUrl plane.nextToken.1).map fun recorded => (found, recorded)) =
        some (found, previous, recorded) := by
    change (plane.discovery.find? stream).bind _ = _
    rw [there, Option.bind_some, recording, Option.map_some]
  unfold sendingDiscovery
  dsimp only
  rw [noted]
  refine ⟨_, _, _, rfl, rfl, rfl, ?_, rfl, fun _ _ => rfl⟩
  simp [watchList?, nextVersion]

/-- Nothing is sent for a type URL that is not watched. -/
theorem sendingDiscovery_of_unwatched {list : Discovery.WatchList}
    (present : plane.watchList? stream = some list) (unwatched : list.watched? typeUrl = none)
    (millis : Nat) (rules : List Rule) :
    plane.sendingDiscovery millis stream typeUrl rules = .finished (.ok ()) plane.nextToken.2 := by
  obtain ⟨found, there, rfl⟩ := Option.map_eq_some_iff.1 present
  have nothing : (plane.nextToken.2.discovery.find? stream).bind (fun found =>
      (found.watchList.record? typeUrl plane.nextToken.1).map fun recorded => (found, recorded)) =
        none := by
    change (plane.discovery.find? stream).bind _ = _
    rw [there, Option.bind_some, Discovery.WatchList.record?, unwatched]
    rfl
  unfold sendingDiscovery
  dsimp only
  rw [nothing]

/-- If something is recorded for a type URL, a send records its own token and restores that. -/
theorem exists_sendingDiscovery (recorded : plane.recorded? stream typeUrl = some previous)
    (millis : Nat) (rules : List Rule) :
    ∃ response reached resume,
      plane.sendingDiscovery millis stream typeUrl rules =
          .sending stream millis (.discovery response) reached resume ∧
        response.nonce = Tokens.render plane.clock plane.tokens.issued ∧
        reached.recorded? stream typeUrl = some response.nonce ∧
        reached.tokens.issued = plane.tokens.issued + 1 ∧
        ∀ outcome state, resume outcome state =
          .finished (SendOutcome.result (state.discoveryClient stream) outcome)
            (state.settleDiscovery stream typeUrl response.nonce previous outcome) := by
  obtain ⟨found, watched, present, watches, rfl⟩ := exists_of_recorded? recorded
  obtain ⟨response, reached, resume, sending, -, nonce, recording, issued, resumed⟩ :=
    sendingDiscovery_of_record? (congrArg (Option.map DiscoveryStream.watchList) present)
      (congrArg (Option.map _) watches) millis rules
  refine ⟨response, reached, resume, sending, nonce, ?_, issued, resumed⟩
  rw [recorded?, watched?_eq_bind, recording, nonce]
  simp [Discovery.WatchList.watched?]

/-- A send that is settled settles its nonce in the watch list. -/
theorem watchList?_settleDiscovery (plane : Plane) (stream : StreamId)
    (typeUrl nonce previous : String) (outcome : SendOutcome) :
    (plane.settleDiscovery stream typeUrl nonce previous outcome).watchList? stream =
      (plane.watchList? stream).map fun list => list.settle typeUrl nonce previous outcome := by
  unfold settleDiscovery
  rw [watchList?_modify _ stream (·.settle typeUrl nonce previous outcome) fun _ => rfl]
  split
  · exact congrArg (Option.map _) (watchList?_modify_of_same plane stream fun _ => rfl)
  · rfl

/-- After a failed send, what it found is recorded again if its own nonce still was. -/
theorem recorded?_settleDiscovery (plane : Plane) (stream : StreamId)
    (typeUrl nonce previous : String) {outcome : SendOutcome} (failed : outcome ≠ .sent) :
    (plane.settleDiscovery stream typeUrl nonce previous outcome).recorded? stream typeUrl =
      if plane.recorded? stream typeUrl = some nonce then some previous
      else plane.recorded? stream typeUrl := by
  have restoring (list : Discovery.WatchList) :
      list.settle typeUrl nonce previous outcome = list.restore typeUrl nonce previous := by
    cases outcome with
    | sent => exact absurd rfl failed
    | timedOut => rfl
    | closed => rfl
  simp only [recorded?, watched?_eq_bind, watchList?_settleDiscovery, restoring]
  cases plane.watchList? stream with
  | none => simp
  | some list =>
    simp only [Option.map_some, Option.bind_some, Discovery.WatchList.restore]
    cases watches : list.watched? typeUrl with
    | none => simp [watches]
    | some watched =>
      by_cases own : watched.nonceSent = nonce
      · simp [own, Discovery.WatchList.watched?]
      · simp [own, watches]

/-- After a send that has succeeded, what is watched stays. -/
theorem watched?_settleDiscovery_sent (plane : Plane) (stream : StreamId)
    (typeUrl nonce previous : String) :
    (plane.settleDiscovery stream typeUrl nonce previous .sent).watched? stream typeUrl =
      plane.watched? stream typeUrl :=
  watched?_modify plane stream typeUrl fun _ => rfl

/-- Settling a send makes no token. -/
theorem tokens_settleDiscovery (plane : Plane) (stream : StreamId)
    (typeUrl nonce previous : String) (outcome : SendOutcome) :
    (plane.settleDiscovery stream typeUrl nonce previous outcome).tokens = plane.tokens := by
  cases outcome <;> rfl

/-- Checking a request makes no token. -/
theorem tokens_takeDiscovery (plane : Plane) (stream : StreamId) (request : Discovery.Request) :
    (plane.takeDiscovery stream request).2.tokens = plane.tokens := by
  unfold takeDiscovery
  cases plane.discovery.find? stream <;> rfl

/-- A request is taken by the watch list of its stream. -/
theorem takeDiscovery_of_watchList? {list : Discovery.WatchList}
    (present : plane.watchList? stream = some list) (request : Discovery.Request) :
    (plane.takeDiscovery stream request).1 = (list.take request).1 ∧
      (plane.takeDiscovery stream request).2.watchList? stream = some (list.take request).2 := by
  obtain ⟨found, there, rfl⟩ := Option.map_eq_some_iff.1 present
  simp [takeDiscovery, watchList?, there]

/-- A request that leaves a session as it is leaves what is recorded. -/
theorem recorded?_takeDiscovery (recorded : plane.recorded? stream typeUrl = some nonce)
    {request : Discovery.Request} (kept : request.keepsSession typeUrl = true) :
    (plane.takeDiscovery stream request).2.recorded? stream typeUrl = some nonce := by
  obtain ⟨found, watched, present, watches, same⟩ := exists_of_recorded? recorded
  have taken : (plane.takeDiscovery stream request).2.recorded? stream typeUrl =
      ((found.watchList.take request).2.watched? typeUrl).map Discovery.Watched.nonceSent := by
    simp [takeDiscovery, present, recorded?, watched?]
  rw [taken]
  by_cases own : request.typeUrl = typeUrl
  · subst own
    rw [Discovery.WatchList.take_eq]
    rcases Discovery.WatchList.verdict_of_keepsSession watches kept with ignored | acknowledged
    · rw [ignored]
      exact (congrArg (Option.map Discovery.Watched.nonceSent) watches).trans (congrArg some same)
    · rw [acknowledged, watches]
      simp [Discovery.WatchList.acknowledge, Discovery.WatchList.watched?, same]
  · rw [Discovery.WatchList.watched?_take_of_ne _ _ _ own, watches, Option.map_some, same]

/-- An acknowledgement with the nonce that is recorded is taken. -/
theorem watched?_takeDiscovery_answer {request : Discovery.Request}
    (recorded : plane.recorded? stream request.typeUrl = some request.nonce)
    (faultless : request.errorDetail = none) (wanted : request.names ≠ [])
    (named : request.nonce ≠ "") :
    (plane.takeDiscovery stream request).2.watched? stream request.typeUrl =
      some ⟨orderedTexts request.names, request.nonce, request.nonce⟩ := by
  obtain ⟨found, watched, present, watches, same⟩ := exists_of_recorded? recorded
  have taken : (plane.takeDiscovery stream request).2.watched? stream request.typeUrl =
      (found.watchList.take request).2.watched? request.typeUrl := by
    simp [takeDiscovery, present, watched?]
  rw [taken, Discovery.WatchList.take_eq,
    Discovery.WatchList.verdict_of_answer watches faultless wanted same.symm named, watches]
  simp [Discovery.WatchList.acknowledge, Discovery.WatchList.watched?, same]

/-- An acknowledgement with another nonce is not. -/
theorem watched?_takeDiscovery_answer_iff {request : Discovery.Request}
    (recorded : plane.recorded? stream request.typeUrl = some previous)
    (faultless : request.errorDetail = none) (wanted : request.names ≠ [])
    (named : request.nonce ≠ "") :
    (plane.takeDiscovery stream request).2.watched? stream request.typeUrl =
      some ⟨orderedTexts request.names, request.nonce, request.nonce⟩ ↔
    previous = request.nonce := by
  constructor
  · intro taken
    have kept : request.keepsSession request.typeUrl = true := by
      simp [Discovery.Request.keepsSession, wanted, named]
    have stays := recorded?_takeDiscovery recorded kept
    rw [recorded?, taken] at stays
    exact (Option.some.inj stays).symm
  · rintro rfl
    exact watched?_takeDiscovery_answer recorded faultless wanted named

end Plane

end RulePlane
