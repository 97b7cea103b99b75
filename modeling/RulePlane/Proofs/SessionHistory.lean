import RulePlane.Proofs.DiscoveryStreams
import RulePlane.Proofs.RecordedNonces

/-!
# Session histories

What a discovery client watches, read from what has passed on its stream. A history lists the
requests of the client and the responses to it with their outcomes, of all type URLs, the newest
first. For each type URL it tells whether it is watched, where its session was opened, which
responses were delivered since, and which request was accepted last: the one that opened the session
or one that acknowledged the response that was then the last (`Describes`).

A request is judged by what was before it. So these readings run along the history from its newest
end, and each looks only at what is behind.

This holds for requests and sends that are taken one after another. Sends that overlap may leave
another nonce recorded than that of the last response.
-/

namespace RulePlane

namespace Discovery

/-- What passes on a stream: a request, or a response with what became of it. -/
inductive Exchange where
  | asked (request : Request)
  | pushed (response : Response) (outcome : SendOutcome)

/-- An acknowledgement reports no changes if and only if it lists the names that are watched. -/
theorem WatchList.changes_acknowledge (list : WatchList) (typeUrl nonce : String) (found : Watched)
    (names : List String) :
    ((list.acknowledge typeUrl nonce found (orderedTexts names)).1.subscribed.isEmpty &&
        (list.acknowledge typeUrl nonce found (orderedTexts names)).1.unsubscribed.isEmpty) =
          true ↔
      ∀ name, name ∈ names ↔ name ∈ found.names := by
  simp only [acknowledge, Bool.and_eq_true, List.isEmpty_iff, List.filter_eq_nil_iff,
    mem_orderedTexts_iff, List.contains_iff_mem, Bool.not_eq_true', Bool.not_eq_false]
  constructor
  · rintro ⟨known, kept⟩ name
    exact ⟨known name, kept name⟩
  · intro same
    exact ⟨fun name => (same name).1, fun name => (same name).2⟩

/-- Whether a request is for a type URL and reports no error. -/
def Request.isFor (typeUrl : String) (request : Request) : Bool :=
  request.typeUrl = typeUrl && request.errorDetail.isNone

namespace History

/-! ## Readings -/

/-- The latest request for a type URL that reports no error. -/
def latest? (typeUrl : String) : List Exchange → Option Request
  | [] => none
  | .asked request :: before =>
      if request.isFor typeUrl then some request else latest? typeUrl before
  | .pushed _ _ :: before => latest? typeUrl before

/-- Whether a type URL is watched: the latest request for it that reports no error lists names. -/
def isWatched (typeUrl : String) (history : List Exchange) : Bool :=
  (latest? typeUrl history).any fun request => request.names ≠ []

/-- Whether a request opens a session: it reports no error and lists names, and it has no nonce or
    the type URL was not watched before. -/
def opens (typeUrl : String) (before : List Exchange) (request : Request) : Bool :=
  request.isFor typeUrl && request.names ≠ [] &&
    (request.nonce = "" || !isWatched typeUrl before)

/-- The nonces of the responses that were delivered since the latest session was opened, the newest
    first. -/
def delivered (typeUrl : String) : List Exchange → List String
  | [] => []
  | .asked request :: before =>
      if opens typeUrl before request then [] else delivered typeUrl before
  | .pushed response outcome :: before =>
      if response.typeUrl = typeUrl ∧ outcome = .sent then
        response.nonce :: delivered typeUrl before
      else delivered typeUrl before

/-- Whether a request acknowledges the last response of the session: it has the nonce of that
    response, and lists the names that are wanted from then on. -/
def acknowledges (typeUrl : String) (before : List Exchange) (request : Request) : Bool :=
  request.isFor typeUrl && request.names ≠ [] && !opens typeUrl before request &&
    (delivered typeUrl before).head? = some request.nonce

/-- The latest request that has opened a session or acknowledged a response of it. -/
def accepted? (typeUrl : String) : List Exchange → Option Request
  | [] => none
  | .asked request :: before =>
      if opens typeUrl before request || acknowledges typeUrl before request then some request
      else accepted? typeUrl before
  | .pushed _ _ :: before => accepted? typeUrl before

/-- Whether an exchange leaves what is watched for a type URL as it is: it is about another one, or
    it is a request that reports an error or lists names under a stale nonce, or a send that has
    failed. -/
def leaves (typeUrl : String) (before : List Exchange) : Exchange → Bool
  | .asked request =>
      request.typeUrl ≠ typeUrl || request.errorDetail.isSome ||
        (request.names ≠ [] && !opens typeUrl before request &&
          !acknowledges typeUrl before request)
  | .pushed response outcome => response.typeUrl ≠ typeUrl || outcome ≠ .sent

/-- A history describes what is watched for a type URL. Something is watched if the latest request
    that reports no error lists names. The names are never missing and are those of the latest
    accepted request; the nonce sent is that of the last response of the session, and the nonce
    acknowledged is that of one of its responses. Either is empty if there was none. -/
structure Describes (typeUrl : String) (history : List Exchange) (watched : Option Watched) :
    Prop where
  watches : watched.isSome = isWatched typeUrl history
  names : ∀ found, watched = some found → found.names ≠ [] ∧
    ∃ request, accepted? typeUrl history = some request ∧
      found.names = orderedTexts request.names
  sent : ∀ found, watched = some found →
    found.nonceSent = (delivered typeUrl history).head?.getD ""
  acked : ∀ found, watched = some found →
    found.nonceAcked = "" ∨ found.nonceAcked ∈ delivered typeUrl history

variable {typeUrl : String} {history : List Exchange} {list : WatchList} {request : Request}
  {response : Response} {outcome : SendOutcome} {watched : Option Watched}

/-- Before anything has passed, nothing is watched. -/
theorem describes_nil (typeUrl : String) : Describes typeUrl [] none :=
  ⟨rfl, nofun, nofun, nofun⟩

/-- What it takes to open a session. -/
theorem opens_iff :
    opens typeUrl history request = true ↔
      (request.isFor typeUrl = true ∧ request.names ≠ []) ∧
        (request.nonce = "" ∨ isWatched typeUrl history = false) := by
  simp [opens]

/-- What it takes to acknowledge a response. -/
theorem acknowledges_iff :
    acknowledges typeUrl history request = true ↔
      (request.isFor typeUrl = true ∧ request.names ≠ []) ∧
        (request.nonce ≠ "" ∧ isWatched typeUrl history = true) ∧
          (delivered typeUrl history).head? = some request.nonce := by
  unfold acknowledges opens
  by_cases counts : request.isFor typeUrl = true ∧ request.names ≠ [] <;> simp [counts]

/-! ## Requests -/

/-- A request that is for another type URL, or reports an error, does not count. -/
theorem Describes.asked_of_not_isFor (describes : Describes typeUrl history watched)
    (foreign : request.isFor typeUrl = false) :
    Describes typeUrl (.asked request :: history) watched := by
  have unopened : opens typeUrl history request = false := by simp [opens, foreign]
  have unanswered : acknowledges typeUrl history request = false := by simp [acknowledges, foreign]
  obtain ⟨watches, names, sent, acked⟩ := describes
  constructor
  · rw [watches]
    simp [isWatched, latest?, foreign]
  · simpa [accepted?, unopened, unanswered] using names
  · simpa [delivered, unopened] using sent
  · simpa [delivered, unopened] using acked

/-- The meaning of a request, read from the history. -/
theorem verdict_eq (describes : Describes request.typeUrl history (list.watched? request.typeUrl)) :
    list.verdict request =
      if request.errorDetail.isSome then .ignored
      else if request.names = [] then .emptied
      else if opens request.typeUrl history request then .started
      else if acknowledges request.typeUrl history request then .acknowledged
      else .ignored := by
  unfold WatchList.verdict
  split
  · rfl
  rename_i faultless
  split
  · rfl
  rename_i wanted
  have own : request.isFor request.typeUrl = true := by
    simpa [Request.isFor] using faultless
  cases found : list.watched? request.typeUrl with
  | none =>
    have unwatched : isWatched request.typeUrl history = false := by
      rw [← describes.watches, found]
      rfl
    rw [if_pos (by simp [opens, own, wanted, unwatched])]
  | some watched =>
    have watches : isWatched request.typeUrl history = true := by
      rw [← describes.watches, found]
      rfl
    have sent := describes.sent watched found
    by_cases named : request.nonce = ""
    · dsimp only
      rw [if_pos named, if_pos (by simp [opens, own, wanted, named])]
    · have unopened : opens request.typeUrl history request = false := by
        simp [opens, named, watches]
      have answers : acknowledges request.typeUrl history request = true ↔
          request.nonce = watched.nonceSent := by
        simp only [acknowledges, own, unopened, sent, Bool.true_and, Bool.not_false,
          Bool.and_eq_true, decide_eq_true_eq, and_true]
        -- Without a response the nonce sent is empty, and the request has one.
        cases (delivered request.typeUrl history).head? with
        | none => simp [named]
        | some nonce => simp [wanted, eq_comm]
      dsimp only
      rw [if_neg named, unopened]
      by_cases answer : request.nonce = watched.nonceSent
      · rw [if_pos answer, if_neg (by simp), if_pos (answers.2 answer)]
      · rw [if_neg answer, if_neg (by simp), if_neg (fun taken => answer (answers.1 taken))]

/-- A request for a type URL that reports no error is the latest one then. -/
theorem isWatched_asked (own : request.isFor typeUrl = true) :
    isWatched typeUrl (.asked request :: history) = decide (request.names ≠ []) := by
  simp [isWatched, latest?, own]

/-- A request without names neither opens a session nor acknowledges a response. -/
theorem Describes.asked_emptied (own : request.isFor typeUrl = true) (empty : request.names = []) :
    Describes typeUrl (.asked request :: history) none where
  watches := by
    rw [isWatched_asked own, empty]
    rfl
  names := nofun
  sent := nofun
  acked := nofun

/-- A request that opens a session. -/
theorem Describes.asked_started (opening : opens typeUrl history request = true) :
    Describes typeUrl (.asked request :: history) (some ⟨orderedTexts request.names, "", ""⟩) := by
  obtain ⟨⟨own, wanted⟩, -⟩ := opens_iff.1 opening
  constructor
  · rw [isWatched_asked own, decide_eq_true wanted]
    rfl
  · rintro _ ⟨⟩
    refine ⟨orderedTexts_ne_nil wanted, request, ?_, rfl⟩
    simp [accepted?, opening]
  · rintro _ ⟨⟩
    simp [delivered, opening]
  · rintro _ ⟨⟩
    exact Or.inl rfl

/-- Only for a type URL that is watched a response can be acknowledged. -/
theorem Describes.exists_of_acknowledges (describes : Describes typeUrl history watched)
    (answering : acknowledges typeUrl history request = true) :
    ∃ found, watched = some found := by
  obtain ⟨-, ⟨-, watches⟩, -⟩ := acknowledges_iff.1 answering
  exact Option.isSome_iff_exists.1 (describes.watches.trans watches)

/-- A request that acknowledges the last response of the session. -/
theorem Describes.asked_acknowledged {found : Watched}
    (describes : Describes typeUrl history (some found))
    (answering : acknowledges typeUrl history request = true) :
    Describes typeUrl (.asked request :: history)
      (some { found with names := orderedTexts request.names, nonceAcked := request.nonce }) := by
  obtain ⟨⟨own, wanted⟩, ⟨named, watches⟩, answers⟩ := acknowledges_iff.1 answering
  have same : delivered typeUrl (.asked request :: history) = delivered typeUrl history := by
    simp [delivered, opens, named, watches]
  constructor
  · rw [isWatched_asked own, decide_eq_true wanted]
    rfl
  · rintro _ ⟨⟩
    refine ⟨orderedTexts_ne_nil wanted, request, ?_, rfl⟩
    simp [accepted?, answering]
  · rintro _ ⟨⟩
    rw [same]
    exact describes.sent found rfl
  · rintro _ ⟨⟩
    rw [same]
    exact Or.inr (List.mem_of_head? answers)

/-- A request that lists names and is not accepted. -/
theorem Describes.asked_stale (describes : Describes typeUrl history watched)
    (own : request.isFor typeUrl = true) (wanted : request.names ≠ [])
    (unopened : opens typeUrl history request = false)
    (unanswered : acknowledges typeUrl history request = false) :
    Describes typeUrl (.asked request :: history) watched := by
  obtain ⟨-, watches⟩ : request.nonce ≠ "" ∧ isWatched typeUrl history = true := by
    simpa [opens, own, wanted] using unopened
  obtain ⟨present, names, sent, acked⟩ := describes
  constructor
  · rw [isWatched_asked own, decide_eq_true wanted, present, watches]
  · simpa [accepted?, unopened, unanswered] using names
  · simpa [delivered, unopened] using sent
  · simpa [delivered, unopened] using acked

/-- A request that leaves what is watched for a type URL. -/
theorem Describes.take_of_leaves (describes : Describes typeUrl history (list.watched? typeUrl))
    (kept : leaves typeUrl history (.asked request) = true) :
    (list.take request).2.watched? typeUrl = list.watched? typeUrl := by
  by_cases other : request.typeUrl = typeUrl
  · subst other
    have ignored : list.verdict request = .ignored := by
      rw [verdict_eq describes]
      split
      · rfl
      rename_i faultless
      obtain ⟨⟨wanted, unopened⟩, unanswered⟩ : (request.names ≠ [] ∧
          opens request.typeUrl history request = false) ∧
            acknowledges request.typeUrl history request = false := by
        simpa [leaves, faultless] using kept
      simp [wanted, unopened, unanswered]
    rw [WatchList.take_eq, ignored]
  · exact list.watched?_take_of_ne request typeUrl other

/-- After a request, the history still describes what is watched for each type URL. -/
theorem Describes.asked (describes : ∀ typeUrl, Describes typeUrl history (list.watched? typeUrl))
    (request : Request) (typeUrl : String) :
    Describes typeUrl (.asked request :: history) ((list.take request).2.watched? typeUrl) := by
  have here := describes typeUrl
  by_cases own : request.isFor typeUrl = true
  · obtain ⟨rfl, faultless⟩ : request.typeUrl = typeUrl ∧ request.errorDetail = none := by
      simpa [Request.isFor] using own
    rw [WatchList.take_eq, verdict_eq here, if_neg (by simp [faultless])]
    by_cases empty : request.names = []
    · rw [if_pos empty]
      have gone : (list.drop request.typeUrl).2.watched? request.typeUrl = none := by
        simp [WatchList.drop, WatchList.watched?]
      exact gone ▸ Describes.asked_emptied own empty
    rw [if_neg empty]
    by_cases opening : opens request.typeUrl history request = true
    · rw [if_pos opening]
      simpa [WatchList.start, WatchList.watched?] using Describes.asked_started opening
    rw [if_neg opening]
    by_cases answering : acknowledges request.typeUrl history request = true
    · obtain ⟨found, watches⟩ := here.exists_of_acknowledges answering
      rw [watches] at here
      rw [if_pos answering, watches]
      simpa [WatchList.acknowledge, WatchList.watched?] using here.asked_acknowledged answering
    · rw [if_neg answering]
      exact here.asked_stale own empty (Bool.eq_false_iff.2 opening) (Bool.eq_false_iff.2 answering)
  · have foreign : request.typeUrl = typeUrl → request.errorDetail.isSome = true := by
      simpa [Request.isFor, ← Option.isSome_iff_ne_none] using own
    rw [here.take_of_leaves (by simp [leaves, Decidable.imp_iff_not_or.1 foreign])]
    exact here.asked_of_not_isFor (Bool.eq_false_iff.2 own)

/-! ## Answers -/

/-- A request is answered if and only if it opens a session, or acknowledges the last response of
    the session and lists other names than those that are watched. -/
theorem answered_iff
    (describes : Describes request.typeUrl history (list.watched? request.typeUrl)) :
    (list.take request).1.1 = true ↔
      opens request.typeUrl history request = true ∨
        (acknowledges request.typeUrl history request = true ∧
          ∃ found, list.watched? request.typeUrl = some found ∧
            ¬ ∀ name, name ∈ request.names ↔ name ∈ found.names) := by
  rw [WatchList.take_eq, verdict_eq describes]
  by_cases opening : opens request.typeUrl history request = true
  · obtain ⟨⟨own, wanted⟩, -⟩ := opens_iff.1 opening
    have faultless : request.errorDetail = none := by simpa [Request.isFor] using own
    rw [if_neg (by simp [faultless]), if_neg wanted, if_pos opening]
    exact iff_of_true rfl (Or.inl opening)
  by_cases answering : acknowledges request.typeUrl history request = true
  · obtain ⟨⟨own, wanted⟩, -⟩ := acknowledges_iff.1 answering
    obtain ⟨found, watches⟩ := describes.exists_of_acknowledges answering
    have faultless : request.errorDetail = none := by simpa [Request.isFor] using own
    rw [if_neg (by simp [faultless]), if_neg wanted, if_neg opening, if_pos answering, watches]
    have changed := list.changes_acknowledge request.typeUrl request.nonce found request.names
    dsimp only
    rw [Option.getD_some, Bool.not_eq_true', ← Bool.not_eq_true, changed]
    constructor
    · exact fun different => Or.inr ⟨answering, found, rfl, different⟩
    · rintro (opened | ⟨-, _, ⟨⟩, different⟩)
      · exact absurd opened opening
      · exact different
  · rw [if_neg opening, if_neg answering]
    refine iff_of_false ?_ (by simp [opening, answering])
    by_cases faulty : request.errorDetail.isSome = true
    · rw [if_pos faulty]
      exact Bool.false_ne_true
    by_cases empty : request.names = []
    · rw [if_neg faulty, if_pos empty]
      exact Bool.false_ne_true
    · rw [if_neg faulty, if_neg empty]
      exact Bool.false_ne_true

/-! ## Sends -/

/-- What is watched after a whole send: the nonce of its response, if it was delivered, and nothing
    else. A failed send restores the nonce that it found. -/
theorem watched?_send (list : WatchList) (typeUrl nonce : String) (outcome : SendOutcome) :
    (list.send typeUrl nonce outcome).watched? typeUrl =
      (list.watched? typeUrl).map fun found =>
        if outcome = .sent then { found with nonceSent := nonce } else found := by
  unfold WatchList.send WatchList.record?
  cases watches : list.watched? typeUrl with
  | none => simp [watches]
  | some found =>
    cases outcome <;>
      simp [WatchList.settle, WatchList.restore, WatchList.watched?]

/-- A send that leaves what is watched for a type URL. -/
theorem send_of_leaves (kept : leaves typeUrl history (.pushed response outcome) = true) :
    (list.send response.typeUrl response.nonce outcome).watched? typeUrl =
      list.watched? typeUrl := by
  by_cases own : response.typeUrl = typeUrl
  · subst own
    have failed : outcome ≠ .sent := by simpa [leaves] using kept
    rw [watched?_send]
    simp [failed]
  · exact list.watched?_send_of_ne response.typeUrl response.nonce outcome typeUrl own

/-- After a send, the history still describes what is watched for each type URL. -/
theorem Describes.pushed (describes : Describes typeUrl history (list.watched? typeUrl))
    (response : Response) (outcome : SendOutcome) :
    Describes typeUrl (.pushed response outcome :: history)
      ((list.send response.typeUrl response.nonce outcome).watched? typeUrl) := by
  obtain ⟨watches, names, sent, acked⟩ := describes
  by_cases own : response.typeUrl = typeUrl ∧ outcome = .sent
  · obtain ⟨rfl, rfl⟩ := own
    rw [watched?_send]
    cases found : list.watched? response.typeUrl with
    | none =>
      rw [found] at watches
      exact ⟨watches, nofun, nofun, nofun⟩
    | some before =>
      rw [found] at watches
      refine ⟨watches, ?_, ?_, ?_⟩
      · rintro _ ⟨⟩
        exact names before found
      · rintro _ ⟨⟩
        simp [delivered]
      · rintro _ ⟨⟩
        simp only [delivered, and_self, if_true, List.mem_cons]
        exact (acked before found).imp_right Or.inr
  · have kept : leaves typeUrl history (.pushed response outcome) = true := by
      simpa [leaves, ← Decidable.imp_iff_not_or] using own
    have undelivered : delivered typeUrl (.pushed response outcome :: history) =
        delivered typeUrl history := by
      rw [delivered, if_neg own]
    rw [send_of_leaves kept]
    exact ⟨watches, names, undelivered ▸ sent, undelivered ▸ acked⟩

end History

end Discovery

/-- What has passed on a discovery stream so far, and the control plane that was reached. -/
structure Correspondence where
  plane : Plane
  history : List Discovery.Exchange

namespace Correspondence

/-- What may happen next. The client may read or hang up at any time, so a send may meet any
    outcome. -/
inductive Move where
  | request (request : Discovery.Request)
  | push (millis : Nat) (typeUrl : String) (rules : List Rule)
  | outbox (change : Outbox Discovery.Response → Outbox Discovery.Response)
  | clock (reading : UInt64)
  | token

/-- A stream is opened. -/
def start (stream : StreamId) (capacity : Option Nat) (plane : Plane) : Correspondence :=
  ⟨plane.openDiscovery stream capacity, []⟩

/-- Send rules for a type URL. What was put on the stream, or could not be, is known then. -/
def push (stream : StreamId) (millis : Nat) (typeUrl : String) (rules : List Rule)
    (reached : Correspondence) : Correspondence :=
  match reached.plane.sendingDiscovery millis stream typeUrl rules with
  | .sending _ millis (.discovery response) plane resume =>
      let (outcome, plane) := plane.attempt millis stream (.discovery response)
      ⟨((resume outcome plane).complete Plane.attempt).2,
        .pushed response outcome :: reached.history⟩
  | .sending _ _ (.transport _) plane _ => { reached with plane }
  | .finished _ plane => { reached with plane }

/-- A push is the whole send. -/
theorem plane_push (stream : StreamId) (millis : Nat) (typeUrl : String) (rules : List Rule)
    (reached : Correspondence) :
    (reached.push stream millis typeUrl rules).plane =
      (reached.plane.sendDiscovery millis stream typeUrl rules).2 := by
  rw [← Plane.complete_sendingDiscovery]
  simp only [push, Plane.sendingDiscovery]
  cases (reached.plane.nextToken.2.discovery.find? stream).bind fun found =>
      (found.watchList.record? typeUrl reached.plane.nextToken.1).map fun recorded =>
        (found, recorded) with
  | none => rfl
  | some recorded => rfl

/-- Let one thing happen. -/
def move (stream : StreamId) (reached : Correspondence) : Move → Correspondence
  | .request request =>
      ⟨(reached.plane.takeDiscovery stream request).2, .asked request :: reached.history⟩
  | .push millis typeUrl rules => reached.push stream millis typeUrl rules
  | .outbox change =>
      { reached with plane := reached.plane.modifyDiscovery stream fun found =>
          { found with outbox := change found.outbox } }
  | .clock reading => { reached with plane := { reached.plane with clock := reading } }
  | .token => { reached with plane := reached.plane.nextToken.2 }

/-- Let several things happen. -/
def run (stream : StreamId) (moves : List Move) (reached : Correspondence) : Correspondence :=
  moves.foldl (move stream) reached

variable {reached : Correspondence} {stream : StreamId} {list : Discovery.WatchList}

/-- The stream is there, and its history describes what is watched for each type URL. -/
def Described (stream : StreamId) (reached : Correspondence) : Prop :=
  ∃ list, reached.plane.watchList? stream = some list ∧
    ∀ typeUrl, Discovery.History.Describes typeUrl reached.history (list.watched? typeUrl)

/-- What a push does: nothing passes if the type URL is not watched; else a response does, and the
    watch list is that after a whole send. -/
theorem push_cases (present : reached.plane.watchList? stream = some list) (millis : Nat)
    (typeUrl : String) (rules : List Rule) :
    ((reached.push stream millis typeUrl rules).history = reached.history ∧
        (reached.push stream millis typeUrl rules).plane.watchList? stream = some list) ∨
      ∃ response outcome, response.typeUrl = typeUrl ∧
        (reached.push stream millis typeUrl rules).history =
          .pushed response outcome :: reached.history ∧
        (reached.push stream millis typeUrl rules).plane.watchList? stream =
          some (list.send response.typeUrl response.nonce outcome) := by
  cases recording : list.record? typeUrl reached.plane.nextToken.1 with
  | none =>
    have unwatched : list.watched? typeUrl = none := by
      simpa [Discovery.WatchList.record?] using recording
    rw [push, Plane.sendingDiscovery_of_unwatched present unwatched]
    exact Or.inl ⟨rfl, present⟩
  | some noted =>
    obtain ⟨previous, recorded⟩ := noted
    obtain ⟨response, begun, resume, sending, rfl, nonce, listed, -, resumed⟩ :=
      Plane.sendingDiscovery_of_record? present recording millis rules
    have attempted := begun.watchList?_attempt millis stream response
    rw [push, sending]
    refine Or.inr ⟨response, (begun.attempt millis stream (.discovery response)).1, rfl, rfl, ?_⟩
    rw [← nonce] at recording
    simp only [resumed, Activity.complete_finished, Plane.watchList?_settleDiscovery, attempted,
      listed, Option.map_some, Discovery.WatchList.send, recording]

/-- Whatever happens next, the history describes what is watched. -/
theorem Described.move (described : reached.Described stream) (move : Move) :
    (reached.move stream move).Described stream := by
  obtain ⟨list, present, describes⟩ := described
  cases move with
  | request request =>
    exact ⟨_, (Plane.takeDiscovery_of_watchList? present request).2,
      Discovery.History.Describes.asked describes request⟩
  | push millis typeUrl rules =>
    rcases push_cases present millis typeUrl rules with
      ⟨history, kept⟩ | ⟨response, outcome, -, history, sent⟩
    · exact ⟨list, kept, fun typeUrl => history ▸ describes typeUrl⟩
    · exact ⟨_, sent, fun typeUrl => history ▸ (describes typeUrl).pushed response outcome⟩
  | outbox change =>
    refine ⟨list, Eq.trans ?_ present, describes⟩
    exact Plane.watchList?_modify_of_same reached.plane stream fun _ => rfl
  | clock reading => exact ⟨list, present, describes⟩
  | token => exact ⟨list, present, describes⟩

/-- So it does after a whole run. -/
theorem Described.run (described : reached.Described stream) (moves : List Move) :
    (run stream moves reached).Described stream := by
  induction moves generalizing reached with
  | nil => exact described
  | cons move rest inductionHypothesis => exact inductionHypothesis (described.move move)

/-- On a stream that was just opened, nothing is watched. -/
theorem described_start (stream : StreamId) (capacity : Option Nat) (plane : Plane) :
    (start stream capacity plane).Described stream := by
  refine ⟨.empty, ?_, fun typeUrl => ?_⟩
  · simp [start, Plane.openDiscovery, Plane.watchList?, DiscoveryStream.fresh]
  · exact Discovery.History.describes_nil typeUrl

/-- What passes at a request or a push leaves what is watched for a type URL, if it is about another
    one or does not count; and so does whatever else happens. -/
theorem watched?_move_of_leaves (described : reached.Described stream) (move : Move)
    {typeUrl : String}
    (kept : ∀ exchange, (reached.move stream move).history = exchange :: reached.history →
      Discovery.History.leaves typeUrl reached.history exchange = true) :
    (reached.move stream move).plane.watched? stream typeUrl =
      reached.plane.watched? stream typeUrl := by
  obtain ⟨list, present, describes⟩ := described
  rw [Plane.watched?_eq_bind, Plane.watched?_eq_bind, present]
  cases move with
  | request request =>
    have taken := (Plane.takeDiscovery_of_watchList? present request).2
    change (Plane.watchList? (Plane.takeDiscovery stream request reached.plane).2 stream).bind _ = _
    rw [taken]
    exact (describes typeUrl).take_of_leaves (kept (.asked request) rfl)
  | push millis pushedUrl rules =>
    rcases push_cases present millis pushedUrl rules with
      ⟨-, same⟩ | ⟨response, outcome, -, history, sent⟩
    · exact congrArg (Option.bind · _) same
    · refine (congrArg (Option.bind · _) sent).trans ?_
      exact Discovery.History.send_of_leaves (kept (.pushed response outcome) history)
  | outbox change =>
    refine congrArg (Option.bind · _) (Eq.trans ?_ present)
    exact Plane.watchList?_modify_of_same reached.plane stream fun _ => rfl
  | clock reading => exact congrArg (Option.bind · _) present
  | token => exact congrArg (Option.bind · _) present

/-- Whatever has passed on a stream, of requests and sends that were taken one after another, its
    history describes for each type URL what is watched. A request is answered if and only if it
    opens a session, or acknowledges the last response of the session with other names. And nothing
    that is about another type URL, or reports an error, or is stale, or has failed, changes the
    names or a nonce. -/
theorem watched_by_history (plane : Plane) (stream : StreamId) (capacity : Option Nat)
    (moves : List Move) (typeUrl : String) :
    let reached := run stream moves (start stream capacity plane)
    let watched := reached.plane.watched? stream typeUrl
    Discovery.History.Describes typeUrl reached.history watched ∧
      (∀ request, request.typeUrl = typeUrl →
        ((reached.plane.takeDiscovery stream request).1.1 = true ↔
          Discovery.History.opens typeUrl reached.history request = true ∨
            (Discovery.History.acknowledges typeUrl reached.history request = true ∧
              ∃ found, watched = some found ∧
                ¬ ∀ name, name ∈ request.names ↔ name ∈ found.names))) ∧
      ∀ move, (∀ exchange, (reached.move stream move).history = exchange :: reached.history →
          Discovery.History.leaves typeUrl reached.history exchange = true) →
        (reached.move stream move).plane.watched? stream typeUrl = watched := by
  intro reached watched
  have described : reached.Described stream := (described_start stream capacity plane).run moves
  refine ⟨?_, ?_, fun move kept => watched?_move_of_leaves described move kept⟩
  all_goals
    obtain ⟨list, present, describes⟩ := described
    have here : watched = list.watched? typeUrl := by
      unfold watched
      rw [Plane.watched?_eq_bind, present]
      rfl
    rw [here]
  · exact describes typeUrl
  · rintro request rfl
    rw [(Plane.takeDiscovery_of_watchList? present request).1]
    exact Discovery.History.answered_iff (describes request.typeUrl)

/-- A request for names of a type that answers a response. -/
def wanting (typeUrl : String) (names : List String) (nonce : String) : Discovery.Request :=
  ⟨none, typeUrl, names, none, "", nonce⟩

/-- A session is opened and its first response acknowledged with one name more. The next response
    finds no room, and another type is asked for. -/
def crowded : List Move :=
  [.request (wanting "type" ["a"] ""), .push 20 "type" [],
    .request (wanting "type" ["b", "a"] "0-0"), .push 20 "type" [],
    .request (wanting "other" ["x"] "")]

/-- The control plane on which the stream is opened. -/
def idle : Plane := .start ⟨.bestEffort, 3, 1000, "control-plane"⟩ .builtIn (.ofSizes 1 4) 0

/-- Both names are watched and the first response is still the last one. Its acknowledgement with
    another name is answered; a request with the nonce of the failed response changes nothing. -/
theorem watched_by_history_crowded :
    let reached := run ⟨0⟩ crowded (start ⟨0⟩ (some 1) idle)
    reached.plane.watched? ⟨0⟩ "type" = some ⟨["a", "b"], "0-0", "0-0"⟩ ∧
      Discovery.History.isWatched "type" reached.history = true ∧
      Discovery.History.delivered "type" reached.history = ["0-0"] ∧
      (reached.plane.takeDiscovery ⟨0⟩ (wanting "type" ["c"] "0-0")).1.1 = true ∧
      (reached.move ⟨0⟩ (.request (wanting "type" ["c"] "0-1"))).plane.watched? ⟨0⟩ "type" =
        reached.plane.watched? ⟨0⟩ "type" := by
  intro reached
  obtain ⟨describes, answered, left⟩ := watched_by_history idle ⟨0⟩ (some 1) crowded "type"
  have watches : reached.plane.watched? ⟨0⟩ "type" = some ⟨["a", "b"], "0-0", "0-0"⟩ := by
    decide +kernel
  have present : Discovery.History.isWatched "type" reached.history = true :=
    describes.watches.symm.trans (congrArg Option.isSome watches)
  refine ⟨watches, present, by decide +kernel, ?_, left _ ?_⟩
  · refine (answered _ rfl).2 (Or.inr ⟨by decide +kernel, _, watches, fun same => ?_⟩)
    exact absurd ((same "c").1 List.mem_cons_self) (by decide)
  · rintro exchange ⟨⟩
    decide +kernel

end Correspondence

end RulePlane
