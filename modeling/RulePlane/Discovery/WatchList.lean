import RulePlane.Discovery.Protocol
import RulePlane.Ordered
import RulePlane.Push.Delivery
import RulePlane.Table

/-!
# Watch lists

What a discovery client watches: for each type URL the names, and the nonces of the last response
that was sent and of the last one that was acknowledged. A request is checked against them, and the
result says whether it needs an answer and which names it added and removed.

The nonce of a response is recorded before the response is sent, so that an acknowledgement never
finds it missing; if the send fails, the nonce before it is restored, unless another one was
recorded meanwhile.
-/

namespace RulePlane

namespace Discovery

/-- What is watched for one type URL. The names ascend, each once. -/
structure Watched where
  names : List String
  nonceSent : String
  nonceAcked : String
deriving DecidableEq, Repr, Inhabited

/-- The names that a request added and removed, in ascending order. -/
structure NameChanges where
  subscribed : List String
  unsubscribed : List String
deriving DecidableEq, Repr, Inhabited

/-- No names. -/
def NameChanges.none : NameChanges := ⟨[], []⟩

/-- What a client watches, by type URL. -/
structure WatchList where
  table : Table String Watched

namespace WatchList

/-- Nothing is watched. -/
def empty : WatchList := ⟨Table.empty⟩

instance : Inhabited WatchList := ⟨empty⟩

/-- What is watched for a type URL. -/
def watched? (list : WatchList) (typeUrl : String) : Option Watched := list.table.find? typeUrl

/-- Stop watching a type URL, and list the names that were watched. -/
def drop (list : WatchList) (typeUrl : String) : NameChanges × WatchList :=
  let names := ((list.watched? typeUrl).map Watched.names).getD []
  (⟨[], names⟩, ⟨list.table.erase typeUrl⟩)

/-- Start a session: all names are new, and no response was sent yet. -/
def start (list : WatchList) (typeUrl : String) (names : List String) :
    NameChanges × WatchList :=
  (⟨names, []⟩, ⟨list.table.insert typeUrl ⟨names, "", ""⟩⟩)

/-- Take the acknowledgement of the last response, with the names that are wanted from now on. -/
def acknowledge (list : WatchList) (typeUrl nonce : String) (previous : Watched)
    (names : List String) : NameChanges × WatchList :=
  (⟨names.filter fun name => !previous.names.contains name,
      previous.names.filter fun name => !names.contains name⟩,
    ⟨list.table.insert typeUrl { previous with names := names, nonceAcked := nonce }⟩)

/-- Take a request. The result says whether it needs an answer, and which names it changed.

    A request that reports an error changes nothing. One without names stops watching. One without
    a nonce, or for a type URL that is not watched, starts a session. One with another nonce than
    that of the last response is stale and changes nothing. Any other acknowledges the last
    response, and needs an answer if it changes the names. -/
def take (list : WatchList) (request : Request) : (Bool × NameChanges) × WatchList :=
  if request.errorDetail.isSome then ((false, .none), list)
  else if request.names = [] then
    let (changes, list) := list.drop request.typeUrl
    ((false, changes), list)
  else
    let names := orderedTexts request.names
    match list.watched? request.typeUrl with
    | none =>
        let (changes, list) := list.start request.typeUrl names
        ((true, changes), list)
    | some previous =>
        if request.nonce = "" then
          let (changes, list) := list.start request.typeUrl names
          ((true, changes), list)
        else if request.nonce = previous.nonceSent then
          let (changes, list) := list.acknowledge request.typeUrl request.nonce previous names
          ((!(changes.subscribed.isEmpty && changes.unsubscribed.isEmpty), changes), list)
        else ((false, .none), list)

/-- Record the nonce of a response that is about to be sent, and give the one before it. Nothing is
    recorded for a type URL that is not watched. -/
def record? (list : WatchList) (typeUrl nonce : String) : Option (String × WatchList) :=
  (list.watched? typeUrl).map fun watched =>
    (watched.nonceSent, ⟨list.table.insert typeUrl { watched with nonceSent := nonce }⟩)

/-- After a response could not be sent, restore the nonce before it, unless another one was
    recorded meanwhile. -/
def restore (list : WatchList) (typeUrl nonce previous : String) : WatchList :=
  match list.watched? typeUrl with
  | some watched =>
      if watched.nonceSent = nonce then
        ⟨list.table.insert typeUrl { watched with nonceSent := previous }⟩
      else list
  | none => list

/-- Settle a send whose nonce was recorded. -/
def settle (list : WatchList) (typeUrl nonce previous : String) : SendOutcome → WatchList
  | .sent => list
  | .timedOut => list.restore typeUrl nonce previous
  | .closed => list.restore typeUrl nonce previous

/-- A whole send under a nonce, with its outcome; nothing happens for a type URL that is not
    watched. -/
def send (list : WatchList) (typeUrl nonce : String) (outcome : SendOutcome) : WatchList :=
  match list.record? typeUrl nonce with
  | some (previous, recorded) => recorded.settle typeUrl nonce previous outcome
  | none => list

/-- A request changes only what is watched for its own type URL. -/
theorem watched?_take_of_ne (list : WatchList) (request : Request) (tested : String)
    (different : request.typeUrl ≠ tested) :
    (list.take request).2.watched? tested = list.watched? tested := by
  unfold take
  split
  · rfl
  · split
    · simp [drop, watched?, Table.find?_erase, different]
    · split
      · simp [start, watched?, Table.find?_insert, different]
      · split
        · simp [start, watched?, Table.find?_insert, different]
        · split
          · simp [acknowledge, watched?, Table.find?_insert, different]
          · rfl

/-- Restoring a nonce changes only what is watched for its own type URL. -/
theorem watched?_restore_of_ne (list : WatchList) (typeUrl nonce previous tested : String)
    (different : typeUrl ≠ tested) :
    (list.restore typeUrl nonce previous).watched? tested = list.watched? tested := by
  unfold restore
  split
  · split
    · simp [watched?, Table.find?_insert, different]
    · rfl
  · rfl

/-- A send changes only what is watched for its own type URL. -/
theorem watched?_send_of_ne (list : WatchList) (typeUrl nonce : String) (outcome : SendOutcome)
    (tested : String) (different : typeUrl ≠ tested) :
    (list.send typeUrl nonce outcome).watched? tested = list.watched? tested := by
  unfold send record?
  cases before : list.watched? typeUrl with
  | none => rfl
  | some watched =>
    have recorded :
        (⟨list.table.insert typeUrl { watched with nonceSent := nonce }⟩ : WatchList).watched?
          tested = list.watched? tested := by
      simp [watched?, Table.find?_insert, different]
    cases outcome with
    | sent => exact recorded
    | timedOut => exact (watched?_restore_of_ne _ _ _ _ _ different).trans recorded
    | closed => exact (watched?_restore_of_ne _ _ _ _ _ different).trans recorded

end WatchList

end Discovery

end RulePlane
