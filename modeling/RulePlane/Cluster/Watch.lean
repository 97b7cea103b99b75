import RulePlane.Cluster.Exchange
import RulePlane.Watch.Tracker
import RulePlane.Watchers

/-!
# Cluster watches

The watchers of all active kinds, each fed by an exchange with the cluster. The cluster keeps a
watch that it opened until it ends it or opens another, also if what it sends on it is no longer
read because a new list was begun.
-/

namespace RulePlane

/-- The exchange that feeds the watcher of one kind. `isOpen` tells whether the cluster keeps a
    watch open. -/
structure ClusterFeed where
  path : String
  phase : ExchangePhase
  isOpen : Bool
  tracker : Tracker

/-- The active watchers and the exchanges that feed them. -/
structure ClusterWatches where
  watchers : Watchers
  feeds : Table Kind ClusterFeed

/-- Why the cluster cannot answer. -/
inductive ClusterFault where
  | noRequest
  | noWatch
deriving DecidableEq, Repr

/-- What a step led to: the requests that the cluster received, as they are written, and the pushes
    that were called for. -/
structure ClusterOutcome where
  requests : List String
  pushes : List Push

namespace ClusterFeed

/-- Whether an answer fits what is pending or open. -/
def accepts (feed : ClusterFeed) (answer : ClusterAnswer) : Except ClusterFault Unit :=
  let pending (wanted : Bool) : Except ClusterFault Unit :=
    if wanted then .ok () else .error .noRequest
  match answer with
  | .page _ _ _ => pending (feed.phase matches .listing _)
  | .opened => pending (feed.phase matches .opening _)
  | .refused => pending feed.phase.pending?.isSome
  | .line _ => if feed.isOpen then .ok () else .error .noWatch
  | .ended => if feed.isOpen then .ok () else .error .noWatch

/-- Whether the cluster keeps a watch open after an answer. -/
def openAfter (feed : ClusterFeed) : ClusterAnswer → Bool
  | .opened => true
  | .ended => false
  | _ => feed.isOpen

/-- The pending request, as it is written. -/
def requests (feed : ClusterFeed) : List String :=
  (feed.phase.pending?.map (ClusterRequest.render feed.path)).toList

end ClusterFeed

namespace ClusterWatches

/-- No watcher is active. -/
def ofKinds (kinds : KindTable) : ClusterWatches := ⟨.ofKinds kinds, Table.empty⟩

/-- Hand what the watch of a kind yields to the watcher of the kind. -/
def yield (watches : ClusterWatches) (kind : Kind) (feed : ClusterFeed) (items : List WatchItem) :
    List Push × ClusterWatches :=
  match watches.watchers.watcher? kind with
  | none => ([], watches)
  | some watcher =>
      let (pushes, fed) := Feed.receiveAll items ⟨kind, feed.tracker, watcher⟩
      (pushes, {
        watchers := watches.watchers.update kind fed.watcher
        feeds := watches.feeds.insert kind { feed with tracker := fed.tracker } })

/-- Register a target. The first one of a kind begins the exchange for it. -/
def register (watches : ClusterWatches) (target : Target) :
    Except WatchError (ClusterOutcome × ClusterWatches) := do
  let watchers ← watches.watchers.register target
  let registered := { watches with watchers }
  match watches.watchers.watcher? target.kind, watches.watchers.kinds.find? target.kind with
  | none, some entry =>
      let (items, phase) := ExchangePhase.begin
      let feed : ClusterFeed := ⟨entry.resource.path, phase, false, Tracker.empty⟩
      let (pushes, started) := registered.yield target.kind feed items
      return (⟨feed.requests, pushes⟩, started)
  | _, _ => return (⟨[], []⟩, registered)

/-- What is said if the cluster answers for a kind that is not watched. -/
def unwatchedFault : ClusterAnswer → ClusterFault
  | .line _ => .noWatch
  | .ended => .noWatch
  | _ => .noRequest

/-- Take an answer of the cluster for a kind. What is still sent on a watch that is no longer read
    has no effect. -/
def answer (watches : ClusterWatches) (kind : Kind) (answer : ClusterAnswer) :
    Except ClusterFault (ClusterOutcome × ClusterWatches) := do
  match watches.feeds.find? kind with
  | none => throw (unwatchedFault answer)
  | some feed =>
      feed.accepts answer
      let isOpen := feed.openAfter answer
      match feed.phase.take? answer with
      | some (items, phase) =>
          let feed := { feed with phase, isOpen }
          let (pushes, watches) := watches.yield kind feed items
          return (⟨feed.requests, pushes⟩, watches)
      | none =>
          let feeds := watches.feeds.insert kind { feed with isOpen }
          return (⟨[], []⟩, { watches with feeds })

end ClusterWatches

end RulePlane
