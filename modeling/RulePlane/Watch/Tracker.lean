import RulePlane.Watch.Event

/-!
# Tracking listings

A watch may be interrupted, and resources that are deleted meanwhile are not reported. They are
found at the next complete list: what was known before and is not on the list is gone. A tracker
keeps the names that are known and, within a list, those that the list has named so far, and turns
each event into the changes of resources that it stands for.
-/

namespace RulePlane

/-- The known names, and the names of the list that is under way. -/
structure Tracker where
  known : List ObjectId
  relisted : Option (List ObjectId)

namespace Tracker

/-- Nothing is known. -/
def empty : Tracker := ⟨[], none⟩

instance : Inhabited Tracker := ⟨empty⟩

/-- The change that a new state of a resource stands for. -/
def changeTo (resource : Resource) : Change := ⟨resource.id, some resource, resource.labels⟩

/-- The change that the end of a resource stands for. -/
def removalOf (id : ObjectId) (labels : Labels) : Change := ⟨id, none, labels⟩

/-- Take an event into account, and list the changes that it stands for. The end of a list that was
    never begun stands for nothing. -/
def step (tracker : Tracker) : WatchEvent → List Change × Tracker
  | .listing => ([], { tracker with relisted := some [] })
  | .listedOne resource =>
      ([changeTo resource],
        { known := tracker.known.insert resource.id
          relisted := tracker.relisted.map fun names => names.insert resource.id })
  | .listed =>
      match tracker.relisted with
      | some names =>
          let gone := tracker.known.filter fun id => !names.contains id
          (gone.map fun id => removalOf id Labels.none, { known := names, relisted := none })
      | none => ([], tracker)
  | .applied resource =>
      ([changeTo resource], { tracker with known := tracker.known.insert resource.id })
  | .deleted resource =>
      ([removalOf resource.id resource.labels],
        { tracker with known := tracker.known.filter fun id => id ≠ resource.id })

end Tracker

/-- A watcher together with the tracker that feeds it, both for the resources of one kind. -/
structure Feed where
  kind : Kind
  tracker : Tracker
  watcher : Watcher

namespace Feed

/-- Hand a list of changes to the watcher, and list the pushes that they call for. -/
def handleAll (kind : Kind) : List Change → Watcher → List Push × Watcher
  | [], watcher => ([], watcher)
  | change :: rest, watcher =>
      let (first, watcher) := watcher.handle kind change
      let (others, watcher) := handleAll kind rest watcher
      (first ++ others, watcher)

/-- Feed one event to the watcher, and list the pushes that it calls for. -/
def receive (feed : Feed) (event : WatchEvent) : List Push × Feed :=
  let (changes, tracker) := feed.tracker.step event
  let (pushes, watcher) := handleAll feed.kind changes feed.watcher
  (pushes, { feed with tracker, watcher })

/-- Feed what a watch yields to the watcher, failures left aside. -/
def receiveAll : List WatchItem → Feed → List Push × Feed
  | [], feed => ([], feed)
  | .failure :: rest, feed => receiveAll rest feed
  | .event event :: rest, feed =>
      let (first, feed) := feed.receive event
      let (others, feed) := receiveAll rest feed
      (first ++ others, feed)

end Feed

end RulePlane
