import RulePlane.Watcher

/-!
# Watch events

What a watch of the cluster reports: complete listings, announced by `listing` and closed by
`listed`, single changes between them, and failures. Whoever receives from a watch waits one second
after a failure and goes on; failures are never handed out.
-/

namespace RulePlane

/-- An event of a watch. -/
inductive WatchEvent where
  /-- A complete list of the resources begins. -/
  | listing
  /-- A resource of the list. -/
  | listedOne (resource : Resource)
  /-- The list is complete. -/
  | listed
  /-- A resource was added or changed. -/
  | applied (resource : Resource)
  /-- A resource was deleted. -/
  | deleted (resource : Resource)

/-- What a watch yields next: an event or a failure. -/
inductive WatchItem where
  | event (event : WatchEvent)
  | failure

/-- The receiving end of a watch. `initialized` says whether an event was received, `seconds` how
    long was waited after failures. -/
structure Watch where
  initialized : Bool
  seconds : Nat
  upcoming : List WatchItem

namespace Watch

/-- How many seconds are waited after a failure. -/
def pause : Nat := 1

/-- The watch that will yield the given items. -/
def ofItems (items : List WatchItem) : Watch := ⟨false, 0, items⟩

/-- Receive the first event of a list of items, with the number of failures before it and the items
    behind it. -/
def next : List WatchItem → Option WatchEvent × Nat × List WatchItem
  | [] => (none, 0, [])
  | .event event :: rest => (some event, 0, rest)
  | .failure :: rest =>
      let (event, failures, rest) := next rest
      (event, failures + 1, rest)

/-- Receive the next event; none if the watch has ended. -/
def receive (watch : Watch) : Option WatchEvent × Watch :=
  let (event, failures, rest) := next watch.upcoming
  (event,
    { initialized := watch.initialized || event.isSome
      seconds := watch.seconds + pause * failures
      upcoming := rest })

end Watch

end RulePlane
