import RulePlane.Cache
import RulePlane.KindTable
import RulePlane.Subscriptions

/-!
# Watchers

A watcher follows the resources of one kind. Only resources that govern a subscribed target enter
the cache, but every resource of the kind is remembered as it was last observed, so that a target
that is subscribed later is filled at once. A change event updates the cache and calls for a push of
the rules of each application whose group it changed: first of the one that the resource left, then
of the one that it entered.
-/

namespace RulePlane

/-- Why a target could not be subscribed. -/
inductive WatchError where
  | kindMismatch (expected actual : Kind)
  | unsupportedKind (kind : Kind)
deriving DecidableEq, Repr

/-- The report on a refused subscription. -/
def WatchError.message : WatchError → String
  | kindMismatch expected actual =>
      "subscribe target kind " ++ actual.text ++ " does not match watcher kind " ++ expected.text
  | unsupportedKind kind => "unsupported resource kind: " ++ kind.text

/-- A resource as it was last observed, and the application that it governed then. -/
structure Sighting where
  app : Option App
  resource : Resource
deriving Inhabited

/-- The rules of a target to be delivered to its subscribers. -/
structure Push where
  target : Target
  rules : List Rule
  version : Int
deriving DecidableEq, Repr, Inhabited

/-- A change of one resource: its new state, or none if it was deleted. -/
structure Change where
  id : ObjectId
  resource : Option Resource
  labels : Labels

/-- The state of the watcher of one kind. `ignored` counts the events that called for no push. -/
structure Watcher where
  kind : Kind
  makeRule : RuleMaker
  cache : Cache
  subscriptions : Subscriptions
  observed : Table ObjectId Sighting
  ignored : Nat

namespace Watcher

/-- The watcher of a kind before it has seen or tracked anything. -/
def ofKind (kind : Kind) (makeRule : RuleMaker) : Watcher where
  kind := kind
  makeRule := makeRule
  cache := Cache.ofKind kind
  subscriptions := Subscriptions.empty
  observed := Table.empty
  ignored := 0

/-- Whether a target is subscribed. -/
def hasTarget (watcher : Watcher) (target : Target) : Bool :=
  watcher.subscriptions.hasTarget target

/-- Cache one observed resource if it governs the application and its name is not cached yet. -/
def backfillOne (app : App) (cache : Cache) (seen : ObjectId × Sighting) : Cache :=
  if seen.2.app = some app ∧ cache.app? seen.1 = none then
    ((cache.assign seen.1 app seen.2.resource).place app seen.2.resource).2
  else cache

/-- Cache the observed resources that govern an application, in the order in which they were first
    observed. The program fixes no order here, so a group may list what it is filled from in another
    one; which resources it lists, and how often it has changed, is the same in all of them. -/
def backfill (watcher : Watcher) (app : App) : Cache :=
  watcher.observed.entries.foldl (backfillOne app) watcher.cache

/-- Track a target, and say whether that is new. A newly tracked target is filled from the observed
    resources. -/
def subscribe (watcher : Watcher) (target : Target) : Except WatchError (Bool × Watcher) :=
  if target.kind = watcher.kind then
    let added := !watcher.hasTarget target
    .ok (added, { watcher with
      subscriptions := watcher.subscriptions.add target
      cache := if added then watcher.backfill target.app else watcher.cache })
  else .error (.kindMismatch watcher.kind target.kind)

/-- Stop tracking a target, and say whether it was tracked. Its resources stay cached until their
    next events. -/
def unsubscribe (watcher : Watcher) (target : Target) : Bool × Watcher :=
  if watcher.hasTarget target then
    (true, { watcher with subscriptions := watcher.subscriptions.remove target })
  else (false, watcher)

/-- The application that a changed resource governs: named by its labels, in its namespace. -/
def appOf (change : Change) : Option App :=
  change.labels.app?.map fun name => ⟨change.id.scope, name⟩

/-- Remember a resource as it was last observed; forget a deleted one. -/
def observe (watcher : Watcher) (change : Change) : Watcher :=
  { watcher with observed :=
      match change.resource with
      | some resource => watcher.observed.insert change.id ⟨appOf change, resource⟩
      | none => watcher.observed.erase change.id }

/-- Cache a resource under an application, out of the group in which it was before. The result
    lists the applications whose groups changed. -/
def enter (watcher : Watcher) (id : ObjectId) (app : App) (resource : Resource) :
    List App × Watcher :=
  let (left, cache) :=
    match watcher.cache.app? id with
    | some previous =>
        if previous = app then ([], watcher.cache)
        else ([previous], (watcher.cache.displace previous id.name).2)
    | none => ([], watcher.cache)
  (left ++ [app], { watcher with cache := ((cache.assign id app resource).place app resource).2 })

/-- Take a name out of the cache. An event that finds nothing to take out is ignored. -/
def evict (watcher : Watcher) (id : ObjectId) : List App × Watcher :=
  match watcher.cache.app? id with
  | some previous =>
      ([previous],
        { watcher with cache := ((watcher.cache.unassign id).2.displace previous id.name).2 })
  | none => ([], { watcher with ignored := watcher.ignored + 1 })

/-- Take a change into account, and list the applications whose groups changed. -/
def apply (watcher : Watcher) (change : Change) : List App × Watcher :=
  let watcher := watcher.observe change
  match change.resource, appOf change with
  | some resource, some app =>
      if watcher.hasTarget (app.target watcher.kind) then watcher.enter change.id app resource
      else watcher.evict change.id
  | _, _ => watcher.evict change.id

/-- The rules of a list of resources, up to the first that is malformed. -/
def makeRules (makeRule : RuleMaker) : List Resource → List Rule
  | [] => []
  | resource :: rest =>
      match makeRule resource with
      | some rule => rule :: makeRules makeRule rest
      | none => []

/-- The current rules of an application and their version. A malformed resource hides those behind
    it. -/
def rules (watcher : Watcher) (app : App) : List Rule × Nat :=
  let group := watcher.cache.group app
  (makeRules watcher.makeRule group.resources, group.version)

/-- The push of the current rules of an application. -/
def push (watcher : Watcher) (app : App) : Push :=
  let (rules, version) := watcher.rules app
  { target := app.target watcher.kind, rules, version }

/-- Handle a change of a resource of some kind, and list the pushes that it calls for. A resource
    of another kind is none of the watcher's business. -/
def handle (watcher : Watcher) (kind : Kind) (change : Change) : List Push × Watcher :=
  if kind = watcher.kind then
    let (apps, watcher) := watcher.apply change
    (apps.map watcher.push, watcher)
  else ([], watcher)

end Watcher

end RulePlane
