import RulePlane.Watcher

/-!
# Active watchers

The watchers of the kinds that clients have asked for. The watcher of a supported kind is created
when its first target is registered, and stays. Registering is written as two steps, because other
registrations may come between them: a look-up among the active watchers, and, if it finds none, a
second look-up that creates the watcher if it is still missing.
-/

namespace RulePlane

/-- The supported kinds, and the watchers of those that are active, in the order of their start. -/
structure Watchers where
  kinds : KindTable
  active : Table Kind Watcher

namespace Watchers

/-- No active watchers. -/
def ofKinds (kinds : KindTable) : Watchers := ⟨kinds, Table.empty⟩

/-- The watcher of a kind, if it is active. -/
def watcher? (watchers : Watchers) (kind : Kind) : Option Watcher := watchers.active.find? kind

/-- Replace the watcher of an active kind. -/
def update (watchers : Watchers) (kind : Kind) (watcher : Watcher) : Watchers :=
  { watchers with active := watchers.active.insert kind watcher }

/-- The kinds whose watch was started, in the order of their start. -/
def started (watchers : Watchers) : List Kind := watchers.active.keys

/-- The supported kinds in ascending order. -/
def supported (watchers : Watchers) : List Kind :=
  ordered (fun kind => [kind.text]) watchers.kinds.keys

/-- Subscribe a target on a watcher. -/
def subscribeOn (watchers : Watchers) (watcher : Watcher) (target : Target) :
    Except WatchError Watchers := do
  let (_, watcher) ← watcher.subscribe target
  return watchers.update target.kind watcher

/-- The first step of a registration: subscribe the target if the watcher of its kind is active. -/
def registerActive? (watchers : Watchers) (target : Target) :
    Option (Except WatchError Watchers) :=
  (watchers.watcher? target.kind).map fun watcher => watchers.subscribeOn watcher target

/-- The second step of a registration: subscribe the target, on a new watcher if the kind has none
    yet. A new watcher tracks the target before its watch is started. -/
def registerOrStart (watchers : Watchers) (target : Target) : Except WatchError Watchers :=
  match watchers.watcher? target.kind with
  | some watcher => watchers.subscribeOn watcher target
  | none =>
      match watchers.kinds.find? target.kind with
      | some entry => watchers.subscribeOn (.ofKind target.kind entry.makeRule) target
      | none => .error (.unsupportedKind target.kind)

/-- Subscribe a target on the watcher of its kind, which is started if it is not active yet. -/
def register (watchers : Watchers) (target : Target) : Except WatchError Watchers :=
  match watchers.registerActive? target with
  | some result => result
  | none => watchers.registerOrStart target

/-- Stop tracking a target on the watcher of its kind, if that is active. -/
def unsubscribe (watchers : Watchers) (target : Target) : Watchers :=
  match watchers.watcher? target.kind with
  | some watcher => watchers.update target.kind (watcher.unsubscribe target).2
  | none => watchers

/-- The current rules of an application among the resources of a kind. A kind without a watcher has
    none. -/
def rules (watchers : Watchers) (kind : Kind) (app : App) : List Rule × Nat :=
  match watchers.watcher? kind with
  | some watcher => watcher.rules app
  | none => ([], 0)

/-- Whether a target is tracked. -/
def hasTarget (watchers : Watchers) (target : Target) : Bool :=
  match watchers.watcher? target.kind with
  | some watcher => watcher.hasTarget target
  | none => false

/-- Replacing the watcher of a kind leaves those of all other kinds as they were. -/
theorem watcher?_update (watchers : Watchers) (kind : Kind) (watcher : Watcher) (tested : Kind) :
    (watchers.update kind watcher).watcher? tested =
      if kind = tested then some watcher else watchers.watcher? tested :=
  Table.find?_insert watchers.active kind watcher tested

/-- Without a second registration in between, the look-up of the first step decides nothing that
    the second step would not decide alike. -/
theorem register_eq_registerOrStart (watchers : Watchers) (target : Target) :
    watchers.register target = watchers.registerOrStart target := by
  unfold register registerActive? registerOrStart
  cases watchers.watcher? target.kind <;> rfl

end Watchers

end RulePlane
