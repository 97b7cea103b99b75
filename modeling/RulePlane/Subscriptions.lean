import RulePlane.Target

/-!
# Subscriptions

The targets that a watcher tracks, with their namespaces and applications kept beside them, so that
an event is matched against either without a search through the targets.
-/

namespace RulePlane

/-- A set of targets, the namespaces and the applications that occur in it. -/
structure Subscriptions where
  targets : List Target
  scopes : List String
  apps : List App

namespace Subscriptions

/-- No targets. -/
def empty : Subscriptions := ⟨[], [], []⟩

instance : Inhabited Subscriptions := ⟨empty⟩

/-- The namespaces of a list of targets, each once. -/
def scopesOf (targets : List Target) : List String :=
  targets.foldr (fun target scopes => scopes.insert target.app.scope) []

/-- The applications of a list of targets, each once. -/
def appsOf (targets : List Target) : List App :=
  targets.foldr (fun target apps => apps.insert target.app) []

/-- Track a target. -/
def add (subscriptions : Subscriptions) (target : Target) : Subscriptions where
  targets := subscriptions.targets.insert target
  scopes := subscriptions.scopes.insert target.app.scope
  apps := subscriptions.apps.insert target.app

/-- Stop tracking a target. Its namespace and application stay as long as another target has
    them. -/
def remove (subscriptions : Subscriptions) (target : Target) : Subscriptions :=
  let rest := subscriptions.targets.filter (fun present => present ≠ target)
  ⟨rest, scopesOf rest, appsOf rest⟩

/-- Whether a target is tracked. -/
def hasTarget (subscriptions : Subscriptions) (target : Target) : Bool :=
  subscriptions.targets.contains target

/-- Whether a target of an application is tracked. -/
def hasApp (subscriptions : Subscriptions) (app : App) : Bool := subscriptions.apps.contains app

/-- Whether a target in a namespace is tracked. -/
def hasScope (subscriptions : Subscriptions) (scope : String) : Bool :=
  subscriptions.scopes.contains scope

/-- The namespaces of a list of targets are those that occur in it. -/
theorem mem_scopesOf_iff (targets : List Target) (scope : String) :
    scope ∈ scopesOf targets ↔ ∃ target ∈ targets, target.app.scope = scope := by
  induction targets with
  | nil => simp [scopesOf]
  | cons first rest inductionHypothesis =>
    rw [scopesOf, List.foldr_cons, List.mem_insert_iff, ← scopesOf, inductionHypothesis]
    simp [eq_comm]

/-- The applications of a list of targets are those that occur in it. -/
theorem mem_appsOf_iff (targets : List Target) (app : App) :
    app ∈ appsOf targets ↔ ∃ target ∈ targets, target.app = app := by
  induction targets with
  | nil => simp [appsOf]
  | cons first rest inductionHypothesis =>
    rw [appsOf, List.foldr_cons, List.mem_insert_iff, ← appsOf, inductionHypothesis]
    simp [eq_comm]

/-- Adding a target tracks it and keeps all others as they were. -/
theorem hasTarget_add (subscriptions : Subscriptions) (target tested : Target) :
    (subscriptions.add target).hasTarget tested =
      (decide (tested = target) || subscriptions.hasTarget tested) := by
  simp [hasTarget, add, List.mem_insert_iff, Bool.decide_or]

/-- Removing a target stops tracking it and keeps all others as they were. -/
theorem hasTarget_remove (subscriptions : Subscriptions) (target tested : Target) :
    (subscriptions.remove target).hasTarget tested =
      (subscriptions.hasTarget tested && decide (tested ≠ target)) := by
  simp [hasTarget, remove]

end Subscriptions

end RulePlane
