import RulePlane.Proofs.ChangedGroups
import RulePlane.Proofs.TrackedTargets

/-!
# Current rules

What changes the rules of a target. A change of a resource changes the rules of the applications
that it is reported to change, and of no others. A target that is subscribed is filled from the
observed resources only if it was not tracked before, and that changes the rules of this target
alone; a target that is left keeps its rules until the next change.

So as long as a target is tracked, nothing but a reported change makes a difference to its rules,
whoever comes and goes. Nothing is said here about which rules they are; for that see the history of
a watcher.
-/

namespace RulePlane

namespace Watcher

variable {watcher subscribed : Watcher}

/-- Backfilling an application changes no group but its own. -/
theorem group_backfill_of_ne (watcher : Watcher) {app tested : App} (other : app ≠ tested) :
    (watcher.backfill app).group tested = watcher.cache.group tested := by
  have filling (seen : List (ObjectId × Sighting)) (cache : Cache) :
      (seen.foldl (backfillOne app) cache).group tested = cache.group tested := by
    induction seen generalizing cache with
    | nil => rfl
    | cons first rest inductionHypothesis =>
      rw [List.foldl_cons, inductionHypothesis, backfillOne]
      split
      · rw [Cache.group_place, if_neg other, Cache.group_assign]
      · rfl
  exact filling watcher.observed.entries watcher.cache

/-- A watcher that has seen nothing has nothing to fill a target with. -/
theorem rules_ofKind (kind : Kind) (makeRule : RuleMaker) (app : App) :
    (ofKind kind makeRule).rules app = ([], 0) := rfl

/-- A target that is subscribed changes the rules of its own application, and only if it was not
    tracked. -/
theorem rules_of_subscribe {target : Target} {added : Bool}
    (accepted : watcher.subscribe target = .ok (added, subscribed)) {app : App}
    (kept : target.app ≠ app ∨ watcher.hasTarget target = true) :
    subscribed.rules app = watcher.rules app := by
  obtain ⟨-, ⟨-, rfl⟩ | ⟨untracked, rfl⟩⟩ := subscribe_cases accepted
  · rfl
  · rcases kept with other | tracked
    · simp only [rules, watcher.group_backfill_of_ne other]
    · rw [untracked] at tracked
      cases tracked

/-- A target that is left keeps its rules. -/
theorem rules_unsubscribe (watcher : Watcher) (target : Target) (app : App) :
    (watcher.unsubscribe target).2.rules app = watcher.rules app := by
  unfold unsubscribe
  split <;> rfl

/-- A change makes a difference to the rules of the listed applications only. -/
theorem rules_apply (watcher : Watcher) (change : Change) {tested : App}
    (unlisted : tested ∉ (watcher.apply change).1) :
    (watcher.apply change).2.rules tested = watcher.rules tested := by
  unfold rules
  rw [watcher.group_apply_of_notMem change unlisted, watcher.makeRule_apply change]

end Watcher

namespace Watchers

variable {watchers registered : Watchers}

/-- The current rules of a target and their version. -/
def rulesOf (watchers : Watchers) (target : Target) : List Rule × Nat :=
  watchers.rules target.kind target.app

/-- Replacing the watcher of a kind decides about the rules of that kind only. -/
theorem rulesOf_update (kind : Kind) (watcher : Watcher) (tested : Target) :
    (watchers.update kind watcher).rulesOf tested =
      if kind = tested.kind then watcher.rules tested.app else watchers.rulesOf tested := by
  unfold rulesOf rules
  rw [watcher?_update]
  by_cases own : kind = tested.kind
  · simp only [own, if_true]
  · simp only [own, if_false]

/-- A target that is subscribed on a watcher of its kind changes no rules of another target, nor its
    own if it is tracked. -/
theorem rulesOf_subscribeOn {watcher : Watcher} {target : Target}
    (accepted : watchers.subscribeOn watcher target = .ok registered) {tested : Target}
    (before : tested.kind = target.kind → watcher.rules tested.app = watchers.rulesOf tested)
    (kept : target ≠ tested ∨ watcher.hasTarget target = true) :
    registered.rulesOf tested = watchers.rulesOf tested := by
  unfold Watchers.subscribeOn at accepted
  cases answer : watcher.subscribe target with
  | error fault =>
    rw [answer] at accepted
    cases accepted
  | ok result =>
    obtain ⟨added, subscribed⟩ := result
    rw [answer] at accepted
    cases accepted
    rw [rulesOf_update]
    split
    · rename_i same
      rw [← before same.symm]
      refine Watcher.rules_of_subscribe answer (kept.imp_left fun different sameApp => different ?_)
      obtain ⟨app, kind⟩ := target
      obtain ⟨testedApp, testedKind⟩ := tested
      cases same
      cases sameApp
      rfl
    · rfl

/-- A target that is registered changes no rules of another target, nor its own if it is tracked. -/
theorem rulesOf_register {target : Target} (accepted : watchers.register target = .ok registered)
    {tested : Target} (kept : target ≠ tested ∨ watchers.hasTarget target = true) :
    registered.rulesOf tested = watchers.rulesOf tested := by
  rw [register_eq_registerOrStart, registerOrStart] at accepted
  split at accepted
  · rename_i watcher found
    refine rulesOf_subscribeOn accepted (fun same => ?_) ?_
    · simp only [rulesOf, rules, same, found]
    · simpa only [hasTarget, found] using kept
  · rename_i missing
    split at accepted
    · rename_i entry listed
      refine rulesOf_subscribeOn accepted (fun same => ?_) ?_
      · simp only [rulesOf, rules, same, missing]
        exact Watcher.rules_ofKind target.kind entry.makeRule tested.app
      · exact kept.imp_right fun tracked => by simp [hasTarget, missing] at tracked
    · cases accepted

/-- A target that is left keeps its rules, and all others keep theirs. -/
theorem rulesOf_unsubscribe (watchers : Watchers) (target tested : Target) :
    (watchers.unsubscribe target).rulesOf tested = watchers.rulesOf tested := by
  unfold Watchers.unsubscribe
  split
  · rename_i watcher found
    rw [rulesOf_update]
    split
    · rename_i same
      rw [Watcher.rules_unsubscribe]
      simp only [rulesOf, rules, ← same, found]
    · rfl
  · rfl

end Watchers

namespace Subscribers

variable {subscribers : Subscribers}

/-- Releasing a target changes no rules. -/
theorem rulesOf_release (subscribers : Subscribers) (target tested : Target) :
    (subscribers.release target).watchers.rulesOf tested =
      subscribers.watchers.rulesOf tested := by
  unfold release
  split
  · rfl
  · exact Watchers.rulesOf_unsubscribe subscribers.watchers target tested

/-- Releasing several targets changes no rules. -/
theorem rulesOf_releaseAll (subscribers : Subscribers) (targets : List Target) (tested : Target) :
    (subscribers.releaseAll targets).watchers.rulesOf tested =
      subscribers.watchers.rulesOf tested := by
  induction targets generalizing subscribers with
  | nil => rfl
  | cons target rest inductionHypothesis =>
    exact (inductionHypothesis (subscribers.release target)).trans
      (rulesOf_release subscribers target tested)

/-- A client that leaves a target changes no rules. -/
theorem rulesOf_unsubscribe (subscribers : Subscribers) (protocol : Protocol) (target : Target)
    (client : ClientId) (tested : Target) :
    (subscribers.unsubscribe protocol target client).watchers.rulesOf tested =
      subscribers.watchers.rulesOf tested := by
  rw [unsubscribe, rulesOf_release, remove, watchers_withRegistry]

/-- A client that leaves all its targets changes no rules. -/
theorem rulesOf_disconnect (subscribers : Subscribers) (protocol : Protocol) (client : ClientId)
    (tested : Target) :
    (subscribers.disconnect protocol client).watchers.rulesOf tested =
      subscribers.watchers.rulesOf tested := by
  rw [disconnect, removeClient, rulesOf_releaseAll, watchers_withRegistry]

/-- A client that subscribes a target changes the rules of that target only, and only if nobody held
    it. -/
theorem rulesOf_subscribe (subscribers : Subscribers) (alive : StreamId → Bool)
    (protocol : Protocol) (target : Target) (client : ClientId) (stream : StreamId)
    {tested : Target} (kept : target ≠ tested ∨ subscribers.watchers.hasTarget target = true) :
    (subscribers.subscribe alive protocol target client stream).2.watchers.rulesOf tested =
      subscribers.watchers.rulesOf tested := by
  unfold subscribe
  cases accepted : subscribers.watchers.register target with
  | error fault => rfl
  | ok registered =>
    have same := Watchers.rulesOf_register accepted kept
    dsimp only
    split
    · rw [watchers_withRegistry]
      exact same
    · rw [rulesOf_release]
      exact same

end Subscribers

end RulePlane
