import RulePlane.Proofs.TrackedTargets

/-!
# Refused subscriptions

What a refused subscription leaves behind: nothing but a watcher that tracks no target. The watcher
of the target accepts it before the connection is known to be dead, so the target has to be released
again, though not if a client of either protocol holds it. As long as no release of the target is
pending it is tracked exactly if somebody holds it, and so the release undoes what the registration
did and no more. A pending release would come early.

That everything is undone, down to the last namespace, needs an invariant of its own: a watcher
computes the namespaces and applications that it listens for anew when it drops a target, and
extends them when it accepts one. `Mirrored` says that either way they are those of its targets.
-/

namespace RulePlane

namespace Subscriptions

variable {subscriptions : Subscriptions} {target : Target}

/-- The namespaces and applications are those of the targets. -/
structure Mirrored (subscriptions : Subscriptions) : Prop where
  scopes : subscriptions.scopes = scopesOf subscriptions.targets
  apps : subscriptions.apps = appsOf subscriptions.targets

/-- No targets have no namespaces and no applications. -/
theorem mirrored_empty : empty.Mirrored := ⟨rfl, rfl⟩

/-- Dropping a target computes the namespaces and applications anew. -/
theorem mirrored_remove (subscriptions : Subscriptions) (target : Target) :
    (subscriptions.remove target).Mirrored := ⟨rfl, rfl⟩

/-- A target that is tracked already adds nothing. -/
theorem Mirrored.add_of_tracked (mirrored : subscriptions.Mirrored)
    (tracked : subscriptions.hasTarget target = true) :
    subscriptions.add target = subscriptions := by
  have listed : target ∈ subscriptions.targets := by simpa [hasTarget] using tracked
  have scope : target.app.scope ∈ subscriptions.scopes := by
    rw [mirrored.scopes]
    exact (mem_scopesOf_iff _ _).2 ⟨target, listed, rfl⟩
  have app : target.app ∈ subscriptions.apps := by
    rw [mirrored.apps]
    exact (mem_appsOf_iff _ _).2 ⟨target, listed, rfl⟩
  unfold add
  rw [List.insert_of_mem listed, List.insert_of_mem scope, List.insert_of_mem app]

/-- A new target comes before all others. -/
theorem targets_add_of_untracked (untracked : subscriptions.hasTarget target = false) :
    (subscriptions.add target).targets = target :: subscriptions.targets := by
  have unlisted : target ∉ subscriptions.targets := by simpa [hasTarget] using untracked
  exact List.insert_of_not_mem unlisted

/-- Adding a target keeps the namespaces and applications those of the targets. -/
theorem Mirrored.add (mirrored : subscriptions.Mirrored) (target : Target) :
    (subscriptions.add target).Mirrored := by
  cases tracked : subscriptions.hasTarget target with
  | true =>
    rw [mirrored.add_of_tracked tracked]
    exact mirrored
  | false =>
    have listed := targets_add_of_untracked tracked
    refine ⟨?_, ?_⟩
    · rw [listed, scopesOf, List.foldr_cons, ← scopesOf, ← mirrored.scopes]
      rfl
    · rw [listed, appsOf, List.foldr_cons, ← appsOf, ← mirrored.apps]
      rfl

/-- Removing a target that is not tracked changes nothing. -/
theorem Mirrored.remove_of_untracked (mirrored : subscriptions.Mirrored)
    (untracked : subscriptions.hasTarget target = false) :
    subscriptions.remove target = subscriptions := by
  have unlisted : target ∉ subscriptions.targets := by simpa [hasTarget] using untracked
  have rest : subscriptions.targets.filter (fun present => present ≠ target) =
      subscriptions.targets := by
    refine List.filter_eq_self.2 fun present listed => decide_eq_true fun same => ?_
    exact unlisted (same ▸ listed)
  simp only [remove, rest, ← mirrored.scopes, ← mirrored.apps]

/-- Removing a target undoes its addition. -/
theorem Mirrored.remove_add (mirrored : subscriptions.Mirrored)
    (untracked : subscriptions.hasTarget target = false) :
    (subscriptions.add target).remove target = subscriptions := by
  have same : (subscriptions.add target).remove target = subscriptions.remove target := by
    simp only [remove, targets_add_of_untracked untracked, List.filter_cons, ne_eq,
      not_true_eq_false, decide_false, Bool.false_eq_true, if_false]
  exact same.trans (mirrored.remove_of_untracked untracked)

end Subscriptions

namespace Watchers

variable {watchers registered : Watchers}

/-- The namespaces and applications of every watcher are those of its targets. -/
def Mirrored (watchers : Watchers) : Prop := ∀ kind, (watchers.subscriptions kind).Mirrored

/-- Registering a target keeps every watcher's namespaces and applications those of its targets. -/
theorem Mirrored.register (mirrored : watchers.Mirrored) {target : Target}
    (accepted : watchers.register target = .ok registered) : registered.Mirrored := by
  intro kind
  rw [(subscriptions_register accepted).2]
  split
  · exact (mirrored kind).add target
  · exact mirrored kind

/-- A target that is left is removed from the subscriptions of its kind. -/
theorem Mirrored.subscriptions_unsubscribe (mirrored : watchers.Mirrored) (target : Target) :
    Continues watchers (watchers.unsubscribe target) ∧
      ∀ kind, (watchers.unsubscribe target).subscriptions kind =
        if target.kind = kind then (watchers.subscriptions kind).remove target
        else watchers.subscriptions kind := by
  unfold unsubscribe
  split
  · rename_i watcher found
    have own : watchers.subscriptions target.kind = watcher.subscriptions := by
      simp only [subscriptions, found]
    have reduced : (watcher.unsubscribe target).2.subscriptions =
        (watchers.subscriptions target.kind).remove target := by
      unfold Watcher.unsubscribe
      split
      · rw [own]
      · rename_i untracked
        refine Eq.trans ?_ ((mirrored target.kind).remove_of_untracked ?_).symm
        · exact own.symm
        · rw [own]
          exact Bool.eq_false_iff.2 untracked
    refine ⟨continues_update _ _ _, fun kind => ?_⟩
    rw [subscriptions_update]
    split
    · rename_i same
      rw [reduced, same]
    · rfl
  · rename_i missing
    refine ⟨continues_refl _, fun kind => ?_⟩
    split
    · rename_i same
      have none : watchers.subscriptions kind = .empty := by
        simp only [subscriptions, ← same, missing]
      rw [none]
      rfl
    · rfl

/-- Leaving a target keeps every watcher's namespaces and applications those of its targets. -/
theorem Mirrored.unsubscribe (mirrored : watchers.Mirrored) (target : Target) :
    (watchers.unsubscribe target).Mirrored := by
  intro kind
  rw [(mirrored.subscriptions_unsubscribe target).2]
  split
  · exact Subscriptions.mirrored_remove _ target
  · exact mirrored kind

/-- A change that a watcher takes into account leaves all subscriptions alone. -/
theorem Mirrored.apply (mirrored : watchers.Mirrored) {kind : Kind} {watcher : Watcher}
    (found : watchers.watcher? kind = some watcher) (change : Change) :
    (watchers.update kind (watcher.apply change).2).Mirrored := by
  intro tested
  rw [subscriptions_update, watcher.subscriptions_apply change]
  split
  · have own := mirrored kind
    simpa only [subscriptions, found] using own
  · exact mirrored tested

end Watchers

namespace Subscribers

variable {subscribers : Subscribers} {owed : List Target}

/-- The registries and the subscriptions of every kind are those from before, and no watcher is
    gone. -/
structure Restores (before after : Subscribers) : Prop where
  transport : after.transport = before.transport
  discovery : after.discovery = before.discovery
  continues : before.watchers.Continues after.watchers
  subscriptions : ∀ kind, after.watchers.subscriptions kind = before.watchers.subscriptions kind

/-- Releasing a target keeps every watcher's namespaces and applications those of its targets. -/
theorem mirrored_release (mirrored : subscribers.watchers.Mirrored) (target : Target) :
    (subscribers.release target).watchers.Mirrored := by
  unfold release
  split
  · exact mirrored
  · exact mirrored.unsubscribe target

/-- So does a subscription, whatever comes of it. -/
theorem mirrored_subscribe (mirrored : subscribers.watchers.Mirrored) (alive : StreamId → Bool)
    (protocol : Protocol) (target : Target) (client : ClientId) (stream : StreamId) :
    (subscribers.subscribe alive protocol target client stream).2.watchers.Mirrored := by
  unfold subscribe
  cases accepted : subscribers.watchers.register target with
  | error fault => exact mirrored
  | ok registered =>
    have registering := mirrored.register accepted
    dsimp only
    split
    · rwa [watchers_withRegistry]
    · exact mirrored_release registering target

/-- Releasing a target that is owed nothing undoes its registration. A target that somebody holds
    was tracked before and stays so; one that nobody holds was not tracked before, as nothing is
    owed, and is dropped again. -/
theorem Accounts.restores_release (accounts : subscribers.Accounts owed)
    (mirrored : subscribers.watchers.Mirrored) {target : Target} (unowed : target ∉ owed)
    {registered : Watchers} (accepted : subscribers.watchers.register target = .ok registered) :
    Restores subscribers
      (({ subscribers with watchers := registered } : Subscribers).release target) := by
  obtain ⟨continues, extended⟩ := Watchers.subscriptions_register accepted
  have sameHolders : ({ subscribers with watchers := registered } : Subscribers).isHeld target =
      subscribers.isHeld target := rfl
  unfold Subscribers.release
  rw [sameHolders]
  cases held : subscribers.isHeld target with
  | true =>
    have tracked := accounts.tracked target ((subscribers.isHeld_iff target).1 held)
    rw [Watchers.hasTarget_eq_subscriptions] at tracked
    refine ⟨rfl, rfl, continues, fun kind => ?_⟩
    refine (extended kind).trans ?_
    split
    · rename_i same
      subst same
      exact (mirrored target.kind).add_of_tracked tracked
    · rfl
  | false =>
    have untracked : subscribers.watchers.hasTarget target = false := by
      refine Bool.eq_false_iff.2 fun tracked => ?_
      rcases accounts.owing target tracked with holds | waiting
      · rw [(subscribers.isHeld_iff target).2 holds] at held
        cases held
      · exact unowed waiting
    rw [Watchers.hasTarget_eq_subscriptions] at untracked
    obtain ⟨still, reduced⟩ := (mirrored.register accepted).subscriptions_unsubscribe target
    refine ⟨rfl, rfl, fun kind active => still kind (continues kind active), fun kind => ?_⟩
    refine (reduced kind).trans ?_
    rw [extended kind]
    split
    · rename_i same
      subst same
      exact (mirrored target.kind).remove_add untracked
    · rfl

/-- A subscription that is refused restores everything. -/
theorem Accounts.restores_subscribe (accounts : subscribers.Accounts owed)
    (mirrored : subscribers.watchers.Mirrored) {alive : StreamId → Bool} {protocol : Protocol}
    {target : Target} (unowed : target ∉ owed) {client : ClientId} {stream : StreamId}
    {fault : SubscribeError}
    (refused : (subscribers.subscribe alive protocol target client stream).1 = .error fault) :
    Restores subscribers (subscribers.subscribe alive protocol target client stream).2 := by
  unfold Subscribers.subscribe at refused ⊢
  cases accepted : subscribers.watchers.register target with
  | error reason => exact ⟨rfl, rfl, Watchers.continues_refl _, fun _ => rfl⟩
  | ok registered =>
    rw [accepted] at refused
    dsimp only at refused ⊢
    split at refused
    · cases refused
    · exact accounts.restores_release mirrored unowed accepted

end Subscribers

namespace Ledger

/-- Before the first step no watcher listens for anything. -/
theorem mirrored_start (kinds : KindTable) : (start kinds).subscribers.watchers.Mirrored :=
  fun _ => Subscriptions.mirrored_empty

/-- Every step keeps every watcher's namespaces and applications those of its targets. -/
theorem mirrored_move {ledger : Ledger} (mirrored : ledger.subscribers.watchers.Mirrored)
    (step : Move) : (ledger.move step).subscribers.watchers.Mirrored := by
  cases step with
  | subscribe alive protocol target client stream =>
    exact Subscribers.mirrored_subscribe mirrored alive protocol target client stream
  | remove protocol target client => cases protocol <;> exact mirrored
  | removeClient protocol client => cases protocol <;> exact mirrored
  | release target => exact Subscribers.mirrored_release mirrored target
  | change kind change =>
    unfold move
    dsimp only
    split
    · exact mirrored
    · rename_i watcher found
      exact mirrored.apply found change

/-- So does a whole run. -/
theorem mirrored_run {ledger : Ledger} (mirrored : ledger.subscribers.watchers.Mirrored)
    (moves : List Move) : (ledger.run moves).subscribers.watchers.Mirrored := by
  induction moves generalizing ledger with
  | nil => exact mirrored
  | cons step rest inductionHypothesis => exact inductionHypothesis (mirrored_move mirrored step)

/-- After any steps of any clients, a subscription that is refused, to a target that is owed no
    release, leaves both registries as they were, and every watcher with the targets, namespaces
    and applications that it had. A watcher that it started has none. -/
theorem refused_subscription_restores (kinds : KindTable) (moves : List Move)
    (alive : StreamId → Bool) (protocol : Protocol) (target : Target) (client : ClientId)
    (stream : StreamId) (fault : SubscribeError)
    (unowed : target ∉ ((start kinds).run moves).owed)
    (refused : (((start kinds).run moves).subscribers.subscribe
      alive protocol target client stream).1 = .error fault) :
    let before := ((start kinds).run moves).subscribers
    let after := (before.subscribe alive protocol target client stream).2
    after.transport = before.transport ∧ after.discovery = before.discovery ∧
      (∀ kind watcher, before.watchers.watcher? kind = some watcher →
        ∃ later, after.watchers.watcher? kind = some later ∧
          later.subscriptions = watcher.subscriptions) ∧
      (∀ kind later, before.watchers.watcher? kind = none →
        after.watchers.watcher? kind = some later → later.subscriptions = .empty) := by
  intro before after
  have accounts : before.Accounts ((start kinds).run moves).owed :=
    accounts_run (accounts_start kinds) moves
  have mirrored : before.watchers.Mirrored := mirrored_run (mirrored_start kinds) moves
  have restores : Subscribers.Restores before after :=
    accounts.restores_subscribe mirrored unowed refused
  refine ⟨restores.transport, restores.discovery, ?_, ?_⟩
  · intro kind watcher found
    obtain ⟨later, active⟩ := Option.isSome_iff_exists.1
      (restores.continues kind (by rw [found]; rfl))
    have same := restores.subscriptions kind
    simp only [Watchers.subscriptions, found, active] at same
    exact ⟨later, active, same⟩
  · intro kind later missing active
    have same := restores.subscriptions kind
    simp only [Watchers.subscriptions, missing, active] at same
    exact same

/-- A discovery client takes the rate limits of an application. -/
def taken : List Move :=
  [.subscribe (fun _ => true) .discovery contended ⟨"first"⟩ ⟨0⟩]

/-- The circuit breakers of the application. They have no watcher until somebody asks for them. -/
def untouched : Target :=
  ⟨⟨"default", "foo"⟩, ⟨"fault-tolerance.opensergo.io/v1alpha1/CircuitBreakerStrategy"⟩⟩

/-- A transport client whose connection is dead asks for the target that the discovery client holds,
    which stays tracked, and for one that nobody has asked for, whose new watcher tracks nothing. -/
theorem refused_subscription_restores_taken :
    let before := ((start KindTable.builtIn).run taken).subscribers
    let again := before.subscribe (fun _ => false) .transport contended ⟨"second"⟩ ⟨1⟩
    let fresh := before.subscribe (fun _ => false) .transport untouched ⟨"second"⟩ ⟨1⟩
    (∃ watcher, before.watchers.watcher? contended.kind = some watcher ∧
      watcher.hasTarget contended = true ∧
      ∃ later, again.2.watchers.watcher? contended.kind = some later ∧
        later.subscriptions = watcher.subscriptions) ∧
    (before.watchers.watcher? untouched.kind = none ∧
      ∃ later, fresh.2.watchers.watcher? untouched.kind = some later ∧
        later.subscriptions = .empty) := by
  have settled (target : Target) : target ∉ ((start KindTable.builtIn).run taken).owed := by
    have nothing : ((start KindTable.builtIn).run taken).owed = [] := rfl
    rw [nothing]
    exact List.not_mem_nil
  intro before again fresh
  obtain ⟨-, -, kept, -⟩ := refused_subscription_restores KindTable.builtIn taken (fun _ => false)
    .transport contended ⟨"second"⟩ ⟨1⟩ (.registry (.deadConnection ⟨"second"⟩)) (settled _)
    (by decide +kernel)
  obtain ⟨-, -, -, emptied⟩ := refused_subscription_restores KindTable.builtIn taken
    (fun _ => false) .transport untouched ⟨"second"⟩ ⟨1⟩
    (.registry (.deadConnection ⟨"second"⟩)) (settled _) (by decide +kernel)
  have missing : before.watchers.watcher? untouched.kind = none := by rfl
  refine ⟨?_, missing, ?_⟩
  · have tracked : ∃ watcher, before.watchers.watcher? contended.kind = some watcher ∧
        watcher.hasTarget contended = true := ⟨_, rfl, by decide +kernel⟩
    obtain ⟨watcher, found, present⟩ := tracked
    exact ⟨watcher, found, present, kept _ watcher found⟩
  · have started : (fresh.2.watchers.watcher? untouched.kind).isSome = true := by decide +kernel
    obtain ⟨later, active⟩ := Option.isSome_iff_exists.1 started
    exact ⟨later, active, emptied _ later missing active⟩

end Ledger

end RulePlane
