import RulePlane.Proofs.RegistrySlots
import RulePlane.Proofs.SupportedKinds

/-!
# Tracked targets

How long a watcher tracks a target: exactly as long as a client of either protocol holds it. A
client that leaves is taken out of its registry first and its targets are released afterwards, and
between the two anybody may subscribe, fail to subscribe or leave. So there are moments at which a
target is tracked that nobody holds any more; then it is still owed a release.

`Accounts` is the invariant, with one law for each step: what is held is tracked, and what is
tracked is held or owed. `tracked_exact` says what follows for any number of clients in any order.
Which connections are alive is not asked: each subscription is given a test of its own, so a
connection may die at any time.
-/

namespace RulePlane

namespace Watcher

/-- A change does not touch the subscriptions of a watcher. -/
theorem subscriptions_apply (watcher : Watcher) (change : Change) :
    (watcher.apply change).2.subscriptions = watcher.subscriptions := by
  rcases apply_cases watcher change with ⟨_, _, -, -, -, applied⟩ | ⟨-, applied⟩
  · rw [applied]
    rfl
  · rw [applied]
    exact (evict_frame (watcher.observe change) change.id).2.1

/-- A watcher that stops tracking a target tracks all others as before. -/
theorem hasTarget_unsubscribe (watcher : Watcher) (target tested : Target) :
    (watcher.unsubscribe target).2.hasTarget tested =
      (watcher.hasTarget tested && decide (tested ≠ target)) := by
  unfold unsubscribe
  split
  · exact Subscriptions.hasTarget_remove watcher.subscriptions target tested
  · rename_i absent
    by_cases same : tested = target
    · subst same
      simp [Bool.eq_false_iff.2 absent]
    · simp [same]

/-- A watcher that accepts a target tracks it, and all others as before. -/
theorem hasTarget_of_subscribe {watcher subscribed : Watcher} {target : Target} {added : Bool}
    (accepted : watcher.subscribe target = .ok (added, subscribed)) (tested : Target) :
    subscribed.hasTarget tested = (decide (tested = target) || watcher.hasTarget tested) := by
  obtain ⟨-, ⟨-, rfl⟩ | ⟨-, rfl⟩⟩ := subscribe_cases accepted
  · exact Subscriptions.hasTarget_add watcher.subscriptions target tested
  · exact Subscriptions.hasTarget_add watcher.subscriptions target tested

end Watcher

namespace Watchers

variable {watchers registered : Watchers}

/-- Some watcher tracks a target. -/
def Tracks (watchers : Watchers) (target : Target) : Prop :=
  ∃ kind watcher, watchers.watcher? kind = some watcher ∧ watcher.hasTarget target = true

/-- Every watcher is found under its own kind and tracks targets of that kind only. -/
def Sorted (watchers : Watchers) : Prop :=
  ∀ kind watcher, watchers.watcher? kind = some watcher →
    watcher.kind = kind ∧ ∀ target, watcher.hasTarget target = true → target.kind = kind

/-- Watchers of which none is active are sorted. -/
theorem sorted_ofKinds (kinds : KindTable) : (ofKinds kinds).Sorted := by
  rintro _ _ ⟨⟩

/-- Among sorted watchers a target is tracked by nobody but the watcher of its kind. -/
theorem Sorted.tracks_iff (sorted : watchers.Sorted) (target : Target) :
    watchers.Tracks target ↔ watchers.hasTarget target = true := by
  constructor
  · rintro ⟨kind, watcher, found, tracked⟩
    obtain rfl := (sorted kind watcher found).2 target tracked
    simpa only [hasTarget, found] using tracked
  · intro tracked
    unfold hasTarget at tracked
    split at tracked
    · rename_i watcher found
      exact ⟨_, watcher, found, tracked⟩
    · cases tracked

/-- Replacing the watcher of a kind by one of that kind keeps watchers sorted. -/
theorem Sorted.update (sorted : watchers.Sorted) {kind : Kind} {watcher : Watcher}
    (own : watcher.kind = kind)
    (kinds : ∀ target, watcher.hasTarget target = true → target.kind = kind) :
    (watchers.update kind watcher).Sorted := by
  intro tested found held
  rw [watcher?_update] at held
  split at held
  · rename_i same
    obtain rfl := Option.some.inj held
    rw [← same]
    exact ⟨own, kinds⟩
  · exact sorted tested found held

/-- The subscriptions of the watcher of a kind. A kind without a watcher has none. -/
def subscriptions (watchers : Watchers) (kind : Kind) : Subscriptions :=
  match watchers.watcher? kind with
  | some watcher => watcher.subscriptions
  | none => .empty

/-- A target is tracked if it is among the subscriptions of its kind. -/
theorem hasTarget_eq_subscriptions (watchers : Watchers) (target : Target) :
    watchers.hasTarget target = (watchers.subscriptions target.kind).hasTarget target := by
  unfold hasTarget subscriptions
  cases watchers.watcher? target.kind <;> rfl

/-- Replacing the watcher of a kind replaces the subscriptions of that kind only. -/
theorem subscriptions_update (watchers : Watchers) (kind : Kind) (watcher : Watcher)
    (tested : Kind) :
    (watchers.update kind watcher).subscriptions tested =
      if kind = tested then watcher.subscriptions else watchers.subscriptions tested := by
  unfold subscriptions
  rw [watcher?_update]
  by_cases same : kind = tested
  · rw [if_pos same, if_pos same]
  · rw [if_neg same, if_neg same]

/-- Replacing the watcher of a kind decides about the targets of that kind only. -/
theorem hasTarget_update (kind : Kind) (watcher : Watcher) (tested : Target) :
    (watchers.update kind watcher).hasTarget tested =
      if kind = tested.kind then watcher.hasTarget tested else watchers.hasTarget tested := by
  rw [hasTarget_eq_subscriptions, subscriptions_update, hasTarget_eq_subscriptions]
  split <;> rfl

/-- Every kind that had a watcher has one. -/
def Continues (before after : Watchers) : Prop :=
  ∀ kind, (before.watcher? kind).isSome = true → (after.watcher? kind).isSome = true

/-- Watchers that stay as they are continue. -/
theorem continues_refl (watchers : Watchers) : Continues watchers watchers :=
  fun _ active => active

/-- Replacing a watcher takes none away. -/
theorem continues_update (watchers : Watchers) (kind : Kind) (watcher : Watcher) :
    Continues watchers (watchers.update kind watcher) := by
  intro tested active
  rw [watcher?_update]
  split
  · rfl
  · exact active

/-- A target that is subscribed on a watcher of its kind is added to the subscriptions of the
    kind. -/
theorem subscriptions_subscribeOn {watcher : Watcher} {target : Target}
    (own : watcher.subscriptions = watchers.subscriptions target.kind)
    (accepted : watchers.subscribeOn watcher target = .ok registered) :
    Continues watchers registered ∧ ∀ kind, registered.subscriptions kind =
      if target.kind = kind then (watchers.subscriptions kind).add target
      else watchers.subscriptions kind := by
  unfold subscribeOn at accepted
  cases answer : watcher.subscribe target with
  | error fault =>
    rw [answer] at accepted
    cases accepted
  | ok result =>
    obtain ⟨added, subscribed⟩ := result
    rw [answer] at accepted
    cases accepted
    have extended : subscribed.subscriptions =
        (watchers.subscriptions target.kind).add target := by
      rw [← own]
      obtain ⟨-, ⟨-, rfl⟩ | ⟨-, rfl⟩⟩ := Watcher.subscribe_cases answer <;> rfl
    refine ⟨continues_update _ _ _, fun kind => ?_⟩
    rw [subscriptions_update]
    split
    · rename_i same
      rw [extended, same]
    · rfl

/-- A target that is registered is added to the subscriptions of its kind. -/
theorem subscriptions_register {target : Target}
    (accepted : watchers.register target = .ok registered) :
    Continues watchers registered ∧ ∀ kind, registered.subscriptions kind =
      if target.kind = kind then (watchers.subscriptions kind).add target
      else watchers.subscriptions kind := by
  rw [register_eq_registerOrStart, registerOrStart] at accepted
  split at accepted
  · rename_i watcher found
    refine subscriptions_subscribeOn ?_ accepted
    simp only [subscriptions, found]
  · rename_i missing
    split at accepted
    · refine subscriptions_subscribeOn ?_ accepted
      simp only [subscriptions, missing]
      rfl
    · cases accepted

/-- A target that is registered is tracked from then on, and all others are as before. -/
theorem hasTarget_register {target : Target} (accepted : watchers.register target = .ok registered)
    (tested : Target) :
    registered.hasTarget tested = (decide (tested = target) || watchers.hasTarget tested) := by
  rw [hasTarget_eq_subscriptions, (subscriptions_register accepted).2, hasTarget_eq_subscriptions]
  split
  · exact Subscriptions.hasTarget_add _ target tested
  · rename_i foreign
    have different : tested ≠ target := fun same => foreign (congrArg Target.kind same.symm)
    rw [decide_eq_false different, Bool.false_or]

/-- A target that is left is not tracked any more, and all others are as before. -/
theorem hasTarget_unsubscribe (watchers : Watchers) (target tested : Target) :
    (watchers.unsubscribe target).hasTarget tested =
      (watchers.hasTarget tested && decide (tested ≠ target)) := by
  unfold Watchers.unsubscribe
  split
  · rename_i watcher found
    rw [hasTarget_update]
    by_cases same : target.kind = tested.kind
    · rw [if_pos same, watcher.hasTarget_unsubscribe target]
      simp only [hasTarget, ← same, found]
    · have different : tested ≠ target := fun equal => same (congrArg Target.kind equal.symm)
      simp [same, different]
  · rename_i missing
    by_cases same : tested = target
    · subst same
      simp [hasTarget, missing]
    · simp [same]

/-- A target that is subscribed on a watcher of its kind leaves watchers sorted. -/
theorem Sorted.subscribeOn (sorted : watchers.Sorted) {watcher : Watcher} {target : Target}
    (own : watcher.kind = target.kind)
    (kinds : ∀ tested, watcher.hasTarget tested = true → tested.kind = target.kind)
    (accepted : watchers.subscribeOn watcher target = .ok registered) : registered.Sorted := by
  unfold Watchers.subscribeOn at accepted
  cases answer : watcher.subscribe target with
  | error fault =>
    rw [answer] at accepted
    cases accepted
  | ok result =>
    obtain ⟨added, subscribed⟩ := result
    rw [answer] at accepted
    cases accepted
    have tracked := Watcher.hasTarget_of_subscribe answer
    refine sorted.update ?_ fun tested present => ?_
    · obtain ⟨-, ⟨-, rfl⟩ | ⟨-, rfl⟩⟩ := Watcher.subscribe_cases answer <;> exact own
    · rw [tracked, Bool.or_eq_true, decide_eq_true_eq] at present
      rcases present with rfl | earlier
      · rfl
      · exact kinds tested earlier

/-- A target that is registered is tracked from then on, and all others are as before. Watchers stay
    sorted. -/
theorem Sorted.register (sorted : watchers.Sorted) {target : Target}
    (accepted : watchers.register target = .ok registered) :
    registered.Sorted ∧ ∀ tested, registered.hasTarget tested =
      (decide (tested = target) || watchers.hasTarget tested) := by
  refine ⟨?_, hasTarget_register accepted⟩
  rw [register_eq_registerOrStart, registerOrStart] at accepted
  split at accepted
  · rename_i watcher found
    obtain ⟨own, kinds⟩ := sorted _ watcher found
    exact sorted.subscribeOn own kinds accepted
  · split at accepted
    · refine sorted.subscribeOn rfl (fun tested present => ?_) accepted
      simp [Watcher.ofKind, Watcher.hasTarget, Subscriptions.hasTarget, Subscriptions.empty]
        at present
    · cases accepted

/-- A target that is left is not tracked any more, and all others are as before. Watchers stay
    sorted. -/
theorem Sorted.unsubscribe (sorted : watchers.Sorted) (target : Target) :
    (watchers.unsubscribe target).Sorted ∧
      ∀ tested, (watchers.unsubscribe target).hasTarget tested =
        (watchers.hasTarget tested && decide (tested ≠ target)) := by
  refine ⟨?_, hasTarget_unsubscribe watchers target⟩
  unfold Watchers.unsubscribe
  split
  · rename_i watcher found
    obtain ⟨own, kinds⟩ := sorted _ watcher found
    refine sorted.update ((watcher.kind_unsubscribe target).trans own) fun tested present => ?_
    rw [watcher.hasTarget_unsubscribe target, Bool.and_eq_true] at present
    exact kinds tested present.1
  · exact sorted

/-- A change that a watcher takes into account makes no difference to what is tracked. -/
theorem Sorted.apply (sorted : watchers.Sorted) {kind : Kind} {watcher : Watcher}
    (found : watchers.watcher? kind = some watcher) (change : Change) :
    (watchers.update kind (watcher.apply change).2).Sorted ∧
      ∀ tested, (watchers.update kind (watcher.apply change).2).hasTarget tested =
        watchers.hasTarget tested := by
  obtain ⟨own, kinds⟩ := sorted kind watcher found
  have tracked (tested : Target) :
      (watcher.apply change).2.hasTarget tested = watcher.hasTarget tested := by
    simp only [Watcher.hasTarget, watcher.subscriptions_apply change]
  refine ⟨sorted.update ((watcher.kind_apply change).trans own) fun tested present => ?_,
    fun tested => ?_⟩
  · exact kinds tested (tracked tested ▸ present)
  · rw [hasTarget_update]
    by_cases same : kind = tested.kind
    · rw [if_pos same, tracked]
      simp only [hasTarget, ← same, found]
    · rw [if_neg same]

end Watchers

namespace Subscribers

variable {subscribers : Subscribers} {owed : List Target}

/-- The registry of one protocol is replaced, that of the other stays. -/
theorem registry_withRegistry (subscribers : Subscribers) (protocol tested : Protocol)
    (registry : Registry StreamId) :
    (subscribers.withRegistry protocol registry).registry tested =
      if protocol = tested then registry else subscribers.registry tested := by
  cases protocol <;> cases tested <;> rfl

/-- Replacing a registry does not touch the watchers. -/
@[simp] theorem watchers_withRegistry (subscribers : Subscribers) (protocol : Protocol)
    (registry : Registry StreamId) :
    (subscribers.withRegistry protocol registry).watchers = subscribers.watchers := by
  cases protocol <;> rfl

/-- A client of some protocol holds a target. -/
def Holds (subscribers : Subscribers) (target : Target) : Prop :=
  ∃ protocol client, ((subscribers.registry protocol).connection? target client).isSome = true

/-- What is held is tracked, and what is tracked is held or owed a release. The watchers are sorted,
    and a target is listed in a registry only as long as somebody holds it. -/
structure Accounts (subscribers : Subscribers) (owed : List Target) : Prop where
  sorted : subscribers.watchers.Sorted
  pruned : ∀ protocol, Registry.Pruned (subscribers.registry protocol).holders
  tracked : ∀ target, subscribers.Holds target → subscribers.watchers.hasTarget target = true
  owing : ∀ target, subscribers.watchers.hasTarget target = true →
    subscribers.Holds target ∨ target ∈ owed

/-- Before anybody subscribes nothing is tracked and nothing is owed. -/
theorem accounts_ofKinds (kinds : KindTable) : (ofKinds kinds).Accounts [] where
  sorted := Watchers.sorted_ofKinds kinds
  pruned := by
    intro protocol
    cases protocol <;> exact Registry.pruned_empty
  tracked := by
    rintro target ⟨protocol, client, held⟩
    cases protocol <;> cases held
  owing := nofun

/-- Whether a target is held is read off the two registries. -/
theorem isHeld_iff (subscribers : Subscribers) (target : Target) :
    subscribers.isHeld target = true ↔ subscribers.Holds target := by
  have transport := Registry.isSome_holders?_iff subscribers.transport target
  have discovery := Registry.isSome_holders?_iff subscribers.discovery target
  unfold isHeld
  rw [Bool.or_eq_true]
  constructor
  · rintro (listed | listed)
    · exact ⟨.transport, transport.1 listed⟩
    · exact ⟨.discovery, discovery.1 listed⟩
  · rintro ⟨protocol, held⟩
    cases protocol with
    | transport => exact Or.inl (transport.2 held)
    | discovery => exact Or.inr (discovery.2 held)

/-- More may be owed than there is. -/
theorem Accounts.mono (accounts : subscribers.Accounts owed) {more : List Target}
    (included : ∀ target ∈ owed, target ∈ more) : subscribers.Accounts more :=
  { accounts with
    owing := fun target present => (accounts.owing target present).imp id (included target) }

/-- A target that the watchers begin to track is owed a release until somebody holds it. -/
theorem Accounts.registering (accounts : subscribers.Accounts owed) {target : Target}
    {registered : Watchers} (accepted : subscribers.watchers.register target = .ok registered) :
    ({ subscribers with watchers := registered } : Subscribers).Accounts (target :: owed) := by
  obtain ⟨sorted, tracked⟩ := accounts.sorted.register accepted
  have sameRegistry (protocol : Protocol) :
      ({ subscribers with watchers := registered } : Subscribers).registry protocol =
        subscribers.registry protocol := by
    cases protocol <;> rfl
  refine ⟨sorted, fun protocol => ?_, ?_, ?_⟩
  · rw [sameRegistry]
    exact accounts.pruned protocol
  · rintro tested ⟨protocol, client, held⟩
    rw [sameRegistry] at held
    have before := accounts.tracked tested ⟨protocol, client, held⟩
    simp [tracked, before]
  · intro tested present
    rw [tracked, Bool.or_eq_true, decide_eq_true_eq] at present
    rcases present with rfl | before
    · exact Or.inr List.mem_cons_self
    · rcases accounts.owing tested before with ⟨protocol, client, held⟩ | waiting
      · exact Or.inl ⟨protocol, client, by rwa [sameRegistry]⟩
      · exact Or.inr (List.mem_cons_of_mem target waiting)

/-- A tracked target that somebody comes to hold is owed no release any more. -/
theorem Accounts.seating (accounts : subscribers.Accounts (target :: owed)) {protocol : Protocol}
    {alive : StreamId → Bool} {client : ClientId} {stream : StreamId}
    {registry : Registry StreamId} (present : subscribers.watchers.hasTarget target = true)
    (added : (subscribers.registry protocol).add alive target client stream = .ok registry) :
    (subscribers.withRegistry protocol registry).Accounts owed := by
  have filled := Registry.isSome_connection?_add added
  refine ⟨?_, fun tested => ?_, ?_, ?_⟩
  · rw [watchers_withRegistry]
    exact accounts.sorted
  · rw [registry_withRegistry]
    split
    · exact (accounts.pruned protocol).add added
    · exact accounts.pruned tested
  · rintro tested ⟨side, other, held⟩
    rw [watchers_withRegistry]
    rw [registry_withRegistry] at held
    split at held
    · rcases (filled tested other).1 held with ⟨rfl, -⟩ | before
      · exact present
      · exact accounts.tracked tested ⟨protocol, other, before⟩
    · exact accounts.tracked tested ⟨side, other, held⟩
  · intro tested tracked
    rw [watchers_withRegistry] at tracked
    by_cases same : target = tested
    · refine Or.inl ⟨protocol, client, ?_⟩
      rw [registry_withRegistry, if_pos rfl]
      exact (filled tested client).2 (Or.inl ⟨same, rfl⟩)
    · rcases accounts.owing tested tracked with ⟨side, other, held⟩ | waiting
      · refine Or.inl ⟨side, other, ?_⟩
        rw [registry_withRegistry]
        split
        · rename_i own
          subst own
          exact (filled tested other).2 (Or.inr held)
        · exact held
      · rcases List.mem_cons.1 waiting with first | rest
        · exact absurd first.symm same
        · exact Or.inr rest

/-- After its release a target is owed one release less. -/
theorem Accounts.release (accounts : subscribers.Accounts owed) (target : Target) :
    (subscribers.release target).Accounts (owed.erase target) := by
  unfold Subscribers.release
  split
  · rename_i listed
    have held := (subscribers.isHeld_iff target).1 listed
    refine { accounts with owing := fun tested present => ?_ }
    rcases accounts.owing tested present with before | waiting
    · exact Or.inl before
    · by_cases same : tested = target
      · exact Or.inl (same ▸ held)
      · exact Or.inr ((List.mem_erase_of_ne same).2 waiting)
  · rename_i unlisted
    have free : ¬subscribers.Holds target := fun held =>
      unlisted ((subscribers.isHeld_iff target).2 held)
    obtain ⟨sorted, tracked⟩ := accounts.sorted.unsubscribe target
    refine ⟨sorted, accounts.pruned, fun tested held => ?_, fun tested present => ?_⟩
    · have different : tested ≠ target := fun same => free (same ▸ held)
      have before := accounts.tracked tested held
      simp [tracked, before, different]
    · rw [tracked, Bool.and_eq_true, decide_eq_true_eq] at present
      obtain ⟨before, different⟩ := present
      rcases accounts.owing tested before with held | waiting
      · exact Or.inl held
      · exact Or.inr ((List.mem_erase_of_ne different).2 waiting)

/-- A subscription owes nothing, whatever comes of it: if the connection is refused, the target is
    released at once. -/
theorem Accounts.subscribe (accounts : subscribers.Accounts owed) (alive : StreamId → Bool)
    (protocol : Protocol) (target : Target) (client : ClientId) (stream : StreamId) :
    (subscribers.subscribe alive protocol target client stream).2.Accounts owed := by
  unfold Subscribers.subscribe
  cases accepted : subscribers.watchers.register target with
  | error fault => exact accounts
  | ok registered =>
    have registering := accounts.registering accepted
    have present : registered.hasTarget target = true := by
      simp [(accounts.sorted.register accepted).2 target]
    dsimp only
    split
    · rename_i registry added
      exact registering.seating present added
    · have released := registering.release target
      rwa [List.erase_cons_head] at released

/-- A registry that gives up slots owes a release of each target that it gives up. -/
theorem Accounts.fewer (accounts : subscribers.Accounts owed) {protocol : Protocol}
    (rest : Registry StreamId) {lost : List Target} (pruned : Registry.Pruned rest.holders)
    (fewer : ∀ target client, (rest.connection? target client).isSome = true →
      ((subscribers.registry protocol).connection? target client).isSome = true)
    (noted : ∀ target client,
      ((subscribers.registry protocol).connection? target client).isSome = true →
        (rest.connection? target client).isSome = true ∨ target ∈ lost) :
    (subscribers.withRegistry protocol rest).Accounts (owed ++ lost) := by
  refine ⟨?_, fun tested => ?_, ?_, ?_⟩
  · rw [watchers_withRegistry]
    exact accounts.sorted
  · rw [registry_withRegistry]
    split
    · exact pruned
    · exact accounts.pruned tested
  · rintro tested ⟨side, other, held⟩
    rw [watchers_withRegistry]
    rw [registry_withRegistry] at held
    split at held
    · exact accounts.tracked tested ⟨protocol, other, fewer tested other held⟩
    · exact accounts.tracked tested ⟨side, other, held⟩
  · intro tested present
    rw [watchers_withRegistry] at present
    rcases accounts.owing tested present with ⟨side, other, held⟩ | waiting
    · by_cases own : protocol = side
      · subst own
        rcases noted tested other held with kept | gone
        · refine Or.inl ⟨protocol, other, ?_⟩
          rwa [registry_withRegistry, if_pos rfl]
        · exact Or.inr (List.mem_append_right owed gone)
      · refine Or.inl ⟨side, other, ?_⟩
        rwa [registry_withRegistry, if_neg own]
    · exact Or.inr (List.mem_append_left lost waiting)

/-- A client that is removed from a target owes a release of it, if it held it. -/
theorem Accounts.remove (accounts : subscribers.Accounts owed) (protocol : Protocol)
    (target : Target) (client : ClientId) :
    (subscribers.remove protocol target client).2.Accounts
      (owed ++ if (subscribers.remove protocol target client).1 then [target] else []) := by
  refine accounts.fewer ((subscribers.registry protocol).remove target client).2
    ((accounts.pruned protocol).vacate target client) ?_ ?_
  · intro tested other held
    rw [Registry.connection?_remove] at held
    split at held
    · cases held
    · exact held
  · intro tested other held
    rw [Registry.connection?_remove]
    split
    · rename_i own
      obtain ⟨rfl, rfl⟩ := own
      right
      simp [Subscribers.remove, Registry.remove, held]
    · exact Or.inl held

/-- A client that is removed from all its targets owes a release of each that it held. -/
theorem Accounts.removeClient (accounts : subscribers.Accounts owed) (protocol : Protocol)
    (client : ClientId) :
    (subscribers.removeClient protocol client).2.Accounts
      (owed ++ (subscribers.removeClient protocol client).1) := by
  refine accounts.fewer ((subscribers.registry protocol).removeClient client).2
    ((accounts.pruned protocol).vacateAll client _) ?_ ?_
  · intro tested other held
    rw [Registry.connection?_removeClient] at held
    split at held
    · cases held
    · exact held
  · intro tested other held
    rw [Registry.connection?_removeClient]
    split
    · rename_i own
      obtain ⟨listed, rfl⟩ := own
      exact Or.inr ((Registry.mem_vacateAll_iff client _ _ tested).2 ⟨listed, held⟩)
    · exact Or.inl held

/-- Leaving a target settles what it owes. -/
theorem Accounts.unsubscribe (accounts : subscribers.Accounts owed) (protocol : Protocol)
    (target : Target) (client : ClientId) :
    (subscribers.unsubscribe protocol target client).Accounts owed := by
  have owing : ∀ tested ∈ owed ++
      (if (subscribers.remove protocol target client).1 then [target] else []),
      tested ∈ target :: owed := by
    intro tested listed
    rcases List.mem_append.1 listed with before | fresh
    · exact List.mem_cons_of_mem target before
    · split at fresh
      · exact List.mem_singleton.1 fresh ▸ List.mem_cons_self
      · cases fresh
  have released := ((accounts.remove protocol target client).mono owing).release target
  rwa [List.erase_cons_head] at released

/-- Releasing all that is owed first leaves what is owed behind it. -/
theorem Accounts.releaseAll {targets rest : List Target}
    (accounts : subscribers.Accounts (targets ++ rest)) :
    (subscribers.releaseAll targets).Accounts rest := by
  induction targets generalizing subscribers with
  | nil => exact accounts
  | cons target others inductionHypothesis =>
    refine inductionHypothesis ?_
    have released := accounts.release target
    rwa [List.cons_append, List.erase_cons_head] at released

/-- A disconnect settles what it owes. -/
theorem Accounts.disconnect (accounts : subscribers.Accounts owed) (protocol : Protocol)
    (client : ClientId) : (subscribers.disconnect protocol client).Accounts owed := by
  refine Accounts.releaseAll ((accounts.removeClient protocol client).mono fun target listed => ?_)
  exact List.mem_append.2 (List.mem_append.1 listed).symm

/-- A subscription, whatever comes of it, takes no slot away. -/
theorem Holds.subscribe {target : Target} (held : subscribers.Holds target)
    (wellKept : subscribers.watchers.WellKept) (alive : StreamId → Bool) (protocol : Protocol)
    (taken : Target) (client : ClientId) (stream : StreamId) :
    (subscribers.subscribe alive protocol taken client stream).2.Holds target := by
  obtain ⟨side, owner, filled⟩ := held
  have outcomes := subscribe_cases wellKept alive protocol taken client stream
  generalize subscribers.subscribe alive protocol taken client stream = outcome at outcomes
  obtain ⟨result, after⟩ := outcome
  rcases outcomes with ⟨-, kept, -⟩ | ⟨-, -, kept, -⟩ |
    ⟨-, -, -, registered, registry, kept, added, rfl⟩
  · exact ⟨side, owner, by rwa [kept.registry]⟩
  · exact ⟨side, owner, by rwa [kept.registry]⟩
  · refine ⟨side, owner, ?_⟩
    rw [registry_withRegistry]
    split
    · rename_i own
      subst own
      exact (Registry.isSome_connection?_add added target owner).2 (Or.inr filled)
    · rwa [kept.registry]

/-- A change that a watcher takes into account makes no difference to what is held, tracked or
    owed. -/
theorem Accounts.apply (accounts : subscribers.Accounts owed) {kind : Kind} {watcher : Watcher}
    (found : subscribers.watchers.watcher? kind = some watcher) (change : Change) :
    ({ subscribers with
      watchers := subscribers.watchers.update kind (watcher.apply change).2 } :
        Subscribers).Accounts owed := by
  obtain ⟨sorted, tracked⟩ := accounts.sorted.apply found change
  refine ⟨sorted, accounts.pruned, fun tested held => ?_, fun tested present => ?_⟩
  · rw [tracked]
    exact accounts.tracked tested held
  · rw [tracked] at present
    exact accounts.owing tested present

end Subscribers

/-! ## Any number of clients -/

/-- The subscribers, and the targets that were removed from a client and still wait for their
    release, one entry for each removal. -/
structure Ledger where
  subscribers : Subscribers
  owed : List Target

namespace Ledger

/-- An atomic step. Clients subscribe, are removed and release in steps of their own; a watcher
    takes a change into account. Whether a connection is alive is decided anew for every
    subscription. -/
inductive Move where
  | subscribe (alive : StreamId → Bool) (protocol : Protocol) (target : Target)
      (client : ClientId) (stream : StreamId)
  | remove (protocol : Protocol) (target : Target) (client : ClientId)
  | removeClient (protocol : Protocol) (client : ClientId)
  | release (target : Target)
  | change (kind : Kind) (change : Change)

/-- Nobody has subscribed yet. -/
def start (kinds : KindTable) : Ledger := ⟨.ofKinds kinds, []⟩

/-- Take a step. A target may be released more often than it was removed. -/
def move (ledger : Ledger) : Move → Ledger
  | .subscribe alive protocol target client stream =>
      { ledger with
        subscribers := (ledger.subscribers.subscribe alive protocol target client stream).2 }
  | .remove protocol target client =>
      let (held, subscribers) := ledger.subscribers.remove protocol target client
      ⟨subscribers, ledger.owed ++ if held then [target] else []⟩
  | .removeClient protocol client =>
      let (held, subscribers) := ledger.subscribers.removeClient protocol client
      ⟨subscribers, ledger.owed ++ held⟩
  | .release target => ⟨ledger.subscribers.release target, ledger.owed.erase target⟩
  | .change kind change =>
      match ledger.subscribers.watchers.watcher? kind with
      | none => ledger
      | some watcher =>
          let watchers := ledger.subscribers.watchers.update kind (watcher.apply change).2
          { ledger with subscribers := { ledger.subscribers with watchers } }

/-- Take several steps, one after another. -/
def run (ledger : Ledger) (moves : List Move) : Ledger := moves.foldl move ledger

/-- Leaving a target is its removal and then its release. -/
theorem run_unsubscribe (ledger : Ledger) (protocol : Protocol) (target : Target)
    (client : ClientId) :
    (ledger.run [.remove protocol target client, .release target]).subscribers =
      ledger.subscribers.unsubscribe protocol target client := rfl

/-- A disconnect is the removal of the client and then a release of each target that it held. -/
theorem run_disconnect (ledger : Ledger) (protocol : Protocol) (client : ClientId) :
    (ledger.run (.removeClient protocol client ::
      (ledger.subscribers.removeClient protocol client).1.map .release)).subscribers =
        ledger.subscribers.disconnect protocol client := by
  have releases (targets : List Target) (before : Ledger) :
      (before.run (targets.map .release)).subscribers = before.subscribers.releaseAll targets := by
    induction targets generalizing before with
    | nil => rfl
    | cons target rest inductionHypothesis =>
      exact inductionHypothesis (before.move (.release target))
  exact releases _ _

/-- Before the first step the accounts are balanced. -/
theorem accounts_start (kinds : KindTable) :
    (start kinds).subscribers.Accounts (start kinds).owed := Subscribers.accounts_ofKinds kinds

/-- Every step keeps account of what is owed. -/
theorem accounts_move {ledger : Ledger} (accounts : ledger.subscribers.Accounts ledger.owed)
    (step : Move) : (ledger.move step).subscribers.Accounts (ledger.move step).owed := by
  cases step with
  | subscribe alive protocol target client stream =>
    exact accounts.subscribe alive protocol target client stream
  | remove protocol target client => exact accounts.remove protocol target client
  | removeClient protocol client => exact accounts.removeClient protocol client
  | release target => exact accounts.release target
  | change kind change =>
    unfold move
    dsimp only
    split
    · exact accounts
    · rename_i watcher found
      exact accounts.apply found change

/-- So does a whole run. -/
theorem accounts_run {ledger : Ledger} (accounts : ledger.subscribers.Accounts ledger.owed)
    (moves : List Move) : (ledger.run moves).subscribers.Accounts (ledger.run moves).owed := by
  induction moves generalizing ledger with
  | nil => exact accounts
  | cons step rest inductionHypothesis => exact inductionHypothesis (accounts_move accounts step)

/-- After any steps of any clients, a target that a client of either protocol holds is tracked by
    the watcher of its kind; and a target that is not owed a release is tracked by a watcher only
    if a client holds it, so that when nothing is owed any more, the tracked targets are exactly
    those that are held. -/
theorem tracked_exact (kinds : KindTable) (moves : List Move) (target : Target) :
    let ledger := (start kinds).run moves
    (ledger.subscribers.Holds target →
      ∃ watcher, ledger.subscribers.watchers.watcher? target.kind = some watcher ∧
        watcher.kind = target.kind ∧ watcher.hasTarget target = true) ∧
    (target ∉ ledger.owed → ledger.subscribers.watchers.Tracks target →
      ledger.subscribers.Holds target) ∧
    (ledger.owed = [] →
      (ledger.subscribers.watchers.Tracks target ↔ ledger.subscribers.Holds target)) := by
  intro ledger
  have accounts : ledger.subscribers.Accounts ledger.owed :=
    accounts_run (accounts_start kinds) moves
  have holding (held : ledger.subscribers.Holds target) :
      ∃ watcher, ledger.subscribers.watchers.watcher? target.kind = some watcher ∧
        watcher.kind = target.kind ∧ watcher.hasTarget target = true := by
    have tracked := accounts.tracked target held
    unfold Watchers.hasTarget at tracked
    split at tracked
    · rename_i watcher found
      exact ⟨watcher, found, (accounts.sorted _ watcher found).1, tracked⟩
    · cases tracked
  have tracking (unowed : target ∉ ledger.owed)
      (tracks : ledger.subscribers.watchers.Tracks target) : ledger.subscribers.Holds target := by
    have tracked := (accounts.sorted.tracks_iff target).1 tracks
    exact (accounts.owing target tracked).resolve_right unowed
  refine ⟨holding, tracking, fun settled => ⟨tracking ?_, fun held => ?_⟩⟩
  · rw [settled]
    exact List.not_mem_nil
  · obtain ⟨watcher, found, -, tracked⟩ := holding held
    exact ⟨target.kind, watcher, found, tracked⟩

/-- The rate limits of an application. -/
def contended : Target :=
  ⟨⟨"default", "foo"⟩, ⟨"fault-tolerance.opensergo.io/v1alpha1/RateLimitStrategy"⟩⟩

/-- A client takes a target and is removed from it. Before the release another client of the other
    protocol takes it, and a third one cannot, since its connection is dead. -/
def handedOver : List Move :=
  [.subscribe (fun _ => true) .transport contended ⟨"first"⟩ ⟨0⟩,
    .remove .transport contended ⟨"first"⟩,
    .subscribe (fun _ => true) .discovery contended ⟨"second"⟩ ⟨1⟩,
    .subscribe (fun _ => false) .transport contended ⟨"third"⟩ ⟨2⟩,
    .release contended]

/-- The late release does not take the target from the client that came in between. -/
theorem tracked_exact_handedOver :
    let ledger := (start KindTable.builtIn).run handedOver
    ledger.owed = [] ∧
      (ledger.subscribers.discovery.connection? contended ⟨"second"⟩).isSome = true ∧
      (∃ watcher, ledger.subscribers.watchers.watcher? contended.kind = some watcher ∧
        watcher.kind = contended.kind ∧ watcher.hasTarget contended = true) ∧
      ledger.subscribers.watchers.Tracks contended := by
  have settled : ((start KindTable.builtIn).run handedOver).owed = [] := by decide +kernel
  have held : ((((start KindTable.builtIn).run handedOver).subscribers.registry
      .discovery).connection? contended ⟨"second"⟩).isSome = true := by decide +kernel
  obtain ⟨tracked, -, exact⟩ := tracked_exact KindTable.builtIn handedOver contended
  exact ⟨settled, held, tracked ⟨_, _, held⟩, (exact settled).2 ⟨_, _, held⟩⟩

end Ledger

end RulePlane
