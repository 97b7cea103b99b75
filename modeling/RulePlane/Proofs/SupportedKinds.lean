import RulePlane.Proofs.WatcherHistory
import RulePlane.Subscribers

/-!
# Subscriptions to supported kinds

Which subscriptions are refused. A watcher is created for a supported kind only and is found under
its own kind; `WellKept` says so, and everything that happens to the watchers keeps it. It follows
that a registration is refused exactly if the kind is not supported (`register_isOk_iff`): a watcher
is never asked for a target of another kind.

For a client that leaves two reasons why a subscription fails: the kind is not supported, or its own
connection is not valid. `subscribe_cases` says what each outcome does to the registries. The
watchers may do whatever they like in between: `KeepsSlots` says that nobody's slot depends on it.
-/

namespace RulePlane

namespace Watcher

/-- Whatever a change does to a watcher, the watcher stays one of its kind. -/
theorem kind_apply (watcher : Watcher) (change : Change) :
    (watcher.apply change).2.kind = watcher.kind := by
  have unchanged := kind_advance watcher (.event watcher.kind change)
  simpa [advance, handle] using unchanged

/-- A watcher stays one of its kind when a target is left. -/
theorem kind_unsubscribe (watcher : Watcher) (target : Target) :
    (watcher.unsubscribe target).2.kind = watcher.kind :=
  kind_advance watcher (.unsubscribe target)

/-- A watcher accepts every target of its kind, and stays one of its kind. -/
theorem subscribe_of_kind {watcher : Watcher} {target : Target}
    (own : target.kind = watcher.kind) :
    ∃ added subscribed, watcher.subscribe target = .ok (added, subscribed) ∧
      subscribed.kind = watcher.kind := by
  unfold subscribe
  rw [if_pos own]
  exact ⟨_, _, rfl, rfl⟩

end Watcher

namespace Watchers

/-- Whether a kind is supported. -/
def supports (watchers : Watchers) (kind : Kind) : Bool := watchers.kinds.contains kind

/-- Every active watcher is found under its own kind, and that is supported. -/
def WellKept (watchers : Watchers) : Prop :=
  ∀ kind watcher, watchers.watcher? kind = some watcher →
    watcher.kind = kind ∧ watchers.supports kind = true

/-- Watchers of which none is active are well kept. -/
theorem wellKept_ofKinds (kinds : KindTable) : (ofKinds kinds).WellKept := by
  rintro _ _ ⟨⟩

/-- Replacing the watcher of a supported kind by one of that kind keeps watchers well kept. -/
theorem WellKept.update {watchers : Watchers} (wellKept : watchers.WellKept) {kind : Kind}
    {watcher : Watcher} (own : watcher.kind = kind) (supported : watchers.supports kind = true) :
    (watchers.update kind watcher).WellKept := by
  intro tested found held
  rw [watcher?_update] at held
  split at held
  · rename_i same
    obtain rfl := Option.some.inj held
    exact ⟨own.trans same, same ▸ supported⟩
  · exact wellKept tested found held

/-- Leaving a target changes no supported kind. -/
@[simp] theorem kinds_unsubscribe (watchers : Watchers) (target : Target) :
    (watchers.unsubscribe target).kinds = watchers.kinds := by
  unfold unsubscribe
  split <;> rfl

/-- Leaving a target keeps watchers well kept. -/
theorem WellKept.unsubscribe {watchers : Watchers} (wellKept : watchers.WellKept)
    (target : Target) : (watchers.unsubscribe target).WellKept := by
  unfold Watchers.unsubscribe
  split
  · rename_i watcher found
    obtain ⟨own, supported⟩ := wellKept _ watcher found
    exact wellKept.update ((watcher.kind_unsubscribe target).trans own) supported
  · exact wellKept

/-- Subscribing a target on a watcher of its supported kind is accepted, and keeps watchers well
    kept. -/
theorem WellKept.subscribeOn {watchers : Watchers} (wellKept : watchers.WellKept)
    {watcher : Watcher} {target : Target} (own : watcher.kind = target.kind)
    (supported : watchers.supports target.kind = true) :
    ∃ registered, watchers.subscribeOn watcher target = .ok registered ∧
      registered.kinds = watchers.kinds ∧ registered.WellKept := by
  obtain ⟨added, subscribed, accepted, sameKind⟩ := Watcher.subscribe_of_kind own.symm
  refine ⟨watchers.update target.kind subscribed, ?_, rfl,
    wellKept.update (sameKind.trans own) supported⟩
  simp only [Watchers.subscribeOn, accepted]
  rfl

/-- A target of a supported kind is registered, and the watchers stay well kept. -/
theorem WellKept.register {watchers : Watchers} (wellKept : watchers.WellKept) {target : Target}
    (supported : watchers.supports target.kind = true) :
    ∃ registered, watchers.register target = .ok registered ∧
      registered.kinds = watchers.kinds ∧ registered.WellKept := by
  rw [register_eq_registerOrStart, registerOrStart]
  cases found : watchers.watcher? target.kind with
  | some watcher => exact wellKept.subscribeOn (wellKept _ watcher found).1 supported
  | none =>
    obtain ⟨entry, listed⟩ := Option.isSome_iff_exists.1 supported
    simp only [listed]
    exact wellKept.subscribeOn rfl supported

/-- A target is registered exactly if its kind is supported. -/
theorem WellKept.register_isOk_iff {watchers : Watchers} (wellKept : watchers.WellKept)
    (target : Target) :
    (watchers.register target).isOk = true ↔ watchers.supports target.kind = true := by
  constructor
  · intro accepted
    rw [register_eq_registerOrStart, registerOrStart] at accepted
    split at accepted
    · rename_i watcher found
      exact (wellKept _ watcher found).2
    · split at accepted
      · rename_i entry listed
        simp [supports, Table.contains, listed]
      · cases accepted
  · intro supported
    obtain ⟨registered, accepted, -⟩ := wellKept.register supported
    rw [accepted]
    rfl

end Watchers

namespace Subscribers

/-- No slot of either registry changes, the same kinds are supported, and well kept watchers stay
    so. -/
structure KeepsSlots (before after : Subscribers) : Prop where
  transport : after.transport = before.transport
  discovery : after.discovery = before.discovery
  kinds : after.watchers.kinds = before.watchers.kinds
  wellKept : before.watchers.WellKept → after.watchers.WellKept

/-- Doing nothing keeps all slots. -/
theorem keepsSlots_refl (subscribers : Subscribers) : KeepsSlots subscribers subscribers :=
  ⟨rfl, rfl, rfl, fun wellKept => wellKept⟩

/-- Slots that are kept twice are kept. -/
theorem KeepsSlots.trans {first second third : Subscribers} (earlier : KeepsSlots first second)
    (later : KeepsSlots second third) : KeepsSlots first third :=
  ⟨later.transport.trans earlier.transport, later.discovery.trans earlier.discovery,
    later.kinds.trans earlier.kinds, fun wellKept => later.wellKept (earlier.wellKept wellKept)⟩

/-- The registries of both protocols are those from before. -/
theorem KeepsSlots.registry {before after : Subscribers} (kept : KeepsSlots before after)
    (protocol : Protocol) : after.registry protocol = before.registry protocol := by
  cases protocol with
  | transport => exact kept.transport
  | discovery => exact kept.discovery

/-- Releasing a target keeps all slots. -/
theorem keepsSlots_release (subscribers : Subscribers) (target : Target) :
    KeepsSlots subscribers (subscribers.release target) := by
  unfold release
  split
  · exact keepsSlots_refl subscribers
  · exact ⟨rfl, rfl, Watchers.kinds_unsubscribe _ _, fun wellKept => wellKept.unsubscribe target⟩

/-- Releasing several targets keeps all slots. -/
theorem keepsSlots_releaseAll (subscribers : Subscribers) (targets : List Target) :
    KeepsSlots subscribers (subscribers.releaseAll targets) := by
  induction targets generalizing subscribers with
  | nil => exact keepsSlots_refl subscribers
  | cons target rest inductionHypothesis =>
    exact (keepsSlots_release subscribers target).trans (inductionHypothesis _)

/-- What comes of a subscription. It is refused if the kind is not supported, and if the connection
    is not valid; both keep all slots. Otherwise the connection is added to the registry. -/
theorem subscribe_cases {subscribers : Subscribers} (wellKept : subscribers.watchers.WellKept)
    (alive : StreamId → Bool) (protocol : Protocol) (target : Target) (client : ClientId)
    (stream : StreamId) :
    let (result, after) := subscribers.subscribe alive protocol target client stream
    (subscribers.watchers.supports target.kind = false ∧ KeepsSlots subscribers after ∧
        ∃ fault, result = .error (.watch fault)) ∨
      (subscribers.watchers.supports target.kind = true ∧ alive stream = false ∧
        KeepsSlots subscribers after ∧ ∃ fault, result = .error (.registry fault)) ∨
      (subscribers.watchers.supports target.kind = true ∧ alive stream = true ∧ result = .ok () ∧
        ∃ registered registry, KeepsSlots subscribers registered ∧
          (subscribers.registry protocol).add alive target client stream = .ok registry ∧
            after = registered.withRegistry protocol registry) := by
  unfold subscribe
  cases supported : subscribers.watchers.supports target.kind with
  | false =>
    cases registering : subscribers.watchers.register target with
    | error fault => exact Or.inl ⟨rfl, keepsSlots_refl subscribers, fault, rfl⟩
    | ok registered =>
      have accepted := (wellKept.register_isOk_iff target).1 (by rw [registering]; rfl)
      exact absurd (supported.symm.trans accepted) (by simp)
  | true =>
    obtain ⟨registered, accepted, kinds, keptWell⟩ := wellKept.register supported
    have watching : KeepsSlots subscribers { subscribers with watchers := registered } :=
      ⟨rfl, rfl, kinds, fun _ => keptWell⟩
    have sameRegistry : ({ subscribers with watchers := registered } : Subscribers).registry
        protocol = subscribers.registry protocol := by
      cases protocol <;> rfl
    rw [accepted]
    simp only [sameRegistry]
    cases living : alive stream with
    | false =>
      rw [Registry.add_of_dead living]
      exact Or.inr (Or.inl ⟨trivial, rfl, watching.trans (keepsSlots_release _ target), _, rfl⟩)
    | true =>
      obtain ⟨registry, added⟩ : ∃ registry,
          (subscribers.registry protocol).add alive target client stream = .ok registry := by
        simp [Registry.add, living]
      rw [added]
      exact Or.inr (Or.inr ⟨trivial, rfl, rfl, _, registry, watching, rfl, rfl⟩)

end Subscribers

end RulePlane
