import RulePlane.Proofs.ChangedGroups
import RulePlane.Proofs.ClientViews

/-!
# Leftovers

What stays in the cache of a watcher after its target was left. Leaving a target takes no resource
out of the cache; only the next change of a resource does. So the cache of a watcher does not tell
which targets are subscribed now. It tells which were subscribed at some time since the last change
of a resource: a name is filed under the application to which its last change bound it, if the
target of this application was subscribed at that change or at any time after it (`cached_exact`).

A single fetch reads the group of an application, whoever has subscribed it. For a target that
nobody has subscribed it finds what is left over: the objects that had no change since the target
was left, and not those that had one (`leftover_is_fetched`).

Nothing is said about the order of the objects in a group.
-/

namespace RulePlane

namespace Change

/-- The last change of a name. -/
def last? (id : ObjectId) (changes : List Change) : Option Change :=
  (changes.filter fun change => change.id = id).getLast?

/-- A further change is the last one of its own name, and of no other. -/
theorem last?_concat (id : ObjectId) (changes : List Change) (change : Change) :
    last? id (changes ++ [change]) = if change.id = id then some change else last? id changes := by
  by_cases same : change.id = id
  · simp [last?, List.filter_append, same]
  · simp [last?, List.filter_append, same]

end Change

namespace Watcher

variable {watcher : Watcher} {id : ObjectId} {app : App} {resource : Resource}

/-! ## What single steps do to a name -/

/-- What is cached of a name is what was seen last of it, and what was seen last of it is cached if
    its target is subscribed. -/
structure Faithful (watcher : Watcher) (id : ObjectId) : Prop where
  current : ∀ app resource, watcher.cache.assignments.find? id = some ⟨app, resource⟩ →
    watcher.observed.find? id = some ⟨some app, resource⟩
  filled : ∀ app resource, watcher.observed.find? id = some ⟨some app, resource⟩ →
    watcher.hasTarget (app.target watcher.kind) = true →
      watcher.cache.assignments.find? id = some ⟨app, resource⟩

/-- What was seen last of a name stays the same at a step that is no change of it. -/
theorem find?_observed_of_other {step : Step}
    (other : ∀ change, step.change? watcher.kind = some change → change.id ≠ id) :
    (watcher.advance step).observed.find? id = watcher.observed.find? id := by
  rw [find?_observed_advance]
  cases told : step.change? watcher.kind with
  | none => rfl
  | some change => exact if_neg (other change told)

/-- A change files its name if and only if it binds an object to a subscribed application. -/
theorem cached_apply_iff (watcher : Watcher) (change : Change) :
    (watcher.apply change).2.cache.assignments.find? change.id = some ⟨app, resource⟩ ↔
      (change.resource = some resource ∧ appOf change = some app) ∧
        watcher.hasTarget (app.target watcher.kind) = true := by
  rcases apply_cases watcher change with
    ⟨changed, governing, bound, governed, subscribed, applied⟩ | ⟨unwanted, applied⟩
  · rw [applied, find?_enter, if_pos rfl, bound, governed]
    constructor
    · rintro ⟨⟩
      exact ⟨⟨rfl, rfl⟩, subscribed⟩
    · rintro ⟨⟨⟨⟩, ⟨⟩⟩, -⟩
      rfl
  · rw [applied, find?_evict, if_pos rfl]
    constructor
    · intro impossible
      cases impossible
    · rintro ⟨⟨bound, governed⟩, subscribed⟩
      exact absurd (subscribed.symm.trans (unwanted resource app bound governed)) (by decide)

/-- A change leaves all other names filed as they were. -/
theorem cached_apply_of_ne (watcher : Watcher) {change : Change} (other : change.id ≠ id) :
    (watcher.apply change).2.cache.assignments.find? id = watcher.cache.assignments.find? id := by
  rcases apply_cases watcher change with ⟨changed, governing, -, -, -, applied⟩ | ⟨-, applied⟩
  · rw [applied, find?_enter, if_neg other, cache_observe]
  · rw [applied, find?_evict, if_neg other, cache_observe]

/-- Filling an application files a name if it was seen last governing this application, and keeps it
    where it is otherwise. -/
theorem Faithful.cached_backfill_iff (faithful : watcher.Faithful id) (filledApp : App) :
    (watcher.backfill filledApp).assignments.find? id = some ⟨app, resource⟩ ↔
      watcher.cache.assignments.find? id = some ⟨app, resource⟩ ∨
        (app = filledApp ∧ watcher.observed.find? id = some ⟨some app, resource⟩) := by
  have source (found : Assignment)
      (filled : (watcher.backfill filledApp).assignments.find? id = some found) :
      watcher.cache.assignments.find? id = some found ∨
        (found.app = filledApp ∧
          watcher.observed.find? id = some ⟨some found.app, found.resource⟩) := by
    rcases source_of_backfilled filledApp watcher.observed.entries filled with
      earlier | ⟨rfl, member⟩
    · exact Or.inl earlier
    · exact Or.inr ⟨rfl, (Table.mem_entries_iff watcher.observed id _).1 member⟩
  constructor
  · exact source ⟨app, resource⟩
  · rintro (earlier | ⟨rfl, seen⟩)
    · exact find?_backfill_of_cached filledApp watcher.observed.entries earlier
    · obtain ⟨⟨found, cached⟩, filled⟩ := cached_of_backfill app watcher.observed.entries
        watcher.cache ((Table.mem_entries_iff watcher.observed id _).2 seen)
      -- The name may have been cached before, but then in the state in which it was seen last.
      have same : watcher.observed.find? id = some ⟨some found, cached⟩ := by
        rcases source ⟨found, cached⟩ filled with earlier | ⟨-, seenSo⟩
        · exact faithful.current found cached earlier
        · exact seenSo
      rw [seen] at same
      cases same
      exact filled

/-- After a subscription a name is cached if it was before, or if its target is subscribed then. -/
theorem Faithful.cached_subscribe_iff (faithful : watcher.Faithful id) (target : Target) :
    (watcher.advance (.subscribe target)).cache.assignments.find? id = some ⟨app, resource⟩ ↔
      watcher.observed.find? id = some ⟨some app, resource⟩ ∧
        ((watcher.advance (.subscribe target)).hasTarget (app.target watcher.kind) = true ∨
          watcher.cache.assignments.find? id = some ⟨app, resource⟩) := by
  have kept (present : watcher.hasTarget (app.target watcher.kind) = true ∨
      watcher.cache.assignments.find? id = some ⟨app, resource⟩)
      (seen : watcher.observed.find? id = some ⟨some app, resource⟩) :
      watcher.cache.assignments.find? id = some ⟨app, resource⟩ :=
    present.elim (faithful.filled app resource seen) fun cached => cached
  rcases advance_subscribe_cases watcher target with refused | ⟨added, accepted⟩
  · rw [refused]
    constructor
    · intro cached
      exact ⟨faithful.current app resource cached, Or.inr cached⟩
    · rintro ⟨seen, present⟩
      exact kept present seen
  · have tracked := hasTarget_of_subscribe accepted (app.target watcher.kind)
    obtain ⟨own, ⟨already, same⟩ | ⟨new, same⟩⟩ := subscribe_cases accepted
    · have before : (watcher.advance (.subscribe target)).hasTarget (app.target watcher.kind) =
          watcher.hasTarget (app.target watcher.kind) := by
        rw [tracked]
        by_cases equal : app.target watcher.kind = target
        · rw [equal, already, Bool.or_true]
        · rw [decide_eq_false equal, Bool.false_or]
      rw [before, same]
      constructor
      · intro cached
        exact ⟨faithful.current app resource cached, Or.inr cached⟩
      · rintro ⟨seen, present⟩
        exact kept present seen
    · have atTarget : app.target watcher.kind = target ↔ app = target.app := by
        rw [← own]
        exact ⟨congrArg Target.app, fun equal => equal ▸ rfl⟩
      rw [tracked, Bool.or_eq_true, decide_eq_true_eq, atTarget, same]
      rw [faithful.cached_backfill_iff target.app]
      constructor
      · rintro (cached | ⟨here, seen⟩)
        · exact ⟨faithful.current app resource cached, Or.inr cached⟩
        · exact ⟨seen, Or.inl (Or.inl here)⟩
      · rintro ⟨seen, (here | before) | cached⟩
        · exact Or.inr ⟨here, seen⟩
        · exact Or.inl (kept (Or.inl before) seen)
        · exact Or.inl cached

/-- An event does not touch the subscriptions of a watcher. -/
theorem hasTarget_event (watcher : Watcher) (told : Kind) (change : Change) (tested : Target) :
    (watcher.advance (.event told change)).hasTarget tested = watcher.hasTarget tested := by
  simp only [advance, handle]
  split
  · exact congrArg (Subscriptions.hasTarget · tested) (watcher.subscriptions_apply change)
  · rfl

/-- After a step a name is cached if it was seen last so, and its target is subscribed then, or it
    was cached before and the step is no change of it. -/
theorem Faithful.cached_advance_iff (faithful : watcher.Faithful id) (step : Step) (app : App)
    (resource : Resource) :
    (watcher.advance step).cache.assignments.find? id = some ⟨app, resource⟩ ↔
      (watcher.advance step).observed.find? id = some ⟨some app, resource⟩ ∧
        ((watcher.advance step).hasTarget (app.target watcher.kind) = true ∨
          ((∀ change, step.change? watcher.kind = some change → change.id ≠ id) ∧
            watcher.cache.assignments.find? id = some ⟨app, resource⟩)) := by
  -- A step that is no subscription and no change of the name leaves it where it is.
  have aside
      (same : (watcher.advance step).cache.assignments.find? id =
        watcher.cache.assignments.find? id)
      (fewer : (watcher.advance step).hasTarget (app.target watcher.kind) = true →
        watcher.hasTarget (app.target watcher.kind) = true)
      (other : ∀ change, step.change? watcher.kind = some change → change.id ≠ id) :
      (watcher.advance step).cache.assignments.find? id = some ⟨app, resource⟩ ↔
        (watcher.advance step).observed.find? id = some ⟨some app, resource⟩ ∧
          ((watcher.advance step).hasTarget (app.target watcher.kind) = true ∨
            ((∀ change, step.change? watcher.kind = some change → change.id ≠ id) ∧
              watcher.cache.assignments.find? id = some ⟨app, resource⟩)) := by
    rw [same, find?_observed_of_other other]
    constructor
    · intro cached
      exact ⟨faithful.current app resource cached, Or.inr ⟨other, cached⟩⟩
    · rintro ⟨seen, present | ⟨-, cached⟩⟩
      · exact faithful.filled app resource seen (fewer present)
      · exact cached
  cases step with
  | subscribe target =>
    have other : ∀ change, (Step.subscribe target).change? watcher.kind = some change →
        change.id ≠ id := nofun
    rw [faithful.cached_subscribe_iff, find?_observed_of_other other]
    refine and_congr_right fun _ => or_congr_right ?_
    exact ⟨fun cached => ⟨other, cached⟩, And.right⟩
  | unsubscribe target =>
    refine aside ?_ ?_ nofun
    · simp only [advance, unsubscribe]
      split <;> rfl
    · intro present
      rw [advance, hasTarget_unsubscribe, Bool.and_eq_true] at present
      exact present.1
  | event told change =>
    have tracked := watcher.hasTarget_event told change (app.target watcher.kind)
    by_cases own : told = watcher.kind
    · have applied : (watcher.advance (.event told change)).cache =
          (watcher.apply change).2.cache := by
        simp only [advance, handle]
        rw [if_pos own]
      have telling : (Step.event told change).change? watcher.kind = some change := if_pos own
      by_cases same : change.id = id
      · subst same
        have renewed : ¬ ∀ other, (Step.event told change).change? watcher.kind = some other →
            other.id ≠ change.id := fun others => others change telling rfl
        have seen : (watcher.advance (.event told change)).observed.find? change.id =
            some ⟨some app, resource⟩ ↔
              change.resource = some resource ∧ appOf change = some app := by
          rw [find?_observed_advance, telling]
          dsimp only
          rw [if_pos rfl]
          cases change.resource <;> simp [and_comm]
        rw [applied, cached_apply_iff, seen, tracked]
        refine and_congr_right fun _ => ⟨Or.inl, ?_⟩
        rintro (present | ⟨others, -⟩)
        · exact present
        · exact absurd others renewed
      · refine aside ?_ tracked.symm.trans ?_
        · rw [applied, watcher.cached_apply_of_ne same]
        · intro other is
          rw [telling] at is
          exact Option.some.inj is ▸ same
    · refine aside ?_ tracked.symm.trans ?_
      · simp only [advance, handle]
        rw [if_neg own]
      · intro other is
        rw [Step.change?, if_neg own] at is
        cases is

/-! ## Histories -/

/-- At some time since the last change of a name, a target was subscribed. -/
def HeldSince (kind : Kind) (makeRule : RuleMaker) (id : ObjectId) (target : Target)
    (steps : List Step) : Prop :=
  ∃ earlier later, steps = earlier ++ later ∧
    (∀ change ∈ changesOf kind later, change.id ≠ id) ∧
      (run earlier (ofKind kind makeRule)).hasTarget target = true

/-- The last change of a name bound an object to an application, and the target of this application
    was subscribed at that change or at some time after it. -/
def Kept (kind : Kind) (makeRule : RuleMaker) (steps : List Step) (id : ObjectId) (app : App)
    (resource : Resource) : Prop :=
  (∃ change, Change.last? id (changesOf kind steps) = some change ∧
    change.resource = some resource ∧ appOf change = some app) ∧
      HeldSince kind makeRule id (app.target kind) steps

section Histories

variable {kind : Kind} {makeRule : RuleMaker} {target : Target} {steps : List Step} {step : Step}

/-- A target that is subscribed now was subscribed at some time since any change. -/
theorem heldSince_of_hasTarget
    (subscribed : (run steps (ofKind kind makeRule)).hasTarget target = true) :
    HeldSince kind makeRule id target steps :=
  ⟨steps, [], by simp, nofun, subscribed⟩

/-- After a further step a target was subscribed since the last change of a name, if it is
    subscribed then, or if it was before and the step is no change of the name. -/
theorem heldSince_concat_iff :
    HeldSince kind makeRule id target (steps ++ [step]) ↔
      (run (steps ++ [step]) (ofKind kind makeRule)).hasTarget target = true ∨
        ((∀ change, step.change? kind = some change → change.id ≠ id) ∧
          HeldSince kind makeRule id target steps) := by
  constructor
  · rintro ⟨earlier, later, split, others, subscribed⟩
    rcases List.eq_nil_or_concat later with rfl | ⟨before, last, rfl⟩
    · rw [List.append_nil] at split
      rw [split]
      exact Or.inl subscribed
    · rw [List.concat_eq_append] at split others
      rw [← List.append_assoc] at split
      obtain ⟨rfl, same⟩ := List.append_inj' split rfl
      obtain rfl := List.singleton_inj.1 same
      rw [changesOf_concat, List.forall_mem_append] at others
      refine Or.inr ⟨fun change told => others.2 change (by simp [told]), ?_⟩
      exact ⟨earlier, before, rfl, others.1, subscribed⟩
  · rintro (subscribed | ⟨other, earlier, later, rfl, others, subscribed⟩)
    · exact heldSince_of_hasTarget subscribed
    · refine ⟨earlier, later ++ [step], by simp, ?_, subscribed⟩
      rw [changesOf_concat, List.forall_mem_append]
      refine ⟨others, fun change told => other change ?_⟩
      exact Option.mem_toList.1 told

/-- A watcher remembers the last change of each name. -/
theorem find?_observed_run (kind : Kind) (makeRule : RuleMaker) (steps : List Step)
    (id : ObjectId) :
    (run steps (ofKind kind makeRule)).observed.find? id =
      (Change.last? id (changesOf kind steps)).bind fun change =>
        change.resource.map fun resource => ⟨appOf change, resource⟩ := by
  induction steps using List.reverseRecOn with
  | nil => simp [run, ofKind, changesOf, Change.last?]
  | append_singleton steps step inductionHypothesis =>
    have ownKind : (run steps (ofKind kind makeRule)).kind = kind :=
      (run_frame steps (ofKind kind makeRule)).1
    rw [run_concat, find?_observed_advance, inductionHypothesis, changesOf_concat, ownKind]
    cases told : step.change? kind with
    | none => simp
    | some change =>
      simp only [Option.toList_some, Change.last?_concat]
      split <;> rfl

/-- The name of an object is cached if and only if the object was seen last as it is cached, and its
    target was subscribed at some time since. -/
theorem cached_iff (kind : Kind) (makeRule : RuleMaker) (steps : List Step) (id : ObjectId)
    (app : App) (resource : Resource) :
    (run steps (ofKind kind makeRule)).cache.assignments.find? id = some ⟨app, resource⟩ ↔
      (run steps (ofKind kind makeRule)).observed.find? id = some ⟨some app, resource⟩ ∧
        HeldSince kind makeRule id (app.target kind) steps := by
  induction steps using List.reverseRecOn generalizing app resource with
  | nil => simp [run, ofKind, Cache.ofKind]
  | append_singleton steps step inductionHypothesis =>
    have ownKind : (run steps (ofKind kind makeRule)).kind = kind :=
      (run_frame steps (ofKind kind makeRule)).1
    have faithful : (run steps (ofKind kind makeRule)).Faithful id := by
      constructor
      · intro app resource cached
        exact ((inductionHypothesis app resource).1 cached).1
      · intro app resource seen subscribed
        rw [ownKind] at subscribed
        exact (inductionHypothesis app resource).2 ⟨seen, heldSince_of_hasTarget subscribed⟩
    have advanced := faithful.cached_advance_iff step app resource
    rw [ownKind] at advanced
    rw [heldSince_concat_iff, run_concat, advanced]
    refine and_congr_right fun seen => or_congr_right (and_congr_right fun other => ?_)
    rw [inductionHypothesis]
    rw [find?_observed_of_other (ownKind.symm ▸ other)] at seen
    exact ⟨And.right, fun held => ⟨seen, held⟩⟩

/-- The name of an object is cached if and only if it is kept since its last change. -/
theorem cached_iff_kept (kind : Kind) (makeRule : RuleMaker) (steps : List Step) (id : ObjectId)
    (app : App) (resource : Resource) :
    (run steps (ofKind kind makeRule)).cache.assignments.find? id = some ⟨app, resource⟩ ↔
      Kept kind makeRule steps id app resource := by
  rw [cached_iff, find?_observed_run, Kept]
  refine and_congr_left fun _ => ?_
  simp only [Option.bind_eq_some_iff, Option.map_eq_some_iff, Sighting.mk.injEq]
  constructor
  · rintro ⟨change, last, found, changed, governed, rfl⟩
    exact ⟨change, last, changed, governed⟩
  · rintro ⟨change, last, changed, governed⟩
    exact ⟨change, last, resource, changed, governed, rfl⟩

end Histories

/-- A single fetch of one name brings the rules of the group that the name stands for. -/
theorem fetch_of_watcher {plane : Plane} {written : String} {name : ResourceName}
    (active : plane.subscribers.watchers.watcher? name.kind = some watcher)
    (read : ResourceName.parse? written = some name) :
    ∃ response, (plane.fetch Discovery.typeUrl [written]).1 = .ok response ∧
      response.rules = makeRules watcher.makeRule
        (watcher.cache.group name.target.app).resources := by
  have found : plane.snapshot [written] = .ok (watcher.rules name.target.app).1 := by
    simp only [Plane.snapshot, read, Watchers.rules, active]
    exact congrArg Except.ok (List.append_nil _)
  simp only [Plane.fetch, found, or_true, if_true]
  exact ⟨_, rfl, rfl⟩

/-- Whatever the history, a resource is cached, by its name and in the group of an application, if
    and only if its last change bound it to this application and the target of the application was
    subscribed at that change or at some time after it; whether it is subscribed now does not
    matter. A single fetch of the name of a target brings the rules of that group, and so it brings
    none if nothing is left. -/
theorem cached_exact (kind : Kind) (makeRule : RuleMaker) (steps : List Step)
    (named : OwnNames kind steps) :
    let watcher := run steps (ofKind kind makeRule)
    (∀ id app resource, watcher.cache.assignments.find? id = some ⟨app, resource⟩ ↔
      Kept kind makeRule steps id app resource) ∧
      (∀ app resource, resource ∈ (watcher.cache.group app).resources ↔
        Kept kind makeRule steps resource.id app resource) ∧
        ∀ (plane : Plane) written name, plane.subscribers.watchers.watcher? kind = some watcher →
          ResourceName.parse? written = some name → name.kind = kind →
            ∃ response, (plane.fetch Discovery.typeUrl [written]).1 = .ok response ∧
              Translates makeRule (watcher.cache.group name.target.app).resources response.rules ∧
              ((∀ resource, ¬ Kept kind makeRule steps resource.id name.target.app resource) →
                response.rules = []) := by
  intro watcher
  have filed : watcher.Filed := (filed_ofKind kind makeRule).run named
  have grouped (app : App) (resource : Resource) :
      resource ∈ (watcher.cache.group app).resources ↔
        Kept kind makeRule steps resource.id app resource := by
    rw [filed.agrees.grouped]
    exact cached_iff_kept kind makeRule steps resource.id app resource
  refine ⟨cached_iff_kept kind makeRule steps, grouped, ?_⟩
  rintro plane written name active read rfl
  obtain ⟨response, answered, brought⟩ := fetch_of_watcher active read
  rw [show watcher.makeRule = makeRule from (run_frame steps (ofKind name.kind makeRule)).2]
    at brought
  refine ⟨response, answered, brought ▸ translates_makeRules _ _, fun nothing => ?_⟩
  have none : (watcher.cache.group name.target.app).resources = [] :=
    List.eq_nil_iff_forall_not_mem.2 fun resource member =>
      nothing resource ((grouped _ resource).1 member)
  rw [brought, none]
  rfl

/-- The rule of an object is its name. -/
def nameRule : RuleMaker := fun resource => some ⟨resource.anyName, []⟩

/-- Two objects of `foo` are cached, its target is left, and one of them changes after that. -/
def deserted : List Step :=
  let foo : Target := ⟨⟨"default", "foo"⟩, ⟨"K"⟩⟩
  let told (name : String) : Step := .event ⟨"K"⟩ (Tracker.changeTo (labelled name "foo"))
  [.subscribe foo, told "a", told "b", .unsubscribe foo, told "b"]

/-- Each change of the history has the name of its object. -/
theorem ownNames_deserted : OwnNames ⟨"K"⟩ deserted := by
  simp only [deserted, ownNames_cons_iff]
  refine ⟨nofun, ?_, ?_, nofun, ?_, nofun⟩
  all_goals
    rintro change ⟨⟩ resource ⟨⟩
    rfl

end Watcher

namespace Dialogue

/-- A client subscribes the rules of `foo`, two resources are bound to it, the client unsubscribes,
    and one of the resources changes after that. -/
def deserted : List Move :=
  joining ⟨0⟩ "first" ++ binding "a" "foo" ++ binding "b" "foo" ++
    [.request ⟨0⟩ ⟨some ⟨"default", "foo", ["K"]⟩, 1, "request", "", none, "first"⟩, .proceed,
      .proceed] ++
    binding "b" "foo"

/-- The watcher of the control plane is as after the history. -/
theorem watcher?_deserted :
    (run deserted vacant).plane.subscribers.watchers.watcher? ⟨"K"⟩ =
      some (Watcher.run Watcher.deserted (Watcher.ofKind ⟨"K"⟩ Watcher.nameRule)) := rfl

end Dialogue

namespace Watcher

/-- The object that did not change after the target was left is kept and the other one is not. Of
    another application nothing is kept, and so nothing is fetched. -/
theorem cached_exact_deserted :
    OwnNames ⟨"K"⟩ deserted ∧
      Kept ⟨"K"⟩ nameRule deserted ⟨"default", "a"⟩ ⟨"default", "foo"⟩ (labelled "a" "foo") ∧
      (∀ app resource, ¬ Kept ⟨"K"⟩ nameRule deserted ⟨"default", "b"⟩ app resource) ∧
      (∀ resource, ¬ Kept ⟨"K"⟩ nameRule deserted resource.id ⟨"default", "bar"⟩ resource) ∧
      ∃ response,
        ((Dialogue.run Dialogue.deserted Dialogue.vacant).plane.fetch Discovery.typeUrl
          ["K/bar/default"]).1 = .ok response ∧ response.rules = [] := by
  obtain ⟨cached, grouped, fetched⟩ := cached_exact ⟨"K"⟩ nameRule deserted ownNames_deserted
  have none (resource : Resource) :
      ¬ Kept ⟨"K"⟩ nameRule deserted resource.id ⟨"default", "bar"⟩ resource := by
    intro kept
    exact absurd ((grouped _ resource).2 kept) List.not_mem_nil
  refine ⟨ownNames_deserted, (cached _ _ _).1 rfl, fun app resource kept => ?_, none, ?_⟩
  · have impossible := (cached ⟨"default", "b"⟩ app resource).2 kept
    cases impossible
  · obtain ⟨response, answered, -, empty⟩ := fetched _ "K/bar/default" ⟨⟨"K"⟩, "bar", "default"⟩
      Dialogue.watcher?_deserted (by decide +kernel) rfl
    exact ⟨response, answered, empty none⟩

/-- Nobody subscribes the application any more, neither on the watcher nor among the clients. Yet
    one of its two objects is still cached under its name and in the group of the application, and a
    single fetch brings its rule. -/
theorem leftover_is_fetched :
    let watcher := run deserted (ofKind ⟨"K"⟩ nameRule)
    let plane := (Dialogue.run Dialogue.deserted Dialogue.vacant).plane
    OwnNames ⟨"K"⟩ deserted ∧ watcher.hasTarget Dialogue.foo = false ∧
      watcher.cache.app? ⟨"default", "a"⟩ = some Dialogue.foo.app ∧
      (watcher.cache.group Dialogue.foo.app).resources.map Resource.anyName = ["a"] ∧
      plane.subscribers.watchers.watcher? ⟨"K"⟩ = some watcher ∧
      plane.subscribers.isHeld Dialogue.foo = false ∧
      (plane.fetch Discovery.typeUrl ["K/foo/default"]).1.toOption.map Discovery.Response.rules =
        some [⟨"a", []⟩] :=
  ⟨ownNames_deserted, by decide +kernel, by decide +kernel, by decide +kernel,
    Dialogue.watcher?_deserted, by decide +kernel, by decide +kernel⟩

end Watcher

end RulePlane
