import RulePlane.Proofs.WatcherHistory

/-!
# Where resources are filed

The cache of a watcher files a resource by its name and in the group of an application, and all ways
by which the cache changes keep the two in agreement: a resource that enters, is updated, moves to
another application, is evicted, or is filled in when a target is subscribed. So no object stays in
a group that it has left, whatever the history, and whether or not the application is subscribed.

Only the names of changes matter for this: a change has to carry the name of its object. Its labels
may be others than those of the object, and then they decide where the object is filed.
-/

namespace RulePlane

namespace Change

/-- A change carries the name of its object, if it has one. -/
def OwnName (change : Change) : Prop :=
  ∀ resource, change.resource = some resource → change.id = resource.id

end Change

namespace Watcher

/-- All changes of objects of a kind carry the names of their objects. -/
def OwnNames (kind : Kind) (steps : List Step) : Prop :=
  ∀ change ∈ changesOf kind steps, change.OwnName

/-- The indexes of the cache agree, and what is remembered may be filed in both: each object is
    remembered under its own name, and with an application of its namespace if any. -/
structure Filed (watcher : Watcher) : Prop where
  agrees : watcher.cache.Agrees
  remembered : ∀ id sighting, watcher.observed.find? id = some sighting →
    sighting.resource.id = id ∧ ∀ app, sighting.app = some app → app.scope = id.scope

variable {watcher : Watcher}

/-- A watcher that has seen nothing has nothing to file. -/
theorem filed_ofKind (kind : Kind) (makeRule : RuleMaker) : (ofKind kind makeRule).Filed where
  agrees := Cache.agrees_ofKind kind
  remembered := by simp [ofKind]

/-- The application that a change names lies in the namespace of the change. -/
theorem scope_of_appOf {change : Change} {app : App} (governed : appOf change = some app) :
    app.scope = change.id.scope := by
  obtain ⟨name, -, rfl⟩ := Option.map_eq_some_iff.1 governed
  rfl

/-- A change keeps the indexes of the cache in agreement, if it carries the name of its object. -/
theorem Filed.agrees_apply (filed : watcher.Filed) {change : Change} (named : change.OwnName) :
    (watcher.apply change).2.cache.Agrees := by
  rcases apply_cases watcher change with
    ⟨resource, app, changed, governed, -, applied⟩ | ⟨-, applied⟩
  · have own : change.id = resource.id := named resource changed
    have scope : app.scope = resource.id.scope := own ▸ scope_of_appOf governed
    rw [applied, own]
    exact agrees_enter (watcher.observe change) filed.agrees app resource scope
  · rw [applied]
    exact agrees_evict (watcher.observe change) filed.agrees change.id

/-- A subscription keeps the indexes of the cache in agreement. -/
theorem Filed.agrees_subscribe (filed : watcher.Filed) (target : Target) :
    (watcher.advance (.subscribe target)).cache.Agrees := by
  rcases advance_subscribe_cases watcher target with refused | ⟨added, accepted⟩
  · rw [refused]
    exact filed.agrees
  · obtain ⟨-, ⟨-, same⟩ | ⟨-, same⟩⟩ := subscribe_cases accepted
    · rw [same]
      exact filed.agrees
    · rw [same]
      apply agrees_backfill target.app watcher.observed.entries filed.agrees
      intro seen member
      exact filed.remembered seen.1 seen.2
        ((Table.mem_entries_iff watcher.observed seen.1 seen.2).1 member)

/-- Whatever happens to a watcher, its resources stay properly filed. -/
theorem Filed.advance (filed : watcher.Filed) {step : Step}
    (named : ∀ change, step.change? watcher.kind = some change → change.OwnName) :
    (watcher.advance step).Filed where
  agrees := by
    cases step with
    | subscribe target => exact filed.agrees_subscribe target
    | unsubscribe target =>
      simp only [Watcher.advance, unsubscribe]
      split <;> exact filed.agrees
    | event kind change =>
      simp only [Watcher.advance, handle]
      split
      · rename_i own
        exact filed.agrees_apply (named change (by simp [Step.change?, own]))
      · exact filed.agrees
  remembered := by
    intro id sighting seen
    rw [find?_observed_advance] at seen
    cases told : step.change? watcher.kind with
    | none =>
      rw [told] at seen
      exact filed.remembered id sighting seen
    | some change =>
      rw [told] at seen
      dsimp only at seen
      split at seen
      · rename_i same
        obtain ⟨resource, changed, rfl⟩ := Option.map_eq_some_iff.1 seen
        refine ⟨(named change told resource changed).symm.trans same, fun app governed => ?_⟩
        rw [← same]
        exact scope_of_appOf governed
      · exact filed.remembered id sighting seen

/-- A history carries the names of its objects if its first step does and the others do. -/
theorem ownNames_cons_iff (kind : Kind) (step : Step) (rest : List Step) :
    OwnNames kind (step :: rest) ↔
      (∀ change, step.change? kind = some change → change.OwnName) ∧ OwnNames kind rest := by
  unfold OwnNames changesOf
  cases told : step.change? kind with
  | none => simp [List.filterMap_cons_none told]
  | some change => simp [List.filterMap_cons_some told]

/-- Whatever the history, the resources of a watcher are properly filed. -/
theorem Filed.run {steps : List Step} (filed : watcher.Filed)
    (named : OwnNames watcher.kind steps) : (run steps watcher).Filed := by
  induction steps generalizing watcher with
  | nil => exact filed
  | cons step rest inductionHypothesis =>
    obtain ⟨first, others⟩ := (ownNames_cons_iff watcher.kind step rest).1 named
    apply inductionHypothesis (filed.advance first)
    rw [kind_advance]
    exact others

/-- Whatever the history, the group of an application holds an object if and only if the index of
    names files its name, in the namespace of the application, under that application and with that
    object. No name is twice in a group, all objects of a group come from the namespace of its
    application, and so no object is in two groups. -/
theorem resources_filed_once (kind : Kind) (makeRule : RuleMaker) (steps : List Step)
    (named : OwnNames kind steps) :
    let cache := (run steps (ofKind kind makeRule)).cache
    (∀ app name resource,
      resource ∈ (cache.group app).resources ∧ resource.anyName = name ↔
        cache.app? ⟨app.scope, name⟩ = some app ∧
          cache.resource? ⟨app.scope, name⟩ = some resource) ∧
      (∀ app, ((cache.group app).resources.map Resource.anyName).Nodup) ∧
        (∀ app, ∀ resource ∈ (cache.group app).resources, resource.scopeOrEmpty = app.scope) ∧
          ∀ first second, ∀ resource ∈ (cache.group first).resources,
            ∀ other ∈ (cache.group second).resources, resource.id = other.id → first = second := by
  intro cache
  have agrees : cache.Agrees := ((filed_ofKind kind makeRule).run named).agrees
  have filedAt (app : App) (name : String) (resource : Resource) :
      cache.app? ⟨app.scope, name⟩ = some app ∧
          cache.resource? ⟨app.scope, name⟩ = some resource ↔
        cache.assignments.find? ⟨app.scope, name⟩ = some ⟨app, resource⟩ := by
    unfold Cache.app? Cache.resource?
    cases cache.assignments.find? ⟨app.scope, name⟩ with
    | none => simp
    | some assignment =>
      cases assignment
      simp
  have identity (app : App) (resource : Resource)
      (member : resource ∈ (cache.group app).resources) :
      resource.id = ⟨app.scope, resource.anyName⟩ := by
    rw [← agrees.scope_of_mem member]
    rfl
  refine ⟨?_, agrees.distinct, fun app resource => agrees.scope_of_mem, ?_⟩
  · intro app name resource
    rw [filedAt]
    constructor
    · rintro ⟨member, rfl⟩
      rw [← identity app resource member]
      exact (agrees.grouped app resource).1 member
    · intro filed
      have own : resource.id = ⟨app.scope, name⟩ := (agrees.named _ _ _ filed).1
      refine ⟨(agrees.grouped app resource).2 (own ▸ filed), congrArg ObjectId.name own⟩
  · intro first second resource member other memberToo same
    have here := (agrees.grouped first resource).1 member
    have there := (agrees.grouped second other).1 memberToo
    rw [same, there] at here
    exact (congrArg Assignment.app (Option.some.inj here)).symm

/-- A history in which a change does not have the labels of its object: `a` is filed under `foo`, is
    evicted when a change binds it to `bar`, and is filled in from memory when `bar` is
    subscribed. -/
def rebound : List Step :=
  let kind : Kind := ⟨"K"⟩
  let told (resource : Resource) : Step := .event kind (Tracker.changeTo resource)
  [.subscribe ⟨⟨"default", "foo"⟩, kind⟩, told (labelled "a" "foo"), told (labelled "b" "foo"),
    .event kind ⟨⟨"default", "a"⟩, some (labelled "a" "foo"), Labels.ofList [("app", "bar")]⟩,
    .subscribe ⟨⟨"default", "bar"⟩, kind⟩]

/-- The object is in the group of `bar` only, and its name is filed under `bar`. -/
theorem resources_filed_once_rebound :
    OwnNames ⟨"K"⟩ rebound ∧
      let cache := (run rebound (ofKind ⟨"K"⟩ fun _ => none)).cache
      (cache.group ⟨"default", "bar"⟩).resources.map Resource.anyName = ["a"] ∧
        cache.app? ⟨"default", "a"⟩ = some ⟨"default", "bar"⟩ ∧
          ∀ resource ∈ (cache.group ⟨"default", "foo"⟩).resources,
            resource.id ≠ ⟨"default", "a"⟩ := by
  have named : OwnNames ⟨"K"⟩ rebound := by
    simp only [rebound, ownNames_cons_iff]
    refine ⟨nofun, ?_, ?_, ?_, nofun, nofun⟩
    all_goals
      rintro change ⟨⟩ resource ⟨⟩
      rfl
  obtain ⟨filed, -, -, apart⟩ := resources_filed_once ⟨"K"⟩ (fun _ => none) rebound named
  have moved : labelled "a" "foo" ∈ ((run rebound (ofKind ⟨"K"⟩ fun _ => none)).cache.group
      ⟨"default", "bar"⟩).resources := List.mem_cons_self
  refine ⟨named, rfl, ((filed ⟨"default", "bar"⟩ "a" _).1 ⟨moved, rfl⟩).1, ?_⟩
  intro resource member same
  exact absurd (apart _ _ resource member _ moved same) (by decide)

end Watcher

end RulePlane
