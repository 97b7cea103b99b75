import Mathlib.Data.List.Induction
import RulePlane.Proofs.CacheAgreement
import RulePlane.Watch.Tracker

/-!
# What a watcher holds after any history

A watcher is filled by two ways: by the changes that it is told of while a target is subscribed, and
from its memory when a target is subscribed later. This module shows that both lead to the same
group. A history is a list of steps in any order; `Change.latest?` reads from it, without the
watcher, in which state the last change of a name left its object.

`Consistent` is the invariant that ties memory, cache and subscriptions together: what is cached is
what was seen last, and what was seen last is cached if its target is subscribed. The backfill
passes over names that are cached already, and the invariant is why that is right: a leftover of an
earlier subscription is current and filed under the application that it governs now.

Changes of the watcher's own kind have to be well named: the name and the labels that a change
carries are those of its object. Deletions carry no object, so they may name anything.
-/

namespace RulePlane

namespace Resource

/-- The application that a resource governs: the one that its labels name, in its own namespace. -/
def app? (resource : Resource) : Option App :=
  resource.labels.app?.map fun name => ⟨resource.scopeOrEmpty, name⟩

/-- A resource governs an application if it is in its namespace and its labels name it. -/
theorem app?_eq_some_iff (resource : Resource) (app : App) :
    resource.app? = some app ↔
      resource.scopeOrEmpty = app.scope ∧ resource.labels.app? = some app.name := by
  obtain ⟨scope, name⟩ := app
  simp only [app?, Option.map_eq_some_iff, App.mk.injEq]
  constructor
  · rintro ⟨found, labelled, same, rfl⟩
    exact ⟨same, labelled⟩
  · rintro ⟨same, labelled⟩
    exact ⟨name, labelled, same, rfl⟩

/-- The application that a resource governs lies in the namespace of the resource. -/
theorem scope_of_app? {resource : Resource} {app : App} (governed : resource.app? = some app) :
    app.scope = resource.id.scope :=
  ((app?_eq_some_iff resource app).1 governed).1.symm

end Resource

namespace Change

/-- The name and the labels of a change are those of its object, if it has one. -/
def WellNamed (change : Change) : Prop :=
  ∀ resource, change.resource = some resource →
    change.id = resource.id ∧ change.labels = resource.labels

/-- The object of a name as the last change of that name left it; none if that was a deletion or
    there was no change of the name. -/
def latest? (id : ObjectId) (changes : List Change) : Option Resource :=
  ((changes.filter fun change => change.id = id).getLast?).bind Change.resource

/-- The change to a new state of an object is well named. -/
theorem wellNamed_changeTo (resource : Resource) : (Tracker.changeTo resource).WellNamed := by
  rintro _ ⟨⟩
  exact ⟨rfl, rfl⟩

/-- A deletion is well named, whatever it names. -/
theorem wellNamed_removalOf (id : ObjectId) (labels : Labels) :
    (Tracker.removalOf id labels).WellNamed := by
  rintro _ ⟨⟩

@[simp] theorem latest?_nil (id : ObjectId) : latest? id [] = none := rfl

/-- A further change decides about its own name and leaves all others as they were. -/
theorem latest?_concat (id : ObjectId) (changes : List Change) (change : Change) :
    latest? id (changes ++ [change]) =
      if change.id = id then change.resource else latest? id changes := by
  by_cases same : change.id = id
  · simp [latest?, List.filter_append, same]
  · simp [latest?, List.filter_append, same]

end Change

namespace Watcher

/-- What may happen to a watcher: a target is subscribed or left, or it is told of a change of an
    object of some kind. -/
inductive Step where
  | subscribe (target : Target)
  | unsubscribe (target : Target)
  | event (kind : Kind) (change : Change)

/-- The change of an object of a kind that a step tells of. -/
def Step.change? (kind : Kind) : Step → Option Change
  | subscribe _ => none
  | unsubscribe _ => none
  | event told change => if told = kind then some change else none

/-- The changes of objects of a kind in a history. -/
def changesOf (kind : Kind) (steps : List Step) : List Change :=
  steps.filterMap (Step.change? kind)

/-- All changes of objects of a kind are well named. Nothing is asked of those of other kinds. -/
def WellNamed (kind : Kind) (steps : List Step) : Prop :=
  ∀ change ∈ changesOf kind steps, change.WellNamed

/-- Let one thing happen to a watcher. A refused subscription changes nothing. -/
def advance (watcher : Watcher) : Step → Watcher
  | .subscribe target =>
      match watcher.subscribe target with
      | .ok (_, subscribed) => subscribed
      | .error _ => watcher
  | .unsubscribe target => (watcher.unsubscribe target).2
  | .event kind change => (watcher.handle kind change).2

/-- Let a history happen to a watcher. -/
def run (steps : List Step) (watcher : Watcher) : Watcher := steps.foldl advance watcher

/-! ## What single operations do -/

/-- Remembering a change decides what is remembered under its name only. -/
theorem find?_observe (watcher : Watcher) (change : Change) (tested : ObjectId) :
    (watcher.observe change).observed.find? tested =
      if change.id = tested then
        change.resource.map fun resource => ⟨appOf change, resource⟩
      else watcher.observed.find? tested := by
  unfold observe
  cases change.resource with
  | none => simp [Table.find?_erase]
  | some resource => simp [Table.find?_insert]

/-- Entering a resource files its name under the application, and changes no other assignment. -/
theorem find?_enter (watcher : Watcher) (id : ObjectId) (app : App) (resource : Resource)
    (tested : ObjectId) :
    (watcher.enter id app resource).2.cache.assignments.find? tested =
      if id = tested then some ⟨app, resource⟩
      else watcher.cache.assignments.find? tested := by
  unfold enter
  simp only [Cache.assignments_place, Cache.find?_assign]
  cases watcher.cache.app? id with
  | none => rfl
  | some previous => by_cases same : previous = app <;> simp [same]

/-- Evicting a name takes its assignment, and no other. -/
theorem find?_evict (watcher : Watcher) (id tested : ObjectId) :
    (watcher.evict id).2.cache.assignments.find? tested =
      if id = tested then none else watcher.cache.assignments.find? tested := by
  unfold evict
  cases assigned : watcher.cache.app? id with
  | none =>
    by_cases same : id = tested
    · subst same
      simpa [Cache.app?] using assigned
    · simp [same]
  | some previous => simp [Cache.find?_unassign]

/-- Entering a resource under its own name keeps the indexes of the cache in agreement. -/
theorem agrees_enter (watcher : Watcher) (agrees : watcher.cache.Agrees) (app : App)
    (resource : Resource) (scope : app.scope = resource.id.scope) :
    (watcher.enter resource.id app resource).2.cache.Agrees := by
  unfold enter
  cases assigned : watcher.cache.app? resource.id with
  | none => exact Cache.agrees_file agrees app resource scope (by simp [assigned])
  | some previous =>
    by_cases same : previous = app
    · simp only [same, if_true]
      exact Cache.agrees_file agrees app resource scope (by simp [assigned, same])
    · simp only [same, if_false]
      exact Cache.agrees_move agrees app resource scope assigned

/-- Evicting a name keeps the indexes of the cache in agreement. -/
theorem agrees_evict (watcher : Watcher) (agrees : watcher.cache.Agrees) (id : ObjectId) :
    (watcher.evict id).2.cache.Agrees := by
  unfold evict
  cases assigned : watcher.cache.app? id with
  | none => exact agrees
  | some previous => exact Cache.agrees_discard agrees assigned

/-- Evicting a name touches nothing but the cache and the count of ignored events. -/
theorem evict_frame (watcher : Watcher) (id : ObjectId) :
    (watcher.evict id).2.kind = watcher.kind ∧
      (watcher.evict id).2.subscriptions = watcher.subscriptions ∧
        (watcher.evict id).2.observed = watcher.observed := by
  unfold evict
  cases watcher.cache.app? id <;> exact ⟨rfl, rfl, rfl⟩

/-- A change either enters a resource that governs a subscribed application, or evicts its name:
    because the object is gone, or because it governs no application that is subscribed. -/
theorem apply_cases (watcher : Watcher) (change : Change) :
    (∃ resource app, change.resource = some resource ∧ appOf change = some app ∧
        watcher.hasTarget (app.target watcher.kind) = true ∧
        watcher.apply change = (watcher.observe change).enter change.id app resource) ∨
      ((∀ resource app, change.resource = some resource → appOf change = some app →
          watcher.hasTarget (app.target watcher.kind) = false) ∧
        watcher.apply change = (watcher.observe change).evict change.id) := by
  unfold apply
  cases changed : change.resource with
  | none => exact Or.inr ⟨by simp, rfl⟩
  | some resource =>
    cases governed : appOf change with
    | none => exact Or.inr ⟨by simp, rfl⟩
    | some app =>
      by_cases subscribed : watcher.hasTarget (app.target watcher.kind) = true
      · exact Or.inl ⟨resource, app, rfl, rfl, subscribed, if_pos subscribed⟩
      · refine Or.inr ⟨?_, if_neg subscribed⟩
        rintro _ _ ⟨⟩ ⟨⟩
        exact Bool.eq_false_iff.2 subscribed

/-! ## Backfilling -/

/-- Backfilling one sighting assigns its name if it governs the application and the name is free,
    and changes no other assignment. -/
theorem find?_backfillOne (app : App) (cache : Cache) (seen : ObjectId × Sighting)
    (tested : ObjectId) :
    (backfillOne app cache seen).assignments.find? tested =
      if seen.1 = tested ∧ seen.2.app = some app ∧ cache.assignments.find? tested = none then
        some ⟨app, seen.2.resource⟩
      else cache.assignments.find? tested := by
  unfold backfillOne
  simp only [Cache.app?, Option.map_eq_none_iff]
  by_cases wanted : seen.2.app = some app ∧ cache.assignments.find? seen.1 = none
  · rw [if_pos wanted, Cache.assignments_place, Cache.find?_assign]
    by_cases same : seen.1 = tested
    · subst same
      rw [if_pos rfl, if_pos ⟨rfl, wanted⟩]
    · rw [if_neg same, if_neg (fun all => same all.1)]
  · rw [if_neg wanted, if_neg]
    rintro ⟨rfl, governs, free⟩
    exact wanted ⟨governs, free⟩

/-- Backfilling sightings, each of which is remembered under the name of its object and with an
    application of its namespace if any, keeps the indexes of the cache in agreement. -/
theorem agrees_backfill (app : App) (entries : List (ObjectId × Sighting)) {cache : Cache}
    (agrees : cache.Agrees)
    (named : ∀ seen ∈ entries, seen.2.resource.id = seen.1 ∧
      ∀ governed, seen.2.app = some governed → governed.scope = seen.1.scope) :
    (entries.foldl (backfillOne app) cache).Agrees := by
  induction entries generalizing cache with
  | nil => exact agrees
  | cons seen rest inductionHypothesis =>
    obtain ⟨own, scopes⟩ := named seen List.mem_cons_self
    refine inductionHypothesis ?_ (fun other member => named other (List.mem_cons_of_mem _ member))
    unfold backfillOne
    split
    · rename_i wanted
      have scope := scopes app wanted.1
      rw [← own] at wanted scope ⊢
      exact Cache.agrees_file agrees app seen.2.resource scope (by simp [wanted.2])
    · exact agrees

/-- Backfilling keeps what is cached already. -/
theorem find?_backfill_of_cached (app : App) (entries : List (ObjectId × Sighting)) {cache : Cache}
    {id : ObjectId} {assignment : Assignment}
    (cached : cache.assignments.find? id = some assignment) :
    (entries.foldl (backfillOne app) cache).assignments.find? id = some assignment := by
  induction entries generalizing cache with
  | nil => exact cached
  | cons seen rest inductionHypothesis =>
    apply inductionHypothesis
    rw [find?_backfillOne, if_neg (by simp [cached])]
    exact cached

/-- Whatever is cached after a backfill was cached before, or is a sighting that governs the
    application. -/
theorem source_of_backfilled (app : App) (entries : List (ObjectId × Sighting)) {cache : Cache}
    {id : ObjectId} {assignment : Assignment}
    (filled : (entries.foldl (backfillOne app) cache).assignments.find? id = some assignment) :
    cache.assignments.find? id = some assignment ∨
      (assignment.app = app ∧ (id, ⟨some app, assignment.resource⟩) ∈ entries) := by
  induction entries generalizing cache with
  | nil => exact Or.inl filled
  | cons seen rest inductionHypothesis =>
    rcases inductionHypothesis filled with earlier | ⟨same, member⟩
    · rw [find?_backfillOne] at earlier
      split at earlier
      · rename_i wanted
        obtain ⟨rfl, governs, _⟩ := wanted
        cases earlier
        refine Or.inr ⟨rfl, ?_⟩
        rw [← governs]
        exact List.mem_cons_self
      · exact Or.inl earlier
    · exact Or.inr ⟨same, List.mem_cons_of_mem _ member⟩

/-- After a backfill the name of every sighting that governs the application is cached. -/
theorem cached_of_backfill (app : App) (entries : List (ObjectId × Sighting)) (cache : Cache)
    {id : ObjectId} {resource : Resource} (member : (id, ⟨some app, resource⟩) ∈ entries) :
    ∃ assignment,
      (entries.foldl (backfillOne app) cache).assignments.find? id = some assignment := by
  induction entries generalizing cache with
  | nil => cases member
  | cons seen rest inductionHypothesis =>
    rcases List.mem_cons.1 member with rfl | later
    · rw [List.foldl_cons]
      cases held : cache.assignments.find? id with
      | some assignment =>
        refine ⟨assignment, find?_backfill_of_cached app rest ?_⟩
        rw [find?_backfillOne, if_neg (by simp [held])]
        exact held
      | none =>
        refine ⟨⟨app, resource⟩, find?_backfill_of_cached app rest ?_⟩
        rw [find?_backfillOne, if_pos ⟨rfl, rfl, held⟩]
    · exact inductionHypothesis (backfillOne app cache seen) later

/-! ## The invariant -/

/-- Memory, cache and subscriptions of a watcher are in step. The memory keeps each object under its
    name and with the application that it governs. Whatever is cached was seen last in the state in
    which it is cached, governing the application under which it is filed. Whatever was seen last
    governing a subscribed application is cached. -/
structure Consistent (watcher : Watcher) : Prop where
  agrees : watcher.cache.Agrees
  kinds : ∀ target, watcher.hasTarget target = true → target.kind = watcher.kind
  named : ∀ id sighting, watcher.observed.find? id = some sighting →
    sighting.resource.id = id ∧ sighting.app = sighting.resource.app?
  current : ∀ id app resource, watcher.cache.assignments.find? id = some ⟨app, resource⟩ →
    watcher.observed.find? id = some ⟨some app, resource⟩
  filled : ∀ id app resource, watcher.observed.find? id = some ⟨some app, resource⟩ →
    watcher.hasTarget (app.target watcher.kind) = true →
      watcher.cache.assignments.find? id = some ⟨app, resource⟩

/-- A watcher that has seen nothing is consistent. -/
theorem consistent_ofKind (kind : Kind) (makeRule : RuleMaker) :
    (ofKind kind makeRule).Consistent where
  agrees := Cache.agrees_ofKind kind
  kinds := by simp [ofKind, hasTarget, Subscriptions.hasTarget, Subscriptions.empty]
  named := by simp [ofKind]
  current := by simp [ofKind, Cache.ofKind]
  filled := by simp [ofKind]

/-- The group of a subscribed application holds exactly what was seen last governing it. -/
theorem Consistent.mem_group_iff {watcher : Watcher} (consistent : watcher.Consistent)
    {target : Target} (subscribed : watcher.hasTarget target = true) (resource : Resource) :
    resource ∈ (watcher.cache.group target.app).resources ↔
      watcher.observed.find? resource.id = some ⟨some target.app, resource⟩ := by
  have own : target.app.target watcher.kind = target := by
    rw [← consistent.kinds target subscribed]
    rfl
  rw [consistent.agrees.grouped]
  constructor
  · exact consistent.current resource.id target.app resource
  · intro seen
    exact consistent.filled _ _ _ seen (own.symm ▸ subscribed)

/-- If a consistent watcher remembers the objects of some description, the group of a subscribed
    application holds exactly those of them that govern it. -/
theorem Consistent.mem_group_of_remembered {watcher : Watcher} (consistent : watcher.Consistent)
    {objects : ObjectId → Option Resource}
    (remembered : ∀ id, watcher.observed.find? id =
      (objects id).map fun resource => ⟨resource.app?, resource⟩)
    {target : Target} (subscribed : watcher.hasTarget target = true) (resource : Resource) :
    resource ∈ (watcher.cache.group target.app).resources ↔
      objects resource.id = some resource ∧ resource.scopeOrEmpty = target.app.scope ∧
        resource.labels.app? = some target.app.name := by
  rw [consistent.mem_group_iff subscribed, remembered, ← Resource.app?_eq_some_iff,
    Option.map_eq_some_iff]
  constructor
  · rintro ⟨latest, found, same⟩
    obtain ⟨governed, rfl⟩ := Sighting.mk.inj same
    exact ⟨found, governed⟩
  · rintro ⟨found, governed⟩
    exact ⟨resource, found, by rw [governed]⟩

/-- A subscription is accepted for the watcher's own kind only. It fills a new target, and does not
    touch the cache for one that is subscribed already. -/
theorem subscribe_cases {watcher subscribed : Watcher} {target : Target} {added : Bool}
    (accepted : watcher.subscribe target = .ok (added, subscribed)) :
    target.kind = watcher.kind ∧
      ((watcher.hasTarget target = true ∧
          subscribed = { watcher with subscriptions := watcher.subscriptions.add target }) ∨
        (watcher.hasTarget target = false ∧
          subscribed = { watcher with
            subscriptions := watcher.subscriptions.add target
            cache := watcher.backfill target.app })) := by
  unfold subscribe at accepted
  split at accepted
  · rename_i own
    refine ⟨own, ?_⟩
    by_cases already : watcher.hasTarget target = true
    · simp only [already, Bool.not_true, Bool.false_eq_true, if_false, Except.ok.injEq,
        Prod.mk.injEq] at accepted
      exact Or.inl ⟨already, accepted.2.symm⟩
    · have new := Bool.eq_false_iff.2 already
      simp only [new, Bool.not_false, if_true, Except.ok.injEq, Prod.mk.injEq] at accepted
      exact Or.inr ⟨new, accepted.2.symm⟩
  · cases accepted

/-- The targets after a subscription are the new one and those before it. -/
theorem hasTarget_of_added {watcher : Watcher} {target tested : Target}
    (present : (watcher.subscriptions.add target).hasTarget tested = true) :
    tested = target ∨ watcher.hasTarget tested = true := by
  rwa [Subscriptions.hasTarget_add, Bool.or_eq_true, decide_eq_true_eq] at present

/-- What a consistent watcher remembers may be backfilled: it is found under the name of its object
    and with an application of its namespace if any. -/
theorem Consistent.named_of_mem {watcher : Watcher} (consistent : watcher.Consistent)
    (seen : ObjectId × Sighting) (member : seen ∈ watcher.observed.entries) :
    seen.2.resource.id = seen.1 ∧
      ∀ governed, seen.2.app = some governed → governed.scope = seen.1.scope := by
  obtain ⟨own, sighted⟩ := consistent.named seen.1 seen.2
    ((Table.mem_entries_iff watcher.observed seen.1 seen.2).1 member)
  refine ⟨own, fun governed found => ?_⟩
  rw [← own]
  exact Resource.scope_of_app? (sighted.symm.trans found)

/-- After a backfill, whatever is cached was seen last in the state in which it is cached. -/
theorem Consistent.current_of_backfill {watcher : Watcher} (consistent : watcher.Consistent)
    (filledApp : App) {id : ObjectId} {app : App} {resource : Resource}
    (cached : (watcher.backfill filledApp).assignments.find? id = some ⟨app, resource⟩) :
    watcher.observed.find? id = some ⟨some app, resource⟩ := by
  rcases source_of_backfilled filledApp watcher.observed.entries cached with
    earlier | ⟨rfl, member⟩
  · exact consistent.current id app resource earlier
  · exact (Table.mem_entries_iff watcher.observed id _).1 member

/-- After a backfill, whatever was seen last governing the filled application is cached. A name that
    the backfill passes over was cached before, and what was cached then was current. -/
theorem Consistent.filled_of_backfill {watcher : Watcher} (consistent : watcher.Consistent)
    {app : App} {id : ObjectId} {resource : Resource}
    (seen : watcher.observed.find? id = some ⟨some app, resource⟩) :
    (watcher.backfill app).assignments.find? id = some ⟨app, resource⟩ := by
  obtain ⟨assignment, cached⟩ := cached_of_backfill app watcher.observed.entries watcher.cache
    ((Table.mem_entries_iff watcher.observed id _).2 seen)
  have again := consistent.current_of_backfill app cached
  rw [seen] at again
  cases assignment
  cases again
  exact cached

/-- Subscribing keeps a watcher consistent. -/
theorem consistent_subscribe {watcher subscribed : Watcher} (consistent : watcher.Consistent)
    {target : Target} {added : Bool}
    (accepted : watcher.subscribe target = .ok (added, subscribed)) :
    subscribed.Consistent := by
  obtain ⟨own, ⟨already, rfl⟩ | ⟨-, rfl⟩⟩ := subscribe_cases accepted
  · have before (tested : Target)
        (present : (watcher.subscriptions.add target).hasTarget tested = true) :
        watcher.hasTarget tested = true := by
      rcases hasTarget_of_added present with rfl | earlier
      · exact already
      · exact earlier
    exact ⟨consistent.agrees, fun tested present => consistent.kinds tested (before _ present),
      consistent.named, consistent.current, fun id app resource seen present =>
        consistent.filled id app resource seen (before _ present)⟩
  · refine ⟨?_, ?_, consistent.named, ?_, ?_⟩
    · exact agrees_backfill target.app watcher.observed.entries consistent.agrees
        consistent.named_of_mem
    · intro tested present
      rcases hasTarget_of_added present with rfl | earlier
      · exact own
      · exact consistent.kinds tested earlier
    · intro id app resource cached
      exact consistent.current_of_backfill target.app cached
    · intro id app resource seen present
      rcases hasTarget_of_added present with same | earlier
      · obtain rfl : app = target.app := congrArg Target.app same
        exact consistent.filled_of_backfill seen
      · exact find?_backfill_of_cached target.app watcher.observed.entries
          (consistent.filled id app resource seen earlier)

/-- Leaving a target keeps a watcher consistent: less has to be cached, and nothing is touched. -/
theorem consistent_unsubscribe {watcher : Watcher} (consistent : watcher.Consistent)
    (target : Target) : (watcher.unsubscribe target).2.Consistent := by
  unfold unsubscribe
  split
  · have remaining (tested : Target)
        (present : (watcher.subscriptions.remove target).hasTarget tested = true) :
        watcher.hasTarget tested = true := by
      rw [Subscriptions.hasTarget_remove, Bool.and_eq_true] at present
      exact present.1
    exact ⟨consistent.agrees, fun tested present => consistent.kinds tested (remaining _ present),
      consistent.named, consistent.current, fun id app resource seen present =>
        consistent.filled id app resource seen (remaining _ present)⟩
  · exact consistent

/-- A well-named change governs the application that its object governs. -/
theorem appOf_of_wellNamed {change : Change} (wellNamed : change.WellNamed) {resource : Resource}
    (changed : change.resource = some resource) : appOf change = resource.app? := by
  obtain ⟨sameId, sameLabels⟩ := wellNamed resource changed
  rw [appOf, sameId, sameLabels]
  rfl

/-- Remembering a well-named change keeps every object under its name and with the application that
    it governs. -/
theorem named_of_observe {watcher : Watcher} (consistent : watcher.Consistent) {change : Change}
    (wellNamed : change.WellNamed) (id : ObjectId) (sighting : Sighting)
    (seen : (watcher.observe change).observed.find? id = some sighting) :
    sighting.resource.id = id ∧ sighting.app = sighting.resource.app? := by
  rw [find?_observe] at seen
  split at seen
  · rename_i same
    obtain ⟨resource, changed, rfl⟩ := Option.map_eq_some_iff.1 seen
    exact ⟨(wellNamed resource changed).1.symm.trans same, appOf_of_wellNamed wellNamed changed⟩
  · exact consistent.named id sighting seen

/-- Entering the resource of a well-named change keeps a watcher consistent: its name is cached as
    it was seen. -/
theorem consistent_enter {watcher : Watcher} (consistent : watcher.Consistent) {change : Change}
    (wellNamed : change.WellNamed) {resource : Resource} {app : App}
    (changed : change.resource = some resource) (governed : appOf change = some app) :
    ((watcher.observe change).enter change.id app resource).2.Consistent := by
  have own : change.id = resource.id := (wellNamed resource changed).1
  have scope : app.scope = resource.id.scope :=
    Resource.scope_of_app? ((appOf_of_wellNamed wellNamed changed).symm.trans governed)
  refine ⟨?_, consistent.kinds, named_of_observe consistent wellNamed, ?_, ?_⟩
  · rw [own]
    exact agrees_enter (watcher.observe change) consistent.agrees app resource scope
  · intro id filedApp filed cached
    rw [find?_enter] at cached
    change (watcher.observe change).observed.find? id = _
    rw [find?_observe]
    by_cases same : change.id = id
    · rw [if_pos same] at cached ⊢
      cases cached
      rw [changed, governed]
      rfl
    · rw [if_neg same] at cached ⊢
      exact consistent.current id filedApp filed cached
  · intro id seenApp seen remembered present
    change (watcher.observe change).observed.find? id = _ at remembered
    rw [find?_observe] at remembered
    rw [find?_enter]
    by_cases same : change.id = id
    · rw [if_pos same, changed, governed] at remembered
      cases remembered
      rw [if_pos same]
    · rw [if_neg same] at remembered ⊢
      exact consistent.filled id seenApp seen remembered present

/-- Evicting the name of a well-named change keeps a watcher consistent, if nothing that is
    subscribed governs its object. -/
theorem consistent_evict {watcher : Watcher} (consistent : watcher.Consistent) {change : Change}
    (wellNamed : change.WellNamed)
    (unwanted : ∀ resource app, change.resource = some resource → appOf change = some app →
      watcher.hasTarget (app.target watcher.kind) = false) :
    ((watcher.observe change).evict change.id).2.Consistent := by
  obtain ⟨kind, subscriptions, observed⟩ := evict_frame (watcher.observe change) change.id
  have tracked (target : Target) :
      ((watcher.observe change).evict change.id).2.hasTarget target = watcher.hasTarget target :=
    congrArg (fun current => Subscriptions.hasTarget current target) subscriptions
  refine ⟨agrees_evict (watcher.observe change) consistent.agrees change.id, ?_, ?_, ?_, ?_⟩
  · intro target present
    rw [tracked] at present
    exact (consistent.kinds target present).trans kind.symm
  · intro id sighting seen
    exact named_of_observe consistent wellNamed id sighting (observed ▸ seen)
  · intro id app resource cached
    rw [find?_evict] at cached
    rw [observed, find?_observe]
    by_cases same : change.id = id
    · rw [if_pos same] at cached
      cases cached
    · rw [if_neg same] at cached ⊢
      exact consistent.current id app resource cached
  · intro id app resource seen present
    rw [observed, find?_observe] at seen
    rw [tracked, kind] at present
    rw [find?_evict]
    by_cases same : change.id = id
    · rw [if_pos same] at seen
      obtain ⟨left, changed, sighted⟩ := Option.map_eq_some_iff.1 seen
      have governed : appOf change = some app := congrArg Sighting.app sighted
      exact absurd (present.symm.trans (unwanted left app changed governed)) (by simp)
    · rw [if_neg same] at seen ⊢
      exact consistent.filled id app resource seen present

/-- A change keeps a watcher consistent, if it is well named or of another kind. -/
theorem consistent_handle {watcher : Watcher} (consistent : watcher.Consistent) {kind : Kind}
    {change : Change} (wellNamed : kind = watcher.kind → change.WellNamed) :
    (watcher.handle kind change).2.Consistent := by
  unfold handle
  split
  · rename_i own
    rcases apply_cases watcher change with
      ⟨resource, app, changed, governed, -, applied⟩ | ⟨unwanted, applied⟩
    · rw [applied]
      exact consistent_enter consistent (wellNamed own) changed governed
    · rw [applied]
      exact consistent_evict consistent (wellNamed own) unwanted
  · exact consistent

/-! ## Histories -/

/-- Subscribing leads to what an accepted subscription gives, or nowhere if it is refused. -/
theorem advance_subscribe_cases (watcher : Watcher) (target : Target) :
    watcher.advance (.subscribe target) = watcher ∨
      ∃ added, watcher.subscribe target =
        .ok (added, watcher.advance (.subscribe target)) := by
  cases answer : watcher.subscribe target with
  | error fault => exact Or.inl (by simp [advance, answer])
  | ok accepted => exact Or.inr ⟨accepted.1, by simp [advance, answer]⟩

/-- Nothing that happens to a watcher changes its kind. -/
theorem kind_advance (watcher : Watcher) (step : Step) :
    (watcher.advance step).kind = watcher.kind := by
  cases step with
  | subscribe target =>
    rcases advance_subscribe_cases watcher target with refused | ⟨added, accepted⟩
    · rw [refused]
    · obtain ⟨-, ⟨-, same⟩ | ⟨-, same⟩⟩ := subscribe_cases accepted <;> rw [same]
  | unsubscribe target =>
    simp only [advance, unsubscribe]
    split <;> rfl
  | event kind change =>
    simp only [advance, handle]
    split
    · rcases apply_cases watcher change with ⟨_, _, -, -, -, applied⟩ | ⟨-, applied⟩
      · rw [applied]
        rfl
      · rw [applied]
        exact (evict_frame (watcher.observe change) change.id).1
    · rfl

/-- What a watcher remembers after a step: a change of its kind decides about its own name, and
    nothing else touches the memory. -/
theorem find?_observed_advance (watcher : Watcher) (step : Step) (id : ObjectId) :
    (watcher.advance step).observed.find? id =
      match step.change? watcher.kind with
      | some change =>
          if change.id = id then
            change.resource.map fun resource => ⟨appOf change, resource⟩
          else watcher.observed.find? id
      | none => watcher.observed.find? id := by
  cases step with
  | subscribe target =>
    rcases advance_subscribe_cases watcher target with refused | ⟨added, accepted⟩
    · rw [refused]
      rfl
    · obtain ⟨-, ⟨-, same⟩ | ⟨-, same⟩⟩ := subscribe_cases accepted <;> rw [same] <;> rfl
  | unsubscribe target =>
    simp only [advance, unsubscribe]
    split <;> rfl
  | event kind change =>
    simp only [advance, handle, Step.change?]
    by_cases own : kind = watcher.kind
    · rw [if_pos own, if_pos own]
      change _ = if change.id = id then _ else _
      rw [← find?_observe]
      rcases apply_cases watcher change with ⟨_, _, -, -, -, applied⟩ | ⟨-, applied⟩
      · rw [applied]
        rfl
      · rw [applied, (evict_frame (watcher.observe change) change.id).2.2]
    · rw [if_neg own, if_neg own]

/-- A step keeps a watcher consistent, if a change of its kind is well named. -/
theorem consistent_advance {watcher : Watcher} (consistent : watcher.Consistent) {step : Step}
    (wellNamed : ∀ change, step.change? watcher.kind = some change → change.WellNamed) :
    (watcher.advance step).Consistent := by
  cases step with
  | subscribe target =>
    rcases advance_subscribe_cases watcher target with refused | ⟨added, accepted⟩
    · rw [refused]
      exact consistent
    · exact consistent_subscribe consistent accepted
  | unsubscribe target => exact consistent_unsubscribe consistent target
  | event kind change =>
    exact consistent_handle consistent fun own => wellNamed change (by simp [Step.change?, own])

/-- A further step happens to what the history has led to. -/
theorem run_concat (steps : List Step) (step : Step) (watcher : Watcher) :
    run (steps ++ [step]) watcher = (run steps watcher).advance step := by
  simp [run]

/-- The changes of a longer history are those before the last step and the one of the last step. -/
theorem changesOf_concat (kind : Kind) (steps : List Step) (step : Step) :
    changesOf kind (steps ++ [step]) = changesOf kind steps ++ (step.change? kind).toList := by
  cases told : step.change? kind <;> simp [changesOf, told]

/-- What a watcher of a kind has become after a history: it is consistent, still of its kind, and
    remembers exactly the latest objects. -/
theorem history_exact (kind : Kind) (makeRule : RuleMaker) (steps : List Step)
    (wellNamed : WellNamed kind steps) :
    let watcher := run steps (ofKind kind makeRule)
    watcher.Consistent ∧ watcher.kind = kind ∧
      ∀ id, watcher.observed.find? id =
        (Change.latest? id (changesOf kind steps)).map fun resource =>
          ⟨resource.app?, resource⟩ := by
  induction steps using List.reverseRecOn with
  | nil => exact ⟨consistent_ofKind kind makeRule, rfl, fun id => rfl⟩
  | append_singleton steps step inductionHypothesis =>
    rw [WellNamed, changesOf_concat] at wellNamed
    obtain ⟨consistent, sameKind, remembered⟩ := inductionHypothesis
      (fun change member => wellNamed change (List.mem_append_left _ member))
    simp only [run_concat, kind_advance, sameKind, true_and]
    refine ⟨consistent_advance consistent ?_, ?_⟩
    · intro change told
      rw [sameKind] at told
      exact wellNamed change (by simp [told])
    · intro id
      rw [find?_observed_advance, sameKind, remembered, changesOf_concat]
      cases told : step.change? kind with
      | none => simp
      | some change =>
        have changeNamed := wellNamed change (by simp [told])
        simp only [Option.toList_some, Change.latest?_concat]
        by_cases same : change.id = id
        · simp only [same, if_true]
          cases changed : change.resource with
          | none => rfl
          | some resource => simp [appOf_of_wellNamed changeNamed changed]
        · simp [same]

/-- Whatever the history, the group of a subscribed application holds exactly the objects whose last
    change left them in its namespace and with its name as application label, each in that last
    state and no name twice. Whether the target was subscribed before, between or after those
    changes, or left in between, makes no difference. -/
theorem cachedGroup_exact (kind : Kind) (makeRule : RuleMaker) (steps : List Step)
    (wellNamed : WellNamed kind steps) (target : Target)
    (subscribed : (run steps (ofKind kind makeRule)).hasTarget target = true) :
    let group := (run steps (ofKind kind makeRule)).cache.group target.app
    (group.resources.map Resource.anyName).Nodup ∧
      ∀ resource, resource ∈ group.resources ↔
        Change.latest? resource.id (changesOf kind steps) = some resource ∧
          resource.scopeOrEmpty = target.app.scope ∧
            resource.labels.app? = some target.app.name := by
  obtain ⟨consistent, -, remembered⟩ := history_exact kind makeRule steps wellNamed
  exact ⟨consistent.agrees.distinct target.app,
    consistent.mem_group_of_remembered remembered subscribed⟩

/-- An object without a specification, bound to an application by its labels. -/
def labelled (name app : String) : Resource :=
  ⟨some name, none, some "default", Labels.ofList [("app", app)], none, none⟩

/-- A history with all that could lead the backfill astray: two objects are seen before anyone
    subscribes, one is relabelled and one comes while nobody is subscribed, and one is deleted. -/
def resubscribed : List Step :=
  let kind : Kind := ⟨"K"⟩
  let foo : Target := ⟨⟨"default", "foo"⟩, kind⟩
  let told (resource : Resource) : Step := .event kind (Tracker.changeTo resource)
  [told (labelled "a" "foo"), told (labelled "b" "foo"), .subscribe foo, told (labelled "c" "foo"),
    .unsubscribe foo, told (labelled "a" "bar"), told (labelled "d" "foo"),
    .event kind (Tracker.removalOf ⟨"default", "b"⟩ Labels.none), .subscribe foo]

/-- The history is well named and ends with the target subscribed, so the group holds the object
    that was cached all the time and the one that came meanwhile, and neither the relabelled one nor
    the deleted one. -/
theorem cachedGroup_exact_resubscribed :
    WellNamed ⟨"K"⟩ resubscribed ∧
      (run resubscribed (ofKind ⟨"K"⟩ fun _ => none)).hasTarget ⟨⟨"default", "foo"⟩, ⟨"K"⟩⟩ = true ∧
        let group :=
          (run resubscribed (ofKind ⟨"K"⟩ fun _ => none)).cache.group ⟨"default", "foo"⟩
        labelled "c" "foo" ∈ group.resources ∧ labelled "d" "foo" ∈ group.resources ∧
          labelled "a" "foo" ∉ group.resources ∧ labelled "b" "foo" ∉ group.resources := by
  have told : changesOf ⟨"K"⟩ resubscribed =
      [Tracker.changeTo (labelled "a" "foo"), Tracker.changeTo (labelled "b" "foo"),
        Tracker.changeTo (labelled "c" "foo"), Tracker.changeTo (labelled "a" "bar"),
        Tracker.changeTo (labelled "d" "foo"),
        Tracker.removalOf ⟨"default", "b"⟩ Labels.none] := rfl
  have wellNamed : WellNamed ⟨"K"⟩ resubscribed := by
    simp only [WellNamed, told, List.forall_mem_cons, List.not_mem_nil, false_implies,
      implies_true, Change.wellNamed_changeTo, Change.wellNamed_removalOf, and_self]
  have subscribed : (run resubscribed (ofKind ⟨"K"⟩ fun _ => none)).hasTarget
      ⟨⟨"default", "foo"⟩, ⟨"K"⟩⟩ = true := by
    decide +kernel
  have exact := (cachedGroup_exact ⟨"K"⟩ (fun _ => none) resubscribed wellNamed _ subscribed).2
  refine ⟨wellNamed, subscribed, (exact _).2 ⟨rfl, rfl, rfl⟩, (exact _).2 ⟨rfl, rfl, rfl⟩, ?_, ?_⟩
  · intro member
    have labels := congrArg Resource.labels (Option.some.inj ((exact _).1 member).1)
    exact absurd (congrArg Labels.app? labels) (by decide +kernel)
  · intro member
    exact absurd ((exact _).1 member).1 nofun

end Watcher

end RulePlane
