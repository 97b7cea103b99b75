import Mathlib.Algebra.Ring.Nat
import RulePlane.Metrics
import RulePlane.Proofs.ChangedGroups

/-!
# What the counters of a watcher say

An operator sees how many resources were set in the cache of a watcher, how many were taken out, and
how many events were ignored. This module ties these numbers to the cache and to the events: nothing
changes a group without being counted, nothing is counted that changes none, and an event is ignored
exactly if it calls for no push.

`Balanced` is the invariant of the cache. Its changes are the three pairs of calls that a watcher
makes: it files a resource, moves one, or discards one. The bound on the names that are filed needs
the pairs: a name is filed and set together, and the name of a resource that moves is filed already.
The indexes of the cache need not agree for any of this, so nothing is asked of the events.
-/

namespace RulePlane

/-! ## Sums over tables -/

namespace Table

variable {κ υ : Type}

/-- The sum of the weights of the values. -/
def total (weight : υ → Nat) (table : Table κ υ) : Nat := (table.values.map weight).sum

/-- The number of keys is a sum over the values. -/
theorem total_one (table : Table κ υ) : table.total (fun _ => 1) = table.size := by
  simp [total, values, size, Function.comp_def, List.map_const']

variable [DecidableEq κ]

/-- An insertion adds the new weight and takes that of the value that it replaces. -/
theorem total_insert (weight : υ → Nat) (table : Table κ υ) (key : κ) (value : υ) :
    (table.insert key value).total weight + ((table.find? key).map weight).getD 0 =
      table.total weight + weight value := by
  have placed (entries : List (κ × υ)) :
      (((place key value entries).map Prod.snd).map weight).sum +
          ((lookup key entries).map weight).getD 0 =
        ((entries.map Prod.snd).map weight).sum + weight value := by
    induction entries with
    | nil => simp [place, lookup]
    | cons entry rest inductionHypothesis =>
      obtain ⟨present, old⟩ := entry
      by_cases same : present = key
      · simp only [place, lookup, same, if_true, List.map_cons, List.sum_cons, Option.map_some,
          Option.getD_some]
        omega
      · simp only [place, lookup, same, if_false, List.map_cons, List.sum_cons]
        omega
  exact placed table.entries

/-- An erasure takes the weight of the value that it removes. -/
theorem total_erase (weight : υ → Nat) (table : Table κ υ) (key : κ) :
    (table.erase key).total weight + ((table.find? key).map weight).getD 0 =
      table.total weight := by
  have filtered (entries : List (κ × υ)) (distinct : (entries.map Prod.fst).Nodup) :
      (((entries.filter fun entry => entry.1 ≠ key).map Prod.snd).map weight).sum +
          ((lookup key entries).map weight).getD 0 =
        ((entries.map Prod.snd).map weight).sum := by
    induction entries with
    | nil => simp [lookup]
    | cons entry rest inductionHypothesis =>
      obtain ⟨present, old⟩ := entry
      obtain ⟨absent, tail⟩ := List.nodup_cons.1 distinct
      by_cases same : present = key
      · subst same
        have others : ∀ other ∈ rest, other.1 ≠ present := fun other member equal =>
          absent (List.mem_map.2 ⟨other, member, equal⟩)
        rw [List.filter_cons_of_neg (by simp), List.filter_eq_self.2 (by simpa using others)]
        simp only [lookup, if_true, Option.map_some, Option.getD_some, List.map_cons,
          List.sum_cons]
        omega
      · have further := inductionHypothesis tail
        rw [List.filter_cons_of_pos (by simpa using same)]
        simp only [lookup, same, if_false, List.map_cons, List.sum_cons]
        omega
  exact filtered table.entries table.distinct

end Table

/-! ## The counters of a cache -/

namespace Cache

/-- The sum of the versions of all groups. -/
def versions (cache : Cache) : Nat := cache.groups.total Group.version

/-- The number of resources in all groups. -/
def stock (cache : Cache) : Nat := cache.groups.total fun group => group.resources.length

variable {cache : Cache} {kind : Kind}

/-- A group that is replaced gives up its weight, if groups that never had a resource weigh
    nothing. -/
theorem total_insert_group (weight : Group → Nat) (weightless : weight default = 0) (cache : Cache)
    (app : App) (group : Group) :
    (cache.groups.insert app group).total weight + weight (cache.group app) =
      cache.groups.total weight + weight group := by
  have inserted := Table.total_insert weight cache.groups app group
  have replaced : ((cache.groups.find? app).map weight).getD 0 = weight (cache.group app) := by
    unfold Cache.group
    cases cache.groups.find? app with
    | none => exact weightless.symm
    | some held => rfl
  rwa [replaced] at inserted

/-- Placing a resource counts one change of a group. -/
theorem versions_place (cache : Cache) (app : App) (resource : Resource) :
    (cache.place app resource).2.versions = cache.versions + 1 := by
  have inserted := total_insert_group Group.version rfl cache app ((cache.group app).put resource)
  simp only [Group.put] at inserted
  simp only [versions, place, Group.put]
  omega

/-- Placing a resource adds at most one. -/
theorem stock_place (cache : Cache) (app : App) (resource : Resource) :
    (cache.place app resource).2.stock ≤ cache.stock + 1 := by
  have inserted := total_insert_group (fun group => group.resources.length) rfl cache app
    ((cache.group app).put resource)
  have longer : (Group.putResource resource (cache.group app).resources).length ≤
      (cache.group app).resources.length + 1 := by
    have names := congrArg List.length
      (Group.names_putResource resource (cache.group app).resources)
    split at names <;> simp only [List.length_map, List.length_append, List.length_singleton]
      at names <;> omega
  simp only [Group.put] at inserted
  simp only [stock, place, Group.put]
  omega

/-- Displacing a name takes one resource and counts one change for each deletion that it counts. -/
theorem displace_accounts (cache : Cache) (app : App) (name : String) :
    (cache.displace app name).2.sets = cache.sets ∧
      (cache.displace app name).2.versions + cache.deletes =
        cache.versions + (cache.displace app name).2.deletes ∧
      (cache.displace app name).2.stock + (cache.displace app name).2.deletes =
        cache.stock + cache.deletes ∧
      (cache.displace app name).2.deletes ≤ cache.deletes + 1 := by
  by_cases held : (cache.group app).holds name = true
  · have member : name ∈ (cache.group app).resources.map Resource.anyName := by
      simpa [Group.holds] using held
    have changed := total_insert_group Group.version rfl cache app ((cache.group app).drop name)
    have taken := total_insert_group (fun group => group.resources.length) rfl cache app
      ((cache.group app).drop name)
    have shorter : (Group.dropResource name (cache.group app).resources).length + 1 =
        (cache.group app).resources.length := by
      have names := congrArg List.length
        (Group.names_dropResource name (cache.group app).resources)
      rw [List.length_map, List.length_erase_of_mem member, List.length_map] at names
      have some : 0 < (cache.group app).resources.length := by
        simpa using List.length_pos_of_mem member
      omega
    simp only [Group.drop] at changed taken
    rw [displace, if_pos held]
    simp only [versions, stock, Group.drop, true_and]
    omega
  · rw [displace, if_neg held]
    simp

/-- Assigning a name adds it to those that are filed, unless it is one of them. -/
theorem size_assign (cache : Cache) (id : ObjectId) (app : App) (resource : Resource) :
    (cache.assign id app resource).assignments.size + ((cache.app? id).map fun _ => 1).getD 0 =
      cache.assignments.size + 1 := by
  have inserted := Table.total_insert (fun _ => 1) cache.assignments id ⟨app, resource⟩
  rw [Table.total_one, Table.total_one] at inserted
  rwa [app?, Option.map_map]

/-- Forgetting a name takes it out of those that are filed. -/
theorem size_unassign (cache : Cache) (id : ObjectId) :
    (cache.unassign id).2.assignments.size + ((cache.app? id).map fun _ => 1).getD 0 =
      cache.assignments.size := by
  have erased := Table.total_erase (fun _ => 1) cache.assignments id
  rw [Table.total_one, Table.total_one] at erased
  rwa [app?, Option.map_map]

/-- The counters of a cache account for what it holds. Every change of a group is counted, and
    neither the resources in groups nor the names that are filed outnumber the sets that no deletion
    made up for. -/
structure Balanced (kind : Kind) (cache : Cache) : Prop where
  own : cache.kind = kind
  changes : cache.sets + cache.deletes = cache.versions
  stocked : cache.stock + cache.deletes ≤ cache.sets
  filed : cache.assignments.size + cache.deletes ≤ cache.sets

/-- An empty cache has nothing to account for. -/
theorem balanced_ofKind (kind : Kind) : (ofKind kind).Balanced kind :=
  ⟨rfl, rfl, Nat.le_refl 0, Nat.le_refl 0⟩

/-- Placing a resource makes up for one more name that is filed. -/
theorem balanced_place {resource : Resource} {app : App} (own : cache.kind = kind)
    (changes : cache.sets + cache.deletes = cache.versions)
    (stocked : cache.stock + cache.deletes ≤ cache.sets)
    (filed : cache.assignments.size + cache.deletes ≤ cache.sets + 1) :
    (cache.place app resource).2.Balanced kind := by
  have versions := versions_place cache app resource
  have stock := stock_place cache app resource
  have sets : (cache.place app resource).2.sets = cache.sets + 1 := rfl
  have deletes : (cache.place app resource).2.deletes = cache.deletes := rfl
  refine ⟨own, by omega, by omega, ?_⟩
  rw [assignments_place, sets, deletes]
  exact filed

/-- Displacing a name keeps the groups accounted for. -/
theorem displace_keeps (balanced : cache.Balanced kind) (app : App) (name : String) :
    let after := (cache.displace app name).2
    after.kind = kind ∧ after.sets + after.deletes = after.versions ∧
      after.stock + after.deletes ≤ after.sets := by
  obtain ⟨own, changes, stocked, -⟩ := balanced
  obtain ⟨sets, versions, stock, -⟩ := displace_accounts cache app name
  refine ⟨?_, by omega, by omega⟩
  rw [← own, displace]
  split <;> rfl

/-- Filing a resource is accounted for: at most its name is new among those that are filed. -/
theorem Balanced.file (balanced : cache.Balanced kind) (id : ObjectId) (app : App)
    (resource : Resource) :
    ((cache.assign id app resource).place app resource).2.Balanced kind := by
  have named := size_assign cache id app resource
  have filed : (cache.assign id app resource).assignments.size + cache.deletes ≤
      cache.sets + 1 := by
    have before := balanced.filed
    omega
  exact balanced_place balanced.own balanced.changes balanced.stocked filed

/-- Moving a resource is accounted for: its name is filed already, and the set makes up for the
    deletion. -/
theorem Balanced.move (balanced : cache.Balanced kind) {id : ObjectId} {previous : App}
    (assigned : cache.app? id = some previous) (app : App) (resource : Resource) :
    (((cache.displace previous id.name).2.assign id app resource).place app resource).2.Balanced
      kind := by
  let left := (cache.displace previous id.name).2
  obtain ⟨own, changes, stocked⟩ := displace_keeps balanced previous id.name
  have sets : left.sets = cache.sets := (displace_accounts cache previous id.name).1
  have deletes : left.deletes ≤ cache.deletes + 1 :=
    (displace_accounts cache previous id.name).2.2.2
  have named := size_assign left id app resource
  have still : left.app? id = some previous := by
    rw [app?, assignments_displace]
    exact assigned
  rw [still, assignments_displace, Option.map_some, Option.getD_some] at named
  have filed : (left.assign id app resource).assignments.size + left.deletes ≤ left.sets + 1 := by
    have before := balanced.filed
    omega
  exact balanced_place own changes stocked filed

/-- Discarding a resource is accounted for: a name that is filed no more makes up for the
    deletion. -/
theorem Balanced.discard (balanced : cache.Balanced kind) {id : ObjectId} {previous : App}
    (assigned : cache.app? id = some previous) :
    ((cache.unassign id).2.displace previous id.name).2.Balanced kind := by
  have named := size_unassign cache id
  rw [assigned, Option.map_some, Option.getD_some] at named
  have forgotten : (cache.unassign id).2.Balanced kind := by
    refine ⟨balanced.own, balanced.changes, balanced.stocked, ?_⟩
    have before := balanced.filed
    change _ + cache.deletes ≤ cache.sets
    omega
  obtain ⟨own, changes, stocked⟩ := displace_keeps forgotten previous id.name
  obtain ⟨sets, -, -, deletes⟩ := displace_accounts (cache.unassign id).2 previous id.name
  refine ⟨own, changes, stocked, ?_⟩
  rw [assignments_displace]
  have before := balanced.filed
  change _ ≤ cache.deletes + 1 at deletes
  change _ = cache.sets at sets
  omega

end Cache

namespace Watcher

variable {watcher : Watcher} {kind : Kind}

/-! ## The counters of a watcher -/

/-- Entering a resource is accounted for. -/
theorem balanced_enter (balanced : watcher.cache.Balanced kind) (id : ObjectId) (app : App)
    (resource : Resource) : (watcher.enter id app resource).2.cache.Balanced kind := by
  unfold enter
  cases assigned : watcher.cache.app? id with
  | none => exact balanced.file id app resource
  | some previous =>
    by_cases same : previous = app
    · simp only [same, if_true]
      exact balanced.file id app resource
    · simp only [same, if_false]
      exact balanced.move assigned app resource

/-- Evicting a name is accounted for. -/
theorem balanced_evict (balanced : watcher.cache.Balanced kind) (id : ObjectId) :
    (watcher.evict id).2.cache.Balanced kind := by
  unfold evict
  cases assigned : watcher.cache.app? id with
  | none => exact balanced
  | some previous => exact balanced.discard assigned

/-- Backfilling is accounted for. -/
theorem balanced_backfill (app : App) (entries : List (ObjectId × Sighting)) {cache : Cache}
    (balanced : cache.Balanced kind) : (entries.foldl (backfillOne app) cache).Balanced kind := by
  induction entries generalizing cache with
  | nil => exact balanced
  | cons seen rest inductionHypothesis =>
    apply inductionHypothesis
    unfold backfillOne
    split
    · exact balanced.file seen.1 app seen.2.resource
    · exact balanced

/-- Whatever happens to a watcher, its counters account for its cache. -/
theorem balanced_advance (balanced : watcher.cache.Balanced kind) (step : Step) :
    (watcher.advance step).cache.Balanced kind := by
  cases step with
  | subscribe target =>
    rcases advance_subscribe_cases watcher target with refused | ⟨added, accepted⟩
    · rw [refused]
      exact balanced
    · obtain ⟨-, ⟨-, same⟩ | ⟨-, same⟩⟩ := subscribe_cases accepted
      · rw [same]
        exact balanced
      · rw [same]
        exact balanced_backfill target.app watcher.observed.entries balanced
  | unsubscribe target =>
    simp only [advance, unsubscribe]
    split <;> exact balanced
  | event told change =>
    simp only [advance, handle]
    split
    · have observed : (watcher.observe change).cache.Balanced kind := balanced
      rcases apply_cases watcher change with ⟨resource, app, -, -, -, applied⟩ | ⟨-, applied⟩
      · rw [applied]
        exact balanced_enter observed change.id app resource
      · rw [applied]
        exact balanced_evict observed change.id
    · exact balanced

/-- Whatever the history, the counters of a watcher account for its cache. -/
theorem balanced_run (steps : List Step) (balanced : watcher.cache.Balanced kind) :
    (run steps watcher).cache.Balanced kind := by
  induction steps generalizing watcher with
  | nil => exact balanced
  | cons step rest inductionHypothesis => exact inductionHypothesis (balanced_advance balanced step)

/-! ## Ignored events -/

/-- Whether a step is an event of the watcher's own kind that calls for no push. -/
def isQuiet (watcher : Watcher) (step : Step) : Bool :=
  (step.change? watcher.kind).isSome && (watcher.pushesOf step).isEmpty

/-- The number of events of a watcher's own kind in a history that call for no push. -/
def quietEvents : List Step → Watcher → Nat
  | [], _ => 0
  | step :: rest, watcher =>
      (if watcher.isQuiet step then 1 else 0) + quietEvents rest (watcher.advance step)

/-- A change that affects no application is ignored and leaves the cache as it is; any other one is
    not ignored. -/
theorem ignored_apply (watcher : Watcher) (change : Change) :
    ((watcher.apply change).1 = [] ∧ (watcher.apply change).2.ignored = watcher.ignored + 1 ∧
        (watcher.apply change).2.cache = watcher.cache) ∨
      ((watcher.apply change).1 ≠ [] ∧ (watcher.apply change).2.ignored = watcher.ignored) := by
  rcases apply_cases watcher change with ⟨resource, app, -, -, -, applied⟩ | ⟨-, applied⟩
  · rw [applied]
    exact Or.inr ⟨List.append_ne_nil_of_right_ne_nil _ (List.cons_ne_nil _ _), rfl⟩
  · rw [applied, evict]
    cases (watcher.observe change).cache.app? change.id with
    | none => exact Or.inl ⟨rfl, rfl, rfl⟩
    | some previous => exact Or.inr ⟨List.cons_ne_nil _ _, rfl⟩

/-- A step counts an ignored event exactly if it is quiet, and a quiet step leaves the cache as it
    is. -/
theorem ignored_advance (watcher : Watcher) (step : Step) :
    (watcher.advance step).ignored = watcher.ignored + (if watcher.isQuiet step then 1 else 0) ∧
      (watcher.isQuiet step = true → (watcher.advance step).cache = watcher.cache) := by
  cases step with
  | subscribe target =>
    refine ⟨?_, fun quiet => absurd quiet (by simp [isQuiet, Step.change?])⟩
    rcases advance_subscribe_cases watcher target with refused | ⟨added, accepted⟩
    · simp [refused, isQuiet, Step.change?]
    · obtain ⟨-, ⟨-, same⟩ | ⟨-, same⟩⟩ := subscribe_cases accepted <;>
        simp [same, isQuiet, Step.change?]
  | unsubscribe target =>
    refine ⟨?_, fun quiet => absurd quiet (by simp [isQuiet, Step.change?])⟩
    simp only [advance, unsubscribe, isQuiet, Step.change?]
    split <;> rfl
  | event told change =>
    by_cases own : told = watcher.kind
    · rcases ignored_apply watcher change with ⟨unlisted, counted, unchanged⟩ | ⟨listed, uncounted⟩
      · simp [advance, handle, isQuiet, Step.change?, pushesOf, own, unlisted, counted, unchanged]
      · simp [advance, handle, isQuiet, Step.change?, pushesOf, own, listed, uncounted]
    · simp [advance, handle, isQuiet, Step.change?, own]

/-- A history counts as many ignored events as it has quiet ones. -/
theorem ignored_run (steps : List Step) (watcher : Watcher) :
    (run steps watcher).ignored = watcher.ignored + quietEvents steps watcher := by
  induction steps generalizing watcher with
  | nil => rfl
  | cons step rest inductionHypothesis =>
    have further := inductionHypothesis (watcher.advance step)
    rw [(watcher.ignored_advance step).1, Nat.add_assoc] at further
    exact further

end Watcher

/-! ## What an operator reads -/

/-- What samples show under a name and labels; a counter that is not shown has counted nothing. -/
def Sample.reading (samples : List Sample) (name : String) (labels : List (String × String)) :
    Nat :=
  ((samples.filter fun sample => sample.name = name ∧ sample.labels = labels).map value).sum

namespace Sample

theorem reading_append (first second : List Sample) (name : String)
    (labels : List (String × String)) :
    reading (first ++ second) name labels =
      reading first name labels + reading second name labels := by
  simp [reading]

/-- A counter is read under its own name and labels only. -/
theorem reading_counter (counted : String) (labels : List (String × String)) (value : Nat)
    (name : String) (wanted : List (String × String)) :
    reading (counter counted labels value) name wanted =
      if counted ++ "_total" = name ∧ labels = wanted then value else 0 := by
  unfold counter
  by_cases unused : value = 0
  · simp [reading, unused]
  · by_cases own : counted ++ "_total" = name ∧ labels = wanted
    · simp [reading, unused, own]
    · simp [reading, unused, own]

end Sample

namespace Watcher

/-- What an operator reads as the number of changes of one sort that the cache of a watcher took. -/
def mutations (watcher : Watcher) (operation : String) : Nat :=
  Sample.reading watcher.samples "cache_mutations_total"
    [("kind", watcher.kind.text), ("op", operation)]

/-- What an operator reads as the number of events that a watcher ignored. -/
def ignoredEvents (watcher : Watcher) : Nat :=
  Sample.reading watcher.samples "ignored_events_total" [("kind", watcher.kind.text)]

/-- The counters are shown as they are counted. -/
theorem readings {watcher : Watcher} (own : watcher.cache.kind = watcher.kind) :
    watcher.mutations "set" = watcher.cache.sets ∧
      watcher.mutations "delete" = watcher.cache.deletes ∧
        watcher.ignoredEvents = watcher.ignored := by
  simp [mutations, ignoredEvents, samples, Cache.samples, Sample.reading_append,
    Sample.reading_counter, own]

/-- Whatever the history, what an operator reads accounts for every event and every change. The
    sets and the deletions add up to the versions of all groups. The deletions are made up for by
    the sets with enough to spare for all resources in groups, and for all names that are filed. As
    many events are ignored as events of the watcher's own kind called for no push, and such an
    event leaves the cache as it is. An event of another kind changes nothing and calls for no
    push. -/
theorem counters_account (kind : Kind) (makeRule : RuleMaker) (steps : List Step) :
    let watcher := run steps (ofKind kind makeRule)
    watcher.mutations "set" + watcher.mutations "delete" =
        (watcher.cache.groups.values.map Group.version).sum ∧
      (watcher.cache.groups.values.map fun group => group.resources.length).sum +
        watcher.mutations "delete" ≤ watcher.mutations "set" ∧
      watcher.cache.assignments.size + watcher.mutations "delete" ≤ watcher.mutations "set" ∧
      watcher.ignoredEvents = quietEvents steps (ofKind kind makeRule) ∧
      (∀ change, (watcher.handle kind change).1 = [] →
        (watcher.handle kind change).2.cache = watcher.cache) ∧
      ∀ told change, told ≠ kind → watcher.handle told change = ([], watcher) := by
  intro watcher
  have own : watcher.kind = kind := (run_frame steps (ofKind kind makeRule)).1
  have balanced : watcher.cache.Balanced kind :=
    balanced_run steps (Cache.balanced_ofKind kind)
  obtain ⟨sets, deletes, ignored⟩ := readings (balanced.own.trans own.symm)
  rw [sets, deletes, ignored]
  refine ⟨balanced.changes, balanced.stocked, balanced.filed, ?_, ?_, ?_⟩
  · rw [ignored_run steps (ofKind kind makeRule)]
    exact Nat.zero_add _
  · intro change quiet
    exact (watcher.ignored_advance (.event kind change)).2 (by
      simp [isQuiet, Step.change?, pushesOf, quiet, own])
  · intro told change other
    rw [handle, if_neg (own.symm ▸ other)]

end Watcher

end RulePlane
