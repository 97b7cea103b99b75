import RulePlane.Cache

/-!
# Agreement of the indexes of a cache

A cache files each resource twice: under its name, with the application to which the name is
assigned, and in the group of that application. The two indexes are changed by separate operations,
so between two of them they may differ. `Agrees` says that they do not, and the laws below say which
pairs of operations keep it: filing a resource under a name that no other application has
(`agrees_file`), taking a name out of both indexes (`agrees_discard`), and moving a name from one
application to another (`agrees_move`).

Agreement is about what the indexes hold. The order of a group and its version are not part of it.
-/

namespace RulePlane

namespace Group

/-- Putting a resource adds at most its name to the names, behind all others. -/
theorem names_putResource (resource : Resource) (resources : List Resource) :
    (putResource resource resources).map Resource.anyName =
      if resource.anyName ∈ resources.map Resource.anyName then resources.map Resource.anyName
      else resources.map Resource.anyName ++ [resource.anyName] := by
  induction resources with
  | nil => simp [putResource]
  | cons first rest inductionHypothesis =>
    by_cases same : first.anyName = resource.anyName
    · simp [putResource, same]
    · simp only [putResource, same, if_false, List.map_cons, inductionHypothesis, List.mem_cons,
        Ne.symm same, false_or]
      split <;> simp

/-- Dropping a name takes its first occurrence out of the names. -/
theorem names_dropResource (name : String) (resources : List Resource) :
    (dropResource name resources).map Resource.anyName =
      (resources.map Resource.anyName).erase name := by
  induction resources with
  | nil => simp [dropResource]
  | cons first rest inductionHypothesis =>
    by_cases same : first.anyName = name
    · simp [dropResource, same]
    · simp [dropResource, same, inductionHypothesis]

/-- Among distinct names, putting a resource replaces exactly the one of its name. -/
theorem mem_putResource_iff (resource : Resource) (resources : List Resource)
    (distinct : (resources.map Resource.anyName).Nodup) (tested : Resource) :
    tested ∈ putResource resource resources ↔
      tested = resource ∨ (tested ∈ resources ∧ tested.anyName ≠ resource.anyName) := by
  induction resources with
  | nil => simp [putResource]
  | cons first rest inductionHypothesis =>
    obtain ⟨absent, tail⟩ := List.nodup_cons.1 distinct
    by_cases same : first.anyName = resource.anyName
    · have others : ∀ later ∈ rest, later.anyName ≠ resource.anyName := by
        intro later member equal
        exact absent (List.mem_map.2 ⟨later, member, equal.trans same.symm⟩)
      simp only [putResource, same, if_true, List.mem_cons]
      constructor
      · rintro (placed | member)
        · exact Or.inl placed
        · exact Or.inr ⟨Or.inr member, others tested member⟩
      · rintro (placed | ⟨rfl | member, different⟩)
        · exact Or.inl placed
        · exact absurd same different
        · exact Or.inr member
    · simp only [putResource, same, if_false, List.mem_cons, inductionHypothesis tail]
      constructor
      · rintro (rfl | placed | ⟨member, different⟩)
        · exact Or.inr ⟨Or.inl rfl, same⟩
        · exact Or.inl placed
        · exact Or.inr ⟨Or.inr member, different⟩
      · rintro (placed | ⟨rfl | member, different⟩)
        · exact Or.inr (Or.inl placed)
        · exact Or.inl rfl
        · exact Or.inr (Or.inr ⟨member, different⟩)

/-- Among distinct names, dropping a name takes out exactly the resource of that name. -/
theorem mem_dropResource_iff (name : String) (resources : List Resource)
    (distinct : (resources.map Resource.anyName).Nodup) (tested : Resource) :
    tested ∈ dropResource name resources ↔ tested ∈ resources ∧ tested.anyName ≠ name := by
  induction resources with
  | nil => simp [dropResource]
  | cons first rest inductionHypothesis =>
    obtain ⟨absent, tail⟩ := List.nodup_cons.1 distinct
    by_cases same : first.anyName = name
    · have others : ∀ later ∈ rest, later.anyName ≠ name := by
        intro later member equal
        exact absent (List.mem_map.2 ⟨later, member, equal.trans same.symm⟩)
      simp only [dropResource, same, if_true, List.mem_cons]
      constructor
      · intro member
        exact ⟨Or.inr member, others tested member⟩
      · rintro ⟨rfl | member, different⟩
        · exact absurd same different
        · exact member
    · simp only [dropResource, same, if_false, List.mem_cons, inductionHypothesis tail]
      constructor
      · rintro (rfl | ⟨member, different⟩)
        · exact ⟨Or.inl rfl, same⟩
        · exact ⟨Or.inr member, different⟩
      · rintro ⟨rfl | member, different⟩
        · exact Or.inl rfl
        · exact Or.inr ⟨member, different⟩

end Group

namespace Cache

/-- The names in a group stay distinct when a resource is put into it. -/
theorem distinct_place (cache : Cache)
    (distinct : ∀ app, ((cache.group app).resources.map Resource.anyName).Nodup)
    (app : App) (resource : Resource) (tested : App) :
    (((cache.place app resource).2.group tested).resources.map Resource.anyName).Nodup := by
  rw [group_place]
  split
  · rw [Group.put, Group.names_putResource]
    split
    · exact distinct app
    · rename_i absent
      refine List.nodup_append.2 ⟨distinct app, by simp, ?_⟩
      intro first member last single same
      exact absent (by simpa [← List.mem_singleton.1 single, ← same] using member)
  · exact distinct tested

/-- The names in a group stay distinct when one of them is taken out. -/
theorem distinct_displace (cache : Cache)
    (distinct : ∀ app, ((cache.group app).resources.map Resource.anyName).Nodup)
    (app : App) (name : String) (tested : App) :
    (((cache.displace app name).2.group tested).resources.map Resource.anyName).Nodup := by
  rw [group_displace]
  split
  · rw [Group.drop, Group.names_dropResource]
    exact (distinct app).erase name
  · exact distinct tested

/-- What a group holds after a resource was placed. -/
theorem mem_group_place (cache : Cache)
    (distinct : ∀ app, ((cache.group app).resources.map Resource.anyName).Nodup)
    (app : App) (resource : Resource) (tested : App) (held : Resource) :
    held ∈ ((cache.place app resource).2.group tested).resources ↔
      if app = tested then
        held = resource ∨ (held ∈ (cache.group app).resources ∧ held.anyName ≠ resource.anyName)
      else held ∈ (cache.group tested).resources := by
  rw [group_place]
  split
  · exact Group.mem_putResource_iff resource _ (distinct app) held
  · exact Iff.rfl

/-- What a group holds after a name was displaced, whether or not the group had it. -/
theorem mem_group_displace (cache : Cache)
    (distinct : ∀ app, ((cache.group app).resources.map Resource.anyName).Nodup)
    (app : App) (name : String) (tested : App) (held : Resource) :
    held ∈ ((cache.displace app name).2.group tested).resources ↔
      held ∈ (cache.group tested).resources ∧ (app = tested → held.anyName ≠ name) := by
  rw [group_displace]
  by_cases same : app = tested
  · subst same
    by_cases present : (cache.group app).holds name = true
    · rw [if_pos ⟨rfl, present⟩]
      simpa [Group.drop] using Group.mem_dropResource_iff name _ (distinct app) held
    · rw [if_neg (fun both => present both.2)]
      have absent : held ∈ (cache.group app).resources → held.anyName ≠ name := by
        intro member equal
        exact present (List.any_eq_true.2 ⟨held, member, by simp [equal]⟩)
      exact ⟨fun member => ⟨member, fun _ => absent member⟩, fun both => both.1⟩
  · simp [same]

/-- The indexes of a cache agree. A name is assigned in its own namespace and with the resource of
    that name; a group holds exactly the resources that are assigned to its application, and no
    name twice. -/
structure Agrees (cache : Cache) : Prop where
  named : ∀ id app resource, cache.assignments.find? id = some ⟨app, resource⟩ →
    resource.id = id ∧ app.scope = id.scope
  grouped : ∀ app resource, resource ∈ (cache.group app).resources ↔
    cache.assignments.find? resource.id = some ⟨app, resource⟩
  distinct : ∀ app, ((cache.group app).resources.map Resource.anyName).Nodup

/-- The indexes of an empty cache agree. -/
theorem agrees_ofKind (kind : Kind) : (ofKind kind).Agrees where
  named := by simp [ofKind]
  grouped := by simp [ofKind, group, default]
  distinct := by simp [default]

/-- Agreement depends on the look-ups of names and on the groups only. -/
theorem Agrees.of_same {first second : Cache} (agrees : first.Agrees)
    (lookups : ∀ id, second.assignments.find? id = first.assignments.find? id)
    (groups : ∀ app, second.group app = first.group app) : second.Agrees where
  named := by simpa only [lookups] using agrees.named
  grouped := by simpa only [lookups, groups] using agrees.grouped
  distinct := by simpa only [groups] using agrees.distinct

/-- Whatever is in a group comes from the namespace of its application. -/
theorem Agrees.scope_of_mem {cache : Cache} (agrees : cache.Agrees) {app : App}
    {resource : Resource} (member : resource ∈ (cache.group app).resources) :
    resource.id.scope = app.scope :=
  (agrees.named _ _ _ ((agrees.grouped app resource).1 member)).2.symm

/-- Filing a resource under its own name keeps the indexes in agreement, if the name is not assigned
    to another application. Two resources of one group share their namespace, so a resource that is
    replaced by its bare name is replaced by its full one. -/
theorem agrees_file {cache : Cache} (agrees : cache.Agrees) (app : App) (resource : Resource)
    (scope : app.scope = resource.id.scope)
    (home : ∀ previous, cache.app? resource.id = some previous → previous = app) :
    ((cache.assign resource.id app resource).place app resource).2.Agrees where
  named := by
    intro id other found
    simp only [assignments_place, find?_assign]
    split
    · rename_i same
      rintro ⟨⟩
      exact ⟨same, scope.trans (congrArg ObjectId.scope same)⟩
    · exact agrees.named id other found
  grouped := by
    intro tested held
    rw [mem_group_place (cache.assign resource.id app resource) agrees.distinct]
    simp only [group_assign, assignments_place, find?_assign]
    by_cases sameId : resource.id = held.id
    · have sameName : held.anyName = resource.anyName :=
        (congrArg ObjectId.name sameId).symm
      rw [if_pos sameId]
      by_cases sameApp : app = tested
      · rw [if_pos sameApp]
        simp [sameName, sameApp, eq_comm]
      · rw [if_neg sameApp]
        constructor
        · intro member
          have filed := (agrees.grouped tested held).1 member
          have assigned : cache.app? resource.id = some tested := by
            simp [app?, sameId, filed]
          exact absurd (home tested assigned).symm sameApp
        · intro same
          exact absurd (congrArg Assignment.app (Option.some.inj same)) sameApp
    · rw [if_neg sameId, ← agrees.grouped tested held]
      by_cases sameApp : app = tested
      · subst sameApp
        rw [if_pos rfl]
        constructor
        · rintro (rfl | ⟨member, _⟩)
          · exact absurd rfl sameId
          · exact member
        · intro member
          refine Or.inr ⟨member, fun sameName => sameId ?_⟩
          have sameScope : held.id.scope = resource.id.scope :=
            (agrees.scope_of_mem member).trans scope
          simp only [Resource.id, ObjectId.mk.injEq]
          exact ⟨sameScope.symm, sameName.symm⟩
      · rw [if_neg sameApp]
  distinct := distinct_place (cache.assign resource.id app resource) agrees.distinct app resource

/-- Taking a name out of both indexes keeps them in agreement. -/
theorem agrees_discard {cache : Cache} (agrees : cache.Agrees) {id : ObjectId} {previous : App}
    (assigned : cache.app? id = some previous) :
    ((cache.unassign id).2.displace previous id.name).2.Agrees where
  named := by
    intro tested app resource
    simp only [assignments_displace, find?_unassign]
    split
    · rintro ⟨⟩
    · exact agrees.named tested app resource
  grouped := by
    intro tested held
    rw [mem_group_displace (cache.unassign id).2 agrees.distinct]
    simp only [group_unassign, assignments_displace, find?_unassign]
    rw [agrees.grouped tested held]
    by_cases sameId : id = held.id
    · rw [if_pos sameId]
      constructor
      · rintro ⟨filed, different⟩
        have sameApp : previous = tested := by
          simp only [app?, sameId, filed, Option.map_some, Option.some.injEq] at assigned
          exact assigned.symm
        exact absurd (congrArg ObjectId.name sameId).symm (different sameApp)
      · rintro ⟨⟩
    · rw [if_neg sameId]
      constructor
      · exact fun both => both.1
      · intro filed
        refine ⟨filed, fun sameApp sameName => sameId ?_⟩
        obtain ⟨present, found⟩ := Option.map_eq_some_iff.1 assigned
        have idScope : previous.scope = id.scope :=
          (agrees.named id previous present.resource (by rw [found.1, ← found.2])).2
        have heldScope : tested.scope = held.id.scope :=
          (agrees.named held.id tested held filed).2
        have sameScope : id.scope = held.id.scope := by
          rw [← idScope, sameApp, heldScope]
        cases id
        simp only [Resource.id, ObjectId.mk.injEq]
        exact ⟨sameScope, sameName.symm⟩
  distinct := distinct_displace (cache.unassign id).2 agrees.distinct previous id.name

/-- Moving a resource from the group of one application to that of another keeps the indexes in
    agreement. The old assignment is overwritten and not taken out first; that makes no difference
    to any look-up. -/
theorem agrees_move {cache : Cache} (agrees : cache.Agrees) (app : App) (resource : Resource)
    (scope : app.scope = resource.id.scope) {previous : App}
    (assigned : cache.app? resource.id = some previous) :
    (((cache.displace previous resource.id.name).2.assign resource.id app resource).place app
      resource).2.Agrees := by
  let discarded := ((cache.unassign resource.id).2.displace previous resource.id.name).2
  have discardedAgrees : discarded.Agrees := agrees_discard agrees assigned
  have free : discarded.app? resource.id = none := by
    simp [discarded, app?, find?_unassign]
  have filed := agrees_file discardedAgrees app resource scope (by simp [free])
  refine filed.of_same ?_ ?_
  · intro id
    simp only [discarded, assignments_place, find?_assign, assignments_displace, find?_unassign]
    split <;> rfl
  · intro tested
    simp only [discarded, group_place, group_assign, group_displace, group_unassign]
    rfl

end Cache

end RulePlane
