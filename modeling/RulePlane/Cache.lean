import RulePlane.Resource

/-!
# Caches

The resources of one kind that clients are interested in, filed twice: each name is assigned to the
application that it governs, and the resources of an application form a group. A group lists its
resources in the order in which they entered it, one for each name, and counts its changes in a
version. An emptied group keeps its version, so a version never moves back.
-/

namespace RulePlane

/-- A resource together with the application to which its name is assigned. -/
structure Assignment where
  app : App
  resource : Resource
deriving Inhabited

/-- The resources that govern one application, and the number of changes to them so far. The number
    is a natural number here, where the program counts in a signed word of 64 bits: the two agree as
    long as a group has changed fewer than `2 ^ 63` times. -/
structure Group where
  resources : List Resource
  version : Nat

/-- A group that never had a resource. -/
instance : Inhabited Group := ⟨[], 0⟩

/-- What placing a resource in a group did. -/
inductive Placement where
  | added
  | updated
deriving DecidableEq, Repr

/-- The cached resources of one kind, with the numbers of changes to its groups so far. -/
structure Cache where
  kind : Kind
  assignments : Table ObjectId Assignment
  groups : Table App Group
  sets : Nat
  deletes : Nat

namespace Group

/-- Whether a group holds a resource of a name. -/
def holds (group : Group) (name : String) : Bool :=
  group.resources.any fun resource => resource.anyName == name

/-- Put a resource in the place of the one with its name, or behind all others. -/
def putResource (resource : Resource) : List Resource → List Resource
  | [] => [resource]
  | present :: rest =>
      if present.anyName = resource.anyName then resource :: rest
      else present :: putResource resource rest

/-- Take the first resource of a name out of a list. -/
def dropResource (name : String) : List Resource → List Resource
  | [] => []
  | present :: rest =>
      if present.anyName = name then rest else present :: dropResource name rest

/-- Put a resource into a group. -/
def put (group : Group) (resource : Resource) : Group :=
  ⟨putResource resource group.resources, group.version + 1⟩

/-- Take the resource of a name out of a group. -/
def drop (group : Group) (name : String) : Group :=
  ⟨dropResource name group.resources, group.version + 1⟩

end Group

namespace Cache

/-- The cache of a kind before anything is cached. -/
def ofKind (kind : Kind) : Cache := ⟨kind, Table.empty, Table.empty, 0, 0⟩

/-- The cached resource of a name. -/
def resource? (cache : Cache) (id : ObjectId) : Option Resource :=
  (cache.assignments.find? id).map Assignment.resource

/-- The application to which a name is assigned. -/
def app? (cache : Cache) (id : ObjectId) : Option App :=
  (cache.assignments.find? id).map Assignment.app

/-- The group of an application; an application that never had one has the empty group of
    version 0. -/
def group (cache : Cache) (app : App) : Group := (cache.groups.find? app).getD default

/-- Assign a name to an application, with the resource of that name. -/
def assign (cache : Cache) (id : ObjectId) (app : App) (resource : Resource) : Cache :=
  { cache with assignments := cache.assignments.insert id ⟨app, resource⟩ }

/-- Forget a name, and give the resource that it had. -/
def unassign (cache : Cache) (id : ObjectId) : Option Resource × Cache :=
  (cache.resource? id, { cache with assignments := cache.assignments.erase id })

/-- Put a resource into the group of an application: in the place of the one with its name, or
    behind all others. -/
def place (cache : Cache) (app : App) (resource : Resource) : Placement × Cache :=
  let group := cache.group app
  (if group.holds resource.anyName then .updated else .added,
    { cache with groups := cache.groups.insert app (group.put resource), sets := cache.sets + 1 })

/-- Take the resource of a name out of the group of an application, and say whether it was there.
    If it was not, nothing changes. -/
def displace (cache : Cache) (app : App) (name : String) : Bool × Cache :=
  if (cache.group app).holds name then
    (true, { cache with
      groups := cache.groups.insert app ((cache.group app).drop name)
      deletes := cache.deletes + 1 })
  else (false, cache)

@[simp] theorem group_ofKind (kind : Kind) (app : App) : (ofKind kind).group app = default := rfl

@[simp] theorem group_assign (cache : Cache) (id : ObjectId) (app : App) (resource : Resource)
    (tested : App) : (cache.assign id app resource).group tested = cache.group tested := rfl

@[simp] theorem group_unassign (cache : Cache) (id : ObjectId) (tested : App) :
    (cache.unassign id).2.group tested = cache.group tested := rfl

/-- Assigning a name changes the assignment of that name only. -/
theorem find?_assign (cache : Cache) (id : ObjectId) (app : App) (resource : Resource)
    (tested : ObjectId) :
    (cache.assign id app resource).assignments.find? tested =
      if id = tested then some ⟨app, resource⟩ else cache.assignments.find? tested :=
  Table.find?_insert cache.assignments id ⟨app, resource⟩ tested

/-- Forgetting a name takes the assignment of that name only. -/
theorem find?_unassign (cache : Cache) (id tested : ObjectId) :
    (cache.unassign id).2.assignments.find? tested =
      if id = tested then none else cache.assignments.find? tested :=
  Table.find?_erase cache.assignments id tested

@[simp] theorem assignments_place (cache : Cache) (app : App) (resource : Resource) :
    (cache.place app resource).2.assignments = cache.assignments := rfl

@[simp] theorem assignments_displace (cache : Cache) (app : App) (name : String) :
    (cache.displace app name).2.assignments = cache.assignments := by
  unfold displace
  split <;> rfl

/-- Placing a resource changes the group of its application only. -/
theorem group_place (cache : Cache) (app : App) (resource : Resource) (tested : App) :
    (cache.place app resource).2.group tested =
      if app = tested then (cache.group app).put resource else cache.group tested := by
  simp only [place, group, Table.find?_insert]
  split <;> simp

/-- Displacing changes the group of the application only, and only if the name was in it. -/
theorem group_displace (cache : Cache) (app : App) (name : String) (tested : App) :
    (cache.displace app name).2.group tested =
      if app = tested ∧ (cache.group app).holds name then (cache.group app).drop name
      else cache.group tested := by
  by_cases held : (cache.group app).holds name = true
  · rw [displace, if_pos held]
    simp only [held, and_true]
    rw [group, Table.find?_insert]
    split <;> simp [group]
  · rw [displace, if_neg held, if_neg (fun both => held both.2)]

end Cache

end RulePlane
