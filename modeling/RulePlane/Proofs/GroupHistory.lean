import RulePlane.Proofs.CacheAgreement
import RulePlane.Proofs.Standing

/-!
# Groups by their history

Whatever is called on a cache, the group of an application is a map from names to resources in the
order in which the names came in, with a count of what happened to it. All three are read off the
calls alone: which resource a name has (`latest?`), since when the group has it (`enteredAt?`), and
how many calls changed the group (`changes`). `run_isOrderedMap` says that the group is what the
calls lead to and what the next call does to it: a name that is new goes behind all others, a name
that is there keeps its place, and a name that is taken out leaves the others in their order.

The calls may be made in any order and for any names. In particular nothing is asked of the index of
names, which may contradict the groups: the two are changed by separate calls.
-/

namespace RulePlane

namespace Group

/-- A group holds a name if one of its resources has it. -/
theorem holds_iff (group : Group) (name : String) :
    group.holds name = true ↔ name ∈ group.resources.map Resource.anyName := by
  simp [holds]

/-- A resource of a new name goes behind all others. -/
theorem putResource_of_absent {resource : Resource} {resources : List Resource}
    (absent : resource.anyName ∉ resources.map Resource.anyName) :
    putResource resource resources = resources ++ [resource] := by
  induction resources with
  | nil => rfl
  | cons first rest inductionHypothesis =>
    rw [List.map_cons, List.mem_cons, not_or] at absent
    rw [putResource, if_neg (Ne.symm absent.1), inductionHypothesis absent.2]
    rfl

/-- A resource takes the place of the first one of its name. -/
theorem putResource_append {resource present : Resource} {front back : List Resource}
    (others : ∀ earlier ∈ front, earlier.anyName ≠ present.anyName)
    (same : present.anyName = resource.anyName) :
    putResource resource (front ++ present :: back) = front ++ resource :: back := by
  induction front with
  | nil => exact if_pos same
  | cons first rest inductionHypothesis =>
    obtain ⟨different, others⟩ := List.forall_mem_cons.1 others
    rw [List.cons_append, putResource, if_neg (same ▸ different), inductionHypothesis others]
    rfl

/-- Taking out the first resource of a name closes its gap. -/
theorem dropResource_append {present : Resource} {front back : List Resource}
    (others : ∀ earlier ∈ front, earlier.anyName ≠ present.anyName) :
    dropResource present.anyName (front ++ present :: back) = front ++ back := by
  induction front with
  | nil => exact if_pos rfl
  | cons first rest inductionHypothesis =>
    obtain ⟨different, others⟩ := List.forall_mem_cons.1 others
    rw [List.cons_append, dropResource, if_neg different, inductionHypothesis others]
    rfl

/-- Among distinct names, those in front of a resource are not its own. -/
theorem ne_of_nodup_append {present : Resource} {front back : List Resource}
    (distinct : ((front ++ present :: back).map Resource.anyName).Nodup) :
    ∀ earlier ∈ front, earlier.anyName ≠ present.anyName := by
  intro earlier member same
  rw [List.map_append, List.map_cons] at distinct
  exact (List.nodup_append.1 distinct).2.2 _ (List.mem_map_of_mem member) _ List.mem_cons_self same

end Group

namespace Cache

/-- A call that changes a cache. -/
inductive Call where
  | assign (id : ObjectId) (app : App) (resource : Resource)
  | unassign (id : ObjectId)
  | place (app : App) (resource : Resource)
  | displace (app : App) (name : String)

/-- The application whose group a call is about. -/
def Call.app? : Call → Option App
  | assign _ _ _ | unassign _ => none
  | place app _ | displace app _ => some app

/-- The cache after a call. -/
def advance (cache : Cache) : Call → Cache
  | .assign id app resource => cache.assign id app resource
  | .unassign id => (cache.unassign id).2
  | .place app resource => (cache.place app resource).2
  | .displace app name => (cache.displace app name).2

/-- The cache after some calls. -/
def follow (calls : List Call) (cache : Cache) : Cache := calls.foldl advance cache

/-- The cache that calls lead to from an empty one. -/
def run (kind : Kind) (calls : List Call) : Cache := follow calls (ofKind kind)

/-- The names in the group of an application, in their order. -/
def names (cache : Cache) (app : App) : List String :=
  (cache.group app).resources.map Resource.anyName

/-! ## Readings of the calls -/

/-- Whether a call sets a name in the group of an application. -/
def Call.sets (app : App) (name : String) : Call → Bool
  | place filed resource => decide (filed = app ∧ resource.anyName = name)
  | assign _ _ _ | unassign _ | displace _ _ => false

/-- Whether a call takes a name out of the group of an application. -/
def Call.deletes (app : App) (name : String) : Call → Bool
  | displace left dropped => decide (left = app ∧ dropped = name)
  | assign _ _ _ | unassign _ | place _ _ => false

/-- The resource that a call puts into a group. -/
def Call.placed? : Call → Option Resource
  | place _ resource => some resource
  | assign _ _ _ | unassign _ | displace _ _ => none

/-- The resource that the last call for a name left in the group of an application; none if that
    call took the name out or there was no such call. -/
def latest? (app : App) (name : String) (calls : List Call) : Option Resource :=
  ((calls.filter fun call => call.sets app name || call.deletes app name).getLast?).bind
    Call.placed?

/-- The place of the call that brought a name into the group of an application when it was not in
    it, as far as the name was not taken out afterwards. -/
def enteredAt? (app : App) (calls : List Call) (name : String) : Option Nat :=
  standing? (Call.sets app name) (Call.deletes app name) calls

/-- Whether a call changes the group of an application: setting always does, taking out does if it
    answers that the name was there. -/
def Call.changes (app : App) (cache : Cache) : Call → Bool
  | assign _ _ _ | unassign _ => false
  | place filed _ => decide (filed = app)
  | displace left name => decide (left = app) && (cache.displace left name).1

/-- The number of calls that change the group of an application. -/
def changes (app : App) : List Call → Cache → Nat
  | [], _ => 0
  | call :: rest, cache =>
      (if call.changes app cache then 1 else 0) + changes app rest (cache.advance call)

/-- A further call decides about the names that it sets or takes out, and leaves all others as they
    were. -/
theorem latest?_concat (app : App) (name : String) (calls : List Call) (call : Call) :
    latest? app name (calls ++ [call]) =
      if call.sets app name || call.deletes app name then call.placed?
      else latest? app name calls := by
  unfold latest?
  rw [List.filter_append]
  split <;> rename_i concerned <;> simp [concerned]

theorem run_concat (kind : Kind) (calls : List Call) (call : Call) :
    run kind (calls ++ [call]) = (run kind calls).advance call := by
  simp [run, follow]

/-- A name has a resource exactly if it entered. -/
theorem isSome_enteredAt?_iff (app : App) (name : String) (calls : List Call) :
    (enteredAt? app calls name).isSome = true ↔ (latest? app name calls).isSome = true := by
  unfold enteredAt?
  induction calls using List.reverseRecOn with
  | nil => simp [standing?, latest?]
  | append_singleton earlier call inductionHypothesis =>
    rw [standing?_concat, latest?_concat]
    cases call with
    | assign id filed resource => simpa [Call.sets, Call.deletes] using inductionHypothesis
    | unassign id => simpa [Call.sets, Call.deletes] using inductionHypothesis
    | place filed resource =>
      by_cases own : filed = app ∧ resource.anyName = name
      · simp [Call.sets, Call.deletes, Call.placed?, own]
      · simpa [Call.sets, Call.deletes, own] using inductionHypothesis
    | displace left dropped =>
      by_cases own : left = app ∧ dropped = name
      · simp [Call.sets, Call.deletes, Call.placed?, own]
      · simpa [Call.sets, Call.deletes, own] using inductionHypothesis

/-- The resource that a name has carries the name. -/
theorem anyName_of_latest? {app : App} {name : String} {calls : List Call} {resource : Resource}
    (latest : latest? app name calls = some resource) : resource.anyName = name := by
  obtain ⟨call, last, placed⟩ := Option.bind_eq_some_iff.1 latest
  have concerned := (List.mem_filter.1 (List.mem_of_getLast? last)).2
  cases call with
  | assign _ _ _ => cases placed
  | unassign _ => cases placed
  | place filed held =>
    cases placed
    simp only [Call.sets, Call.deletes, Bool.or_false, decide_eq_true_eq] at concerned
    exact concerned.2
  | displace _ _ => cases placed

/-! ## What every call keeps -/

variable {cache : Cache} {calls : List Call} {app : App}

/-- The groups of a cache hold what the calls left in them, in the order in which it came in. -/
structure Follows (cache : Cache) (calls : List Call) : Prop where
  current : ∀ app resource, resource ∈ (cache.group app).resources ↔
    latest? app resource.anyName calls = some resource
  ordered : ∀ app, (cache.names app).Pairwise (Precedes (enteredAt? app calls))

/-- An empty cache is what no calls lead to. -/
theorem follows_ofKind (kind : Kind) : (ofKind kind).Follows [] where
  current := by simp [default, latest?]
  ordered := fun _ => List.Pairwise.nil

/-- No name is twice in a group. -/
theorem Follows.once (follows : cache.Follows calls) (app : App) : (cache.names app).Nodup :=
  (follows.ordered app).imp Precedes.ne

/-- A name that is in a group entered it. -/
theorem Follows.mem_names_iff (follows : cache.Follows calls) (name : String) :
    name ∈ cache.names app ↔ (enteredAt? app calls name).isSome = true := by
  rw [isSome_enteredAt?_iff, Option.isSome_iff_exists, names, List.mem_map]
  constructor
  · rintro ⟨resource, held, rfl⟩
    exact ⟨resource, (follows.current app resource).1 held⟩
  · rintro ⟨resource, latest⟩
    have own : resource.anyName = name := anyName_of_latest? latest
    exact ⟨resource, (follows.current app resource).2 (own.symm ▸ latest), own⟩

/-- A call that takes neither of two names out of a group leaves their order as it is. -/
theorem precedes_concat {first second : String} {call : Call}
    (before : Precedes (enteredAt? app calls) first second)
    (keepsFirst : call.deletes app first = false) (keepsSecond : call.deletes app second = false) :
    Precedes (enteredAt? app (calls ++ [call])) first second :=
  Precedes.concat before keepsFirst keepsSecond

/-- A call about the index of names leaves the groups what they are. -/
theorem Follows.unconcerned (follows : cache.Follows calls) {after : Cache} {call : Call}
    (groups : ∀ app, after.group app = cache.group app) (unconcerned : call.app? = none) :
    after.Follows (calls ++ [call]) := by
  have idle (app : App) (name : String) :
      call.sets app name = false ∧ call.deletes app name = false := by
    cases call with
    | assign _ _ _ => exact ⟨rfl, rfl⟩
    | unassign _ => exact ⟨rfl, rfl⟩
    | place _ _ => cases unconcerned
    | displace _ _ => cases unconcerned
  constructor
  · intro app resource
    rw [groups, latest?_concat, (idle app _).1, (idle app _).2]
    exact follows.current app resource
  · intro app
    rw [names, groups]
    exact (follows.ordered app).imp fun before =>
      precedes_concat before (idle app _).2 (idle app _).2

/-- A placed resource stands last if its name is new, and leaves the names as they are if it is
    not. -/
theorem names_place (cache : Cache) (app : App) (resource : Resource) (tested : App) :
    (cache.place app resource).2.names tested =
      if app = tested ∧ resource.anyName ∉ cache.names tested then
        cache.names tested ++ [resource.anyName]
      else cache.names tested := by
  unfold names
  rw [group_place]
  by_cases here : app = tested
  · subst here
    rw [if_pos rfl, Group.put, Group.names_putResource]
    by_cases present : resource.anyName ∈ (cache.group app).resources.map Resource.anyName
    · rw [if_pos present, if_neg (fun new => new.2 present)]
    · rw [if_neg present, if_pos ⟨rfl, present⟩]
  · rw [if_neg here, if_neg (fun new => here new.1)]

/-- A displaced name leaves the other names in their order. -/
theorem names_displace (cache : Cache) (app : App) (name : String) (tested : App) :
    (cache.displace app name).2.names tested =
      if app = tested then (cache.names tested).erase name else cache.names tested := by
  unfold names
  rw [group_displace]
  by_cases here : app = tested
  · subst here
    by_cases held : (cache.group app).holds name = true
    · rw [if_pos ⟨rfl, held⟩, if_pos rfl, Group.drop, Group.names_dropResource]
    · have absent : name ∉ (cache.group app).resources.map Resource.anyName := by
        rwa [← Group.holds_iff]
      rw [if_neg (fun both => held both.2), if_pos rfl, List.erase_of_not_mem absent]
  · rw [if_neg (fun both => here both.1), if_neg here]

/-- Placing a resource sets its name, which stands last if it is new. -/
theorem Follows.place (follows : cache.Follows calls) (app : App) (resource : Resource) :
    (cache.place app resource).2.Follows (calls ++ [.place app resource]) where
  current := by
    intro tested held
    rw [mem_group_place cache follows.once, latest?_concat]
    by_cases here : app = tested
    · subst here
      by_cases same : resource.anyName = held.anyName
      · simp [Call.sets, Call.placed?, same, eq_comm]
      · have other : held ≠ resource := fun equal => same (congrArg Resource.anyName equal).symm
        simp [Call.sets, Call.deletes, same, Ne.symm same, other, follows.current]
    · simp [Call.sets, Call.deletes, here, follows.current]
  ordered := by
    intro tested
    have kept : (cache.names tested).Pairwise
        (Precedes (enteredAt? tested (calls ++ [.place app resource]))) :=
      (follows.ordered tested).imp fun before => precedes_concat before rfl rfl
    rw [names_place]
    split
    · rename_i new
      obtain ⟨rfl, absent⟩ := new
      have missing : enteredAt? app calls resource.anyName = none := by
        rwa [follows.mem_names_iff, Option.not_isSome_iff_eq_none] at absent
      refine List.pairwise_append.2 ⟨kept, List.pairwise_singleton _ _, ?_⟩
      intro first member last single
      obtain rfl := List.mem_singleton.1 single
      obtain ⟨place, found⟩ := Option.isSome_iff_exists.1 ((follows.mem_names_iff first).1 member)
      exact ⟨place, calls.length, standing?_kept rfl found,
        standing?_brought rfl (by simp [Call.sets]) missing, standing?_lt found⟩
    · exact kept

/-- Displacing a name takes it out and leaves the others in their order. -/
theorem Follows.displace (follows : cache.Follows calls) (app : App) (name : String) :
    (cache.displace app name).2.Follows (calls ++ [.displace app name]) where
  current := by
    intro tested held
    rw [mem_group_displace cache follows.once, latest?_concat]
    by_cases own : app = tested ∧ name = held.anyName
    · simp [Call.deletes, Call.placed?, own]
    · have others : app = tested → held.anyName ≠ name := fun here same => own ⟨here, same.symm⟩
      simpa [Call.sets, Call.deletes, own, follows.current] using fun _ => others
  ordered := by
    intro tested
    rw [names_displace]
    split
    · rename_i here
      subst here
      refine ((follows.ordered app).sublist List.erase_sublist).imp_of_mem ?_
      intro first second firstMember secondMember before
      have kept {remaining : String} (member : remaining ∈ (cache.names app).erase name) :
          (Call.displace app name).deletes app remaining = false := by
        have different := ((follows.once app).mem_erase_iff.1 member).1
        simp [Call.deletes, different.symm]
      exact precedes_concat before (kept firstMember) (kept secondMember)
    · rename_i elsewhere
      exact (follows.ordered tested).imp fun before =>
        precedes_concat before (by simp [Call.deletes, elsewhere])
          (by simp [Call.deletes, elsewhere])

/-- Every call keeps the groups what the calls lead to. -/
theorem Follows.advance (follows : cache.Follows calls) (call : Call) :
    (cache.advance call).Follows (calls ++ [call]) := by
  cases call with
  | assign id app resource => exact follows.unconcerned (fun _ => rfl) rfl
  | unassign id => exact follows.unconcerned (fun _ => rfl) rfl
  | place app resource => exact follows.place app resource
  | displace app name => exact follows.displace app name

/-- Whatever is called, the groups are what the calls lead to. -/
theorem follows_run (kind : Kind) (calls : List Call) : (run kind calls).Follows calls := by
  induction calls using List.reverseRecOn with
  | nil => exact follows_ofKind kind
  | append_singleton earlier call inductionHypothesis =>
    rw [run_concat]
    exact inductionHypothesis.advance call

/-! ## Versions -/

/-- A call raises the version of each group that it changes, by one. -/
theorem version_advance (cache : Cache) (call : Call) (app : App) :
    ((cache.advance call).group app).version =
      (cache.group app).version + if call.changes app cache then 1 else 0 := by
  cases call with
  | assign _ _ _ => rfl
  | unassign _ => rfl
  | place filed resource =>
    rw [advance, group_place]
    by_cases here : filed = app
    · subst here
      simp [Call.changes, Group.put]
    · simp [Call.changes, here]
  | displace left name =>
    rw [advance, group_displace]
    by_cases here : left = app
    · subst here
      by_cases held : (cache.group left).holds name = true <;>
        simp [Call.changes, displace, held, Group.drop]
    · simp [Call.changes, here]

/-- The version of a group grows by the number of calls that change the group. -/
theorem version_follow (calls : List Call) (cache : Cache) (app : App) :
    ((follow calls cache).group app).version =
      (cache.group app).version + changes app calls cache := by
  induction calls generalizing cache with
  | nil => rfl
  | cons call rest inductionHypothesis =>
    have further := inductionHypothesis (cache.advance call)
    rw [version_advance, Nat.add_assoc] at further
    exact further

/-! ## What a group says -/

/-- What a group says of the calls so far: each name that has a resource is there once, with that
    resource, and the names stand in the order in which they came in. -/
structure Presents (group : Group) (app : App) (calls : List Call) : Prop where
  once : (group.resources.map Resource.anyName).Nodup
  current : ∀ resource, resource ∈ group.resources ↔
    latest? app resource.anyName calls = some resource
  ordered : (group.resources.map Resource.anyName).Pairwise (Precedes (enteredAt? app calls))

/-- What the next call answers and what it changes. -/
structure Answers (cache : Cache) : Prop where
  added : ∀ app resource, resource.anyName ∉ cache.names app →
    (cache.place app resource).1 = .added ∧
      (cache.place app resource).2.group app =
        ⟨(cache.group app).resources ++ [resource], (cache.group app).version + 1⟩
  updated : ∀ app resource front present back,
    (cache.group app).resources = front ++ present :: back →
    present.anyName = resource.anyName →
      (cache.place app resource).1 = .updated ∧
        (cache.place app resource).2.group app =
          ⟨front ++ resource :: back, (cache.group app).version + 1⟩
  deleted : ∀ app front present back,
    (cache.group app).resources = front ++ present :: back →
      (cache.displace app present.anyName).1 = true ∧
        (cache.displace app present.anyName).2.group app =
          ⟨front ++ back, (cache.group app).version + 1⟩
  missing : ∀ app name, name ∉ cache.names app → cache.displace app name = (false, cache)
  elsewhere : ∀ call app, call.app? ≠ some app →
    (cache.advance call).group app = cache.group app

/-- A cache without repeated names answers as a map does. -/
theorem answers_of_once (once : ∀ app, (cache.names app).Nodup) : cache.Answers where
  added := by
    intro app resource absent
    have vacant : (cache.group app).holds resource.anyName = false := by
      rwa [← Bool.not_eq_true, Group.holds_iff]
    refine ⟨by simp [place, vacant], ?_⟩
    rw [group_place, if_pos rfl, Group.put, Group.putResource_of_absent absent]
  updated := by
    intro app resource front present back listed same
    have held : (cache.group app).holds resource.anyName = true := by
      rw [Group.holds_iff, listed]
      simp [same]
    refine ⟨by simp [place, held], ?_⟩
    have distinct := once app
    rw [names, listed] at distinct
    rw [group_place, if_pos rfl, Group.put, listed,
      Group.putResource_append (Group.ne_of_nodup_append distinct) same]
  deleted := by
    intro app front present back listed
    have held : (cache.group app).holds present.anyName = true := by
      rw [Group.holds_iff, listed]
      simp
    refine ⟨by simp [displace, held], ?_⟩
    have distinct := once app
    rw [names, listed] at distinct
    rw [group_displace, if_pos ⟨rfl, held⟩, Group.drop, listed,
      Group.dropResource_append (Group.ne_of_nodup_append distinct)]
  missing := by
    intro app name absent
    rw [displace, if_neg]
    rwa [Group.holds_iff]
  elsewhere := by
    intro call app elsewhere
    cases call with
    | assign _ _ _ => rfl
    | unassign _ => rfl
    | place filed resource =>
      rw [advance, group_place, if_neg (fun here => elsewhere (congrArg some here))]
    | displace left name =>
      rw [advance, group_displace, if_neg (fun both => elsewhere (congrArg some both.1))]

/-- After any calls the group of an application is the map from names to resources that the calls
    lead to, in the order in which the names came in, and its version is the number of calls that
    changed it. The next call answers whether its name is there and changes the group of its
    application only. No call lowers a version. -/
theorem run_isOrderedMap (kind : Kind) (calls : List Call) :
    (∀ app, Presents ((run kind calls).group app) app calls ∧
        ((run kind calls).group app).version = changes app calls (ofKind kind) ∧
          ∀ later, ((run kind calls).group app).version ≤
            ((run kind (calls ++ later)).group app).version) ∧
      (run kind calls).Answers := by
  have follows : (run kind calls).Follows calls := follows_run kind calls
  refine ⟨fun app => ⟨⟨follows.once app, follows.current app, follows.ordered app⟩, ?_, ?_⟩,
    answers_of_once follows.once⟩
  · have counted := version_follow calls (ofKind kind) app
    rwa [group_ofKind, show (default : Group).version = 0 from rfl, Nat.zero_add] at counted
  · intro later
    have further : run kind (calls ++ later) = follow later (run kind calls) :=
      List.foldl_append
    rw [further, version_follow]
    exact Nat.le_add_right _ _

/-- A resource without anything but its name. -/
def named (name : String) : Resource := ⟨some name, none, none, Labels.none, none, none⟩

/-- A name that is set again keeps its place, and one that was taken out before stands last. The
    second deletion finds nothing, so it does not count. -/
example :
    let app : App := ⟨"default", "foo"⟩
    let group := (run ⟨"K"⟩ [.place app (named "a"), .place app (named "b"),
      .place app (named "c"), .displace app "a", .displace app "a", .place app (named "b"),
      .place app (named "a")]).group app
    group.resources.map Resource.anyName = ["b", "c", "a"] ∧ group.version = 6 := by decide

end Cache

end RulePlane
