import RulePlane.Discovery.WatchList
import RulePlane.ResourceName

/-!
# Watched names

What becomes of the names that a client watches. A request is accounted for by the changes that it
reports, except in one case: a session that is started anew over watched names reports its own names
as added and none as removed. The names that it does not list are left over: they are not watched
any more, and nobody was told to leave their targets. `leftOver` follows these names from request to
request; with them, the reported changes account for every name (`take_accounts`).

Sends change the nonces of a watch list and no names.
-/

namespace RulePlane.Discovery

/-- The target that a name asks for. -/
def targetOf? (name : String) : Option Target := (ResourceName.parse? name).map ResourceName.target

/-- Different names ask for different targets. -/
theorem targetOf?_injective {first second : String} {target : Target}
    (firstAsks : targetOf? first = some target) (secondAsks : targetOf? second = some target) :
    first = second := by
  obtain ⟨firstName, firstParsed, rfl⟩ := Option.map_eq_some_iff.1 firstAsks
  obtain ⟨secondName, secondParsed, same⟩ := Option.map_eq_some_iff.1 secondAsks
  have sameName : secondName = firstName := by
    rw [← ResourceName.ofTarget_target secondName, same, ResourceName.ofTarget_target]
  rw [← ResourceName.render_of_parse? firstParsed, ← sameName,
    ResourceName.render_of_parse? secondParsed]

/-- A name of the list asks for the target. -/
def Named (names : List String) (target : Target) : Prop :=
  ∃ name ∈ names, targetOf? name = some target

/-- No name of an empty list asks for anything. -/
@[simp] theorem named_nil (target : Target) : ¬ Named [] target := by
  rintro ⟨name, member, -⟩
  cases member

/-- What the names of a list ask for, one name after another. -/
theorem named_cons_iff (name : String) (rest : List String) (target : Target) :
    Named (name :: rest) target ↔ targetOf? name = some target ∨ Named rest target := by
  simp [Named]

/-- What is asked for after some names were removed and others added. No name that stays asks for
    the target of a removed one. -/
theorem named_of_accounted {before removed added after : List String}
    (accounted : ∀ name, name ∈ after ↔ (name ∈ before ∧ name ∉ removed) ∨ name ∈ added)
    (target : Target) :
    Named after target ↔ (Named before target ∧ ¬ Named removed target) ∨ Named added target := by
  constructor
  · rintro ⟨name, member, asks⟩
    rcases (accounted name).1 member with ⟨stays, kept⟩ | new
    · refine Or.inl ⟨⟨name, stays, asks⟩, ?_⟩
      rintro ⟨other, gone, asksToo⟩
      exact kept (targetOf?_injective asks asksToo ▸ gone)
    · exact Or.inr ⟨name, new, asks⟩
  · rintro (⟨⟨name, stays, asks⟩, unremoved⟩ | ⟨name, new, asks⟩)
    · have kept : name ∉ removed := fun gone => unremoved ⟨name, gone, asks⟩
      exact ⟨name, (accounted name).2 (Or.inl ⟨stays, kept⟩), asks⟩
    · exact ⟨name, (accounted name).2 (Or.inr new), asks⟩

namespace WatchList

/-! ## Names through sends -/

/-- The names that are watched for a type URL. -/
def namesOf (list : WatchList) (typeUrl : String) : List String :=
  ((list.watched? typeUrl).map Watched.names).getD []

/-- What is watched after an entry was replaced. -/
theorem namesOf_insert (list : WatchList) (typeUrl : String) (watched : Watched)
    (tested : String) :
    namesOf ⟨list.table.insert typeUrl watched⟩ tested =
      if typeUrl = tested then watched.names else list.namesOf tested := by
  unfold namesOf watched?
  rw [Table.find?_insert]
  split <;> rfl

/-- Replacing an entry by one with the same names changes no names. -/
theorem namesOf_insert_of_same {list : WatchList} {typeUrl : String} {before : Watched}
    (present : list.watched? typeUrl = some before) {after : Watched}
    (same : after.names = before.names) :
    namesOf ⟨list.table.insert typeUrl after⟩ = list.namesOf := by
  funext tested
  rw [namesOf_insert]
  split
  · rename_i own
    rw [← own, namesOf, present, same]
    rfl
  · rfl

/-- Recording a nonce changes no names. -/
theorem namesOf_of_record? {list recorded : WatchList} {typeUrl nonce previous : String}
    (recording : list.record? typeUrl nonce = some (previous, recorded)) :
    recorded.namesOf = list.namesOf := by
  obtain ⟨watched, present, same⟩ := Option.map_eq_some_iff.1 recording
  obtain ⟨-, rfl⟩ := Prod.mk.inj same
  exact namesOf_insert_of_same present rfl

/-- Settling a send changes no names. -/
theorem namesOf_settle (list : WatchList) (typeUrl nonce previous : String)
    (outcome : SendOutcome) :
    (list.settle typeUrl nonce previous outcome).namesOf = list.namesOf := by
  have restored : (list.restore typeUrl nonce previous).namesOf = list.namesOf := by
    unfold restore
    split
    · rename_i watched present
      split
      · exact namesOf_insert_of_same present rfl
      · rfl
    · rfl
  cases outcome with
  | sent => rfl
  | timedOut => exact restored
  | closed => exact restored

/-! ## Names through requests -/

/-- What a request means: it changes nothing, because it reports an error or is stale; it stops
    watching; it starts a session; or it acknowledges the last response. -/
inductive Verdict where
  | ignored
  | emptied
  | started
  | acknowledged
deriving DecidableEq, Repr

/-- The meaning of a request. -/
def verdict (list : WatchList) (request : Request) : Verdict :=
  if request.errorDetail.isSome then .ignored
  else if request.names = [] then .emptied
  else
    match list.watched? request.typeUrl with
    | none => .started
    | some watched =>
        if request.nonce = "" then .started
        else if request.nonce = watched.nonceSent then .acknowledged
        else .ignored

/-- What a request does, by its meaning. -/
theorem take_eq (list : WatchList) (request : Request) :
    list.take request =
      match list.verdict request with
      | .ignored => ((false, .none), list)
      | .emptied => ((false, (list.drop request.typeUrl).1), (list.drop request.typeUrl).2)
      | .started =>
          let started := list.start request.typeUrl (orderedTexts request.names)
          ((true, started.1), started.2)
      | .acknowledged =>
          let taken := list.acknowledge request.typeUrl request.nonce
            ((list.watched? request.typeUrl).getD default) (orderedTexts request.names)
          ((!(taken.1.subscribed.isEmpty && taken.1.unsubscribed.isEmpty), taken.1), taken.2) := by
  unfold take verdict
  split
  · rfl
  split
  · rfl
  cases list.watched? request.typeUrl with
  | none => rfl
  | some watched =>
    dsimp only
    split
    · rfl
    split <;> rfl

/-- The names of an entry that is looked up with a default are the watched names. -/
theorem names_getD_watched? (list : WatchList) (typeUrl : String) :
    ((list.watched? typeUrl).getD default).names = list.namesOf typeUrl := by
  unfold namesOf
  cases list.watched? typeUrl <;> rfl

/-- The names that are left over behind a request, given those before it. A session leaves the names
    watched so far over, and takes back the names that it lists; so does an acknowledgement. -/
def leftOver (list : WatchList) (request : Request) (left : List String) : List String :=
  match list.verdict request with
  | .ignored => left
  | .emptied => left
  | .started =>
      (left ++ list.namesOf request.typeUrl).filter fun name => name ∉ request.names
  | .acknowledged => left.filter fun name => name ∉ request.names

/-- A request accounts for every name. Whatever is watched or left over behind it was so before and
    was not reported as removed, or was reported as added. No left-over name is watched, and only a
    request that needs an answer adds names. -/
theorem take_accounts (list : WatchList) (request : Request) (left : List String)
    (apart : ∀ name ∈ left, name ∉ list.namesOf request.typeUrl) :
    (∀ name, name ∈ (list.take request).2.namesOf request.typeUrl ∨
        name ∈ list.leftOver request left ↔
      ((name ∈ list.namesOf request.typeUrl ∨ name ∈ left) ∧
          name ∉ (list.take request).1.2.unsubscribed) ∨
        name ∈ (list.take request).1.2.subscribed) ∧
      (∀ name ∈ list.leftOver request left,
        name ∉ (list.take request).2.namesOf request.typeUrl) ∧
        ((list.take request).1.1 = false → (list.take request).1.2.subscribed = []) := by
  rw [take_eq]
  cases meaning : list.verdict request with
  | ignored => simpa [leftOver, meaning, NameChanges.none] using apart
  | emptied =>
    have dropped : (list.drop request.typeUrl).2.namesOf request.typeUrl = [] := by
      simp [drop, namesOf, watched?]
    refine ⟨fun name => ?_, fun name _ => ?_, fun _ => rfl⟩
    · rw [dropped]
      change name ∈ [] ∨ name ∈ list.leftOver request left ↔
        ((_ ∨ _) ∧ name ∉ list.namesOf request.typeUrl) ∨ name ∈ []
      simp only [leftOver, meaning, List.not_mem_nil, or_false, false_or]
      constructor
      · exact fun member => ⟨Or.inr member, apart name member⟩
      · rintro ⟨held | member, unwatched⟩
        · exact absurd held unwatched
        · exact member
    · rw [dropped]
      exact List.not_mem_nil
  | started =>
    simp only [leftOver, meaning, start, namesOf_insert, if_true, List.mem_filter,
      List.mem_append, mem_orderedTexts_iff]
    refine ⟨fun name => ?_, fun name kept => by simpa using kept.2,
      fun silent => Bool.noConfusion silent⟩
    by_cases wanted : name ∈ request.names <;> simp [wanted, or_comm]
  | acknowledged =>
    simp only [leftOver, meaning, acknowledge, namesOf_insert, if_true, List.mem_filter,
      mem_orderedTexts_iff, names_getD_watched?]
    refine ⟨fun name => ?_, fun name kept => by simpa using kept.2, fun silent => ?_⟩
    · by_cases wanted : name ∈ request.names
      · by_cases held : name ∈ list.namesOf request.typeUrl <;>
          simp [wanted, held, mem_orderedTexts_iff]
      · by_cases held : name ∈ list.namesOf request.typeUrl
        · have notLeft : name ∉ left := fun member => apart name member held
          simp [wanted, held, notLeft, mem_orderedTexts_iff]
        · simp [wanted, held]
    · simp only [Bool.not_eq_eq_eq_not, Bool.not_false, Bool.and_eq_true,
        List.isEmpty_iff] at silent
      exact silent.1

end WatchList

end RulePlane.Discovery
