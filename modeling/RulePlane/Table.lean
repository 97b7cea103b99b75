/-!
# Tables

A finite map whose entries keep the order in which their keys were first inserted. Inserting a
present key replaces its value in place; erasing a key closes the gap. The keys of a table are
distinct by its type.

The laws read a table through `find?`, so nothing else needs to open one: `find?_empty`,
`find?_insert` and `find?_erase` say what each operation does to a look-up, and `mem_keys_iff`
says which keys are listed, `mem_entries_iff` which entries. Order is described by `keys_insert` and
`keys_erase`. A table of tables that is changed by `nest` keeps no empty one (`Filled`).
-/

namespace RulePlane

/-- A finite map in the order of first insertion. -/
structure Table (κ υ : Type) where
  entries : List (κ × υ)
  distinct : (entries.map Prod.fst).Nodup

namespace Table

variable {κ υ : Type}

/-- The table without entries. -/
def empty : Table κ υ := ⟨[], List.nodup_nil⟩

instance : EmptyCollection (Table κ υ) := ⟨empty⟩

instance : Inhabited (Table κ υ) := ⟨empty⟩

/-- The keys, in the order of their first insertion. -/
def keys (table : Table κ υ) : List κ := table.entries.map Prod.fst

/-- The values, in the order of their keys. -/
def values (table : Table κ υ) : List υ := table.entries.map Prod.snd

/-- The number of keys. -/
def size (table : Table κ υ) : Nat := table.entries.length

/-- No entry is listed twice. -/
theorem nodup_entries (table : Table κ υ) : table.entries.Nodup :=
  List.Pairwise.of_map Prod.fst (fun _ _ different same => different (congrArg Prod.fst same))
    table.distinct

/-- There is one table without entries. -/
theorem eq_empty_of_size_eq_zero {table : Table κ υ} (vacant : table.size = 0) :
    table = empty := by
  obtain ⟨entries, distinct⟩ := table
  obtain rfl := List.eq_nil_of_length_eq_zero vacant
  rfl

variable [DecidableEq κ]

/-- The value of a key in a list of entries: that of the first entry with the key. -/
def lookup (key : κ) : List (κ × υ) → Option υ
  | [] => none
  | (present, value) :: rest => if present = key then some value else lookup key rest

/-- The value of a key, if it is present. -/
def find? (table : Table κ υ) (key : κ) : Option υ := lookup key table.entries

/-- Whether a key is present. -/
def contains (table : Table κ υ) (key : κ) : Bool := (table.find? key).isSome

/-- Replace the value of a present key in place, or append a new entry. -/
def place (key : κ) (value : υ) : List (κ × υ) → List (κ × υ)
  | [] => [(key, value)]
  | (present, old) :: rest =>
      if present = key then (present, value) :: rest else (present, old) :: place key value rest

/-- A key is listed exactly if a look-up finds a value for it. -/
theorem lookup_isSome_iff (key : κ) (entries : List (κ × υ)) :
    (lookup key entries).isSome = true ↔ key ∈ entries.map Prod.fst := by
  induction entries with
  | nil => simp [lookup]
  | cons entry rest inductionHypothesis =>
    obtain ⟨present, value⟩ := entry
    by_cases same : present = key
    · simp [lookup, same]
    · simp [lookup, same, inductionHypothesis, Ne.symm same]

/-- Placing adds at most the placed key to the keys, behind all others. -/
theorem map_fst_place (key : κ) (value : υ) (entries : List (κ × υ)) :
    (place key value entries).map Prod.fst =
      if key ∈ entries.map Prod.fst then entries.map Prod.fst
      else entries.map Prod.fst ++ [key] := by
  induction entries with
  | nil => simp [place]
  | cons entry rest inductionHypothesis =>
    obtain ⟨present, old⟩ := entry
    by_cases same : present = key
    · simp [place, same]
    · simp only [place, same, if_false, List.map_cons, inductionHypothesis, List.mem_cons,
        Ne.symm same, false_or]
      split <;> simp

/-- Placing keeps the keys distinct. -/
theorem nodup_place (key : κ) (value : υ) (entries : List (κ × υ))
    (distinct : (entries.map Prod.fst).Nodup) :
    ((place key value entries).map Prod.fst).Nodup := by
  rw [map_fst_place]
  split
  · exact distinct
  · rename_i absent
    exact List.nodup_append.2 ⟨distinct, by simp, by
      intro first member second last same
      exact absent (by simpa [← List.mem_singleton.1 last, ← same] using member)⟩

/-- Give a key a value: in place if the key is present, behind all others if it is new. -/
def insert (table : Table κ υ) (key : κ) (value : υ) : Table κ υ :=
  ⟨place key value table.entries, nodup_place key value table.entries table.distinct⟩

/-- Remove a key and its value. -/
def erase (table : Table κ υ) (key : κ) : Table κ υ :=
  ⟨table.entries.filter (fun entry => entry.1 ≠ key),
    table.distinct.sublist (List.Sublist.map _ List.filter_sublist)⟩

/-- Change the value of a present key; an absent key stays absent. -/
def modify (table : Table κ υ) (key : κ) (change : υ → υ) : Table κ υ :=
  match table.find? key with
  | some value => table.insert key (change value)
  | none => table

/-- The table of a list of entries; of a repeated key the last value counts. -/
def ofList (entries : List (κ × υ)) : Table κ υ :=
  entries.foldl (fun table entry => table.insert entry.1 entry.2) empty

@[simp] theorem find?_empty (key : κ) : (empty : Table κ υ).find? key = none := rfl

theorem lookup_place (key : κ) (value : υ) (entries : List (κ × υ)) (tested : κ) :
    lookup tested (place key value entries) =
      if key = tested then some value else lookup tested entries := by
  induction entries with
  | nil => rfl
  | cons entry rest inductionHypothesis =>
    obtain ⟨present, old⟩ := entry
    by_cases same : present = key
    · subst same
      by_cases wanted : present = tested <;> simp [place, lookup, wanted]
    · by_cases wanted : key = tested
      · subst wanted
        simp [place, lookup, same, inductionHypothesis]
      · simp [place, lookup, same, inductionHypothesis, wanted]

/-- After an insertion the inserted key has the new value and every other key its old one. -/
theorem find?_insert (table : Table κ υ) (key : κ) (value : υ) (tested : κ) :
    (table.insert key value).find? tested =
      if key = tested then some value else table.find? tested :=
  lookup_place key value table.entries tested

@[simp] theorem find?_insert_self (table : Table κ υ) (key : κ) (value : υ) :
    (table.insert key value).find? key = some value := by
  simp [find?_insert]

/-- What is found in the table of a list is an entry of the list. -/
theorem mem_of_find?_ofList {entries : List (κ × υ)} {key : κ} {value : υ}
    (found : (ofList entries).find? key = some value) : (key, value) ∈ entries := by
  have added : ∀ (rest : List (κ × υ)) (table : Table κ υ),
      (rest.foldl (fun table entry => table.insert entry.1 entry.2) table).find? key = some value →
        (key, value) ∈ rest ∨ table.find? key = some value := by
    intro rest
    induction rest with
    | nil => exact fun table found => Or.inr found
    | cons entry others inductionHypothesis =>
      intro table found
      rcases inductionHypothesis (table.insert entry.1 entry.2) found with later | here
      · exact Or.inl (List.mem_cons_of_mem entry later)
      · rw [find?_insert] at here
        split at here
        · rename_i same
          cases here
          exact Or.inl (List.mem_cons.2 (Or.inl (Prod.ext same.symm rfl)))
        · exact Or.inr here
  rcases added entries empty found with listed | impossible
  · exact listed
  · cases impossible

/-- A table in which something is found has entries. -/
theorem size_ne_zero_of_find? {table : Table κ υ} {key : κ} {value : υ}
    (found : table.find? key = some value) : table.size ≠ 0 := by
  intro vacant
  rw [eq_empty_of_size_eq_zero vacant] at found
  cases found

/-- A table has entries after an insertion. -/
theorem size_insert_ne_zero (table : Table κ υ) (key : κ) (value : υ) :
    (table.insert key value).size ≠ 0 :=
  size_ne_zero_of_find? (find?_insert_self table key value)

/-- Filtering a key out makes it missing and changes nothing else. -/
theorem lookup_filter (key : κ) (entries : List (κ × υ)) (tested : κ) :
    lookup tested (entries.filter (fun entry => entry.1 ≠ key)) =
      if key = tested then none else lookup tested entries := by
  induction entries with
  | nil => simp [lookup]
  | cons entry rest inductionHypothesis =>
    obtain ⟨present, value⟩ := entry
    by_cases same : present = key
    · subst same
      rw [List.filter_cons_of_neg (by simp), inductionHypothesis]
      by_cases wanted : present = tested <;> simp [lookup, wanted]
    · rw [List.filter_cons_of_pos (by simpa using same)]
      by_cases found : present = tested
      · subst found
        simp [lookup, Ne.symm same]
      · simp only [lookup, found, if_false, inductionHypothesis]

/-- After an erasure the erased key is absent and every other key keeps its value. -/
theorem find?_erase (table : Table κ υ) (key tested : κ) :
    (table.erase key).find? tested = if key = tested then none else table.find? tested :=
  lookup_filter key table.entries tested

@[simp] theorem find?_erase_self (table : Table κ υ) (key : κ) :
    (table.erase key).find? key = none := by
  simp [find?_erase]

/-- After a modification a present key has the changed value, and every other key its old one. -/
theorem find?_modify (table : Table κ υ) (key : κ) (change : υ → υ) (tested : κ) :
    (table.modify key change).find? tested =
      if key = tested then (table.find? tested).map change else table.find? tested := by
  unfold modify
  by_cases same : key = tested
  · subst same
    cases held : table.find? key with
    | none => simp [held]
    | some value => simp
  · cases table.find? key with
    | none => simp [same]
    | some value => simp [find?_insert, same]

/-- The listed keys are those that a look-up finds. -/
theorem mem_keys_iff (table : Table κ υ) (key : κ) :
    key ∈ table.keys ↔ (table.find? key).isSome = true :=
  (lookup_isSome_iff key table.entries).symm

/-- In a list of entries with distinct keys, an entry is listed exactly if a look-up of its key
    finds its value. -/
theorem mem_iff_lookup (key : κ) (value : υ) (entries : List (κ × υ))
    (distinct : (entries.map Prod.fst).Nodup) :
    (key, value) ∈ entries ↔ lookup key entries = some value := by
  induction entries with
  | nil => simp [lookup]
  | cons entry rest inductionHypothesis =>
    obtain ⟨present, held⟩ := entry
    obtain ⟨absent, tail⟩ := List.nodup_cons.1 distinct
    by_cases same : present = key
    · subst same
      have notBehind : (present, value) ∉ rest := fun member =>
        absent (List.mem_map.2 ⟨_, member, rfl⟩)
      simp [lookup, notBehind, eq_comm]
    · simp [lookup, same, Ne.symm same, inductionHypothesis tail]

/-- The listed entries are those that a look-up of their key finds. -/
theorem mem_entries_iff (table : Table κ υ) (key : κ) (value : υ) :
    (key, value) ∈ table.entries ↔ table.find? key = some value :=
  mem_iff_lookup key value table.entries table.distinct

/-- An insertion keeps the order of the keys and puts a new key last. -/
theorem keys_insert (table : Table κ υ) (key : κ) (value : υ) :
    (table.insert key value).keys =
      if key ∈ table.keys then table.keys else table.keys ++ [key] :=
  map_fst_place key value table.entries

/-- An erasure keeps the order of the remaining keys. -/
theorem keys_erase (table : Table κ υ) (key : κ) :
    (table.erase key).keys = table.keys.filter (fun present => present ≠ key) := by
  simp only [keys, erase, List.filter_map]
  rfl

/-! ## Tables of tables -/

section Nested

variable {ι : Type}

/-- Keep an inner table under a key as long as it has entries. -/
def nest (table : Table κ (Table ι υ)) (key : κ) (inner : Table ι υ) : Table κ (Table ι υ) :=
  if inner.size = 0 then table.erase key else table.insert key inner

/-- The inner table is found under its key unless it is empty, and nothing else changes. -/
theorem find?_nest (table : Table κ (Table ι υ)) (key : κ) (inner : Table ι υ) (tested : κ) :
    (table.nest key inner).find? tested =
      if key = tested then if inner.size = 0 then none else some inner
      else table.find? tested := by
  unfold nest
  by_cases vacant : inner.size = 0
  · simp only [vacant, if_true, find?_erase]
  · simp only [vacant, if_false, find?_insert]

/-- Whoever takes a missing inner table for an empty one finds the inner table under its key. -/
theorem getD_find?_nest (table : Table κ (Table ι υ)) (key : κ) (inner : Table ι υ)
    (tested : κ) :
    ((table.nest key inner).find? tested).getD empty =
      if key = tested then inner else (table.find? tested).getD empty := by
  rw [find?_nest]
  split
  · split
    · rename_i vacant
      exact (eq_empty_of_size_eq_zero vacant).symm
    · rfl
  · rfl

/-- No inner table is empty. -/
def Filled (table : Table κ (Table ι υ)) : Prop :=
  ∀ key inner, table.find? key = some inner → inner.size ≠ 0

/-- A table that has no inner tables has no empty ones. -/
theorem filled_empty : (empty : Table κ (Table ι υ)).Filled := nofun

/-- An inner table with entries may be put under any key. -/
theorem Filled.insert {table : Table κ (Table ι υ)} (filled : table.Filled) (key : κ)
    {inner : Table ι υ} (some : inner.size ≠ 0) : (table.insert key inner).Filled := by
  intro tested present found
  rw [find?_insert] at found
  split at found
  · cases found
    exact some
  · exact filled tested present found

/-- An inner table that is kept only with entries leaves no empty one. -/
theorem Filled.nest {table : Table κ (Table ι υ)} (filled : table.Filled) (key : κ)
    (inner : Table ι υ) : (table.nest key inner).Filled := by
  intro tested present found
  rw [find?_nest] at found
  split at found
  · split at found
    · cases found
    · rename_i some
      cases found
      exact some
  · exact filled tested present found

end Nested

end Table

end RulePlane
