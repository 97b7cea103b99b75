/-!
# Ascending lists

Some answers list a set in ascending order. `ordered` sorts a list by a key and keeps one element
of each key; with a key that tells elements apart it lists exactly the elements of its argument
(`mem_ordered_iff`), each once (`ordered_ascending`).
-/

namespace RulePlane

variable {α : Type}

/-- Insert an element into a list that ascends by the key, unless its key is present. -/
def insertOrdered (key : α → List String) (element : α) : List α → List α
  | [] => [element]
  | first :: rest =>
      if key element < key first then element :: first :: rest
      else if key first < key element then first :: insertOrdered key element rest
      else first :: rest

/-- The elements of a list in ascending order of the key, one for each key. -/
def ordered (key : α → List String) : List α → List α
  | [] => []
  | element :: rest => insertOrdered key element (ordered key rest)

/-- The texts of a list in ascending order of their code points, each once. -/
def orderedTexts (texts : List String) : List String := ordered (fun text => [text]) texts

/-- Two keys of which neither precedes the other are equal. -/
theorem eq_of_not_before {first second : List String} (notBefore : ¬ first < second)
    (notAfter : ¬ second < first) : first = second :=
  Std.Antisymm.antisymm first second (List.not_lt.1 notAfter) (List.not_lt.1 notBefore)

/-- Inserting by a key that tells elements apart adds just the element. -/
theorem mem_insertOrdered_iff {key : α → List String}
    (injective : ∀ first second, key first = key second → first = second) (element : α)
    (list : List α) (tested : α) :
    tested ∈ insertOrdered key element list ↔ tested = element ∨ tested ∈ list := by
  induction list with
  | nil => simp [insertOrdered]
  | cons first rest inductionHypothesis =>
    unfold insertOrdered
    split
    · simp
    · split
      · rw [List.mem_cons, inductionHypothesis, List.mem_cons]
        exact or_left_comm
      · rename_i notBefore notAfter
        have same := injective _ _ (eq_of_not_before notBefore notAfter)
        subst same
        simp

/-- Sorting by a key that tells elements apart keeps exactly the elements. -/
theorem mem_ordered_iff {key : α → List String}
    (injective : ∀ first second, key first = key second → first = second) (list : List α)
    (tested : α) : tested ∈ ordered key list ↔ tested ∈ list := by
  induction list with
  | nil => simp [ordered]
  | cons first rest inductionHypothesis =>
    rw [ordered, mem_insertOrdered_iff injective, inductionHypothesis, List.mem_cons]

/-- Inserting keeps a list in ascending order of its keys. -/
theorem insertOrdered_ascending (key : α → List String) (element : α) (list : List α)
    (ascending : list.Pairwise (fun first second => key first < key second)) :
    (insertOrdered key element list).Pairwise (fun first second => key first < key second) ∧
      ∀ tested ∈ insertOrdered key element list, key tested = key element ∨ tested ∈ list := by
  induction list with
  | nil => simp [insertOrdered]
  | cons first rest inductionHypothesis =>
    have below := (List.pairwise_cons.1 ascending).1
    have tail := inductionHypothesis (List.pairwise_cons.1 ascending).2
    unfold insertOrdered
    split
    · rename_i before
      refine ⟨List.pairwise_cons.2 ⟨?_, ascending⟩, by simp +contextual⟩
      intro later member
      rcases List.mem_cons.1 member with rfl | member
      · exact before
      · exact List.lt_trans before (below later member)
    · split
      · rename_i after
        refine ⟨List.pairwise_cons.2 ⟨?_, tail.1⟩, ?_⟩
        · intro later member
          rcases tail.2 later member with same | member
          · exact same ▸ after
          · exact below later member
        · intro tested member
          rcases List.mem_cons.1 member with rfl | member
          · simp
          · rcases tail.2 tested member with same | member
            · exact Or.inl same
            · exact Or.inr (List.mem_cons_of_mem _ member)
      · exact ⟨ascending, fun tested member => Or.inr member⟩

/-- A sorted list ascends strictly, so each key occurs once. -/
theorem ordered_ascending (key : α → List String) (list : List α) :
    (ordered key list).Pairwise (fun first second => key first < key second) := by
  induction list with
  | nil => exact List.Pairwise.nil
  | cons first rest inductionHypothesis =>
    exact (insertOrdered_ascending key first _ inductionHypothesis).1

/-- The sorted texts are the given ones. -/
theorem mem_orderedTexts_iff (texts : List String) (tested : String) :
    tested ∈ orderedTexts texts ↔ tested ∈ texts :=
  mem_ordered_iff (fun _ _ same => (List.cons.inj same).1) texts tested

/-- Sorting texts leaves none out, so some stay some. -/
theorem orderedTexts_ne_nil {texts : List String} (some : texts ≠ []) :
    orderedTexts texts ≠ [] := by
  obtain ⟨text, member⟩ := List.exists_mem_of_ne_nil texts some
  exact List.ne_nil_of_mem ((mem_orderedTexts_iff texts text).2 member)

end RulePlane
