import Mathlib.Data.List.Basic
import RulePlane.ResourceName

/-!
# The segments of resource names

Which texts are names, and which names can be read again. A text is a name exactly if delimiters
cut it into three or more segments of which none is empty; the last two are the application and the
namespace, and all before them, with the delimiters between them, is the kind. Printing a name that
was read gives the text back.

A printed name is read as itself exactly if its parts are `Readable`. Any other name prints a text
that is read differently or not at all: an application with a delimiter in it, say, loses its first
part to the kind.

A name is read from its end, by two cuts at the last delimiter. `splitOn_of_cuts` says what these
cuts leave of the segments between all delimiters.
-/

namespace RulePlane

namespace ResourceName

/-! ## Cuts -/

/-- Only a text without a delimiter cannot be cut. -/
theorem cutLast?_eq_none_iff (text : List Char) : cutLast? text = none ↔ delimiter ∉ text := by
  induction text with
  | nil => simp [cutLast?]
  | cons character rest inductionHypothesis =>
    rw [List.mem_cons, not_or, ← inductionHypothesis, cutLast?]
    cases cutLast? rest with
    | some cut => simp
    | none => by_cases delimits : character = delimiter <;> simp [delimits, Ne.symm]

/-- A text is cut in front of what holds no further delimiter. -/
theorem cutLast?_append (before : List Char) {after : List Char} (last : delimiter ∉ after) :
    cutLast? (before ++ delimiter :: after) = some (before, after) := by
  induction before with
  | nil => simp [cutLast?, (cutLast?_eq_none_iff after).2 last]
  | cons character rest inductionHypothesis =>
    rw [List.cons_append, cutLast?, inductionHypothesis]

/-- What stands behind a cut holds no further delimiter. -/
theorem delimiter_notMem_of_cutLast? {text before after : List Char}
    (cut : cutLast? text = some (before, after)) : delimiter ∉ after := by
  induction text generalizing before with
  | nil => cases cut
  | cons character rest inductionHypothesis =>
    unfold cutLast? at cut
    split at cut
    · rename_i head tail cutRest
      cases cut
      exact inductionHypothesis cutRest
    · rename_i uncut
      split at cut
      · cases cut
        exact (cutLast?_eq_none_iff after).1 uncut
      · cases cut

/-! ## Segments -/

/-- The segments of a text are what delimiters cut it into. -/
theorem segments_eq_splitOn (text : List Char) : segments text = text.splitOn delimiter := by
  induction text with
  | nil => rfl
  | cons character rest inductionHypothesis =>
    rw [segments, List.splitOn_cons_eq_if_modifyHead, inductionHypothesis]
    by_cases delimits : character = delimiter
    · simp [delimits]
    · obtain ⟨first, others, split⟩ :=
        List.exists_cons_of_ne_nil (List.splitOn_ne_nil delimiter rest)
      simp [delimits, split]

/-- No segment of a text holds a delimiter. -/
theorem delimiter_notMem_of_mem_splitOn {text segment : List Char}
    (member : segment ∈ text.splitOn delimiter) : delimiter ∉ segment := by
  induction text generalizing segment with
  | nil => simp_all
  | cons character rest inductionHypothesis =>
    rw [List.splitOn_cons_eq_if_modifyHead] at member
    split at member
    · rcases List.mem_cons.1 member with rfl | later
      · exact List.not_mem_nil
      · exact inductionHypothesis later
    · rename_i differs
      obtain ⟨first, others, split⟩ :=
        List.exists_cons_of_ne_nil (List.splitOn_ne_nil delimiter rest)
      rw [split, List.modifyHead_cons] at member
      rcases List.mem_cons.1 member with rfl | later
      · have free := inductionHypothesis (split ▸ List.mem_cons_self)
        simpa [free] using Ne.symm (by simpa using differs)
      · exact inductionHypothesis (split ▸ List.mem_cons_of_mem first later)

/-- The last two segments of a text are what stands behind its last two delimiters. -/
theorem splitOn_of_cuts (kind : List Char) {app scope : List Char} (appFree : delimiter ∉ app)
    (scopeFree : delimiter ∉ scope) :
    (kind ++ delimiter :: app ++ delimiter :: scope).splitOn delimiter =
      kind.splitOn delimiter ++ [app, scope] := by
  rw [List.splitOn_append_cons_self, List.splitOn_append_cons_self,
    List.splitOn_eq_singleton appFree, List.splitOn_eq_singleton scopeFree, List.append_assoc]
  rfl

/-- A text that is cut into other segments is another text. -/
theorem eq_of_splitOn_eq {text other : List Char}
    (same : text.splitOn delimiter = other.splitOn delimiter) : text = other :=
  calc text = [delimiter].intercalate (text.splitOn delimiter) :=
        (List.intercalate_splitOn delimiter).symm
    _ = [delimiter].intercalate (other.splitOn delimiter) := by rw [same]
    _ = other := List.intercalate_splitOn delimiter

/-! ## Names that can be read -/

/-- The application and the namespace are segments, and the kind is made of one or more segments. A
    segment is a text that is not empty and holds no delimiter. -/
structure Readable (name : ResourceName) : Prop where
  kind : ∃ kinds ≠ [], (∀ segment ∈ kinds, segment ≠ [] ∧ delimiter ∉ segment) ∧
    name.kind.text.toList = [delimiter].intercalate kinds
  app : name.app ≠ "" ∧ delimiter ∉ name.app.toList
  scope : name.scope ≠ "" ∧ delimiter ∉ name.scope.toList

/-- A text is made of segments exactly if none of those that delimiters cut it into is empty. -/
theorem exists_intercalate_iff (text : List Char) :
    (∃ kinds ≠ [], (∀ segment ∈ kinds, segment ≠ [] ∧ delimiter ∉ segment) ∧
      text = [delimiter].intercalate kinds) ↔ [] ∉ text.splitOn delimiter := by
  constructor
  · rintro ⟨kinds, nonempty, full, rfl⟩ member
    rw [List.splitOn_intercalate delimiter (fun segment listed => (full segment listed).2)
      nonempty] at member
    exact (full [] member).1 rfl
  · intro full
    refine ⟨text.splitOn delimiter, List.splitOn_ne_nil _ _, fun segment member => ⟨?_, ?_⟩, ?_⟩
    · rintro rfl
      exact full member
    · exact delimiter_notMem_of_mem_splitOn member
    · rw [List.intercalate_splitOn]

/-- A text is read as a name exactly if the name is readable and prints the text. -/
theorem parse?_eq_some_iff (text : String) (name : ResourceName) :
    parse? text = some name ↔ name.Readable ∧ name.render = text := by
  constructor
  · intro parsed
    refine ⟨?_, render_of_parse? parsed⟩
    unfold parse? parseChars? at parsed
    simp only [Option.bind_eq_bind, Option.bind_eq_some_iff, Prod.exists] at parsed
    obtain ⟨before, scope, cutScope, kind, app, cutApp, accepted⟩ := parsed
    split at accepted
    · cases accepted
    · rename_i full
      cases accepted
      simp only [Bool.or_eq_true, List.isEmpty_iff, List.any_eq_true, not_or,
        segments_eq_splitOn] at full
      refine ⟨?_, ⟨?_, ?_⟩, ⟨?_, ?_⟩⟩ <;> simp only [String.toList_ofList]
      · exact (exists_intercalate_iff kind).2 fun member => full.2 ⟨[], member, rfl⟩
      · simpa [← String.toList_eq_nil_iff] using full.1.2
      · exact delimiter_notMem_of_cutLast? cutApp
      · simpa [← String.toList_eq_nil_iff] using full.1.1
      · exact delimiter_notMem_of_cutLast? cutScope
  · rintro ⟨⟨kind, ⟨appFull, appFree⟩, ⟨scopeFull, scopeFree⟩⟩, rfl⟩
    have kindFull := (exists_intercalate_iff _).1 kind
    have accepted : (name.scope.toList.isEmpty || name.app.toList.isEmpty ||
        (segments name.kind.text.toList).any List.isEmpty) = false := by
      rw [segments_eq_splitOn]
      have full : (name.kind.text.toList.splitOn delimiter).any List.isEmpty = false := by
        rw [List.any_eq_false]
        intro segment member empty
        rw [List.isEmpty_iff] at empty
        exact kindFull (empty ▸ member)
      simp [appFull, scopeFull, full]
    simp only [parse?, parseChars?, render, String.toList_ofList, Option.bind_eq_bind,
      cutLast?_append _ scopeFree, cutLast?_append _ appFree, Option.bind_some, accepted,
      Bool.false_eq_true, if_false, String.ofList_toList]

/-- The segments of what a readable name prints. -/
theorem Readable.splitOn_render {name : ResourceName} (readable : name.Readable) :
    name.render.toList.splitOn delimiter =
      name.kind.text.toList.splitOn delimiter ++ [name.app.toList, name.scope.toList] := by
  rw [render, String.toList_ofList]
  exact splitOn_of_cuts _ readable.app.2 readable.scope.2

/-- A text is read as a name exactly if none of its segments is empty, the last two are the
    application and the namespace, and the kind is made of one or more before them. -/
theorem parse?_eq_some_iff_splitOn (text : String) (name : ResourceName) :
    parse? text = some name ↔
      [] ∉ text.toList.splitOn delimiter ∧ ∃ kinds ≠ [],
        text.toList.splitOn delimiter = kinds ++ [name.app.toList, name.scope.toList] ∧
          name.kind.text.toList = [delimiter].intercalate kinds := by
  rw [parse?_eq_some_iff]
  constructor
  · rintro ⟨readable, rfl⟩
    rw [readable.splitOn_render]
    refine ⟨?_, name.kind.text.toList.splitOn delimiter, List.splitOn_ne_nil _ _, rfl,
      (List.intercalate_splitOn _).symm⟩
    have kindFull := (exists_intercalate_iff _).1 readable.kind
    have appFull : name.app.toList ≠ [] := by simpa using readable.app.1
    have scopeFull : name.scope.toList ≠ [] := by simpa using readable.scope.1
    simp only [List.mem_append, List.mem_cons, List.not_mem_nil, or_false, not_or]
    exact ⟨kindFull, appFull.symm, scopeFull.symm⟩
  · rintro ⟨full, kinds, nonempty, split, made⟩
    have segment (part : List Char)
        (member : part ∈ kinds ++ [name.app.toList, name.scope.toList]) :
        part ≠ [] ∧ delimiter ∉ part := by
      rw [← split] at member
      refine ⟨?_, delimiter_notMem_of_mem_splitOn member⟩
      rintro rfl
      exact full member
    have kindSegments : ∀ part ∈ kinds, part ≠ [] ∧ delimiter ∉ part :=
      fun part member => segment part (List.mem_append_left _ member)
    have app := segment name.app.toList (by simp)
    have scope := segment name.scope.toList (by simp)
    have readable : name.Readable :=
      ⟨⟨kinds, nonempty, kindSegments, made⟩, by simpa using app, by simpa using scope⟩
    refine ⟨readable, String.toList_injective (eq_of_splitOn_eq ?_)⟩
    rw [readable.splitOn_render, split, made,
      List.splitOn_intercalate delimiter (fun part member => (kindSegments part member).2)
        nonempty]

/-- Three or more parts are two behind some others. -/
theorem exists_eq_append_pair {α : Type} {parts : List α} (many : 3 ≤ parts.length) :
    ∃ first, first ≠ [] ∧ ∃ second third, parts = first ++ [second, third] := by
  have whole := List.take_append_drop (parts.length - 2) parts
  obtain ⟨second, third, pair⟩ : ∃ second third, parts.drop (parts.length - 2) = [second, third] :=
    List.length_eq_two.1 (by simp; omega)
  refine ⟨parts.take (parts.length - 2), fun none => ?_, second, third, pair ▸ whole.symm⟩
  have length := congrArg List.length none
  simp at length
  omega

/-- Reading and printing names are inverse to each other where they can be. A text is read as a name
    exactly if it has at least three segments and none of them is empty, and the name then prints
    the text. Which name that is, its segments say. A name is read as what it prints exactly if its
    application and its namespace are segments and its kind is made of segments. -/
theorem parse?_inverts_render :
    (∀ text, (parse? text).map render =
      if 3 ≤ (text.toList.splitOn delimiter).length ∧ [] ∉ text.toList.splitOn delimiter then
        some text
      else none) ∧
    (∀ text name, parse? text = some name ↔
      [] ∉ text.toList.splitOn delimiter ∧ ∃ kinds ≠ [],
        text.toList.splitOn delimiter = kinds ++ [name.app.toList, name.scope.toList] ∧
          name.kind.text.toList = [delimiter].intercalate kinds) ∧
    ∀ name, parse? name.render = some name ↔ name.Readable := by
  refine ⟨fun text => ?_, parse?_eq_some_iff_splitOn, fun name => ?_⟩
  · split
    · rename_i grammatical
      obtain ⟨many, full⟩ := grammatical
      obtain ⟨kinds, nonempty, app, scope, split⟩ := exists_eq_append_pair many
      let name : ResourceName :=
        ⟨⟨String.ofList ([delimiter].intercalate kinds)⟩, String.ofList app, String.ofList scope⟩
      have parsed : parse? text = some name := by
        refine (parse?_eq_some_iff_splitOn text name).2 ⟨full, kinds, nonempty, ?_, ?_⟩
        · simpa [name] using split
        · simp [name]
      rw [parsed, Option.map_some, render_of_parse? parsed]
    · rename_i ungrammatical
      rw [Option.map_eq_none_iff, Option.eq_none_iff_forall_ne_some]
      intro name parsed
      obtain ⟨full, kinds, nonempty, split, -⟩ := (parse?_eq_some_iff_splitOn text name).1 parsed
      refine ungrammatical ⟨?_, full⟩
      have some := List.length_pos_iff.2 nonempty
      rw [split, List.length_append]
      simp
      omega
  · rw [parse?_eq_some_iff, and_iff_left rfl]

/-- An application with a delimiter in it is read as the last part of the kind and the rest. -/
example : parse? (render ⟨⟨"kind"⟩, "first/second", "default"⟩) =
    some ⟨⟨"kind/first"⟩, "second", "default"⟩ := by
  decide

end ResourceName

end RulePlane
