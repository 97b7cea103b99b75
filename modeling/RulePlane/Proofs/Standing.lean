import Mathlib.Data.List.Induction

/-!
# Since when something stands

In a list of events some bring a thing about and some end it. The thing stands since the first event
that brings it about and has no ending behind it; later ones that bring it about again change
nothing. `standing?` is the place of that event. It is read off the list of events alone, so the
order in which a program keeps things can be compared with it (`Precedes`).
-/

namespace RulePlane

variable {α β : Type} {brings ends : α → Bool} {events : List α} {event : α} {place : Nat}

/-- The place of the first event that brings something about and that no ending stands behind. -/
def standing? (brings ends : α → Bool) : List α → Option Nat
  | [] => none
  | event :: later =>
      if later.any ends then (standing? brings ends later).map (· + 1)
      else if brings event && !ends event then some 0
      else (standing? brings ends later).map (· + 1)

/-- Of two things that stand, the first stands longer. -/
def Precedes (since? : β → Option Nat) (first second : β) : Prop :=
  ∃ earlier later, since? first = some earlier ∧ since? second = some later ∧ earlier < later

/-- Nothing stands longer than itself. -/
theorem Precedes.ne {since? : β → Option Nat} {first second : β}
    (before : Precedes since? first second) : first ≠ second := by
  rintro rfl
  obtain ⟨earlier, later, firstPlace, secondPlace, inOrder⟩ := before
  rw [firstPlace] at secondPlace
  cases secondPlace
  exact Nat.lt_irrefl earlier inOrder

/-- An event behind all others ends what stands, or brings it about if it does not stand yet. -/
theorem standing?_concat (events : List α) (event : α) :
    standing? brings ends (events ++ [event]) =
      if ends event then none
      else (standing? brings ends events).or
        (if brings event then some events.length else none) := by
  induction events with
  | nil =>
    by_cases ended : ends event = true <;> by_cases brought : brings event = true <;>
      simp [standing?, ended, brought]
  | cons first later inductionHypothesis =>
    rw [List.cons_append, standing?, standing?, inductionHypothesis, List.any_append,
      List.length_cons]
    by_cases ended : ends event = true
    · simp [ended]
    · by_cases taken : later.any ends = true
      · cases standing? brings ends later <;> by_cases brought : brings event = true <;>
          simp [ended, taken, brought]
      · by_cases added : (brings first && !ends first) = true
        · simp [ended, taken, added]
        · cases standing? brings ends later <;> by_cases brought : brings event = true <;>
            simp [ended, taken, added, brought]

/-- What stands goes on to stand since the same place, unless an event ends it. -/
theorem standing?_kept (kept : ends event = false)
    (found : standing? brings ends events = some place) :
    standing? brings ends (events ++ [event]) = some place := by
  rw [standing?_concat, kept, found]
  rfl

/-- What does not stand yet stands since the event behind all others, if that brings it about. -/
theorem standing?_brought (kept : ends event = false) (brought : brings event = true)
    (missing : standing? brings ends events = none) :
    standing? brings ends (events ++ [event]) = some events.length := by
  rw [standing?_concat, kept, missing, brought]
  rfl

/-- The place since which something stands is that of an event. -/
theorem standing?_lt (found : standing? brings ends events = some place) :
    place < events.length := by
  induction events using List.reverseRecOn generalizing place with
  | nil => cases found
  | append_singleton earlier event inductionHypothesis =>
    rw [standing?_concat] at found
    rw [List.length_append, List.length_singleton]
    split at found
    · cases found
    · cases before : standing? brings ends earlier with
      | some held =>
        rw [before] at found
        cases found
        exact Nat.lt_succ_of_lt (inductionHypothesis before)
      | none =>
        rw [before, Option.none_or] at found
        split at found
        · cases found
          exact Nat.lt_succ_self _
        · cases found

/-- What stands before something else goes on to do so, unless an event ends one of the two. -/
theorem Precedes.concat {brings ends : β → α → Bool} {first second : β}
    (before : Precedes (fun thing => standing? (brings thing) (ends thing) events) first second)
    (keepsFirst : ends first event = false) (keepsSecond : ends second event = false) :
    Precedes (fun thing => standing? (brings thing) (ends thing) (events ++ [event]))
      first second := by
  obtain ⟨earlier, later, firstPlace, secondPlace, inOrder⟩ := before
  exact ⟨earlier, later, standing?_kept keepsFirst firstPlace,
    standing?_kept keepsSecond secondPlace, inOrder⟩

end RulePlane
