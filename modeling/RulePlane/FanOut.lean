/-!
# Fan-out modes

How a push that goes to many connections treats a failure on one of them, and the names by which
an operator chooses the mode.
-/

namespace RulePlane

/-- What a push does after a send to one of its connections has failed. -/
inductive FanOutMode where
  /-- Stop: the connections behind the failed one are not sent to. -/
  | failFast
  /-- Go on, and report the first failure at the end. -/
  | bestEffort
deriving DecidableEq, Repr

namespace FanOutMode

/-- Pushes stop at the first failure unless told otherwise. -/
instance : Inhabited FanOutMode := ⟨failFast⟩

/-- The name of a mode. -/
def render : FanOutMode → String
  | failFast => "fail-fast"
  | bestEffort => "best-effort"

/-- The mode of a name. Names are compared exactly. -/
def parse? (name : String) : Option FanOutMode :=
  if name = "fail-fast" then some failFast
  else if name = "best-effort" then some bestEffort
  else none

/-- The report on a text that names no mode. -/
def invalidMessage (name : String) : String := "invalid fanout mode: " ++ name

/-- A text is read as a mode exactly if it is the mode's name. -/
theorem parse?_eq_some_iff (name : String) (mode : FanOutMode) :
    parse? name = some mode ↔ name = render mode := by
  unfold parse?
  split
  · rename_i same
    subst same
    cases mode <;> simp [render]
  · split
    · rename_i same
      subst same
      cases mode <;> simp [render]
    · cases mode <;> simp_all [render]

end FanOutMode

end RulePlane
