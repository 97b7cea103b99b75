import RulePlane.Target
import RulePlane.Text.Quoted

/-!
# Resource names

The name under which a discovery client asks for the rules of a target:
`<kind>/<app>/<namespace>`. A kind may itself hold slashes, so a name is cut from its end: the last
segment is the namespace, the one before it the application, and all that stands before is the
kind. No segment may be empty.
-/

namespace RulePlane

/-- A kind, an application and a namespace, in the order in which a name gives them. -/
structure ResourceName where
  kind : Kind
  app : String
  scope : String
deriving DecidableEq, Repr, Inhabited

namespace ResourceName

/-- The sign between the segments of a name. -/
def delimiter : Char := '/'

/-- Cut a text at its last delimiter, if it has one. -/
def cutLast? : List Char → Option (List Char × List Char)
  | [] => none
  | character :: rest =>
      match cutLast? rest with
      | some (before, after) => some (character :: before, after)
      | none => if character = delimiter then some ([], rest) else none

/-- The segments of a text: what stands before, between and behind its delimiters. -/
def segments : List Char → List (List Char)
  | [] => [[]]
  | character :: rest =>
      if character = delimiter then [] :: segments rest
      else
        match segments rest with
        | [] => [[character]]
        | first :: others => (character :: first) :: others

/-- Read a name given by its characters. -/
def parseChars? (text : List Char) : Option ResourceName := do
  let (before, scope) ← cutLast? text
  let (kind, app) ← cutLast? before
  if scope.isEmpty || app.isEmpty || (segments kind).any List.isEmpty then none
  else some ⟨⟨String.ofList kind⟩, String.ofList app, String.ofList scope⟩

/-- Read a name. -/
def parse? (text : String) : Option ResourceName := parseChars? text.toList

/-- The report on a text that is no resource name. -/
def invalidMessage (text : String) : String :=
  "invalid resource name " ++ Text.quote text ++ ": expected <kind>/<app>/<namespace>"

/-- A name is printed `<kind>/<app>/<namespace>`. -/
def render (name : ResourceName) : String :=
  String.ofList (name.kind.text.toList ++ delimiter :: name.app.toList ++
    delimiter :: name.scope.toList)

/-- The target that a name asks for. -/
def target (name : ResourceName) : Target := ⟨⟨name.scope, name.app⟩, name.kind⟩

/-- The name that asks for a target. -/
def ofTarget (target : Target) : ResourceName := ⟨target.kind, target.app.name, target.app.scope⟩

/-- Names are ordered by kind, application and namespace. -/
def orderKey (name : ResourceName) : List String := [name.kind.text, name.app, name.scope]

/-- The names of a list in ascending order, each once. -/
def sort (names : List ResourceName) : List ResourceName := ordered orderKey names

/-- Cutting a text at its last delimiter loses nothing but the delimiter. -/
theorem eq_append_of_cutLast? {text before after : List Char}
    (cut : cutLast? text = some (before, after)) : text = before ++ delimiter :: after := by
  induction text generalizing before with
  | nil => cases cut
  | cons character rest inductionHypothesis =>
    unfold cutLast? at cut
    split at cut
    · rename_i head tail cutRest
      cases cut
      rw [inductionHypothesis cutRest, List.cons_append]
    · split at cut
      · rename_i delimits
        cases cut
        rw [delimits, List.nil_append]
      · cases cut

/-- A text that is read as a name is how that name is printed, so different texts have different
    names. -/
theorem render_of_parse? {text : String} {name : ResourceName} (parsed : parse? text = some name) :
    name.render = text := by
  unfold parse? parseChars? at parsed
  simp only [Option.bind_eq_bind, Option.bind_eq_some_iff, Prod.exists] at parsed
  obtain ⟨before, scope, cutScope, kind, app, cutApp, accepted⟩ := parsed
  split at accepted
  · cases accepted
  · cases accepted
    have whole := eq_append_of_cutLast? cutScope
    rw [eq_append_of_cutLast? cutApp] at whole
    simp only [render, String.toList_ofList]
    rw [← whole, String.ofList_toList]

@[simp] theorem target_ofTarget (wanted : Target) : (ofTarget wanted).target = wanted := rfl

@[simp] theorem ofTarget_target (name : ResourceName) : ofTarget name.target = name := rfl

end ResourceName

end RulePlane
