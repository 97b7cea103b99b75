import RulePlane.Table

/-!
# Labels

The labels of a cluster object, and the one among them that binds the object to the application it
governs.
-/

namespace RulePlane

/-- The labels of an object, by key. -/
structure Labels where
  table : Table String String

namespace Labels

/-- The label that names the application. -/
def appKey : String := "app"

/-- No labels. -/
def none : Labels := ⟨Table.empty⟩

instance : Inhabited Labels := ⟨none⟩

/-- The labels of a list of pairs; of a repeated key the last value counts. -/
def ofList (pairs : List (String × String)) : Labels := ⟨Table.ofList pairs⟩

/-- The value of a label. -/
def get? (labels : Labels) (key : String) : Option String := labels.table.find? key

/-- The number of labels. -/
def size (labels : Labels) : Nat := labels.table.size

/-- The application that the labels name. An empty name counts as none. -/
def app? (labels : Labels) : Option String :=
  match labels.get? appKey with
  | some name => if name = "" then Option.none else some name
  | Option.none => Option.none

end Labels

end RulePlane
