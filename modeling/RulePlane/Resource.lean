import RulePlane.Document
import RulePlane.Labels
import RulePlane.Target

/-!
# Resources

A policy resource as the cluster delivers it: the part of its metadata that matters here and its
specification, which stays a document until a rule is made from it.
-/

namespace RulePlane

/-- A policy resource. -/
structure Resource where
  name : Option String
  generatedName : Option String
  scope : Option String
  labels : Labels
  version : Option String
  spec : Option Document
deriving Inhabited

namespace Resource

/-- The name by which a resource is known: its own, else the base of a generated one, else none.
    A given name counts even if it is empty. -/
def anyName (resource : Resource) : String :=
  resource.name.getD (resource.generatedName.getD "")

/-- The namespace of a resource, empty for one that has none. -/
def scopeOrEmpty (resource : Resource) : String := resource.scope.getD ""

/-- The identity of a resource among those of its kind. -/
def id (resource : Resource) : ObjectId := ⟨resource.scopeOrEmpty, resource.anyName⟩

/-- A metadata text that may be null or missing. -/
def metadataText? (name : String) (metadata : Document) : Option (Option String) :=
  match metadata.field? name with
  | some document => Document.optional? Document.text? document
  | none => some none

/-- The labels of a metadata document; null or missing ones are none. -/
def metadataLabels? (metadata : Document) : Option Labels :=
  match metadata.field? "labels" with
  | some .null => some Labels.none
  | some document => (Document.recordOf? Document.text? document).map Labels.ofList
  | none => some Labels.none

/-- The metadata of an object; an object without any has an empty record. -/
def metadata? (document : Document) : Option Document :=
  match document.field? "metadata" with
  | some (.record entries) => some (.record entries)
  | some _ => none
  | none => some (.record [])

/-- Read a resource. Only its metadata can be malformed: the specification is kept as it is. -/
def ofDocument? (document : Document) : Option Resource :=
  match document with
  | .record _ => do
      let metadata ← metadata? document
      let name ← metadataText? "name" metadata
      let generatedName ← metadataText? "generateName" metadata
      let scope ← metadataText? "namespace" metadata
      let version ← metadataText? "resourceVersion" metadata
      let labels ← metadataLabels? metadata
      some { name, generatedName, scope, labels, version, spec := document.field? "spec" }
  | _ => none

end Resource

end RulePlane
