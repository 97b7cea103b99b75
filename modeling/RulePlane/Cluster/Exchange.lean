import RulePlane.Watch.Event

/-!
# Exchange with a cluster

How the resources of one kind are followed in a cluster: they are listed page by page, and from the
version of the list on their changes are watched. Each request stays pending until the cluster
answers it. A failed list starts over; a refused or ended watch is requested again from the version
that was reached; a change without a version, or the report that the version is gone, makes a new
list necessary.
-/

namespace RulePlane

/-- A request to the cluster. -/
inductive ClusterRequest where
  /-- A page of the list; a token continues a list, none begins one. -/
  | list (token : Option String)
  /-- The changes from a version on. -/
  | watch (version : String)
deriving DecidableEq, Repr

/-- One line of an open watch. -/
inductive WatchLine where
  | applied (resource : Resource)
  | deleted (resource : Resource)
  /-- Nothing changed up to a version. -/
  | bookmark (version : String)
  /-- A report of a failure, with its code. -/
  | failed (code : Int)
  /-- A line that cannot be read. -/
  | unreadable

/-- What the cluster answers. -/
inductive ClusterAnswer where
  /-- A page of the list, with the version of the list and a token if there are more pages. No
      resources are given if one of them cannot be read. -/
  | page (resources : Option (List Resource)) (version token : Option String)
  | refused
  /-- The requested watch is open. -/
  | opened
  | line (line : WatchLine)
  /-- The open watch ends. -/
  | ended

/-- Where the exchange stands. -/
inductive ExchangePhase where
  /-- A page of the list is requested. -/
  | listing (token : Option String)
  /-- A watch from a version on is requested. -/
  | opening (version : String)
  /-- A watch is open and has reached a version. -/
  | following (version : String)
deriving DecidableEq, Repr

namespace WatchLine

/-- The code that says that a version is gone. -/
def goneCode : Int := 410

/-- The metadata of a bookmark: a version, and annotations that say nothing here. -/
def bookmarkReader : Document.FieldReader String := do
  let version ← Document.required "resourceVersion" Document.text?
  let _ ← Document.defaulted "annotations" [] (Document.recordOf? Document.text?)
  return version

/-- Read a bookmark: a typed object whose metadata holds a version. -/
def bookmark? (document : Document) : Option WatchLine := do
  let _ ← (document.field? "apiVersion").bind Document.text?
  let _ ← (document.field? "kind").bind Document.text?
  let metadata ← document.field? "metadata"
  return bookmark (← Document.structure? bookmarkReader metadata)

/-- The report of a failure: a status, optionally a message and a reason, and a code. -/
def failureReader : Document.FieldReader Int := do
  let _ ← Document.required "status" Document.text?
  let _ ← Document.defaulted "message" "" Document.text?
  let _ ← Document.defaulted "reason" "" Document.text?
  Document.required "code" Document.uint16?

/-- Read a line of a watch, given as the type of the change and the object that changed. -/
def ofDocument (type : String) (document : Document) : WatchLine :=
  let read : Option WatchLine :=
    match type with
    | "ADDED" => (Resource.ofDocument? document).map applied
    | "MODIFIED" => (Resource.ofDocument? document).map applied
    | "DELETED" => (Resource.ofDocument? document).map deleted
    | "BOOKMARK" => bookmark? document
    | "ERROR" => (Document.structure? failureReader document).map failed
    | _ => none
  read.getD unreadable

end WatchLine

namespace ClusterRequest

/-- A request is written as what it asks for, the path of the resources, and the token or
    version. -/
def render (path : String) : ClusterRequest → String
  | list token => "list " ++ path ++ " " ++ token.getD ""
  | watch version => "watch " ++ path ++ " " ++ version

end ClusterRequest

namespace ExchangePhase

/-- The request that is pending. -/
def pending? : ExchangePhase → Option ClusterRequest
  | listing token => some (.list token)
  | opening version => some (.watch version)
  | following _ => none

/-- An empty version or token counts as none. -/
def present (text : Option String) : Option String := text.filter (· ≠ "")

/-- The start of an exchange: a list is announced and requested. -/
def begin : List WatchItem × ExchangePhase := ([.event .listing], listing none)

/-- A failure after which everything is listed anew. -/
def beginAgain : List WatchItem × ExchangePhase := (.failure :: begin.1, begin.2)

/-- Take a page of the list. The last page has to say the version of the list. -/
def takePage (resources : Option (List Resource)) (version token : Option String) :
    List WatchItem × ExchangePhase :=
  match resources, present token, present version with
  | some resources, some token, _ =>
      (resources.map fun resource => .event (.listedOne resource), listing (some token))
  | some resources, none, some version =>
      ((resources.map fun resource => .event (.listedOne resource)) ++ [.event .listed],
        opening version)
  | _, _, _ => beginAgain

/-- Take a change, which has to say the version that it leads to. -/
def takeChange (resource : Resource) (event : WatchEvent) : List WatchItem × ExchangePhase :=
  match present resource.version with
  | some version => ([.event event], following version)
  | none => beginAgain

/-- Take a line of the open watch, which has reached a version. -/
def takeLine (version : String) : WatchLine → List WatchItem × ExchangePhase
  | .applied resource => takeChange resource (.applied resource)
  | .deleted resource => takeChange resource (.deleted resource)
  | .bookmark version => ([], following version)
  | .failed code =>
      if code = WatchLine.goneCode then beginAgain else ([.failure], following version)
  | .unreadable => ([.failure], following version)

/-- Take an answer of the cluster: what the watch yields, and where the exchange stands then. There
    is no result if the answer is to nothing that was asked. -/
def take? (phase : ExchangePhase) (answer : ClusterAnswer) :
    Option (List WatchItem × ExchangePhase) :=
  match phase, answer with
  | listing _, .page resources version token => some (takePage resources version token)
  | listing _, .refused => some beginAgain
  | opening version, .refused => some ([.failure], opening version)
  | opening version, .opened => some ([], following version)
  | following version, .line line => some (takeLine version line)
  | following version, .ended => some ([], opening version)
  | _, _ => none

end ExchangePhase

end RulePlane
