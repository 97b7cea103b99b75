import RulePlane.Ordered

/-!
# Targets

What the control plane talks about: kinds of policy resources, single resources, applications,
and the targets that clients subscribe to. Names are opaque texts; nothing here restricts them, so
the printed forms need not be readable back (see `ResourceName` for the one that is read).
-/

namespace RulePlane

/-- A kind of policy resource, written `<group>/<version>/<Kind>` but otherwise opaque. -/
structure Kind where
  text : String
deriving DecidableEq, Repr, Inhabited

/-- An application in a cluster namespace: the key by which resources are grouped. -/
structure App where
  scope : String
  name : String
deriving DecidableEq, Repr, Inhabited

/-- A single resource of some kind in a cluster namespace. -/
structure ObjectId where
  scope : String
  name : String
deriving DecidableEq, Repr, Inhabited

/-- What a client subscribes to: the resources of one kind that govern one application. -/
@[ext]
structure Target where
  app : App
  kind : Kind
deriving DecidableEq, Repr, Inhabited

/-- The name of one client connection. -/
structure ClientId where
  text : String
deriving DecidableEq, Repr, Inhabited

namespace App

/-- An application is printed `<namespace>/<app>`. -/
def render (app : App) : String := app.scope ++ "/" ++ app.name

/-- The target of a kind's resources that govern the application. -/
def target (app : App) (kind : Kind) : Target := ⟨app, kind⟩

end App

namespace ObjectId

/-- A resource is printed `<namespace>/<name>`. -/
def render (id : ObjectId) : String := id.scope ++ "/" ++ id.name

end ObjectId

namespace Target

/-- A target is printed `<namespace>/<app>/<kind>`. -/
def render (target : Target) : String := target.app.render ++ "/" ++ target.kind.text

/-- Targets are ordered by namespace, application and kind. -/
def orderKey (target : Target) : List String :=
  [target.app.scope, target.app.name, target.kind.text]

/-- The targets of a list in ascending order, each once. -/
def sort (targets : List Target) : List Target := ordered orderKey targets

end Target

namespace ClientId

/-- Whether the client gave no name. -/
def isEmpty (client : ClientId) : Bool := client.text.isEmpty

end ClientId

end RulePlane
