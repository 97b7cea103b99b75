import RulePlane.Text.Quoted
import RulePlane.Watchers

/-!
# Diagnostic texts

One-line descriptions of the parts of the control plane for an operator's log. A structure is
written as its name and its fields, `..` stands for fields that are left out, a list stands between
brackets and a set or table between braces.
-/

namespace RulePlane.Diagnostic

/-- A text between braces. -/
def braced (text : String) : String :=
  String.singleton '\x7b' ++ text ++ String.singleton '\x7d'

/-- The members of a list, a set or a table, one behind another. -/
def sequence (members : List String) : String := String.intercalate ", " members

/-- A field of a structure. -/
def field (name value : String) : String := name ++ ": " ++ value

/-- A structure, as its name and its fields. -/
def structureText (name : String) (fields : List String) : String :=
  name ++ " " ++ braced (" " ++ sequence fields ++ " ")

/-- What stands for the fields that are left out. -/
def others : String := ".."

/-- The description of a kind. -/
def kind (kind : Kind) : String := "ResourceKind(" ++ Text.quote kind.text ++ ")"

/-- The description of a client. -/
def client (client : ClientId) : String := "ClientIdentifier(" ++ Text.quote client.text ++ ")"

/-- The description of an application. -/
def app (app : App) : String :=
  structureText "NamespacedApp"
    [field "namespace" (Text.quote app.scope), field "app" (Text.quote app.name)]

/-- The description of a target. -/
def target (target : Target) : String :=
  structureText "SubscribeTarget"
    [field "namespace" (Text.quote target.app.scope), field "app" (Text.quote target.app.name),
      field "kind" (kind target.kind)]

/-- The description of the place where a kind is served. -/
def apiResource (resource : ApiResource) : String :=
  structureText "ApiResource"
    [field "group" (Text.quote resource.group), field "version" (Text.quote resource.version),
      field "api_version" (Text.quote resource.apiVersion),
      field "kind" (Text.quote resource.kind), field "plural" (Text.quote resource.plural)]

/-- The description of a supported kind. -/
def kindEntry (entry : KindEntry) : String :=
  structureText "KindMetadata"
    [field "kind" (kind entry.kind), field "api_resource" (apiResource entry.resource), others]

/-- The description of what a watcher tracks. -/
def subscriptions (subscriptions : Subscriptions) : String :=
  structureText "Subscriptions"
    [field "targets" (braced (sequence (subscriptions.targets.map target))),
      field "namespaces" (braced (sequence (subscriptions.scopes.map Text.quote))),
      field "apps" (braced (sequence (subscriptions.apps.map app)))]

/-- The description of a watcher: its kind and what it tracks. -/
def watcher (watcher : Watcher) : String :=
  structureText "ResourceWatcher"
    [field "kind" (kind watcher.kind),
      field "subscriptions" (subscriptions watcher.subscriptions), others]

/-- The description of the active watchers: the supported kinds and those that are watched. -/
def watchers (watchers : Watchers) : String :=
  let supported := watchers.kinds.entries.map fun entry =>
    field (kind entry.1) (kindEntry entry.2)
  structureText "WatcherRegistry"
    [field "kinds" ("Kinds(" ++ braced (sequence supported) ++ ")"),
      field "watchers" ("[" ++ sequence (watchers.active.keys.map kind) ++ "]"), others]

/-- The description of a discovery connection. -/
def discoveryConnection (identifier : ClientId) (stopped : Bool) : String :=
  structureText "DeltaConnection"
    [field "identifier" (client identifier),
      field "stopped" (if stopped then "true" else "false"), others]

end RulePlane.Diagnostic
