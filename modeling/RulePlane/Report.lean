import RulePlane.CommandLine
import RulePlane.Transport.Protocol
import RulePlane.Watcher

/-!
# Reports

The values of the control plane in the form of documents, for whoever wants to look at them.
-/

namespace RulePlane.Report

/-- Null for a missing value. -/
def optional {α : Type} (render : α → Document) : Option α → Document
  | some value => render value
  | none => .null

/-- A list of values, in order. -/
def list {α : Type} (render : α → Document) (values : List α) : Document :=
  .sequence (values.map render)

/-- A list of texts. -/
def texts (values : List String) : Document := list .text values

/-- A natural number. -/
def natural (value : Nat) : Document := .integer value

/-- The two digits of a byte. -/
def byteDigits (byte : UInt8) : List Char :=
  let digits := Text.hexDigits byte.toNat
  if digits.length < 2 then '0' :: digits else digits

/-- Bytes in lower-case hexadecimal digits. -/
def hex (bytes : Wire.Bytes) : String := String.ofList (bytes.flatMap byteDigits)

/-- A failure: its kind and the report on it. -/
def failure (kind message : String) : Document :=
  .record [("error", .text kind), ("message", .text message)]

/-- A rule: the address of its message, and the bytes of it. -/
def rule (rule : Rule) : Document :=
  .record [("type_url", .text rule.typeUrl), ("value", .text (hex rule.value))]

/-- A list of rules. -/
def rules (rules : List Rule) : Document := list rule rules

/-- The rules of an application and their version. -/
def versioned (found : List Rule × Int) : List (String × Document) :=
  [("rules", rules found.1), ("version", .integer found.2)]

/-- A target, as its namespace, application and kind. -/
def target (target : Target) : Document :=
  texts [target.app.scope, target.app.name, target.kind.text]

/-- An application, as its namespace and name. -/
def app (app : App) : Document := texts [app.scope, app.name]

/-- A resource, by its name and version. -/
def resource (resource : Resource) : Document :=
  .sequence [.text resource.anyName, optional .text resource.version]

/-- A push: its target, and the rules with their version. -/
def push (push : Push) : Document :=
  .record (("target", target push.target) :: versioned (push.rules, push.version))

/-- The place where a kind is served. -/
def apiResource (resource : ApiResource) : Document :=
  texts [resource.group, resource.version, resource.apiVersion, resource.kind, resource.plural]

/-- A transport response. Without rules, their fields are null. -/
def transportResponse (response : Transport.Response) : Document :=
  .record [
    ("code", .integer response.status.code), ("message", .text response.status.message),
    ("ack", .text response.ack), ("namespace", .text response.scope), ("app", .text response.app),
    ("kind", .text response.kind), ("rules", optional (fun data => rules data.1) response.data),
    ("version", optional (fun data => .integer data.2) response.data),
    ("control_plane", .text response.controlPlane),
    ("response_id", .text response.responseId)]

/-- The settings of a command line. -/
def options (options : Options) : Document :=
  let format : LogFormat → String
    | .plain => "Plain"
    | .json => "Json"
  let mode : FanOutMode → String
    | .failFast => "FailFast"
    | .bestEffort => "BestEffort"
  .record [
    ("log_format", .text (format options.logFormat)),
    ("admin_addr", .text options.adminAddress.render),
    ("transport_addr", .text options.transportAddress.render),
    ("discovery_addr", .text options.discoveryAddress.render),
    ("control_plane_id", optional .text options.controlPlaneId),
    ("push_max_attempts", natural options.pushMaxAttempts),
    ("push_timeout_ms", natural options.pushTimeoutMillis),
    ("push_workers", natural options.pushWorkers),
    ("push_queue_capacity", natural options.pushQueueCapacity),
    ("fanout", .text (mode options.fanOut))]

end RulePlane.Report
