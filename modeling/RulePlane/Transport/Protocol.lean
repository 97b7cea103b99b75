import RulePlane.Rule
import RulePlane.Target

/-!
# Transport protocol

The messages of the protocol by which rules are pushed to clients directly. A client names a
namespace, an application and some kinds, and subscribes to these targets or leaves them; it also
acknowledges what it received. A response carries rules, or only a status.
-/

namespace RulePlane

/-- A code with a text. -/
structure Status where
  code : Int
  message : String
deriving DecidableEq, Repr, Inhabited

namespace Transport

/-- The targets of a request: one application and several kinds. -/
structure TargetSpec where
  scope : String
  app : String
  kinds : List String
deriving DecidableEq, Repr, Inhabited

/-- A request of a client. The operation is a number that need not be known. -/
structure Request where
  target : Option TargetSpec
  operation : Int
  requestId : String
  responseAck : String
  status : Option Status
  identifier : String
deriving DecidableEq, Repr, Inhabited

/-- A response. Rules come with the version of their group. -/
structure Response where
  status : Status
  ack : String
  scope : String
  app : String
  kind : String
  data : Option (List Rule × Int)
  controlPlane : String
  responseId : String
deriving DecidableEq, Repr, Inhabited

/-- What a valid request asks for. -/
inductive Operation where
  | subscribe
  | unsubscribe
deriving DecidableEq, Repr

/-- Why a request is malformed. -/
inductive RequestError where
  | unknownOperation (code : Int)
  | missingTarget
  | missingApp
  | missingKinds
deriving DecidableEq, Repr

/-- The report on a malformed request. -/
def RequestError.message : RequestError → String
  | unknownOperation code => "unknown operation " ++ toString code
  | missingTarget => "missing target"
  | missingApp => "target namespace and app must be set"
  | missingKinds => "target kinds must not be empty"

/-- The acknowledgement of a response. -/
def ack : String := "ACK"

/-- The rejection of a response or of a request. -/
def nack : String := "NACK"

/-- The code of a response that carries rules. -/
def successCode : Int := 1

/-- The code of a response to a malformed request. -/
def badRequestCode : Int := 4002

/-- The code of a response to a request for a kind that is not supported. -/
def unsupportedCode : Int := 500

/-- The operation of a number. -/
def Operation.ofCode? (code : Int) : Option Operation :=
  if code = 0 then some .subscribe else if code = 1 then some .unsubscribe else none

namespace Request

/-- Whether a request only says what became of a response. -/
def isAcknowledgement (request : Request) : Bool :=
  request.responseAck == Transport.ack || request.responseAck == nack

/-- The operation and the targets of a request, in the order of its kinds. -/
def validate (request : Request) : Except RequestError (Operation × List Target) := do
  let some operation := Operation.ofCode? request.operation
    | throw (.unknownOperation request.operation)
  let some spec := request.target
    | throw .missingTarget
  if spec.scope = "" ∨ spec.app = "" then throw .missingApp
  if spec.kinds = [] then throw .missingKinds
  return (operation, spec.kinds.map fun kind => ⟨⟨spec.scope, spec.app⟩, ⟨kind⟩⟩)

end Request

namespace Response

/-- The response that carries the rules of a target. -/
def ofRules (controlPlane responseId : String) (target : Target) (rules : List Rule)
    (version : Int) : Response where
  status := ⟨successCode, "Get and send rule success"⟩
  ack := ""
  scope := target.app.scope
  app := target.app.name
  kind := target.kind.text
  data := some (rules, version)
  controlPlane := controlPlane
  responseId := responseId

/-- The response to a malformed request. -/
def malformed (controlPlane requestId : String) (fault : RequestError) : Response where
  status := ⟨badRequestCode, fault.message⟩
  ack := nack
  scope := ""
  app := ""
  kind := ""
  data := none
  controlPlane := controlPlane
  responseId := requestId

/-- The response to a request for a target whose kind is not supported. -/
def unsupported (controlPlane requestId : String) (target : Target) : Response where
  status := ⟨unsupportedCode, "Register watcher error"⟩
  ack := ""
  scope := target.app.scope
  app := target.app.name
  kind := target.kind.text
  data := none
  controlPlane := controlPlane
  responseId := requestId

end Response

end Transport

end RulePlane
