import RulePlane.Transport.Protocol

/-!
# Discovery protocol

The messages of the protocol by which clients watch named resources. A client lists the names that
it wants under the address of their type; each later request echoes the nonce of the response that
it acknowledges, or reports an error with it.
-/

namespace RulePlane

namespace Discovery

/-- The only type of resources that is served. -/
def typeUrl : String := "type.googleapis.com/envoy.config.core.v3.TypedExtensionConfig"

/-- A request of a client. -/
structure Request where
  node : Option String
  typeUrl : String
  names : List String
  errorDetail : Option Status
  versionInfo : String
  nonce : String
deriving DecidableEq, Repr, Inhabited

/-- A response: rules under a nonce and a version. -/
structure Response where
  typeUrl : String
  rules : List Rule
  nonce : String
  version : UInt64
deriving DecidableEq, Repr, Inhabited

/-- The version of a response is written as a decimal number. -/
def Response.versionInfo (response : Response) : String := toString response.version.toNat

/-- The node that a request names; a missing or empty one is unknown. -/
def Request.nodeName (request : Request) : String :=
  match request.node with
  | some node => if node = "" then "unknown" else node
  | none => "unknown"

/-- The name of a connection: its node and a number that no other connection has. -/
def clientOf (node : String) (number : UInt64) : ClientId :=
  ⟨node ++ "-" ++ toString number.toNat⟩

end Discovery

end RulePlane
