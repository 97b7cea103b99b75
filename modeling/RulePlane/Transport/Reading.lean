import RulePlane.Document
import RulePlane.Transport.Protocol

/-!
# Reading transport requests

Transport requests in the form of documents. Every field may be left out.
-/

namespace RulePlane

/-- A status: a code and a message. -/
def Status.reader : Document.FieldReader Status := do
  let code ← Document.defaulted "code" 0 Document.int32?
  let message ← Document.defaulted "message" "" Document.text?
  return ⟨code, message⟩

/-- Read a status. -/
def Status.ofDocument? : Document → Option Status := Document.structure? Status.reader

namespace Transport

/-- The targets of a request. -/
def TargetSpec.reader : Document.FieldReader TargetSpec := do
  let scope ← Document.defaulted "namespace" "" Document.text?
  let app ← Document.defaulted "app" "" Document.text?
  let kinds ← Document.defaulted "kinds" [] (Document.sequenceOf? Document.text?)
  return ⟨scope, app, kinds⟩

/-- A request. -/
def Request.reader : Document.FieldReader Request := do
  let spec := Document.structure? TargetSpec.reader
  let target ← Document.defaulted "target" none (Document.optional? spec)
  let operation ← Document.defaulted "op_type" 0 Document.int32?
  let requestId ← Document.defaulted "request_id" "" Document.text?
  let responseAck ← Document.defaulted "response_ack" "" Document.text?
  let status ← Document.defaulted "status" none (Document.optional? Status.ofDocument?)
  let identifier ← Document.defaulted "identifier" "" Document.text?
  return { target, operation, requestId, responseAck, status, identifier }

/-- Read a request. -/
def Request.ofDocument? : Document → Option Request := Document.structure? Request.reader

end Transport

end RulePlane
