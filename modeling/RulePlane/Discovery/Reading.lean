import RulePlane.Discovery.Protocol
import RulePlane.Transport.Reading

/-!
# Reading discovery requests

Discovery requests in the form of documents. Every field may be left out; a request that names no
type is for the served one.
-/

namespace RulePlane.Discovery

/-- A request. -/
def Request.reader : Document.FieldReader Request := do
  let node ← Document.defaulted "node" none (Document.optional? Document.text?)
  let type ← Document.defaulted "type_url" Discovery.typeUrl Document.text?
  let names ← Document.defaulted "resource_names" [] (Document.sequenceOf? Document.text?)
  let errorDetail ← Document.defaulted "error_detail" none (Document.optional? Status.ofDocument?)
  let versionInfo ← Document.defaulted "version_info" "" Document.text?
  let nonce ← Document.defaulted "response_nonce" "" Document.text?
  return { node, typeUrl := type, names, errorDetail, versionInfo, nonce }

/-- Read a request. -/
def Request.ofDocument? : Document → Option Request := Document.structure? Request.reader

end RulePlane.Discovery
