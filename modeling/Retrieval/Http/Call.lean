import Retrieval.Credentials
import Retrieval.Error.Query
import Retrieval.Http.Address
import Retrieval.Http.Form
import Retrieval.Http.Message
import Retrieval.Json.Encode
import Retrieval.Value.Pairs

/-!
Calls of the client, as a caller describes them, and the messages that they are sent as.
-/

namespace Retrieval.Http

open Retrieval.Text

/-- A call; what its parts mean is seen when it is made. -/
structure Call where
  method : Value := .text "GET"
  endpoint : Value := .text ""
  content : Value := .null
  json : Value := .null
  /-- The fields of the query. -/
  fields : Value := .null
  headers : Value := .null
  /-- Whether a failing status is an error. -/
  isChecked : Bool := false
  limit : Option Value := none

/-- A message that is ready to be sent. -/
structure Prepared where
  sent : Sent
  /-- Whether its address says where to send it. -/
  isAbsolute : Bool

namespace Call

/-- Sets one part of a call. -/
def setPart? (call : Call) (name : String) (v : Value) : Option Call :=
  match name with
  | "method" => some { call with method := v }
  | "endpoint" => some { call with endpoint := v }
  | "content" => some { call with content := v }
  | "json" => some { call with json := v }
  | "params" => some { call with fields := v }
  | "additional_headers" => some { call with headers := v }
  | "raise_on_error" => some { call with isChecked := v.isTruthy }
  | "timeout" => some { call with limit := v.orAbsent }
  | _ => none

/-- The call that named parts describe; nothing if a part is unknown. -/
def ofParts? (parts : Entries Value) : Option Call :=
  parts.foldlM (fun call e => call.setPart? e.1 e.2) {}

def isAscii (s : String) : Bool := s.toList.all fun c => c.toNat < 0x80

/-- What there is no reading for is misuse. -/
def orMisuse {α : Type} : Option α → Except Failure α
  | some a => .ok a
  | none => .error .misuse

/-- The headers of a call, added to others. A header of the same name takes the place of another. -/
def headersOver (call : Call) (others : Entries String) : Except Failure (Entries String) := do
  let own ←
    if call.headers.isTruthy then (Value.pairs call.headers).mapError .pairs else pure []
  let own ← own.mapM fun p => do return (← orMisuse p.1.text?, ← orMisuse p.2.text?)
  let headers := Entries.merge others own
  if headers.all fun h => isAscii h.1 && isAscii h.2 then return headers else throw .misuse

/-- The value of a header, whose name is given in small letters; several values are joined. -/
def header? (name : String) (headers : Entries String) : Option String :=
  match (headers.filter fun h => h.1.toLower == name).map (·.2) with
  | [] => none
  | values => some (", ".intercalate values)

/-- The body of a call and the kind of its content, as far as the body tells it. -/
def body (call : Call) : Except Failure (String × Option String) :=
  match call.content, call.json with
  | .text s, _ => if isEncodable s then .ok (s, none) else .error .misuse
  | .seq .list _, _ => .error .contentInParts
  | .null, .null => .ok ("", none)
  | .null, v =>
    match Json.encode? v with
    | some s => if isEncodable s then .ok (s, some "application/json") else .error .misuse
    | none => .error .notFinite
  | _, _ => .error .misuse

/-- The value of the authorization header: a name with a password in the address goes before the
header. -/
def authorization (url : Address) (headers : Entries String) : Option String :=
  let (name, password) := url.login
  if name.isEmpty && password.isEmpty then header? "authorization" headers
  else some (Credentials.basicValue name password)

/-- The message that a call to some address is sent as. -/
def prepare (call : Call) (address : String) (others : Entries String) (limit : Value) :
    Except Failure Prepared := do
  let headers ← call.headersOver others
  let given ← orMisuse (Address.ofText? address)
  let seen ← orMisuse (Address.nowhere.seenFrom? given)
  let method ← orMisuse call.method.text?
  let url ←
    match call.fields with
    | .null => pure seen
    | v => orMisuse ((Form.queryOf? v).bind seen.withQuery?)
  let (body, contentType) ← call.body
  return {
    sent := {
      method := upper method
      url := url.text
      body
      contentType := (header? "content-type" headers).or contentType
      authorization := authorization url headers
      limit := call.limit.getD limit }
    isAbsolute := url.isAbsolute }

end Call

end Retrieval.Http
