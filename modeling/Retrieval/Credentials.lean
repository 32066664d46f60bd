import Retrieval.Settings
import Retrieval.Text.Surrogate
import Retrieval.Text.Transfer
import Retrieval.Text.Utf8

/-!
Credentials for the backend: none, a name with a password, or a token. A source of tokens gives a
new one for each request.
-/

namespace Retrieval

inductive Credentials
  | none
  | basic (username password : String)
  | bearer (token : String)
  /-- The tokens still to come. -/
  | rotating (tokens : List String)
  deriving DecidableEq, Repr

namespace Credentials

/-- The header value of a token; an empty token is none. -/
def bearerValue (token : String) : Option String :=
  if token.isEmpty then Option.none else some ("Bearer " ++ token)

/-- The header value of a name with a password. -/
def basicValue (username password : String) : String :=
  "Basic " ++ String.ofList (Text.base64 (Text.utf8Bytes (username ++ ":" ++ password)))

/-- The value of the authorization header, if there is one, and the credentials for the next
request; nothing once the tokens have run out, or for a name with a password that no bytes can
hold. -/
def header? : Credentials → Option (Option String × Credentials)
  | .none => some (Option.none, .none)
  | .basic username password =>
    if Text.isEncodable (username ++ password) then
      some (some (basicValue username password), .basic username password)
    else Option.none
  | .bearer token => some (bearerValue token, .bearer token)
  | .rotating [] => Option.none
  | .rotating (token :: tokens) => some (bearerValue token, .rotating tokens)

/-- The header values of the next requests. -/
def headers? : Nat → Credentials → Option (List (Option String))
  | 0, _ => some []
  | n + 1, c => do
    let (value, next) ← c.header?
    let more ← headers? n next
    return value :: more

/-- The credentials that settings give under some first part of their names: a token is preferred
to a name with a password. -/
def ofSettings (s : Settings) (start : String) : Credentials :=
  let token := s.textOr (start ++ "_API_KEY") ""
  let username := s.textOr (start ++ "_USERNAME") ""
  if !token.isEmpty then .bearer token
  else if !username.isEmpty then .basic username (s.textOr (start ++ "_PASSWORD") "")
  else .none

end Credentials

end Retrieval
