import Retrieval.Value.Basic

/-!
Messages of the hypertext protocol, as far as the library sends and reads them.
-/

namespace Retrieval.Http

/-- A request as it reaches the other side, with the time limit that it was sent with. -/
structure Sent where
  method : String
  url : String
  body : String
  contentType : Option String
  authorization : Option String
  limit : Value
  deriving Repr

structure Answer where
  status : Nat
  body : String
  deriving DecidableEq, Repr

/-- What becomes of a request: an answer, or none in time, or none at all. -/
inductive Exchange
  | answered (a : Answer)
  | timedOut (cause : String)
  | failed (cause : String)
  deriving DecidableEq, Repr

end Retrieval.Http
