import Retrieval.Http.Address

/-!
Where the paths of calls lead. A path may be given in any form of an address; it counts as it is
read, with its escapes carried out.
-/

namespace Retrieval.Api

open Retrieval.Http

/-- What a path leads to. -/
inductive Route
  | query
  | batch
  /-- A page about the service. -/
  | page
  /-- A path that has slashes too many. -/
  | moved
  | nowhere
  deriving DecidableEq, Repr

namespace Route

/-- The address of the service, which paths are seen from. -/
def home : Address := { Address.nowhere with scheme := "http".toList, host := "localhost".toList }

/-- The path that a call names; nothing if it is no address. -/
def path? (given : String) : Option (List Char) := do
  let a ← home.seenFrom? (← Address.ofText? given)
  return Text.unescaped (if a.path.isEmpty then ['/'] else a.path)

/-- The paths that lead somewhere. -/
def known : List (String × Route) :=
  [("/openapi.json", .page), ("/docs", .page), ("/docs/oauth2-redirect", .page), ("/redoc", .page),
    ("/query", .query), ("/query/batch", .batch)]

/-- What a path leads to as it stands; a line end after it does not count. -/
def find? (path : List Char) : Option Route :=
  let path := if path.getLast? == some '\n' then path.dropLast else path
  known.lookup (String.ofList path)

/-- What a path leads to. -/
def ofPath (path : List Char) : Route :=
  match find? path with
  | some route => route
  | none =>
    let short := (path.reverse.dropWhile (· == '/')).reverse
    if short ≠ path && (find? short).isSome then .moved else .nowhere

end Route

end Retrieval.Api
