import Retrieval.Http.Host
import Retrieval.Number.Notation
import Retrieval.Number.Numeral

/-!
Addresses. Each has a normal form: the scheme and the host in small letters, no default port, no dot
steps in the path, and escapes for characters that may not stand for themselves.
-/

namespace Retrieval.Http

open Retrieval.Text

/-- What stands before the first character of some kind, and the rest. -/
def cutAt (stop : Char → Bool) (cs : List Char) : List Char × List Char :=
  (cs.takeWhile (!stop ·), cs.dropWhile (!stop ·))

/-- What stands before the last occurrence of a character, if there is one, and what follows. -/
def cutAtLast (mark : Char) (cs : List Char) : List Char × List Char :=
  match cutAt (· == mark) cs.reverse with
  | (rest, _ :: front) => (front.reverse, rest.reverse)
  | (_, []) => ([], cs)

/-- The parts of an address as they are written. -/
structure AddressParts where
  scheme : List Char
  authority : List Char
  path : List Char
  query : Option (List Char)
  fragment : Option (List Char)
  deriving DecidableEq, Repr

/-- The parts of an address in normal form. -/
structure Address where
  scheme : List Char
  user : List Char
  host : List Char
  port : Option Int
  path : List Char
  query : Option (List Char)
  fragment : Option (List Char)
  deriving DecidableEq, Repr

namespace AddressParts

def isSchemeChar (c : Char) : Bool := c.isAlphanum || c == '+' || c == '.' || c == '-'

/-- Whether a text can stand before the first colon as a scheme; it may be empty. -/
def isScheme : List Char → Bool
  | [] => true
  | c :: cs => c.isAlpha && cs.all isSchemeChar

/-- The scheme and what follows its colon. -/
def takeScheme (cs : List Char) : List Char × List Char :=
  match cutAt (· == ':') cs with
  | (scheme, _ :: rest) => if isScheme scheme then (scheme, rest) else ([], cs)
  | _ => ([], cs)

/-- The authority after its two slashes, and what follows. -/
def takeAuthority : List Char → List Char × List Char
  | '/' :: '/' :: cs => cutAt (fun c => c == '/' || c == '?' || c == '#') cs
  | cs => ([], cs)

/-- What follows a mark, if there is anything. -/
def afterMark : List Char → Option (List Char)
  | [] => none
  | _ :: cs => some cs

def ofText (cs : List Char) : AddressParts :=
  let (scheme, cs) := takeScheme cs
  let (authority, cs) := takeAuthority cs
  let (front, fragment) := cutAt (· == '#') cs
  let (path, query) := cutAt (· == '?') front
  { scheme, authority, path, query := afterMark query, fragment := afterMark fragment }

/-- The length that an address, and each of its parts, has at most. -/
def maxLength : Nat := 65536

/-- Whether no part is too long. -/
def areShort (p : AddressParts) : Bool :=
  [p.scheme, p.authority, p.path, p.query.getD [], p.fragment.getD []].all (·.length ≤ maxLength)

end AddressParts

namespace Address

/-- Whether a character is printable ASCII other than those given. -/
def isPlain (reserved : List Char) (c : Char) : Bool :=
  0x20 < c.toNat && c.toNat < 0x7f && !reserved.contains c

/-- Escapes characters that are not plain. A percent sign is plain, so escapes are kept. -/
def escaped (reserved cs : List Char) : List Char := escapeUnless (isPlain reserved) cs

/-- The characters that may not stand for themselves in a query. -/
def queryReserved : List Char := ['"', '#', '<', '>']

/-- The characters that may not stand for themselves in a path. -/
def pathReserved : List Char := queryReserved ++ ['?', '`', '\x7b', '\x7d']

/-- The characters that may not stand for themselves in a name with a password. -/
def userReserved : List Char := pathReserved ++ ['/', ';', '=', '@', '[', '\\', ']', '^', '|']

/-- The characters that may not stand for themselves in a fragment. -/
def fragmentReserved : List Char := ['"', '<', '>', '`']

/-- The steps of a path with those of one or two dots carried out; `done` is reversed. -/
def withoutDots : (done : List (List Char)) → List (List Char) → List (List Char)
  | done, [] => done.reverse
  | done, step :: steps =>
    if step = ['.'] then withoutDots done steps
    else if step = ['.', '.'] then
      withoutDots (if done = [[]] then done else done.drop 1) steps
    else withoutDots (step :: done) steps

/-- The host of an authority, and what follows it. A host in brackets may have colons. -/
def takeHost (cs : List Char) : List Char × List Char :=
  match cs, cutAtLast ']' cs with
  | '[' :: _, (_ :: front, rest) => ('[' :: front ++ [']'], rest)
  | _, _ => cutAt (· == ':') cs

/-- The ports that are left out. -/
def defaultPorts : List (String × Int) :=
  [("http", 80), ("https", 443), ("ftp", 21), ("ws", 80), ("wss", 443)]

/-- The port in a text, which may be missing; nothing if it is no number. -/
def readPort? (scheme : String) (cs : List Char) : Option (Option Int) :=
  let digits := if cs.head? == some ':' then cs.drop 1 else cs
  if digits.isEmpty then some none
  else
    match Number.readInt (String.ofList digits) with
    | .ok n => some (if defaultPorts.lookup scheme = some n then none else some n)
    | .error _ => none

/-- Whether a path may stand after what an address begins with. -/
def isPathAllowed (hasScheme hasAuthority : Bool) (path : List Char) : Bool :=
  if hasAuthority then path.isEmpty || path.head? == some '/'
  else hasScheme || !("//".toList.isPrefixOf path || path.head? == some ':')

/-- The normal form of parts; nothing for what is no address. -/
def ofParts? (p : AddressParts) : Option Address := do
  let (user, location) := cutAtLast '@' p.authority
  let (host, afterHost) := takeHost location
  let host ← Host.normal? host
  let port ← readPort? (String.ofList p.scheme) afterHost
  let user := escaped userReserved user
  let hasAuthority := !user.isEmpty || !host.isEmpty || port.isSome
  let isRooted := !p.scheme.isEmpty || hasAuthority
  let path := if isRooted then joinWith ['/'] (withoutDots [] (splitAt '/' p.path)) else p.path
  if p.areShort && isPathAllowed (!p.scheme.isEmpty) hasAuthority p.path then
    return {
      scheme := p.scheme.map Char.toLower, user, host, port
      path := escaped pathReserved path
      query := p.query.map (escaped queryReserved)
      fragment := p.fragment.map (escaped fragmentReserved) }
  else none

def isControl (c : Char) : Bool := c.toNat < 0x20 || c.toNat = 0x7f

/-- The address that a text is. -/
def ofText? (s : String) : Option Address :=
  let cs := s.toList
  if AddressParts.maxLength < cs.length || cs.any isControl || !isEncodable s then none
  else ofParts? (.ofText cs)

/-- The authority as it is written. -/
def authority (a : Address) : List Char :=
  (if a.user.isEmpty then [] else a.user ++ ['@']) ++ Host.shown a.host ++
    match a.port with
    | some n => ':' :: (Number.integer n).toList
    | none => []

def parts (a : Address) : AddressParts :=
  { a with authority := a.authority }

/-- A part with the mark before it, if there is one. -/
def marked (mark : Char) (part : Option (List Char)) : List Char :=
  match part with
  | some cs => mark :: cs
  | none => []

/-- An address as it is written. -/
def text (a : Address) : String :=
  String.ofList ((if a.scheme.isEmpty then [] else a.scheme ++ [':'])
    ++ (if a.authority.isEmpty then [] else '/' :: '/' :: a.authority)
    ++ a.path ++ marked '?' a.query ++ marked '#' a.fragment)

/-- An address with another query, or none. -/
def withQuery? (a : Address) (query : Option (List Char)) : Option Address :=
  ofParts? { a.parts with query }

/-- Whether an address says by itself where to find something. -/
def isAbsolute (a : Address) : Bool := !a.scheme.isEmpty && !a.host.isEmpty

/-- An address as seen from another. Of one that is not absolute the path and the query count. -/
def seenFrom? (base a : Address) : Option Address :=
  if a.isAbsolute then some a
  else ofParts? { base.parts with
    path := '/' :: a.path.dropWhile (· == '/'), query := a.query, fragment := none }

/-- The address without any part. -/
def nowhere : Address := ⟨[], [], [], none, [], none, none⟩

/-- The name and the password in an address. -/
def login (a : Address) : String × String :=
  let (name, password) := cutAt (· == ':') a.user
  (String.ofList (unescaped name), String.ofList (unescaped (password.drop 1)))

end Address

end Retrieval.Http
