import Retrieval.Http.DomainName
import Retrieval.Text.Transfer

/-!
Hosts of addresses: four numbers, eight groups of digits in brackets, or a name.
-/

namespace Retrieval.Http

open Retrieval.Text

namespace Host

/-- Where a reader of four groups of digits may stand: whether inside a group, and how many groups
are to come. -/
abbrev GroupPlace := Bool × Nat

/-- The places after one more character. -/
def nextPlaces (c : Char) : GroupPlace → List GroupPlace
  | (inside, left) =>
    (if c.isDigit then [(true, left)] else []) ++
      match inside, left with
      | true, left + 1 => [(false, left)]
      | _, _ => []

/-- Whether a host looks like four numbers: four groups of digits with any one character between
neighbours. -/
def isFourGroups (cs : List Char) : Bool :=
  (cs.foldl (fun places c => (places.flatMap (nextPlaces c)).eraseDups) [(false, 3)]).contains
    (true, 0)

/-- Whether a text is a number below 256 without needless zeros. -/
def isOctet (cs : List Char) : Bool :=
  !cs.isEmpty && cs.all Char.isDigit && cs.length ≤ 3 && (cs.length = 1 || cs.head? != some '0')
    && (cs.foldl (fun n c => 10 * n + (c.toNat - 48)) 0) < 256

/-- Whether a text is four such numbers with points between them. -/
def isFourOctets (cs : List Char) : Bool :=
  let parts := splitAt '.' cs
  parts.length = 4 && parts.all isOctet

/-- Whether a text is one of the eight groups of digits to the base sixteen. -/
def isHexGroup (cs : List Char) : Bool :=
  !cs.isEmpty && cs.length ≤ 4 && cs.all fun c => (hexValue? c).isSome

/-- Groups with those of a last part that is four numbers, which stand for two groups. -/
def withoutOctets? (parts : List (List Char)) : Option (List (List Char)) :=
  let last := parts.getLastD []
  if last.contains '.' then
    if isFourOctets last then some (parts.dropLast ++ [['0'], ['0']]) else none
  else some parts

/-- Whether the groups on the two sides of a gap are at most seven. A gap at an end of the text
leaves an empty group there. -/
def isGapped (before after : List (List Char)) : Bool :=
  let before := if before = [[]] then [] else before
  let after := if after = [[]] then [] else after
  before.length + after.length < 8 && (before ++ after).all isHexGroup

/-- Whether groups are eight, or fewer with one gap among them. -/
def isEightGroups : (groups : List (List Char)) → Bool
  | first :: rest =>
    match rest.dropLast.findIdx? List.isEmpty with
    | none => rest.length = 7 && (first :: rest).all isHexGroup
    | some n => rest.length ≤ 8 && isGapped (first :: rest.take n) (rest.drop (n + 1))
  | [] => false

/-- Whether the name of a zone may stand after its percent sign; there may be none. -/
def isZone : List Char → Bool
  | [] => true
  | _ :: zone => !zone.isEmpty && !zone.contains '%'

/-- Whether a text is an address of eight groups. -/
def isGroupAddress (cs : List Char) : Bool :=
  let parts := splitAt ':' (cs.takeWhile (· != '%'))
  !cs.contains '/' && isZone (cs.dropWhile (· != '%')) && 3 ≤ parts.length
    && (withoutOctets? parts).any isEightGroups

/-- Whether a character may stand for itself in a name within ASCII. -/
def isPlain (c : Char) : Bool :=
  isUnreserved c || "!$&'()*+,;=\"`\x7b\x7d%|\\".toList.contains c

/-- The normal form of a host; nothing for what is none. The brackets of groups are left out. -/
def normal? (cs : List Char) : Option (List Char) :=
  if cs.isEmpty then some []
  else if isFourGroups cs then if isFourOctets cs then some cs else none
  else if cs.head? == some '[' && cs.getLast? == some ']' && 2 ≤ cs.length then
    let inside := (cs.drop 1).dropLast
    if isGroupAddress inside then some inside else none
  else
    let name := lowerChars false cs
    if cs.all Punycode.isPlain then some (escapeUnless isPlain name) else DomainName.written? name

/-- A host as it stands in an address: with brackets if it has colons. -/
def shown (host : List Char) : List Char :=
  if host.contains ':' then ['['] ++ host ++ [']'] else host

end Host

end Retrieval.Http
