import Retrieval.Text.Case
import Retrieval.Text.DomainChar
import Retrieval.Text.Punycode
import Retrieval.Text.Split

/-!
Domain names of any script, and their form within ASCII. A label has letters, digits, marks and
hyphens; some characters are bound to a place, and a label that has letters written from right to
left has no others.
-/

namespace Retrieval.Http

open Retrieval.Text

namespace DomainLabel

/-- The last of the characters before some place that is no mark, if it is of some kind. -/
def lastIs (kind : Char → Bool) (before : List Char) : Bool :=
  (before.find? (!isMark ·)).any kind

/-- Whether a joiner may stand at a place; the one that keeps letters apart may also stand between
letters that would be joined. The characters before are given from the last to the first. -/
def isJoiner (keepsApart : Bool) (before after : List Char) : Bool :=
  before.head?.any isVirama || keepsApart && lastIs joinsNext before && lastIs joinsLast after

def isArabicDigit (c : Char) : Bool := 0x660 ≤ c.toNat && c.toNat ≤ 0x669

def isEasternDigit (c : Char) : Bool := 0x6f0 ≤ c.toNat && c.toNat ≤ 0x6f9

/-- Whether a character may stand between what is before it, from the last to the first, and what
is after it. -/
def isPlaced (before : List Char) (c : Char) (after : List Char) : Bool :=
  match c.toNat with
  | 0xb7 => before.head? == some 'l' && after.head? == some 'l'
  | 0x375 => after.head?.any greekRanges.contains
  | 0x5f3 | 0x5f4 => before.head?.any hebrewRanges.contains
  | 0x30fb => (before ++ after).any japaneseRanges.contains
  | 0x200c => isJoiner true before after
  | 0x200d => isJoiner false before after
  | _ =>
    if isArabicDigit c then !(before ++ after).any isEasternDigit
    else if isEasternDigit c then !(before ++ after).any isArabicDigit
    else isDomainChar c

/-- Whether all characters may stand where they do. -/
def arePlaced : (before : List Char) → List Char → Bool
  | _, [] => true
  | before, c :: after => isPlaced before c after && arePlaced (c :: before) after

/-- Digits that go with the scripts written from right to left. -/
def isRightDigit (c : Char) : Bool := isArabicDigit c || 0x10d30 ≤ c.toNat && c.toNat ≤ 0x10d39

def isLeftDigit (c : Char) : Bool := c.isDigit || isEasternDigit c

def isJoinerChar (c : Char) : Bool := c.toNat = 0x200c || c.toNat = 0x200d

/-- Whether a character may stand among letters that are written from right to left. -/
def isAmongRight (c : Char) : Bool :=
  isRightToLeft c || isRightDigit c || isLeftDigit c || isMark c || c = '-' || isJoinerChar c

/-- Whether a label keeps to one direction. Where it goes from right to left, a letter is first, a
letter or a digit is last but for marks, and the digits are of one kind. -/
def isDirected (label : List Char) : Bool :=
  if label.any fun c => isRightToLeft c || isRightDigit c then
    label.head?.any isRightToLeft && label.all isAmongRight
      && lastIs (fun c => isRightToLeft c || isRightDigit c || isLeftDigit c) label.reverse
      && !(label.any isRightDigit && label.any isLeftDigit)
  else true

/-- Whether no character is followed by a mark that it is composed with. -/
def isComposedText : List Char → Bool
  | c :: d :: cs => !isComposed c d && isComposedText (d :: cs)
  | _ => true

/-- Whether the hyphens of a label are inside, and not where the mark of a written form ends. -/
def isHyphenated (label : List Char) : Bool :=
  (label.drop 2).take 2 != ['-', '-'] && label.head? != some '-' && label.getLast? != some '-'

/-- Whether a text is a label. -/
def isValid (label : List Char) : Bool :=
  !label.isEmpty && lowerChars false label == label && isComposedText label && isHyphenated label
    && !label.head?.any isMark && arePlaced [] label && isDirected label

/-- What labels written within ASCII begin with. -/
def mark : List Char := "xn--".toList

/-- The label that a text within ASCII is written for. -/
def ofWritten? (written : List Char) : Option (List Char) :=
  if mark.isPrefixOf written then
    let rest := written.drop mark.length
    if rest.isEmpty || rest.getLast? == some '-' then none else Punycode.decode? rest
  else some written

/-- The length that a written label has at most. -/
def maxLength : Nat := 63

/-- The form of a label within ASCII. -/
def written? (label : List Char) : Option (List Char) :=
  if label.all Punycode.isPlain then
    match ofWritten? label with
    | some read => if isValid read && label.length ≤ maxLength then some label else none
    | none => none
  else
    let written := mark ++ Punycode.encode label
    if isValid label && written.length ≤ maxLength then some written else none

end DomainLabel

namespace DomainName

/-- The stops between labels, those of the wide scripts included. -/
def isStop (c : Char) : Bool := [0x2e, 0x3002, 0xff0e, 0xff61].contains c.toNat

/-- The length that a name has at most, a stop at its end included. -/
def maxLength : Nat := 254

/-- The form of a name within ASCII. A stop may stand at its end. -/
def written? (name : List Char) : Option (List Char) := do
  let labels := splitWhere isStop name
  let hasLastStop := labels.getLast? == some []
  let written ← (if hasLastStop then labels.dropLast else labels).mapM DomainLabel.written?
  let whole := joinWith ['.'] (written ++ if hasLastStop then [[]] else [])
  let limit := if hasLastStop then maxLength else maxLength - 1
  if name.length ≤ maxLength && whole.length ≤ limit then return whole else none

end DomainName

end Retrieval.Http
