import Retrieval.Text.Printable
import Retrieval.Text.Surrogate
import Retrieval.Text.Transfer

/-!
Quoted text as it stands in messages: single quotes, unless the text has single quotes and no
double ones. The enclosing quote, the backslash and what is not printable are escaped.
-/

namespace Retrieval.Text

/-- A character by its code point, in as few digits as one of three widths allows. -/
def codeEscape (c : Char) : List Char :=
  if codeOf c < 0x100 then ['\\', 'x'] ++ hexDigits 2 (codeOf c)
  else if codeOf c < 0x10000 then ['\\', 'u'] ++ hexDigits 4 (codeOf c)
  else ['\\', 'U'] ++ hexDigits 8 (codeOf c)

/-- The characters with those beyond ASCII escaped. -/
def asciiOnly (cs : List Char) : List Char :=
  cs.flatMap fun c => if c.toNat < 0x80 then [c] else codeEscape c

/-- The written form of one character between the quotes `quote`. -/
def quoteChar (quote c : Char) : List Char :=
  if c = quote || c = '\\' then ['\\', c]
  else if c = '\n' then ['\\', 'n']
  else if c = '\r' then ['\\', 'r']
  else if c = '\t' then ['\\', 't']
  else if isPrintable c then [c]
  else codeEscape c

/-- The quote that needs the fewer escapes, single quotes being preferred. -/
def quoteFor (cs : List Char) : Char :=
  if cs.contains '\'' && !cs.contains '"' then '"' else '\''

def quotedChars (cs : List Char) : List Char :=
  let quote := quoteFor cs
  [quote] ++ cs.flatMap (quoteChar quote) ++ [quote]

/-- A text in quotes. -/
def quoted (s : String) : String := String.ofList (quotedChars s.toList)

/-- A list of texts, each in quotes, in brackets. -/
def quotedList (xs : List String) : String := "[" ++ ", ".intercalate (xs.map quoted) ++ "]"

end Retrieval.Text
