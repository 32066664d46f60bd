import Retrieval.Text.Utf8

/-!
Bytes in letters that pass everywhere: digits to the base sixteen, percent escapes, and base 64 with
three bytes as four letters, the last letters being `=` where bytes are missing. Main statement: the
number of letters to the base 64 follows from the number of bytes.
-/

namespace Retrieval.Text

/-- One digit of a number to the base sixteen. -/
def hexDigit (n : Nat) : Char := if n < 10 then Char.ofNat (48 + n) else Char.ofNat (87 + n)

/-- The last `width` digits of a number to the base sixteen. -/
def hexDigits : Nat → Nat → List Char
  | 0, _ => []
  | width + 1, n => hexDigits width (n / 16) ++ [hexDigit (n % 16)]

@[simp] theorem length_hexDigits (width n : Nat) : (hexDigits width n).length = width := by
  induction width generalizing n with
  | zero => rfl
  | succ w ih => simp [hexDigits, ih]

/-- The value of a digit to the base sixteen. -/
def hexValue? (c : Char) : Option Nat :=
  if '0' ≤ c && c ≤ '9' then some (c.toNat - 48)
  else if 'a' ≤ c && c ≤ 'f' then some (c.toNat - 87)
  else if 'A' ≤ c && c ≤ 'F' then some (c.toNat - 55)
  else none

theorem hexValue?_hexDigit {n : Nat} (h : n < 16) : hexValue? (hexDigit n) = some n := by
  have all : ∀ m ∈ List.range 16, hexValue? (hexDigit m) = some m := by decide
  exact all n (List.mem_range.2 h)

/-- The escapes of a character, one for each byte. -/
def percentEscape (c : Char) : List Char :=
  (utf8Bytes (String.ofList [c])).flatMap fun b =>
    '%' :: (hexDigits 2 b).map Char.toUpper

/-- Escapes all characters but those of some kind. -/
def escapeUnless (isPlain : Char → Bool) (cs : List Char) : List Char :=
  cs.flatMap fun c => if isPlain c then [c] else percentEscape c

/-- Whether a character stands for itself everywhere: letters, digits and four marks. -/
def isUnreserved (c : Char) : Bool := c.isAlphanum || ['-', '.', '_', '~'].contains c

/-- The bytes of a text with its escapes carried out; other percent signs stand for themselves. -/
def unescapedBytes : List Char → List Nat
  | '%' :: a :: b :: rest =>
    match hexValue? a, hexValue? b with
    | some high, some low => (16 * high + low) :: unescapedBytes rest
    | _, _ => utf8Bytes "%" ++ unescapedBytes (a :: b :: rest)
  | c :: rest => utf8Bytes (String.ofList [c]) ++ unescapedBytes rest
  | [] => []

/-- A text with its escapes carried out. -/
def unescaped (cs : List Char) : List Char := utf8Text (unescapedBytes cs)

/-- The letter for a number below 64. -/
def sixLetter (n : Nat) : Char :=
  if n < 26 then Char.ofNat (65 + n)
  else if n < 52 then Char.ofNat (97 + (n - 26))
  else if n < 62 then Char.ofNat (48 + (n - 52))
  else if n = 62 then '+' else '/'

/-- The letters of some bytes. -/
def base64 : List Nat → List Char
  | [] => []
  | [a] => [sixLetter (a / 4), sixLetter (a % 4 * 16), '=', '=']
  | [a, b] => [sixLetter (a / 4), sixLetter (a % 4 * 16 + b / 16), sixLetter (b % 16 * 4), '=']
  | a :: b :: c :: rest =>
    sixLetter (a / 4) :: sixLetter (a % 4 * 16 + b / 16) :: sixLetter (b % 16 * 4 + c / 64)
      :: sixLetter (c % 64) :: base64 rest

@[simp] theorem length_base64 (bytes : List Nat) :
    (base64 bytes).length = 4 * ((bytes.length + 2) / 3) := by
  fun_induction base64 bytes with
  | case1 => rfl
  | case2 => simp
  | case3 => simp
  | case4 a b c rest ih => simp only [List.length_cons, ih]; omega

end Retrieval.Text
