import Retrieval.Text.Surrogate

/-!
Punycode: a text of any characters as letters, digits and hyphens. The plain characters come first;
the others follow in order of their codes, each as the distance from the one before, counted in
places of the growing text.
-/

namespace Retrieval.Text.Punycode

/-- The letter for a digit to the base thirty-six. -/
def digitLetter (n : Nat) : Char := if n < 26 then Char.ofNat (97 + n) else Char.ofNat (22 + n)

def digitValue? (c : Char) : Option Nat :=
  if c.isLower then some (c.toNat - 97)
  else if c.isUpper then some (c.toNat - 65)
  else if c.isDigit then some (c.toNat - 22)
  else none

/-- The least digit that is not the last of a number, at a place that counts in steps of 36. -/
def threshold (place bias : Nat) : Nat := min 26 (max 1 (place - bias))

theorem one_le_threshold (place bias : Nat) : 1 ≤ threshold place bias := by
  simp only [threshold]; omega

theorem threshold_le (place bias : Nat) : threshold place bias ≤ 26 := by
  simp only [threshold]; omega

/-- The bias of a distance that has been cut down to a small one. -/
def biasOf (delta places : Nat) : Nat :=
  if h : 455 < delta then biasOf (delta / 35) (places + 36)
  else places + 36 * delta / (delta + 38)
termination_by delta
decreasing_by exact Nat.div_lt_self (by omega) (by omega)

/-- The bias after a distance in a text of some length. -/
def adapted (delta length : Nat) (isFirst : Bool) : Nat :=
  let scaled := if isFirst then delta / 700 else delta / 2
  biasOf (scaled + scaled / length) 0

/-- A number by digits, the lowest first. -/
def digits (place bias n : Nat) : List Char :=
  let t := threshold place bias
  if n < t then [digitLetter n]
  else digitLetter (t + (n - t) % (36 - t)) :: digits (place + 36) bias ((n - t) / (36 - t))
termination_by n
decreasing_by
  have low := one_le_threshold place bias
  have high := threshold_le place bias
  exact Nat.lt_of_le_of_lt (Nat.div_le_self _ _) (by omega)

/-- The state of writing: the code reached, the distance since the last number written, the bias,
how many characters are written, and whether no number has been. -/
structure Writing where
  code : Nat := 0x80
  delta : Nat := 0
  bias : Nat := 72
  written : Nat
  isFirst : Bool := true

/-- Writes the characters of one code, in a pass over the whole text. -/
def writeCode (code : Nat) : Writing → List Char → Writing × List Char
  | w, [] => (w, [])
  | w, c :: cs =>
    if c.toNat < code then writeCode code { w with delta := w.delta + 1 } cs
    else if c.toNat = code then
      let next : Writing :=
        { code, delta := 0, bias := adapted w.delta (w.written + 1) w.isFirst,
          written := w.written + 1, isFirst := false }
      let (last, rest) := writeCode code next cs
      (last, digits 36 w.bias w.delta ++ rest)
    else writeCode code w cs

/-- Writes the characters of some codes, which are in order. -/
def writeCodes (cs : List Char) : Writing → List Nat → List Char
  | _, [] => []
  | w, code :: codes =>
    let (w, written) :=
      writeCode code { w with delta := w.delta + (code - w.code) * (w.written + 1) } cs
    written ++ writeCodes cs { w with code := code + 1, delta := w.delta + 1 } codes

/-- Whether a character is written as itself. -/
def isPlain (c : Char) : Bool := c.toNat < 0x80

/-- The written form of a text. -/
def encode (cs : List Char) : List Char :=
  let plain := cs.filter isPlain
  let codes := (((cs.filter (!isPlain ·)).map Char.toNat).mergeSort (· ≤ ·)).eraseDups
  (if plain.isEmpty then [] else plain ++ ['-']) ++ writeCodes cs { written := plain.length } codes

/-- The state of reading: the text so far, the code reached, the place after the last character
put in, the bias, whether no number has been read, and what is known of the next number. -/
structure Reading where
  text : List Char
  code : Nat := 0x80
  position : Nat := 0
  bias : Nat := 72
  isFirst : Bool := true
  place : Nat := 36
  weight : Nat := 1
  value : Nat := 0

/-- Puts in the character that a number stands for. -/
def Reading.insert? (r : Reading) (value : Nat) : Option Reading :=
  let size := r.text.length + 1
  let code := r.code + (r.position + value) / size
  let position := (r.position + value) % size
  if 0x10ffff < code then none
  else
    some { text := r.text.take position ++ charOfCode code :: r.text.drop position, code,
           position := position + 1, bias := adapted value size r.isFirst, isFirst := false }

/-- Reads numbers to the end of the text. -/
def readNumbers? : Reading → List Char → Option (List Char)
  | r, [] => if r.place = 36 then some r.text else none
  | r, c :: cs => do
    let digit ← digitValue? c
    let t := threshold r.place r.bias
    let value := r.value + digit * r.weight
    if digit < t then readNumbers? (← r.insert? value) cs
    else readNumbers? { r with place := r.place + 36, weight := r.weight * (36 - t), value } cs

/-- The text that a form within ASCII is written for. The plain characters end at the last
hyphen. -/
def decode? (cs : List Char) : Option (List Char) :=
  let numbers := (cs.reverse.takeWhile (· != '-')).reverse
  readNumbers? { text := (cs.take (cs.length - numbers.length)).dropLast } numbers

end Retrieval.Text.Punycode
