/-!
Text as bytes in UTF-8, and back. Bytes that are no text are read too: the longest part that could
begin a character, or else one byte, becomes the replacement character.
-/

namespace Retrieval.Text

/-- The bytes of a text in UTF-8. -/
def utf8Bytes (s : String) : List Nat := s.toUTF8.toList.map UInt8.toNat

/-- The character that stands for what is no text. -/
def replacement : Char := Char.ofNat 0xfffd

/-- A character of which some bytes are still to come: how many, the range of the next one, its
upper end excluded, and what is known of the character. -/
structure Unfinished where
  owed : Nat
  low : Nat := 0x80
  high : Nat := 0xc0
  value : Nat
  deriving DecidableEq, Repr

/-- What a first byte begins. The ranges leave out characters that shorter forms have, halves of
pairs, and numbers too large for a character. -/
def Unfinished.ofLead? (b : Nat) : Option Unfinished :=
  if 0xc2 ≤ b && b < 0xe0 then some { owed := 1, value := b - 0xc0 }
  else if b = 0xe0 then some { owed := 2, low := 0xa0, value := 0 }
  else if b = 0xed then some { owed := 2, high := 0xa0, value := 0xd }
  else if 0xe1 ≤ b && b < 0xf0 then some { owed := 2, value := b - 0xe0 }
  else if b = 0xf0 then some { owed := 3, low := 0x90, value := 0 }
  else if 0xf1 ≤ b && b < 0xf4 then some { owed := 3, value := b - 0xf0 }
  else if b = 0xf4 then some { owed := 3, high := 0x90, value := 4 }
  else none

/-- The character that a byte is by itself, or what it begins. -/
def beginChar (b : Nat) : List Char × Option Unfinished :=
  if b < 0x80 then ([Char.ofNat b], none)
  else
    match Unfinished.ofLead? b with
    | some u => ([], some u)
    | none => ([replacement], none)

/-- One more byte after a character that may be unfinished. -/
def nextByte : Option Unfinished → Nat → List Char × Option Unfinished
  | none, b => beginChar b
  | some u, b =>
    if u.low ≤ b && b < u.high then
      let value := u.value * 64 + (b - 0x80)
      if u.owed = 1 then ([Char.ofNat value], none) else ([], some { owed := u.owed - 1, value })
    else
      let (cs, u) := beginChar b
      (replacement :: cs, u)

/-- The text of bytes that follow what may be unfinished. -/
def textFrom : Option Unfinished → List Nat → List Char
  | none, [] => []
  | some _, [] => [replacement]
  | u, b :: bs =>
    let (cs, u) := nextByte u b
    cs ++ textFrom u bs

/-- The text of bytes. -/
def utf8Text (bytes : List Nat) : List Char := textFrom none bytes

@[simp] theorem textFrom_cons (u : Option Unfinished) (b : Nat) (bs : List Nat) :
    textFrom u (b :: bs) = (nextByte u b).1 ++ textFrom (nextByte u b).2 bs := by
  cases u <;> rfl

/-- Bytes within ASCII are the characters with their codes. -/
theorem utf8Text_ascii {bytes : List Nat} (h : ∀ b ∈ bytes, b < 0x80) :
    utf8Text bytes = bytes.map Char.ofNat := by
  induction bytes with
  | nil => rfl
  | cons b bs ih =>
    have hb : b < 0x80 := h b (by simp)
    have rest := ih fun x hx => h x (by simp [hx])
    simp only [utf8Text] at rest ⊢
    simp [nextByte, beginChar, hb, rest]

end Retrieval.Text
