/-!
Unpaired surrogates. A text from outside may hold one half of a pair of sixteen-bit units, which is
no character. It is kept as the code that lies a fixed distance above it, in a plane without any
characters, so that it can be told from all others and written as it came.
-/

namespace Retrieval.Text

/-- The distance between half a pair and the character that is kept for it. -/
def surrogateDistance : Nat := 0x40000

/-- Whether a unit is half a pair. -/
def isSurrogateUnit (unit : Nat) : Bool := 0xd800 ≤ unit && unit < 0xe000

/-- The character that is kept for half a pair. -/
def ofSurrogate (unit : Nat) : Char := Char.ofNat (surrogateDistance + unit)

/-- The half of a pair that a character is kept for. -/
def surrogate? (c : Char) : Option Nat :=
  if isSurrogateUnit (c.toNat - surrogateDistance) then some (c.toNat - surrogateDistance) else none

/-- The code of a character, which is that of half a pair where one is kept. -/
def codeOf (c : Char) : Nat := (surrogate? c).getD c.toNat

/-- The character of a code, half a pair included. -/
def charOfCode (code : Nat) : Char :=
  if isSurrogateUnit code then ofSurrogate code else Char.ofNat code

/-- Whether a text can be written in bytes: it has no half of a pair. -/
def isEncodable (s : String) : Bool := s.toList.all fun c => (surrogate? c).isNone

/-- No half of a pair is kept within ASCII. -/
theorem surrogate?_of_lt {c : Char} (h : c.toNat < 0x80) : surrogate? c = none := by
  have hzero : c.toNat - surrogateDistance = 0 := by
    simp only [surrogateDistance]
    omega
  rw [surrogate?, hzero]
  rfl

end Retrieval.Text
