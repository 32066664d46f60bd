/-!
Sets of characters given by ranges of code points, the form in which character properties are
published. White space is such a set: the characters that trimming removes.
-/

namespace Retrieval.Text

/-- A set of characters: the code points of some inclusive ranges. -/
structure CharRanges where
  ranges : List (Nat × Nat)

/-- Membership. -/
def CharRanges.contains (t : CharRanges) (c : Char) : Bool :=
  t.ranges.any fun (low, high) => low ≤ c.toNat && c.toNat ≤ high

theorem CharRanges.contains_iff (t : CharRanges) (c : Char) :
    t.contains c = true ↔ ∃ r ∈ t.ranges, r.1 ≤ c.toNat ∧ c.toNat ≤ r.2 := by
  simp [CharRanges.contains]

/-- White space of all scripts, and the four information separators. -/
def blankRanges : CharRanges := ⟨[
  (0x9, 0xD), (0x1C, 0x20), (0x85, 0x85), (0xA0, 0xA0), (0x1680, 0x1680), (0x2000, 0x200A),
  (0x2028, 0x2029), (0x202F, 0x202F), (0x205F, 0x205F), (0x3000, 0x3000)]⟩

def isBlank (c : Char) : Bool := blankRanges.contains c

/-- Drops the blanks at both ends. -/
def trim (cs : List Char) : List Char :=
  ((cs.dropWhile isBlank).reverse.dropWhile isBlank).reverse

/-- The text without the blanks at its ends. -/
def stripped (s : String) : String := String.ofList (trim s.toList)

/-- Whether a text holds nothing but blanks. -/
def isAllBlank (s : String) : Bool := s.toList.all isBlank

end Retrieval.Text
