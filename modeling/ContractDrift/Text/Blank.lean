/-
Blank characters and trimming.

Two notions of blank are in use and they differ: the blanks of text
(`Char.isBlank`, every Unicode space and separator, with the information
separators U+001C to U+001F) and the blanks of octets (`UInt8.isBlank`, the six
ASCII ones).  `trim` removes the blanks of text from both ends.
-/

namespace ContractDrift.Text

/-- A character that counts as blank in text. -/
def isBlank (c : Char) : Bool :=
  let n := c.toNat
  (0x09 ≤ n && n ≤ 0x0D) || (0x1C ≤ n && n ≤ 0x20) || n == 0x85 || n == 0xA0 ||
  n == 0x1680 || (0x2000 ≤ n && n ≤ 0x200A) || n == 0x2028 || n == 0x2029 ||
  n == 0x202F || n == 0x205F || n == 0x3000

/-- An octet that counts as blank: space, tab, line feed, carriage return,
vertical tab or form feed. -/
def isBlankOctet (b : UInt8) : Bool :=
  b == 0x20 || (0x09 ≤ b && b ≤ 0x0D)

/-- The text without the blanks at its start. -/
def trimStartChars (cs : List Char) : List Char := cs.dropWhile isBlank

/-- The characters without the blanks at either end. -/
def trimChars (cs : List Char) : List Char :=
  ((cs.dropWhile isBlank).reverse.dropWhile isBlank).reverse

/-- The text without the blanks at either end. -/
def trim (s : String) : String := String.ofList (trimChars s.toList)

/-- A trimmed text does not start with a blank. -/
theorem head?_trimStartChars_not_blank (cs : List Char) (c : Char) (r : List Char)
    (h : trimStartChars cs = c :: r) : isBlank c = false := by
  have := List.head?_dropWhile_not isBlank cs
  unfold trimStartChars at h
  rw [h] at this
  simpa using this

end ContractDrift.Text
