/-!
# Blank characters and trimming

The blanks are the characters that separate words: the white space of the Unicode standard and
the four information separators U+001C to U+001F. The zero-width space and the byte order mark
are not blanks. Trimming drops blanks at the ends of a text and nothing inside it.
-/
namespace TagBinding.Text

/-- Whether a character is a blank. -/
def isBlank (c : Char) : Bool :=
  let code := c.toNat
  (0x09 ≤ code && code ≤ 0x0D) || (0x1C ≤ code && code ≤ 0x20) || code == 0x85 ||
    code == 0xA0 || code == 0x1680 || (0x2000 ≤ code && code ≤ 0x200A) || code == 0x2028 ||
    code == 0x2029 || code == 0x202F || code == 0x205F || code == 0x3000

/-- Drop the blanks at the start. -/
def dropBlanks (cs : List Char) : List Char := cs.dropWhile isBlank

/-- Drop the blanks at the end. -/
def dropTrailingBlanks (cs : List Char) : List Char := (dropBlanks cs.reverse).reverse

/-- Drop the blanks at both ends. -/
def strip (cs : List Char) : List Char := dropTrailingBlanks (dropBlanks cs)

/-- A text without the blanks at its ends. -/
def trim (text : String) : String := String.ofList (strip text.toList)

/-- A text without the blanks at its end. -/
def trimEnd (text : String) : String := String.ofList (dropTrailingBlanks text.toList)

/-- A blank at the end is dropped. -/
theorem dropTrailingBlanks_append_of_blank (cs : List Char) {c : Char}
    (blank : isBlank c = true) : dropTrailingBlanks (cs ++ [c]) = dropTrailingBlanks cs := by
  simp [dropTrailingBlanks, dropBlanks, blank]

/-- A blank at the start makes no difference to what trimming leaves. -/
theorem strip_cons_of_blank {c : Char} (blank : isBlank c = true) (cs : List Char) :
    strip (c :: cs) = strip cs := by
  rw [strip, dropBlanks, List.dropWhile_cons_of_pos blank]
  rfl

/-- A blank at the end makes no difference to what trimming leaves. -/
theorem strip_append_of_blank (cs : List Char) {c : Char} (blank : isBlank c = true) :
    strip (cs ++ [c]) = strip cs := by
  rw [strip, dropBlanks, List.dropWhile_append]
  split
  · next none =>
    have nothing : cs.dropWhile isBlank = [] := List.isEmpty_iff.mp none
    rw [List.dropWhile_cons_of_pos blank, strip, dropBlanks, nothing]
    rfl
  · exact dropTrailingBlanks_append_of_blank _ blank

end TagBinding.Text
