import TagBinding.Text.Blank

/-!
# Lines of a text

A text is cut into lines at every line break; a carriage return before a line feed is one break
with it. A break ends the line before it, so a break at the end of the text starts no further
line. `cleanLines` keeps what is left of each line after trimming, when anything is left.
-/
namespace TagBinding.Text

/-- Whether a character ends a line: line feed, vertical tab, form feed, carriage return, the
file, group and record separators, next line, and the line and paragraph separators. -/
def isLineBreak (c : Char) : Bool :=
  let code := c.toNat
  (0x0A ≤ code && code ≤ 0x0D) || (0x1C ≤ code && code ≤ 0x1E) || code == 0x85 ||
    code == 0x2028 || code == 0x2029

/-- Every line break is a blank. -/
theorem isBlank_of_isLineBreak {c : Char} (ends : isLineBreak c = true) : isBlank c = true := by
  simp only [isLineBreak, isBlank, Bool.or_eq_true, Bool.and_eq_true, decide_eq_true_eq,
    beq_iff_eq] at ends ⊢
  omega

/-- Put a character at the start of the first line. -/
def consLine (c : Char) : List (List Char) → List (List Char)
  | [] => [[c]]
  | line :: rest => (c :: line) :: rest

/-- The lines of a list of characters, without their breaks. -/
def splitLines : List Char → List (List Char)
  | [] => []
  | [c] => if isLineBreak c then [[]] else [[c]]
  | c :: next :: rest =>
    if c = '\r' ∧ next = '\n' then [] :: splitLines rest
    else if isLineBreak c then [] :: splitLines (next :: rest)
    else consLine c (splitLines (next :: rest))

/-- A character that ends no line belongs to the first one. -/
theorem splitLines_cons_of_unbroken {c : Char} (unbroken : isLineBreak c = false)
    (cs : List Char) : splitLines (c :: cs) = consLine c (splitLines cs) := by
  cases cs with
  | nil => simp [splitLines, consLine, unbroken]
  | cons next rest =>
    have single : ¬ (c = '\r' ∧ next = '\n') := by
      rintro ⟨rfl, -⟩
      cases unbroken
    rw [splitLines, if_neg single, if_neg (by simp [unbroken])]

/-- A line break at the start ends an empty line, unless it is the first half of one. -/
theorem splitLines_cons_of_break {c : Char} (ends : isLineBreak c = true) {cs : List Char}
    (single : ¬ (c = '\r' ∧ cs.head? = some '\n')) :
    splitLines (c :: cs) = [] :: splitLines cs := by
  cases cs with
  | nil => simp [splitLines, ends]
  | cons next rest =>
    rw [List.head?_cons, Option.some.injEq] at single
    rw [splitLines, if_neg single, if_pos ends]

/-- A carriage return with a line feed ends one line. -/
theorem splitLines_cons_pair (cs : List Char) :
    splitLines ('\r' :: '\n' :: cs) = [] :: splitLines cs := by
  rw [splitLines, if_pos ⟨rfl, rfl⟩]

/-- What is left of the lines after trimming each, without those of which nothing is left. -/
def cleanLines (text : String) : List String :=
  ((splitLines text.toList).map strip |>.filter (fun line => !line.isEmpty)).map String.ofList

end TagBinding.Text
