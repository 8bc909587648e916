import Mathlib.Data.List.DropRight
import TagBinding.Pipeline
import TagBinding.Stock.Standard

/-!
# Trimming and the lines of a text

Both scanners are said in a relation first. What trimming leaves of a text has no blank at its ends
and lost nothing but blanks (`trimsTo_iff`); the lines of a text are what stands between its breaks
(`linesOf_iff`). Blanks at the ends of a text change neither what trimming leaves of it nor what it
leaves of its lines, and every break is a blank. So a text may be trimmed before it is divided, its
lines keep all its other characters in order, and lines that are clean already are found again when
they are joined by line feeds (`Builtin.clean_lines_of_text`).
-/
namespace TagBinding

variable {F : Type}

namespace Text

/-! ## Trimming -/

/-- The codes of the blanks. -/
def blankCodes : List Nat :=
  [0x09, 0x0A, 0x0B, 0x0C, 0x0D, 0x1C, 0x1D, 0x1E, 0x1F, 0x20, 0x85, 0xA0, 0x1680, 0x2000, 0x2001,
    0x2002, 0x2003, 0x2004, 0x2005, 0x2006, 0x2007, 0x2008, 0x2009, 0x200A, 0x2028, 0x2029, 0x202F,
    0x205F, 0x3000]

/-- The characters of a text that are no blanks, in order. -/
def solids (cs : List Char) : List Char := cs.filter fun c => !isBlank c

/-- That a text neither starts nor ends with a blank. -/
structure Bare (cs : List Char) : Prop where
  /-- It does not start with one. -/
  starts : ∀ c ∈ cs.head?, isBlank c = false
  /-- It does not end with one. -/
  ends : ∀ c ∈ cs.getLast?, isBlank c = false

instance (cs : List Char) : Decidable (Bare cs) :=
  decidable_of_iff (cs.head?.all (!isBlank ·) = true ∧ cs.getLast?.all (!isBlank ·) = true) <| by
    simp only [Option.all_eq_true, Bool.not_eq_true']
    exact ⟨fun both => ⟨both.1, both.2⟩, fun bare => ⟨bare.starts, bare.ends⟩⟩

/-- That one text is left of another when the blanks at its ends are dropped. -/
structure TrimsTo (cs left : List Char) : Prop where
  /-- There were only blanks around it. -/
  around : ∃ before after, cs = before ++ left ++ after ∧
    ∀ c ∈ before ++ after, isBlank c = true
  /-- No blank is left at its ends. -/
  bare : Bare left

/-- The blanks are the twenty-nine characters of the table. -/
theorem isBlank_iff (c : Char) : isBlank c = true ↔ c.toNat ∈ blankCodes := by
  simp only [isBlank, blankCodes, Bool.or_eq_true, Bool.and_eq_true, decide_eq_true_eq,
    beq_iff_eq, List.mem_cons, List.not_mem_nil, or_false]
  omega

/-- After dropping, there is no blank at the start. -/
theorem not_blank_of_head?_dropBlanks {cs : List Char} {c : Char}
    (first : c ∈ (dropBlanks cs).head?) : isBlank c = false := by
  have solid := List.head?_dropWhile_not isBlank cs
  rw [dropBlanks] at first
  rw [first] at solid
  exact solid

/-- Without a blank at the start nothing is dropped. -/
theorem dropBlanks_eq_self {cs : List Char} (starts : ∀ c ∈ cs.head?, isBlank c = false) :
    dropBlanks cs = cs := by
  cases cs with
  | nil => rfl
  | cons c rest => exact List.dropWhile_cons_of_neg (by simp [starts c rfl])

/-- A text without blanks at its ends is trimmed already. -/
theorem Bare.strip_eq {cs : List Char} (bare : Bare cs) : strip cs = cs := by
  have last : ∀ c ∈ cs.reverse.head?, isBlank c = false := by
    rw [List.head?_reverse]
    exact bare.ends
  rw [strip, dropBlanks_eq_self bare.starts, dropTrailingBlanks, dropBlanks_eq_self last,
    List.reverse_reverse]

/-- Trimming leaves no blanks at the ends. -/
theorem bare_strip (cs : List Char) : Bare (strip cs) where
  starts c first := by
    obtain ⟨after, whole⟩ := List.rdropWhile_prefix isBlank (dropBlanks cs)
    have kept : (dropBlanks cs).head? = some c := by
      rw [← whole, List.head?_append]
      exact congrArg (Option.or · after.head?) first
    exact not_blank_of_head?_dropBlanks kept
  ends c last := by
    rw [strip, dropTrailingBlanks, List.getLast?_reverse] at last
    exact not_blank_of_head?_dropBlanks last

/-- Trimming does what it is for. -/
theorem trimsTo_strip (cs : List Char) : TrimsTo cs (strip cs) where
  around := by
    refine ⟨cs.takeWhile isBlank, (dropBlanks cs).rtakeWhile isBlank, ?_, ?_⟩
    · have behind : strip cs ++ (dropBlanks cs).rtakeWhile isBlank = dropBlanks cs :=
        List.rdropWhile_append_rtakeWhile
      rw [List.append_assoc, behind, dropBlanks, List.takeWhile_append_dropWhile]
    · intro c inside
      rcases List.mem_append.mp inside with before | after
      · exact List.mem_takeWhile_imp before
      · exact List.mem_rtakeWhile_imp after
  bare := bare_strip cs

/-- The characters of a trimmed text. -/
@[simp] theorem toList_trim (text : String) : (trim text).toList = strip text.toList :=
  String.toList_ofList

section View

variable {α : Type} (view : List Char → α)

/-- What no blank at the start changes is not changed by several. -/
theorem view_blanks_append
    (leading : ∀ {c : Char}, isBlank c = true → ∀ cs, view (c :: cs) = view cs)
    {before : List Char} (blank : ∀ c ∈ before, isBlank c = true) (cs : List Char) :
    view (before ++ cs) = view cs := by
  induction before with
  | nil => rfl
  | cons c rest ih =>
    obtain ⟨first, others⟩ := List.forall_mem_cons.mp blank
    rw [List.cons_append, leading first, ih others]

/-- What no blank at the end changes is not changed by several. -/
theorem view_append_blanks
    (trailing : ∀ (cs : List Char) {c : Char}, isBlank c = true → view (cs ++ [c]) = view cs)
    {after : List Char} (blank : ∀ c ∈ after, isBlank c = true) (cs : List Char) :
    view (cs ++ after) = view cs := by
  induction after using List.reverseRecOn with
  | nil => rw [List.append_nil]
  | append_singleton rest c ih =>
    obtain ⟨others, last⟩ := List.forall_mem_append.mp blank
    rw [← List.append_assoc, trailing _ (last c (List.mem_singleton_self c)), ih others]

/-- What no blank at the ends of a text changes is the same of the text and of what trimming leaves
of it. -/
theorem TrimsTo.view_eq
    (leading : ∀ {c : Char}, isBlank c = true → ∀ cs, view (c :: cs) = view cs)
    (trailing : ∀ (cs : List Char) {c : Char}, isBlank c = true → view (cs ++ [c]) = view cs)
    {cs left : List Char} (trimmed : TrimsTo cs left) : view cs = view left := by
  obtain ⟨before, after, rfl, blank⟩ := trimmed.around
  obtain ⟨ahead, behind⟩ := List.forall_mem_append.mp blank
  rw [view_append_blanks view trailing behind, view_blanks_append view leading ahead]

end View

/-- Trimming is given by what it leaves: a text without blanks at its ends, around which there were
only blanks. -/
theorem trimsTo_iff {cs left : List Char} : TrimsTo cs left ↔ strip cs = left := by
  constructor
  · intro trimmed
    rw [trimmed.view_eq strip strip_cons_of_blank strip_append_of_blank, trimmed.bare.strip_eq]
  · rintro rfl
    exact trimsTo_strip cs

/-- Trimming keeps the characters that are no blanks. -/
theorem solids_strip (cs : List Char) : solids (strip cs) = solids cs := by
  refine ((trimsTo_strip cs).view_eq solids (fun blank rest => ?_) fun rest c blank => ?_).symm
  · rw [solids, List.filter_cons_of_neg (by simp [blank]), solids]
  · rw [solids, List.filter_append, List.filter_cons_of_neg (by simp [blank]), List.filter_nil,
      List.append_nil, solids]

/-! ## Lines -/

/-- The codes of the characters that end a line. -/
def lineBreakCodes : List Nat :=
  [0x0A, 0x0B, 0x0C, 0x0D, 0x1C, 0x1D, 0x1E, 0x85, 0x2028, 0x2029]

/-- That no character of a text ends a line. -/
def Unbroken (cs : List Char) : Prop := ∀ c ∈ cs, isLineBreak c = false

instance (cs : List Char) : Decidable (Unbroken cs) :=
  List.decidableBAll (fun c => isLineBreak c = false) cs

/-- The lines of a text. A break ends a line, and a carriage return with the line feed behind it is
one break; the last line may do without. -/
inductive LinesOf : List Char → List (List Char) → Prop where
  /-- The empty text has no lines. -/
  | none : LinesOf [] []
  /-- A text without breaks is one line. -/
  | last {line : List Char} (unbroken : Unbroken line) (some : line ≠ []) : LinesOf line [line]
  /-- A line up to a break of two characters. -/
  | pair {line rest : List Char} {lines : List (List Char)} (unbroken : Unbroken line)
      (others : LinesOf rest lines) : LinesOf (line ++ '\r' :: '\n' :: rest) (line :: lines)
  /-- A line up to a break of one character. -/
  | ended {line rest : List Char} {c : Char} {lines : List (List Char)} (unbroken : Unbroken line)
      (ends : isLineBreak c = true) (single : ¬ (c = '\r' ∧ rest.head? = some '\n'))
      (others : LinesOf rest lines) : LinesOf (line ++ c :: rest) (line :: lines)

/-- The line breaks are the ten characters of the table. -/
theorem isLineBreak_iff (c : Char) : isLineBreak c = true ↔ c.toNat ∈ lineBreakCodes := by
  simp only [isLineBreak, lineBreakCodes, Bool.or_eq_true, Bool.and_eq_true, decide_eq_true_eq,
    beq_iff_eq, List.mem_cons, List.not_mem_nil, or_false]
  omega

/-- A character that ends no line may be put at the start. -/
theorem LinesOf.cons {c : Char} (inside : isLineBreak c = false) {cs : List Char}
    {lines : List (List Char)} (divided : LinesOf cs lines) :
    LinesOf (c :: cs) (consLine c lines) := by
  have longer {line : List Char} (unbroken : Unbroken line) : Unbroken (c :: line) :=
    List.forall_mem_cons.mpr ⟨inside, unbroken⟩
  cases divided with
  | none => exact .last (longer (List.forall_mem_nil _)) (List.cons_ne_nil _ _)
  | last unbroken some => exact .last (longer unbroken) (List.cons_ne_nil _ _)
  | pair unbroken others => exact .pair (longer unbroken) others
  | ended unbroken ends single others => exact .ended (longer unbroken) ends single others

/-- The scanner finds the lines. -/
theorem linesOf_splitLines (cs : List Char) : LinesOf cs (splitLines cs) := by
  have empty : Unbroken [] := List.forall_mem_nil _
  fun_induction splitLines cs with
  | case1 => exact .none
  | case2 c ends => exact .ended empty ends (by simp) .none
  | case3 c inside => exact .cons (by simpa using inside) .none
  | case4 c next rest both ih =>
    obtain ⟨rfl, rfl⟩ := both
    exact .pair empty ih
  | case5 c next rest single ends ih =>
    exact .ended empty ends (by simpa using single) ih
  | case6 c next rest single inside ih => exact .cons (by simpa using inside) ih

/-- Characters that end no line go to the start of the line behind them. -/
theorem splitLines_append_of_unbroken {line rest : List Char} {lines : List (List Char)}
    (unbroken : Unbroken line) (divided : splitLines rest = [] :: lines) :
    splitLines (line ++ rest) = line :: lines := by
  induction line with
  | nil => exact divided
  | cons c others ih =>
    obtain ⟨first, later⟩ := List.forall_mem_cons.mp unbroken
    rw [List.cons_append, splitLines_cons_of_unbroken first, ih later]
    rfl

/-- A text without breaks is one line. -/
theorem splitLines_of_unbroken {line : List Char} (unbroken : Unbroken line) (some : line ≠ []) :
    splitLines line = [line] := by
  induction line with
  | nil => exact absurd rfl some
  | cons c others ih =>
    obtain ⟨first, later⟩ := List.forall_mem_cons.mp unbroken
    rw [splitLines_cons_of_unbroken first]
    cases others with
    | nil => rfl
    | cons next rest =>
      rw [ih later (List.cons_ne_nil _ _)]
      rfl

/-- The lines of a text are what the scanner finds, and nothing else. -/
theorem linesOf_iff {cs : List Char} {lines : List (List Char)} :
    LinesOf cs lines ↔ splitLines cs = lines := by
  constructor
  · intro divided
    induction divided with
    | none => rfl
    | last unbroken some => exact splitLines_of_unbroken unbroken some
    | pair unbroken _ ih =>
      refine splitLines_append_of_unbroken unbroken ?_
      rw [splitLines_cons_pair, ih]
    | ended unbroken ends single _ ih =>
      refine splitLines_append_of_unbroken unbroken ?_
      rw [splitLines_cons_of_break ends single, ih]
  · rintro rfl
    exact linesOf_splitLines cs

/-- No line holds a break. -/
theorem LinesOf.unbroken {cs : List Char} {lines : List (List Char)} (divided : LinesOf cs lines) :
    ∀ line ∈ lines, Unbroken line := by
  induction divided with
  | none => exact List.forall_mem_nil _
  | last unbroken => exact List.forall_mem_singleton.mpr unbroken
  | pair unbroken _ ih => exact List.forall_mem_cons.mpr ⟨unbroken, ih⟩
  | ended unbroken _ _ _ ih => exact List.forall_mem_cons.mpr ⟨unbroken, ih⟩

/-- The lines hold all characters that are no blanks, since every break is a blank. -/
theorem LinesOf.flatMap_solids {cs : List Char} {lines : List (List Char)}
    (divided : LinesOf cs lines) : lines.flatMap solids = solids cs := by
  induction divided with
  | none => rfl
  | last => exact List.flatMap_singleton solids _
  | pair _ _ ih =>
    rw [List.flatMap_cons, ih]
    simp [solids, show isBlank '\r' = true from rfl, show isBlank '\n' = true from rfl]
  | ended _ ends _ _ ih =>
    rw [List.flatMap_cons, ih]
    simp [solids, isBlank_of_isLineBreak ends]

/-- Lines joined by line feeds are the lines of the text that they make. -/
theorem linesOf_intercalate {lines : List (List Char)}
    (proper : ∀ line ∈ lines, line ≠ [] ∧ Unbroken line) :
    LinesOf (['\n'].intercalate lines) lines := by
  induction lines with
  | nil => exact .none
  | cons line rest ih =>
    obtain ⟨⟨some, unbroken⟩, later⟩ := List.forall_mem_cons.mp proper
    cases rest with
    | nil =>
      rw [List.intercalate_singleton]
      exact .last unbroken some
    | cons next others =>
      rw [List.intercalate_cons_cons, List.append_assoc, List.singleton_append]
      exact .ended unbroken rfl (by simp) (ih later)

/-! ## What trimming leaves of the lines -/

/-- What trimming leaves of lines, without those of which it leaves nothing. -/
def remains (lines : List (List Char)) : List (List Char) :=
  (lines.map strip).filter fun line => !line.isEmpty

/-- That a line is as it remains: it is not empty, without blanks at its ends and without breaks. -/
structure Clean (line : String) : Prop where
  /-- There is something in it. -/
  some : line ≠ ""
  /-- There are no blanks at its ends. -/
  bare : Bare line.toList
  /-- There is no break in it. -/
  unbroken : Unbroken line.toList

instance (line : String) : Decidable (Clean line) :=
  decidable_of_iff (line ≠ "" ∧ Bare line.toList ∧ Unbroken line.toList)
    ⟨fun all => ⟨all.1, all.2.1, all.2.2⟩, fun clean => ⟨clean.some, clean.bare, clean.unbroken⟩⟩

/-- Trimming puts no break into a line. -/
theorem Unbroken.strip {cs : List Char} (unbroken : Unbroken cs) : Unbroken (strip cs) := by
  obtain ⟨before, after, around, -⟩ := (trimsTo_strip cs).around
  intro c inside
  refine unbroken c ?_
  rw [around]
  exact List.mem_append_left _ (List.mem_append_right _ inside)

/-- What is left of lines is left of each by itself. -/
theorem remains_cons (line : List Char) (lines : List (List Char)) :
    remains (line :: lines) = remains [line] ++ remains lines := by
  rw [← List.singleton_append, remains, List.map_append, List.filter_append]
  rfl

/-- Lines of which trimming leaves the same are as good as each other. -/
theorem remains_cons_congr {first second : List Char} (same : strip first = strip second)
    (lines : List (List Char)) : remains (first :: lines) = remains (second :: lines) := by
  rw [remains, List.map_cons, same, ← List.map_cons, remains]

/-- What remains of lines keeps the characters that are no blanks. -/
theorem flatMap_solids_remains (lines : List (List Char)) :
    (remains lines).flatMap solids = lines.flatMap solids := by
  induction lines with
  | nil => rfl
  | cons line rest ih =>
    rw [remains_cons, List.flatMap_append, ih, List.flatMap_cons, ← solids_strip line]
    refine congrArg (· ++ _) ?_
    cases left : strip line with
    | nil => simp [remains, left, solids]
    | cons c others => simp [remains, left]

/-- A blank at the start of a text changes nothing that remains of its lines. -/
theorem remains_splitLines_cons {c : Char} (blank : isBlank c = true) (cs : List Char) :
    remains (splitLines (c :: cs)) = remains (splitLines cs) := by
  cases ends : isLineBreak c with
  | false =>
    rw [splitLines_cons_of_unbroken ends]
    cases splitLines cs with
    | nil => exact remains_cons_congr (strip_cons_of_blank blank []) []
    | cons line rest => exact remains_cons_congr (strip_cons_of_blank blank line) rest
  | true =>
    by_cases both : c = '\r' ∧ cs.head? = some '\n'
    · -- the line feed alone would have ended an empty line too
      obtain ⟨rfl, next⟩ := both
      obtain ⟨rest, rfl⟩ := List.head?_eq_some_iff.mp next
      rw [splitLines_cons_pair, splitLines_cons_of_break rfl (by simp)]
    · rw [splitLines_cons_of_break ends both]
      rfl

/-- A blank at the end of a text changes nothing that remains of its lines. -/
theorem LinesOf.remains_append {c : Char} (blank : isBlank c = true) {cs : List Char}
    {lines : List (List Char)} (divided : LinesOf cs lines) :
    remains (splitLines (cs ++ [c])) = remains lines := by
  -- a line that ends before the blank is found as before, so that the induction goes on behind it
  have behind {line rest : List Char} {found lines : List (List Char)} (unbroken : Unbroken line)
      (ahead : splitLines rest = [] :: found) (same : remains found = remains lines) :
      remains (splitLines (line ++ rest)) = remains (line :: lines) := by
    rw [splitLines_append_of_unbroken unbroken ahead, remains_cons, same, ← remains_cons]
  induction divided with
  | none => exact remains_splitLines_cons blank []
  | last unbroken some =>
    cases ends : isLineBreak c with
    | false =>
      have longer := List.forall_mem_append.mpr ⟨unbroken, List.forall_mem_singleton.mpr ends⟩
      rw [splitLines_of_unbroken longer (by simp)]
      exact remains_cons_congr (strip_append_of_blank _ blank) []
    | true => exact behind unbroken (splitLines_cons_of_break ends (by simp)) rfl
  | pair unbroken others ih =>
    rw [List.append_assoc]
    exact behind unbroken (splitLines_cons_pair _) ih
  | @ended line rest b lines unbroken ends single others ih =>
    rw [List.append_assoc]
    by_cases both : b = '\r' ∧ (rest ++ [c]).head? = some '\n'
    · -- the blank is a line feed that joins the carriage return at the end of the text
      obtain ⟨rfl, next⟩ := both
      cases rest with
      | nil =>
        obtain rfl : c = '\n' := Option.some.inj next
        exact behind unbroken (splitLines_cons_pair _) (congrArg remains (linesOf_iff.mp others))
      | cons first later => exact absurd ⟨rfl, next⟩ single
    · exact behind unbroken (splitLines_cons_of_break ends both) ih

/-- Trimming a text changes nothing that remains of its lines. -/
theorem remains_splitLines_strip (cs : List Char) :
    remains (splitLines (strip cs)) = remains (splitLines cs) :=
  ((trimsTo_strip cs).view_eq (fun rest => remains (splitLines rest)) remains_splitLines_cons
    fun rest _ blank => (linesOf_splitLines rest).remains_append blank).symm

/-- The clean lines of a text are what remains of its lines. -/
theorem map_toList_cleanLines (text : String) :
    (cleanLines text).map String.toList = remains (splitLines text.toList) := by
  rw [cleanLines, List.map_map]
  exact List.map_id'' (fun _ => String.toList_ofList) _

/-- Texts are the clean lines of another when their characters remain of its lines. -/
theorem cleanLines_eq_iff {text : String} {lines : List String} :
    cleanLines text = lines ↔ remains (splitLines text.toList) = lines.map String.toList := by
  rw [← map_toList_cleanLines]
  exact (List.map_injective_iff.mpr fun _ _ => String.toList_inj.mp).eq_iff.symm

/-- A text may be trimmed before its clean lines are taken. -/
theorem cleanLines_trim (text : String) : cleanLines (trim text) = cleanLines text := by
  rw [cleanLines_eq_iff, toList_trim, remains_splitLines_strip, map_toList_cleanLines]

/-- Every clean line is clean. -/
theorem clean_of_mem_cleanLines {text line : String} (inside : line ∈ cleanLines text) :
    Clean line := by
  have left : line.toList ∈ remains (splitLines text.toList) :=
    map_toList_cleanLines text ▸ List.mem_map_of_mem inside
  obtain ⟨trimmed, some⟩ := List.mem_filter.mp left
  obtain ⟨whole, found, same⟩ := List.mem_map.mp trimmed
  have unbroken := (linesOf_splitLines text.toList).unbroken whole found
  refine ⟨?_, same ▸ bare_strip whole, same ▸ unbroken.strip⟩
  rintro rfl
  cases some

/-- The clean lines of a text hold its characters that are no blanks. -/
theorem flatMap_solids_cleanLines (text : String) :
    (cleanLines text).flatMap (fun line => solids line.toList) = solids text.toList := by
  rw [← List.flatMap_map String.toList solids, map_toList_cleanLines, flatMap_solids_remains,
    (linesOf_splitLines text.toList).flatMap_solids]

/-- Clean lines are the clean lines of the text to which line feeds join them. -/
theorem cleanLines_intercalate {lines : List String} (clean : ∀ line ∈ lines, Clean line) :
    cleanLines ("\n".intercalate lines) = lines := by
  have proper : ∀ line ∈ lines.map String.toList, line ≠ [] ∧ Unbroken line := by
    refine List.forall_mem_map.mpr fun line inside => ⟨?_, (clean line inside).unbroken⟩
    exact mt String.toList_eq_nil_iff.mp (clean line inside).some
  have trimmed : (lines.map String.toList).map strip = lines.map String.toList := by
    rw [List.map_map]
    exact List.map_congr_left fun line inside => (clean line inside).bare.strip_eq
  have newline : "\n".toList = ['\n'] := rfl
  rw [cleanLines_eq_iff, String.toList_intercalate, newline,
    linesOf_iff.mp (linesOf_intercalate proper), remains, trimmed]
  refine List.filter_eq_self.mpr fun line inside => ?_
  simpa using (proper line inside).1

end Text

/-! ## Values -/

namespace Value

/-- A value that is no text is not trimmed. -/
theorem trimmed_of_ne_text {value : Value F} (other : ∀ content, value ≠ .text content) :
    value.trimmed = value := by
  unfold trimmed
  split
  · exact absurd rfl (other _)
  · rfl

/-- A value that is no text is not divided. -/
theorem lines_of_ne_text {value : Value F} (other : ∀ content, value ≠ .text content) :
    value.lines = value := by
  unfold lines
  split
  · exact absurd rfl (other _)
  · rfl

/-- Trimming twice is as good as trimming once. -/
theorem trimmed_trimmed (value : Value F) : value.trimmed.trimmed = value.trimmed := by
  cases value with
  | text content =>
    have once : Text.trim (Text.trim content) = Text.trim content := by
      rw [← String.toList_inj, Text.toList_trim, Text.toList_trim, (Text.bare_strip _).strip_eq]
    exact congrArg Value.text once
  | _ => rfl

/-- A value may be trimmed before it is divided. -/
theorem lines_trimmed (value : Value F) : value.trimmed.lines = value.lines := by
  cases value with
  | text content =>
    exact congrArg (fun lines => Value.list (lines.map .text)) (Text.cleanLines_trim content)
  | _ => rfl

end Value

/-- A row of functions runs the first one and then the others. -/
theorem Pipeline.routine_chain_cons (behaviour : Behaviour F) (first : F) (others : List F) :
    (chain (first :: others)).routine behaviour =
      (behaviour first).andThen ((chain others).routine behaviour) := rfl

/-- The definition for `see` trims a text and then divides it. -/
theorem Definition.see_standard (known : Builtin → F) :
    ∃ see ∈ standard known, see.name = "see" ∧
      Pipeline.ofDeclaration see.name see.transforms =
        .ok (.chain [known .trimWhitespace, known .splitLines]) := by
  have eighth : (standard known)[7]? = some _ := rfl
  exact ⟨_, List.mem_of_getElem? eighth, rfl, rfl⟩

/-- Trimming before dividing is dividing, whatever the value is. -/
theorem Builtin.trimWhitespace_andThen_splitLines :
    (Builtin.trimWhitespace.routine : Routine F).andThen Builtin.splitLines.routine =
      Builtin.splitLines.routine := by
  funext document tag value
  exact congrArg Reply.value value.lines_trimmed

/-- What the functions that trim and divide do. A text loses the blanks at its ends, of which there
are twenty-nine kinds. It is divided at the line breaks, of which there are ten and the carriage
return with its line feed, into lines that are trimmed and left out when nothing remains: clean
lines, which hold all characters of the text that are no blanks, in order, and which are the same
when the text has been trimmed before. So the first of the two functions of the definition for
`see` changes nothing that the second one gives. Clean lines joined by line feeds are found again.
Trimming again changes no value, and what is no text is changed by neither function. -/
theorem Builtin.clean_lines_of_text (behaviour : Behaviour F) (known : Builtin → F)
    (knows : ∀ builtin, behaviour (known builtin) = builtin.routine) (document : Document F)
    (tag : Option (Tag F)) :
    let trims := behaviour (known .trimWhitespace) document tag
    let splits := behaviour (known .splitLines) document tag
    (∀ c, Text.isBlank c = true ↔ c.toNat ∈ Text.blankCodes) ∧
    (∀ c, Text.isLineBreak c = true ↔ c.toNat ∈ Text.lineBreakCodes) ∧
    (∀ text, ∃ (left : String) (pieces : List (List Char)) (lines : List String),
      trims (.text text) = .value (.text left) ∧
      (∀ other, Text.TrimsTo text.toList other ↔ other = left.toList) ∧
      splits (.text text) = .value (.list (lines.map .text)) ∧
      (∀ other, Text.LinesOf text.toList other ↔ other = pieces) ∧
      lines.map String.toList = Text.remains pieces ∧
      (∀ line ∈ lines, Text.Clean line) ∧
      lines.flatMap (fun line => Text.solids line.toList) = Text.solids text.toList ∧
      splits (.text left) = splits (.text text)) ∧
    (∃ see ∈ Definition.standard known, see.name = "see" ∧
      Pipeline.ofDeclaration see.name see.transforms =
        .ok (.chain [known .trimWhitespace, known .splitLines]) ∧
      (Pipeline.chain [known .trimWhitespace, known .splitLines]).routine behaviour =
        (Pipeline.chain [known .splitLines]).routine behaviour) ∧
    (∀ lines, (∀ line ∈ lines, Text.Clean line) →
      splits (.text ("\n".intercalate lines)) = .value (.list (lines.map .text))) ∧
    (∀ value, ∃ left, trims value = .value left ∧ trims left = .value left) ∧
    ∀ value, (∀ content, value ≠ .text content) →
      trims value = .value value ∧ splits value = .value value := by
  intro trims splits
  have trimmed (value : Value F) : trims value = .value value.trimmed :=
    congrArg (fun routine : Routine F => routine document tag value) (knows .trimWhitespace)
  have divided (value : Value F) : splits value = .value value.lines :=
    congrArg (fun routine : Routine F => routine document tag value) (knows .splitLines)
  refine ⟨Text.isBlank_iff, Text.isLineBreak_iff, fun text => ?_, ?_, fun lines clean => ?_,
    fun value => ?_, fun value other => ?_⟩
  · refine ⟨Text.trim text, Text.splitLines text.toList, Text.cleanLines text, trimmed _,
      fun other => ?_, divided _, fun other => Text.linesOf_iff.trans eq_comm,
      Text.map_toList_cleanLines text, fun _ => Text.clean_of_mem_cleanLines,
      Text.flatMap_solids_cleanLines text, ?_⟩
    · rw [Text.toList_trim, Text.trimsTo_iff, eq_comm]
    · rw [divided, divided]
      exact congrArg Reply.value (Value.text text).lines_trimmed
  · obtain ⟨see, inside, named, declared⟩ := Definition.see_standard known
    have alone : (Pipeline.chain [known .splitLines]).routine behaviour =
        Builtin.splitLines.routine :=
      (Routine.sequence_singleton _).trans (knows .splitLines)
    refine ⟨see, inside, named, declared, ?_⟩
    rw [Pipeline.routine_chain_cons, alone, knows, trimWhitespace_andThen_splitLines]
  · rw [divided]
    exact congrArg (fun lines => Reply.value (.list (lines.map .text)))
      (Text.cleanLines_intercalate clean)
  · refine ⟨value.trimmed, trimmed value, ?_⟩
    rw [trimmed, value.trimmed_trimmed]
  · rw [trimmed, divided, Value.trimmed_of_ne_text other, Value.lines_of_ne_text other]
    exact ⟨rfl, rfl⟩

/-- References as they may stand in a comment, between blanks and breaks of several kinds. -/
def listing : String := "\u2003sum of\r\n\x85 product\x1c\u2028 \n"

/-- The listing loses its ends by trimming, and the references are found in what is left as in the
whole. Joined by a line feed they are found again; a number stays as it is. -/
theorem Builtin.clean_lines_of_listing :
    let trims := Builtin.trimWhitespace.routine (.empty : Document Builtin) none
    let splits := Builtin.splitLines.routine (.empty : Document Builtin) none
    (∀ line ∈ ["sum of", "product"], Text.Clean line) ∧
      trims (.text listing) = .value (.text "sum of\r\n\x85 product") ∧
      splits (.text "sum of\r\n\x85 product") = splits (.text listing) ∧
      splits (.text "sum of\nproduct") = .value (.list [.text "sum of", .text "product"]) ∧
      splits (.int 3) = .value (.int 3) := by
  intro trims splits
  obtain ⟨-, -, divided, -, joined, -, others⟩ :=
    Builtin.clean_lines_of_text Builtin.routine id (fun _ => rfl) (.empty : Document Builtin) none
  have clean : ∀ line ∈ ["sum of", "product"], Text.Clean line := by decide
  have trimmed : trims (.text listing) = .value (.text "sum of\r\n\x85 product") := rfl
  obtain ⟨left, -, -, same, -, -, -, -, -, -, found⟩ := divided listing
  obtain rfl : left = "sum of\r\n\x85 product" := by
    simpa [Reply.value] using same.symm.trans trimmed
  have number : ∀ content, (.int 3 : Value Builtin) ≠ .text content := by
    intro content same
    cases same
  exact ⟨clean, trimmed, found, joined _ clean, (others (.int 3) number).2⟩

end TagBinding
