import Mathlib.Data.List.Basic
import Mathlib.Data.Option.Basic
import TagBinding.Report.Reporter

/-!
# Reading a report back

A report on bad tags is one text, and yet nothing of its layout is lost. If nothing that it shows
holds a newline, its newlines divide it into the lines of which it was made
(`Document.pieces_badTagReport`), and these lines can be read back: a tag is shown on a line that
starts with a word, its errors on indented ones (`Document.readReport_badTagReport`). So two reports
with the same text agree in all that can be read from them, and a reporter that drops a repeated
text drops no change of an error (`Document.read_back`).
-/
namespace TagBinding

variable {F : Type}

namespace Text

/-- The pieces into which newlines divide a text. A newline at the end has an empty piece behind
it. -/
def pieces (text : String) : List String := (text.toList.splitOn '\n').map String.ofList

/-- That there is no newline in a text. -/
def OneLine (text : String) : Prop := '\n' ∉ text.toList

instance (text : String) : Decidable (OneLine text) := inferInstanceAs (Decidable (¬ _))

/-- Two texts without newlines stay on one line together. -/
theorem OneLine.append {first second : String} (former : OneLine first) (latter : OneLine second) :
    OneLine (first ++ second) := by
  rw [OneLine, String.toList_append, List.mem_append, not_or]
  exact ⟨former, latter⟩

/-- The number that digits spell. -/
def number? (digits : List Char) : Option Nat :=
  if !digits.isEmpty && digits.all Char.isDigit then some (Nat.ofDigitChars 10 digits 0) else none

/-- The integer that digits spell, with a sign before them if it is negative. -/
def integer? : List Char → Option Int
  | '-' :: digits => (number? digits).map fun size => -(size : Int)
  | digits => (number? digits).map fun size => (size : Int)

/-- The digits of a number are digits. -/
theorem isDigit_of_mem_repr (number : Nat) {c : Char} (inside : c ∈ number.repr.toList) :
    c.isDigit = true := by
  rw [Nat.toList_repr] at inside
  exact Nat.isDigit_of_mem_toDigits (by decide) (by decide) inside

/-- A number is read back from its digits. -/
theorem number?_repr (number : Nat) : number? number.repr.toList = some number := by
  have written : number.repr.toList.isEmpty = false := by
    rw [Nat.toList_repr, List.isEmpty_eq_false_iff]
    exact Nat.toDigits_ne_nil
  have digits : number.repr.toList.all Char.isDigit = true :=
    List.all_eq_true.mpr fun c inside => isDigit_of_mem_repr number inside
  rw [number?, written, digits, Nat.toList_repr, Nat.ofDigitChars_ten_toDigits]
  rfl

/-- A negative integer is written as its size with a sign before it. -/
theorem toList_repr_negSucc (size : Nat) :
    (Int.negSucc size).repr.toList = '-' :: (size + 1).repr.toList := by
  rw [Int.repr, String.toList_append]
  rfl

/-- An integer is read back from the way it is written. -/
theorem integer?_toString (number : Int) : integer? (toString number).toList = some number := by
  rw [Int.toString_eq_repr]
  cases number with
  | ofNat size =>
    have unsigned : ∀ rest, size.repr.toList ≠ '-' :: rest := by
      intro rest signed
      have sign := isDigit_of_mem_repr size (signed ▸ List.mem_cons_self)
      exact absurd sign (by decide)
    show integer? size.repr.toList = _
    rw [integer?.eq_2 _ unsigned, number?_repr]
    rfl
  | negSucc size =>
    rw [toList_repr_negSucc, integer?, number?_repr]
    rfl

/-- Dropping blanks at the end puts no newline into a text. -/
theorem OneLine.trimEnd {text : String} (line : OneLine text) : OneLine (trimEnd text) := by
  intro inside
  rw [Text.trimEnd, String.toList_ofList, dropTrailingBlanks, List.mem_reverse] at inside
  exact line (List.mem_reverse.mp ((List.dropWhile_sublist _).mem inside))

/-- Blanks are dropped behind the last character that is none, so all before it stays. -/
theorem dropTrailingBlanks_append_cons (before after : List Char) {c : Char}
    (solid : isBlank c = false) :
    dropTrailingBlanks (before ++ c :: after) = before ++ c :: dropTrailingBlanks after := by
  have whole : (before ++ c :: after).reverse = after.reverse ++ c :: before.reverse := by simp
  rw [dropTrailingBlanks, dropTrailingBlanks, dropBlanks, dropBlanks, whole, List.dropWhile_append]
  split
  · next blank =>
    rw [List.isEmpty_iff.mp blank, List.dropWhile_cons_of_neg (by simp [solid])]
    simp
  · simp

/-- A blank at the end makes no difference to what is left of a text. -/
theorem trimEnd_append_space (text : String) : trimEnd (text ++ " ") = trimEnd text := by
  have last : (text ++ " ").toList = text.toList ++ [' '] := by simp
  rw [trimEnd, last, dropTrailingBlanks_append_of_blank text.toList rfl, trimEnd]

end Text

/-- Texts with a separator between neighbours, as the library puts them together. -/
theorem joinTexts_eq_intercalate (separator : String) (texts : List String) :
    joinTexts separator texts = separator.intercalate texts := by
  induction texts with
  | nil => rfl
  | cons first rest ih =>
    cases rest with
    | nil => simp [joinTexts]
    | cons second others => rw [joinTexts, ih, String.intercalate_cons_cons]; simp

/-- Lines without newlines are the pieces of the text that they are joined to. -/
theorem pieces_joinTexts {lines : List String} (some : lines ≠ [])
    (single : ∀ line ∈ lines, Text.OneLine line) :
    Text.pieces (joinTexts "\n" lines) = lines := by
  have apart : ∀ line ∈ lines.map String.toList, '\n' ∉ line := by
    intro line inside
    obtain ⟨text, member, rfl⟩ := List.mem_map.mp inside
    exact single text member
  have newline : "\n".toList = ['\n'] := rfl
  rw [Text.pieces, joinTexts_eq_intercalate, String.toList_intercalate, newline,
    List.splitOn_intercalate '\n' apart (by simpa using some), List.map_map]
  have back : String.ofList ∘ String.toList = id := funext fun _ => String.ofList_toList
  rw [back, List.map_id]

/-- Texts without newlines stay on one line when they are joined by something without newlines. -/
theorem oneLine_joinTexts {separator : String} (between : Text.OneLine separator)
    {texts : List String} (single : ∀ text ∈ texts, Text.OneLine text) :
    Text.OneLine (joinTexts separator texts) := by
  induction texts with
  | nil => exact (show Text.OneLine "" by decide)
  | cons first rest ih =>
    obtain ⟨head, tail⟩ := List.forall_mem_cons.mp single
    cases rest with
    | nil => exact head
    | cons second others => exact (head.append between).append (ih tail)

/-- What the line of a bad tag shows of a description: the first twenty characters of a text, and
nothing of anything else. -/
def Value.previews : Value F → List String
  | .text content => [String.ofList (content.toList.take 20) ++ "..."]
  | _ => []

namespace Tag

/-- What the line of a bad tag starts with: the line of the tag with its name, then its type and the
documented name, as far as they are not empty. -/
def labels (tag : Tag F) : List String :=
  ("Line: " ++ toString tag.startingLine ++ ": @" ++ tag.tagName) ::
    (((filled? tag.typeExpression).map fun shown => "\x7b" ++ shown ++ "\x7d").toList ++
      (filled? tag.name).toList)

/-- That nothing that a report shows of a tag holds a newline. -/
structure Legible (tag : Tag F) : Prop where
  /-- The word after the at sign holds none. -/
  tagName : Text.OneLine tag.tagName
  /-- The documented name holds none. -/
  name : ∀ name ∈ tag.name, Text.OneLine name
  /-- The type holds none. -/
  typeExpression : ∀ type ∈ tag.typeExpression, Text.OneLine type
  /-- The start of the description holds none. -/
  description : ∀ content, tag.description = .text content →
    Text.OneLine (String.ofList (content.toList.take 20))
  /-- No error holds one. -/
  errors : ∀ error ∈ tag.errors, Text.OneLine error


/-- What can be read of a bad tag from a report. -/
structure Note where
  /-- The line that shows the tag. -/
  line : String
  /-- The line on which the tag starts. -/
  startingLine : Option Int
  /-- The errors of the tag. -/
  errors : List String
  deriving DecidableEq, Repr

/-- What a report says of a tag. -/
def note (tag : Tag F) : Note := ⟨tag.reportLine, some tag.startingLine, tag.errors⟩

/-- The error of a line that shows one. -/
def errorOf? (line : String) : Option String :=
  match line.toList with
  | ' ' :: ' ' :: ' ' :: ' ' :: '*' :: ' ' :: error => some (String.ofList error)
  | _ => none

/-- The line on which a tag starts, from the line that shows the tag. -/
def startingLineOf? (line : String) : Option Int :=
  match line.toList with
  | 'L' :: 'i' :: 'n' :: 'e' :: ':' :: ' ' :: shown =>
    Text.integer? (shown.takeWhile (· != ':'))
  | _ => none

/-- Read lines back. An error belongs to the last tag above it, so the lines are read from the end
on, and the errors above which no tag has come yet are kept apart. -/
def readNotes : List String → List String × List Note
  | [] => ([], [])
  | line :: rest =>
    let below := readNotes rest
    match errorOf? line with
    | some error => (error :: below.1, below.2)
    | none => ([], ⟨line, startingLineOf? line, below.1⟩ :: below.2)

variable (tag : Tag F)

/-- What is shown before a text stands as an item of its own before it. -/
theorem joinTexts_precede (before : Option String) {shown : List String} (some : shown ≠ []) :
    joinTexts " " (before.toList ++ shown) = precede before (joinTexts " " shown) := by
  cases before with
  | none => rfl
  | some label =>
    obtain ⟨first, rest, rfl⟩ := List.exists_cons_of_ne_nil some
    rfl

/-- A description of which nothing is shown leaves a blank at the end, which does not stay. -/
theorem trimEnd_joinTexts_preview {shown : List String} (some : shown ≠ [])
    (description : Value F) :
    Text.trimEnd (joinTexts " " (shown ++ [description.preview])) =
      Text.trimEnd (joinTexts " " (shown ++ description.previews)) := by
  have blank : Text.trimEnd (joinTexts " " (shown ++ [""])) =
      Text.trimEnd (joinTexts " " (shown ++ [])) := by
    rw [joinTexts_eq_intercalate, joinTexts_eq_intercalate,
      String.intercalate_append_of_ne_nil some (List.cons_ne_nil _ _), String.intercalate_singleton,
      String.append_empty, Text.trimEnd_append_space, List.append_nil]
  cases description with
  | text content => rfl
  | _ => exact blank

/-- The line of a bad tag is what it shows with spaces between, without blanks at the end. -/
theorem reportLine_eq_joinTexts :
    tag.reportLine = Text.trimEnd (joinTexts " " (tag.labels ++ tag.description.previews)) := by
  have labelled : tag.labels ≠ [] := List.cons_ne_nil _ _
  rw [← trimEnd_joinTexts_preview labelled]
  -- From the end on, every label comes before what is already joined.
  have inner := joinTexts_precede (filled? tag.name) (List.cons_ne_nil tag.description.preview [])
  have outer := joinTexts_precede
    ((filled? tag.typeExpression).map fun shown => "\x7b" ++ shown ++ "\x7d")
    (List.append_ne_nil_of_right_ne_nil (filled? tag.name).toList
      (List.cons_ne_nil tag.description.preview []))
  have whole := joinTexts_precede
    (some ("Line: " ++ toString tag.startingLine ++ ": @" ++ tag.tagName))
    (List.append_ne_nil_of_right_ne_nil
      ((filled? tag.typeExpression).map fun shown => "\x7b" ++ shown ++ "\x7d").toList
      (List.append_ne_nil_of_right_ne_nil (filled? tag.name).toList
        (List.cons_ne_nil tag.description.preview [])))
  rw [outer, inner] at whole
  rw [labels, List.cons_append, List.append_assoc]
  exact congrArg Text.trimEnd whole.symm

/-- The line of a bad tag shows where the tag starts, up to a colon. -/
theorem toList_reportLine : ∃ rest, tag.reportLine.toList =
    'L' :: 'i' :: 'n' :: 'e' :: ':' :: ' ' ::
      ((toString tag.startingLine).toList ++ ':' :: rest) := by
  have start : "Line: ".toList = ['L', 'i', 'n', 'e', ':', ' '] := rfl
  have middle : ": @".toList = [':', ' ', '@'] := rfl
  have shown : ("Line: " ++ toString tag.startingLine ++ ": @" ++ tag.tagName ++ " " ++
      tag.summary).toList =
      ('L' :: 'i' :: 'n' :: 'e' :: ':' :: ' ' ::
        ((toString tag.startingLine).toList ++ [':', ' '])) ++
        '@' :: (tag.tagName ++ " " ++ tag.summary).toList := by
    simp only [String.toList_append, start, middle, List.append_assoc, List.cons_append,
      List.nil_append]
  refine ⟨' ' :: '@' :: Text.dropTrailingBlanks (tag.tagName ++ " " ++ tag.summary).toList, ?_⟩
  rw [reportLine, Text.trimEnd, String.toList_ofList, shown,
    Text.dropTrailingBlanks_append_cons _ _ (by decide)]
  simp only [List.append_assoc, List.cons_append, List.nil_append]

/-- The line of a bad tag shows no error. -/
theorem errorOf?_reportLine : errorOf? tag.reportLine = none := by
  obtain ⟨rest, shown⟩ := tag.toList_reportLine
  rw [errorOf?, shown]
  rfl

/-- The line of an error shows it. -/
theorem errorOf?_errorLine (error : String) : errorOf? (errorLine error) = some error := by
  have shown : (errorLine error).toList =
      ' ' :: ' ' :: ' ' :: ' ' :: '*' :: ' ' :: error.toList := by
    rw [errorLine, String.toList_append]
    rfl
  rw [errorOf?, shown]
  exact congrArg some String.ofList_toList

/-- The digits of an integer are digits, behind a sign if it is negative. -/
theorem isDigit_of_mem_toString (number : Int) {c : Char}
    (inside : c ∈ (toString number).toList) : c.isDigit = true ∨ c = '-' := by
  rw [Int.toString_eq_repr] at inside
  cases number with
  | ofNat size => exact .inl (Text.isDigit_of_mem_repr size inside)
  | negSucc size =>
    rw [Text.toList_repr_negSucc] at inside
    rcases List.mem_cons.mp inside with sign | among
    · exact .inr sign
    · exact .inl (Text.isDigit_of_mem_repr (size + 1) among)

/-- The line on which a bad tag starts is read back from the line that shows the tag. -/
theorem startingLineOf?_reportLine :
    startingLineOf? tag.reportLine = some tag.startingLine := by
  obtain ⟨rest, shown⟩ := tag.toList_reportLine
  have digits : ∀ c ∈ (toString tag.startingLine).toList, (c != ':') = true := by
    intro c inside
    rcases isDigit_of_mem_toString tag.startingLine inside with digit | rfl
    · refine bne_iff_ne.mpr fun colon => ?_
      subst colon
      exact absurd digit (by decide)
    · rfl
  have read : ((toString tag.startingLine).toList ++ ':' :: rest).takeWhile (· != ':') =
      (toString tag.startingLine).toList := by
    rw [List.takeWhile_append_of_pos digits, List.takeWhile_cons_of_neg (by decide),
      List.append_nil]
  rw [startingLineOf?, shown]
  show Text.integer? (((toString tag.startingLine).toList ++ ':' :: rest).takeWhile (· != ':')) = _
  rw [read, Text.integer?_toString]

/-- The lines of errors are read back as the errors, above those that are read so far. -/
theorem readNotes_errors (errors : List String) (rest : List String) :
    readNotes (errors.map errorLine ++ rest) =
      (errors ++ (readNotes rest).1, (readNotes rest).2) := by
  induction errors with
  | nil => rfl
  | cons error others ih =>
    rw [List.map_cons, List.cons_append, readNotes, ih]
    simp only [errorOf?_errorLine, List.cons_append]

/-- The lines of bad tags are read back as what a report says of the tags. -/
theorem readNotes_reportLines (tags : List (Tag F)) :
    readNotes (tags.flatMap reportLines) = ([], tags.map note) := by
  induction tags with
  | nil => rfl
  | cons tag rest ih =>
    rw [List.flatMap_cons, reportLines, List.cons_append, readNotes, readNotes_errors, ih]
    simp only [errorOf?_reportLine, startingLineOf?_reportLine, List.append_nil]
    rfl

/-- An integer is written on one line. -/
theorem oneLine_toString (number : Int) : Text.OneLine (toString number) := by
  intro newline
  rcases isDigit_of_mem_toString number newline with digit | sign
  · exact absurd digit (by decide)
  · exact absurd sign (by decide)

variable {tag}

/-- What is not empty of a text that may be missing is that text. -/
theorem oneLine_of_mem_filled? {text : Option String} (single : ∀ shown ∈ text, Text.OneLine shown) :
    ∀ shown ∈ filled? text, Text.OneLine shown := by
  intro shown filled
  exact single shown (Option.filter_eq_some_iff.mp filled).1

/-- A legible tag is shown on one line. -/
theorem Legible.oneLine_reportLine (legible : tag.Legible) : Text.OneLine tag.reportLine := by
  have start : Text.OneLine
      ("Line: " ++ toString tag.startingLine ++ ": @" ++ tag.tagName) :=
    (((show Text.OneLine "Line: " by decide).append (oneLine_toString _)).append
      (show Text.OneLine ": @" by decide)).append legible.tagName
  have label : ∀ label ∈ tag.labels, Text.OneLine label := by
    intro label inside
    simp only [labels, List.mem_cons, List.mem_append, Option.mem_toList] at inside
    rcases inside with rfl | typed | filled
    · exact start
    · obtain ⟨type, filled, rfl⟩ := Option.map_eq_some_iff.mp typed
      exact ((show Text.OneLine "\x7b" by decide).append
        (oneLine_of_mem_filled? legible.typeExpression type filled)).append
          (show Text.OneLine "\x7d" by decide)
    · exact oneLine_of_mem_filled? legible.name label filled
  have preview : ∀ preview ∈ tag.description.previews, Text.OneLine preview := by
    intro preview inside
    cases described : tag.description with
    | text content =>
      rw [described] at inside
      obtain rfl := List.mem_singleton.mp inside
      exact (legible.description content described).append (show Text.OneLine "..." by decide)
    | _ =>
      rw [described] at inside
      cases inside
  rw [reportLine_eq_joinTexts]
  refine (oneLine_joinTexts (show Text.OneLine " " by decide) fun shown inside => ?_).trimEnd
  rcases List.mem_append.mp inside with among | among
  · exact label shown among
  · exact preview shown among

/-- A legible tag and its errors are shown on a line each. -/
theorem Legible.oneLine_reportLines (legible : tag.Legible) :
    ∀ line ∈ tag.reportLines, Text.OneLine line := by
  intro line inside
  rcases List.mem_cons.mp inside with rfl | among
  · exact legible.oneLine_reportLine
  · obtain ⟨error, member, rfl⟩ := List.mem_map.mp among
    exact (show Text.OneLine "    * " by decide).append (legible.errors error member)

end Tag

namespace Document

/-- That nothing that a report shows of a document and of its bad tags holds a newline. -/
structure Legible (document : Document F) : Prop where
  /-- What the document is called holds none. -/
  label : ∀ shown ∈ document.label?, Text.OneLine shown
  /-- The name of the file holds none. -/
  file : ∀ file ∈ document.file, Text.OneLine file
  /-- Nothing that is shown of a bad tag holds one. -/
  tags : ∀ tag ∈ document.tags.bad, tag.Legible

/-- Read a report back: its header, and what it says of each bad tag. -/
def readReport (report : String) : Option (String × List Tag.Note) :=
  match Text.pieces report with
  | [] => none
  | header :: rest => some (header, (Tag.readNotes rest.dropLast.dropLast).2)

section Lines

variable {document : Document F} (legible : document.Legible)

include legible

/-- The header of a legible report is one line. -/
theorem Legible.oneLine_reportHeader : Text.OneLine document.reportHeader := by
  have label : Text.OneLine (document.label?.elim "" fun shown => " \"" ++ shown ++ "\"") := by
    cases called : document.label? with
    | none => decide
    | some shown =>
      exact ((show Text.OneLine " \"" by decide).append (legible.label shown called)).append
        (show Text.OneLine "\"" by decide)
  have line : Text.OneLine (displayInt? document.startingLine) := by
    cases document.startingLine with
    | none => decide
    | some number => exact Tag.oneLine_toString number
  have file : Text.OneLine (displayText? document.file) := by
    cases known : document.file with
    | none => decide
    | some file => exact legible.file file known
  exact ((((((show Text.OneLine "Invalid tags found in doc" by decide).append label).append
    (show Text.OneLine ", starting at line " by decide)).append line).append
      (show Text.OneLine ", from file \"" by decide)).append file).append
        (show Text.OneLine "\"" by decide)

/-- The newlines of a legible report divide it into its lines, with two empty pieces behind. -/
theorem Legible.pieces_badTagReport :
    Text.pieces document.badTagReport = document.reportLines ++ ["", ""] := by
  have lines : document.reportLines ≠ [] := List.cons_ne_nil _ _
  have whole : document.badTagReport = joinTexts "\n" (document.reportLines ++ ["", ""]) := by
    rw [badTagReport, joinTexts_eq_intercalate, joinTexts_eq_intercalate,
      String.intercalate_append_of_ne_nil lines (List.cons_ne_nil _ _), String.append_assoc]
    rfl
  rw [whole]
  refine pieces_joinTexts (List.cons_ne_nil _ _) fun line inside => ?_
  rcases List.mem_append.mp inside with shown | empty
  · rcases List.mem_cons.mp shown with rfl | among
    · exact legible.oneLine_reportHeader
    · obtain ⟨tag, member, own⟩ := List.mem_flatMap.mp among
      exact (legible.tags tag member).oneLine_reportLines line own
  · simp only [List.mem_cons, List.not_mem_nil, or_false, or_self] at empty
    subst empty
    decide

/-- A legible report is read back as what it says. -/
theorem Legible.readReport_badTagReport :
    readReport document.badTagReport =
      some (document.reportHeader, document.tags.bad.map Tag.note) := by
  have cut : (document.tags.bad.flatMap Tag.reportLines ++ ["", ""]).dropLast.dropLast =
      document.tags.bad.flatMap Tag.reportLines := by simp
  rw [readReport, legible.pieces_badTagReport, reportLines, List.cons_append]
  simp only [cut, Tag.readNotes_reportLines]

end Lines

/-- The newlines of a report on a document divide it into its header and, for each bad tag, a line
that shows the tag and a line for each of its errors, with two empty pieces behind, if nothing that
is shown holds a newline. It can then be read back: reports on two such documents with the same text
have the same header and as many bad tags, which start on the same lines, are shown alike and have
the same errors. So a reporter that remembers the report on the one writes the report on the other
unless every tag has the same errors. -/
theorem read_back {first second : Document F} (legible : first.Legible) (other : second.Legible) :
    Text.pieces first.badTagReport =
        first.reportHeader ::
          (first.tags.bad.flatMap fun tag =>
            Text.trimEnd (joinTexts " " (tag.labels ++ tag.description.previews)) ::
              tag.errors.map ("    * " ++ ·)) ++ ["", ""] ∧
      (∀ tag ∈ first.tags.bad, "Line: ".toList <+:
        (Text.trimEnd (joinTexts " " (tag.labels ++ tag.description.previews))).toList) ∧
      readReport first.badTagReport = some (first.reportHeader, first.tags.bad.map Tag.note) ∧
      (first.badTagReport = second.badTagReport →
        first.reportHeader = second.reportHeader ∧
          first.tags.bad.length = second.tags.bad.length ∧
          first.tags.bad.map Tag.startingLine = second.tags.bad.map Tag.startingLine ∧
          first.tags.bad.map Tag.reportLine = second.tags.bad.map Tag.reportLine ∧
          first.tags.bad.map Tag.errors = second.tags.bad.map Tag.errors) ∧
      (first.tags.bad.map Tag.errors ≠ second.tags.bad.map Tag.errors →
        ∀ (reporter : Reporter) (thread : Thread) (index : Nat),
          reporter.last thread = some ⟨index, first.badTagReport⟩ →
            reporter.warning? thread ⟨index, second.badTagReport⟩ =
              some ⟨reporter.logger, second.badTagReport⟩) := by
  have read := legible.readReport_badTagReport
  have same : first.badTagReport = second.badTagReport →
      first.reportHeader = second.reportHeader ∧
        first.tags.bad.map Tag.note = second.tags.bad.map Tag.note := by
    intro equal
    have both := read.symm.trans ((congrArg readReport equal).trans other.readReport_badTagReport)
    exact Prod.mk.inj (Option.some.inj both)
  -- What is read of the tags holds what is said of them.
  have part : ∀ {α : Type} (view : Tag.Note → α),
      first.badTagReport = second.badTagReport →
        first.tags.bad.map (view ∘ Tag.note) = second.tags.bad.map (view ∘ Tag.note) := by
    intro α view equal
    rw [← List.map_map, ← List.map_map, (same equal).2]
  refine ⟨?_, fun tag _ => ?_, read, fun equal => ⟨(same equal).1, ?_, ?_, ?_, ?_⟩, ?_⟩
  · have lines : (first.tags.bad.flatMap fun tag =>
        Text.trimEnd (joinTexts " " (tag.labels ++ tag.description.previews)) ::
          tag.errors.map ("    * " ++ ·)) = first.tags.bad.flatMap Tag.reportLines := by
      refine List.flatMap_congr fun tag _ => ?_
      rw [Tag.reportLines, tag.reportLine_eq_joinTexts]
      rfl
    rw [legible.pieces_badTagReport, lines]
    rfl
  · obtain ⟨rest, shown⟩ := tag.toList_reportLine
    rw [← tag.reportLine_eq_joinTexts, shown]
    exact ⟨_, rfl⟩
  · have lengths := congrArg List.length (part id equal)
    rwa [List.length_map, List.length_map] at lengths
  · have starts := part Tag.Note.startingLine equal
    have injective : Function.Injective (Option.some : Int → Option Int) :=
      Option.some_injective Int
    refine List.map_injective_iff.mpr injective ?_
    rw [List.map_map, List.map_map]
    exact starts
  · exact part Tag.Note.line equal
  · exact part Tag.Note.errors equal
  · intro different reporter thread index remembered
    have unlike : first.badTagReport ≠ second.badTagReport :=
      fun equal => different (part Tag.Note.errors equal)
    have kept : reporter.drops thread ⟨index, second.badTagReport⟩ = false := by
      rw [Reporter.drops, remembered, Bool.and_eq_false_iff]
      refine .inr (beq_eq_false_iff_ne.mpr fun equal => unlike ?_)
      exact (Report.mk.inj (Option.some.inj equal)).2
    rw [Reporter.warning?, kept]
    rfl

/-- A reference of which a type is known, and another one without a description. -/
def crossed (former latter : List String) : Document Unit :=
  ⟨some "a.js", some 2, .ofList .empty
    [⟨"see", .text "a description of some length", 3, none, some "T", former⟩,
      ⟨"link", .null, -1, some "x ", none, latter⟩],
    .ofList [("name", .text "a")]⟩

/-- An error that moves from the one to the other is not passed over. -/
theorem read_back_crossed :
    let reporter := Reporter.standard.receive .main ⟨0, (crossed ["e", "f"] ["g"]).badTagReport⟩
    (crossed ["e", "f"] ["g"]).Legible ∧ (crossed ["e"] ["f", "g"]).Legible ∧
      Text.pieces (crossed ["e", "f"] ["g"]).badTagReport =
        ["Invalid tags found in doc \"a\", starting at line 2, from file \"a.js\"",
          "Line: 3: @see \x7bT\x7d a description of som...", "    * e", "    * f",
          "Line: -1: @link x", "    * g", "", ""] ∧
      reporter.warning? .main ⟨0, (crossed ["e"] ["f", "g"]).badTagReport⟩ =
        some ⟨"doctags.diagnostics", (crossed ["e"] ["f", "g"]).badTagReport⟩ := by
  intro reporter
  have legible : ∀ (first last : String) (former latter : List String),
      (∀ error ∈ first :: former, Text.OneLine error) →
      (∀ error ∈ last :: latter, Text.OneLine error) →
      (crossed (first :: former) (last :: latter)).Legible := by
    intro first last former latter upper lower
    have label : ∀ shown ∈ some "a", Text.OneLine shown := by decide
    have file : ∀ shown ∈ some "a.js", Text.OneLine shown := by decide
    refine ⟨label, file, fun tag inside => ?_⟩
    have listed : tag = ⟨"see", .text "a description of some length", 3, none, some "T",
        first :: former⟩ ∨ tag = ⟨"link", .null, -1, some "x ", none, last :: latter⟩ := by
      simpa using (show tag ∈ [_, _] from inside)
    rcases listed with rfl | rfl
    · have type : ∀ shown ∈ some "T", Text.OneLine shown := by decide
      have preview : Text.OneLine "a description of som" := by decide
      exact ⟨(show Text.OneLine "see" by decide), nofun, type,
        fun content described => Value.text.inj described ▸ preview, upper⟩
    · have name : ∀ shown ∈ some "x ", Text.OneLine shown := by decide
      exact ⟨(show Text.OneLine "link" by decide), name, nofun, nofun, lower⟩
  have before := legible "e" "g" ["f"] [] (by decide) (by decide)
  have after := legible "e" "f" [] ["g"] (by decide) (by decide)
  obtain ⟨pieces, -, -, -, written⟩ := read_back before after
  refine ⟨before, after, pieces.trans ?_, ?_⟩
  · decide +kernel
  · exact written (by decide) reporter .main 0 rfl

end Document

end TagBinding
