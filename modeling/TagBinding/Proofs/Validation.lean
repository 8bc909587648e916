import TagBinding.Definition.Load
import Mathlib.Data.List.Nodup

/-!
# What a valid definition is

A record is a valid definition (`Definition.Valid`) when it has a name, when every field that it
gives has a value of the field's kind, and when it has no other keys and gives no field twice. What
is wrong with a record that is not is listed by `Definition.defects`: for each field the defects of
the value that gives it, then the keys that give no field.

A reading finds problems (`Reading.Finds`) when it has these problems and no others, and refuses
exactly if there are any. Readings that are put together find the problems of their parts, so a
record is loaded exactly if it is valid, and else refused for its defects
(`Definition.load_record`).
-/
namespace TagBinding

variable {F : Type}

namespace Reading

variable {α β : Type}

/-- That a reading has certain problems and no others, and is accepted if there are none. -/
structure Finds (reading : Reading α) (problems : List Problem) : Prop where
  /-- These are its problems. -/
  problems_eq : reading.problems = problems
  /-- It is accepted if there are none. -/
  isAccepted_eq : reading.isAccepted = problems.isEmpty

/-- What is accepted has no problems. -/
theorem finds_accepted (value : α) : (accepted value).Finds [] := ⟨rfl, rfl⟩

/-- What is refused has the problem for which it is refused. -/
theorem finds_refuse (location : Location) (complaint : Complaint) :
    (refuse location complaint : Reading α).Finds [⟨location, complaint⟩] := ⟨rfl, rfl⟩

namespace Finds

variable {reading : Reading α} {problems more : List Problem}

/-- A change of what is accepted has no problems of its own. -/
theorem map (found : reading.Finds problems) (change : α → β) :
    (reading.map change).Finds problems :=
  ⟨(reading.problems_map change).trans found.problems_eq,
    (reading.isAccepted_map change).trans found.isAccepted_eq⟩

/-- Two parts have the problems of the first one before those of the second one. -/
theorem also {first : Reading (α → β)} (found : first.Finds problems)
    (others : reading.Finds more) : (first.also reading).Finds (problems ++ more) where
  problems_eq := by rw [problems_also, found.problems_eq, others.problems_eq]
  isAccepted_eq := by
    rw [isAccepted_also, found.isAccepted_eq, others.isAccepted_eq]
    cases problems <;> rfl

/-- Further problems come last. -/
theorem noting (found : reading.Finds problems) (more : List Problem) :
    (reading.noting more).Finds (problems ++ more) where
  problems_eq := by rw [problems_noting, found.problems_eq]
  isAccepted_eq := by
    have same := found.isAccepted_eq
    cases reading <;> cases problems <;> cases more <;> first | rfl | cases same

/-- A reading without problems gives a value. -/
theorem exists_of_nil (found : reading.Finds []) : ∃ value, reading = .accepted value := by
  cases reading with
  | accepted value => exact ⟨value, rfl⟩
  | refused problems => cases found.isAccepted_eq

/-- A reading with problems is refused for them. -/
theorem eq_of_ne_nil (found : reading.Finds problems) (wrong : problems ≠ []) :
    reading = .refused problems := by
  cases reading with
  | accepted value => exact absurd found.problems_eq.symm wrong
  | refused others => exact congrArg refused found.problems_eq

end Finds

/-- A list has the problems of its items, in their order. -/
theorem finds_ofItems {ι : Type} {read : Nat → ι → Reading α} {wrong : ι → Nat → List Problem}
    (each : ∀ item index, (read index item).Finds (wrong item index)) (items : List ι)
    (start : Nat) :
    (ofItems read start items).Finds
      ((items.zipIdx start).flatMap fun item => wrong item.1 item.2) := by
  induction items generalizing start with
  | nil => exact finds_accepted []
  | cons item rest ih => exact ((each item start).map List.cons).also (ih (start + 1))

end Reading

namespace Value

/-- Whether a value is a text. -/
def isText : Value F → Bool
  | .text _ => true
  | _ => false

/-- Whether a value stands for one of the two truth values. -/
def isFlag : Value F → Bool
  | .bool _ => true
  | .int number => number == 0 || number == 1
  | .float number => number.toInt? == some 0 || number.toInt? == some 1
  | .text word =>
    (trueWords ++ falseWords).any fun known => known.toList == word.toList.map Char.toLower
  | _ => false

/-- Whether a value is of a kind that can stand for a truth value: a text, or a whole number that
fits into a machine word. -/
def resemblesFlag : Value F → Bool
  | .text _ => true
  | .int number => decide (-(Nat.pow 2 63 : Int) ≤ number ∧ number < Nat.pow 2 63)
  | .float number => number.toInt?.any fun whole => decide (whole.natAbs < Nat.pow 2 63)
  | _ => false

end Value

/-- The key of the entry to which a place belongs. -/
def Location.key : Location → String
  | .whole => ""
  | .entry key | .item key _ => key

namespace Field

/-- Whether a field may have a value. -/
def accepts : Field → Value F → Bool
  | .name, .text content => !content.isEmpty
  | .docProperty, .null | .docProperty, .text _ => true
  | .tagProperty, .text _ => true
  | .required, value | .multi, value => value.isFlag
  | .defaultFn, .null | .defaultFn, .function _ => true
  | .transforms, _ => true
  | .aliases, .list items | .aliases, .tuple items | .aliases, .set items =>
    items.all Value.isText
  | _, _ => false

/-- What is said of a value that a field may not have. -/
def complaint : Field → Value F → Complaint
  | .name, .text _ => .emptyText
  | .name, _ | .docProperty, _ | .tagProperty, _ => .notAText
  | .required, value | .multi, value => if value.resemblesFlag then .unclearFlag else .notAFlag
  | .defaultFn, _ => .notAFunction
  | .transforms, _ | .aliases, _ => .notASequence

/-- The items of a list that are no texts, each as a problem. -/
def itemDefects (key : String) (items : List (Value F)) : List Problem :=
  (items.zipIdx.filter fun item => !item.1.isText).map fun item => ⟨.item key item.2, .notAText⟩

/-- What is wrong with the value that a key gives to a field. -/
def defectsIn (field : Field) (key : String) (value : Value F) : List Problem :=
  if field.accepts value then []
  else
    match field, value with
    | .aliases, .list items | .aliases, .tuple items | .aliases, .set items =>
      itemDefects key items
    | _, _ => [⟨.entry key, field.complaint value⟩]

/-- The key that gives a field, with its value: the first spelling that the record has. -/
def given? (entries : List (String × Value F)) (field : Field) : Option (String × Value F) :=
  ((lookupEntry field.spelling entries).map (field.spelling, ·)).or
    (field.otherSpelling.bind fun other => (lookupEntry other entries).map (other, ·))

/-- What is wrong with a field of a record. -/
def defects (entries : List (String × Value F)) (field : Field) : List Problem :=
  match field.given? entries with
  | some (key, value) => field.defectsIn key value
  | none => if field = .name then [⟨.entry field.spelling, .missing⟩] else []

end Field

namespace Definition

/-- Whether a key gives no field: it is not the first spelling of one, nor the second spelling of
one that is not given by the first. -/
def isExtra (entries : List (String × Value F)) (key : String) : Bool :=
  !Field.all.any fun field =>
    field.spelling == key ||
      field.otherSpelling == some key && (lookupEntry field.spelling entries).isNone

/-- The keys of a record that give no field, in its order. -/
def extraKeys (entries : List (String × Value F)) : List String :=
  (entries.map Prod.fst).filter (isExtra entries)

/-- What is wrong with a record: the defects of its fields, then the keys that give none. -/
def defects (entries : List (String × Value F)) : List Problem :=
  Field.all.flatMap (Field.defects entries) ++
    (extraKeys entries).map fun key => ⟨.entry key, .unknownKey⟩

/-- That a record is a definition. -/
structure Valid (entries : List (String × Value F)) : Prop where
  /-- It has a name. -/
  named : (lookupEntry Field.name.spelling entries).isSome
  /-- Each field has a value that it may have, in each spelling. -/
  accepted : ∀ field : Field, ∀ spelling ∈ field.spellings, ∀ value,
    lookupEntry spelling entries = some value → field.accepts value = true
  /-- There are no other keys. -/
  known : ∀ key ∈ entries.map Prod.fst, ∃ field : Field, key ∈ field.spellings
  /-- No field is given in both spellings. -/
  once : ∀ field : Field, ∀ other ∈ field.otherSpelling,
    ¬ ((lookupEntry field.spelling entries).isSome ∧ (lookupEntry other entries).isSome)

end Definition

/-- To list something for every item that fails a test is to keep these items first. -/
theorem flatMap_ite_eq_map_filter {α β : Type} (test : α → Bool) (make : α → β) (items : List α) :
    items.flatMap (fun item => if test item then [] else [make item]) =
      (items.filter fun item => !test item).map make := by
  induction items with
  | nil => rfl
  | cons item rest ih =>
    rw [List.flatMap_cons, ih, List.filter_cons]
    cases test item <;> rfl

namespace Field

/-- Every field is among all fields. -/
theorem mem_all (field : Field) : field ∈ all := by cases field <;> decide

/-- A key spells a field in its first spelling or in its second one. -/
theorem mem_spellings_iff (field : Field) (key : String) :
    key ∈ field.spellings ↔ field.spelling = key ∨ field.otherSpelling = some key := by
  rw [spellings, List.mem_cons, Option.mem_toList, eq_comm]

/-- The two spellings of a field are different. -/
theorem otherSpelling_ne (field : Field) : field.otherSpelling ≠ some field.spelling := by
  cases field <;> decide

/-- A key is the spelling of one field only. -/
theorem eq_of_mem_spellings {field other : Field} {key : String} (one : key ∈ field.spellings)
    (another : key ∈ other.spellings) : field = other := by
  have apart : ∀ field other : Field, ∀ key ∈ field.spellings, key ∈ other.spellings →
      field = other := by
    intro field other
    cases field <;> cases other <;> decide
  exact apart field other key one another

/-- The entry of a field is the one that gives the field. -/
theorem entry?_eq_given? (entries : List (String × Value F)) (field : Field) :
    field.entry? entries = field.given? entries := by
  unfold entry? given? spellings
  cases first : lookupEntry field.spelling entries with
  | some value => simp [first]
  | none =>
    cases field.otherSpelling with
    | none => simp [first]
    | some other => cases second : lookupEntry other entries <;> simp [first, second]

/-- No item of a list has a defect exactly when all are texts. -/
theorem itemDefects_eq_nil_iff (key : String) (items : List (Value F)) :
    itemDefects key items = [] ↔ items.all Value.isText = true := by
  have counted : items.all Value.isText = items.zipIdx.all fun item => item.1.isText := by
    conv_lhs => rw [← List.zipIdx_map_fst 0 items, List.all_map]
    rfl
  rw [itemDefects, List.map_eq_nil_iff, List.filter_eq_nil_iff, counted, List.all_eq_true]
  simp only [Bool.not_eq_true', Bool.not_eq_false]

/-- A value has no defect exactly when the field may have it. -/
theorem defectsIn_eq_nil_iff (field : Field) (key : String) (value : Value F) :
    field.defectsIn key value = [] ↔ field.accepts value = true := by
  refine ⟨fun clean => ?_, fun accepted => if_pos accepted⟩
  by_contra refused
  unfold defectsIn at clean
  rw [if_neg refused] at clean
  split at clean
  · exact refused ((itemDefects_eq_nil_iff key _).mp clean)
  · exact refused ((itemDefects_eq_nil_iff key _).mp clean)
  · exact refused ((itemDefects_eq_nil_iff key _).mp clean)
  · cases clean

/-- The two fields that hold truth values have the same defects. -/
theorem defectsIn_flag {field : Field} (flag : field = .required ∨ field = .multi) (key : String)
    (value : Value F) :
    field.defectsIn key value =
      if value.isFlag then []
      else [⟨.entry key, if value.resemblesFlag then .unclearFlag else .notAFlag⟩] := by
  rcases flag with rfl | rfl <;> cases value <;> rfl

/-- The entry that gives a field has one of its spellings. -/
theorem given?_eq_some {field : Field} (entries : List (String × Value F))
    {entry : String × Value F} (given : field.given? entries = some entry) :
    entry.1 ∈ field.spellings ∧ lookupEntry entry.1 entries = some entry.2 := by
  rw [given?, Option.or_eq_some_iff] at given
  rcases given with first | ⟨-, second⟩
  · obtain ⟨value, found, rfl⟩ := Option.map_eq_some_iff.mp first
    exact ⟨(field.mem_spellings_iff _).mpr (.inl rfl), found⟩
  · obtain ⟨other, spelled, mapped⟩ := Option.bind_eq_some_iff.mp second
    obtain ⟨value, found, rfl⟩ := Option.map_eq_some_iff.mp mapped
    exact ⟨(field.mem_spellings_iff _).mpr (.inr spelled), found⟩

/-- An entry with a spelling of a field gives the field, if there are not entries with both. -/
theorem given?_of_lookup (field : Field) (entries : List (String × Value F))
    (once : ∀ field : Field, ∀ other ∈ field.otherSpelling,
      ¬ ((lookupEntry field.spelling entries).isSome ∧ (lookupEntry other entries).isSome))
    {spelling : String} (known : spelling ∈ field.spellings) {value : Value F}
    (found : lookupEntry spelling entries = some value) :
    field.given? entries = some (spelling, value) := by
  rcases (field.mem_spellings_iff spelling).mp known with rfl | second
  · simp [given?, found]
  · have missing : lookupEntry field.spelling entries = none := by
      by_contra given
      exact once field spelling second
        ⟨Option.isSome_iff_ne_none.mpr given, Option.isSome_iff_exists.mpr ⟨value, found⟩⟩
    simp [given?, missing, second, found]

/-- No field complains of an unknown key. -/
theorem complaint_ne_unknownKey (field : Field) (value : Value F) :
    field.complaint value ≠ .unknownKey := by
  cases field <;> cases value <;> simp only [complaint, ne_eq, reduceCtorEq, not_false_eq_true] <;>
    split <;> decide

/-- No item of a list has a defect twice. -/
theorem nodup_itemDefects (key : String) (items : List (Value F)) :
    (itemDefects key items).Nodup := by
  have counted : (items.zipIdx.map Prod.snd).Nodup := by
    rw [List.zipIdx_map_snd]
    exact List.nodup_range'
  have kept : ((items.zipIdx.filter fun item => !item.1.isText).map Prod.snd).Nodup :=
    (List.filter_sublist.map Prod.snd).nodup counted
  have made := kept.map (f := fun index => (⟨.item key index, .notAText⟩ : Problem))
    fun index other same => by simpa using same
  rwa [List.map_map] at made

/-- The defects of a value lie under its key. -/
theorem mem_defectsIn {field : Field} {key : String} {value : Value F} {problem : Problem}
    (wrong : problem ∈ field.defectsIn key value) :
    problem.location.key = key ∧ problem.complaint ≠ .unknownKey := by
  have items : ∀ items : List (Value F), problem ∈ itemDefects key items →
      problem.location.key = key ∧ problem.complaint ≠ .unknownKey := by
    intro items member
    obtain ⟨item, -, rfl⟩ := List.mem_map.mp member
    exact ⟨rfl, nofun⟩
  unfold defectsIn at wrong
  split at wrong
  · cases wrong
  · split at wrong
    · exact items _ wrong
    · exact items _ wrong
    · exact items _ wrong
    · obtain rfl := List.mem_singleton.mp wrong
      exact ⟨rfl, field.complaint_ne_unknownKey value⟩

/-- No value has a defect twice. -/
theorem nodup_defectsIn (field : Field) (key : String) (value : Value F) :
    (field.defectsIn key value).Nodup := by
  unfold defectsIn
  split
  · exact List.nodup_nil
  · split
    · exact nodup_itemDefects key _
    · exact nodup_itemDefects key _
    · exact nodup_itemDefects key _
    · exact List.nodup_singleton _

/-- The defects of a field lie under its spellings. -/
theorem mem_defects {field : Field} {entries : List (String × Value F)} {problem : Problem}
    (wrong : problem ∈ field.defects entries) :
    problem.location.key ∈ field.spellings ∧ problem.complaint ≠ .unknownKey := by
  rw [defects] at wrong
  cases given : field.given? entries with
  | none =>
    rw [given] at wrong
    dsimp only at wrong
    split at wrong
    · obtain rfl := List.mem_singleton.mp wrong
      exact ⟨List.mem_cons_self, nofun⟩
    · cases wrong
  | some entry =>
    rw [given] at wrong
    obtain ⟨under, other⟩ := mem_defectsIn wrong
    exact ⟨under ▸ (given?_eq_some entries given).1, other⟩

/-- No field has a defect twice. -/
theorem nodup_defects (field : Field) (entries : List (String × Value F)) :
    (field.defects entries).Nodup := by
  rw [defects]
  split
  · exact field.nodup_defectsIn _ _
  · split
    · exact List.nodup_singleton _
    · exact List.nodup_nil

/-- A field is read with the defects that it has, if its value is, and if it may only be missing
where nothing is wrong with that. -/
theorem finds_read {α : Type} (field : Field) {missing : Reading α}
    {value : String → Value F → Reading α} (entries : List (String × Value F))
    (absent : missing.Finds
      (if field = .name then [⟨.entry field.spelling, .missing⟩] else []))
    (present : ∀ key found, (value key found).Finds (field.defectsIn key found)) :
    (field.read missing value entries).Finds (field.defects entries) := by
  rw [read, entry?_eq_given?, defects]
  cases field.given? entries with
  | none => exact absent
  | some entry => exact present entry.1 entry.2

end Field

namespace Value

variable (key : String)

/-- A text that has to be filled is read with the defects of a name. -/
theorem finds_readFilledText (value : Value F) :
    (value.readFilledText (.entry key)).Finds (Field.name.defectsIn key value) := by
  cases value with
  | text content =>
    simp only [readFilledText, Field.defectsIn, Field.accepts]
    by_cases empty : content.isEmpty = true
    · simp only [empty, if_true, Bool.not_true, Bool.false_eq_true, if_false]
      exact Reading.finds_refuse _ _
    · simp only [empty, Bool.not_false, if_true]
      exact Reading.finds_accepted content
  | _ => exact Reading.finds_refuse _ _

/-- A text that may be missing is read with the defects of a target. -/
theorem finds_readText? (value : Value F) :
    (value.readText? (.entry key)).Finds (Field.docProperty.defectsIn key value) := by
  cases value <;> first | exact Reading.finds_accepted _ | exact Reading.finds_refuse _ _

/-- A text is read with the defects of the property of a tag. -/
theorem finds_readText (value : Value F) :
    (value.readText (.entry key)).Finds (Field.tagProperty.defectsIn key value) := by
  cases value <;> first | exact Reading.finds_accepted _ | exact Reading.finds_refuse _ _

/-- A function that may be missing is read with the defects of a default. -/
theorem finds_readFunction? (value : Value F) :
    (value.readFunction? (.entry key)).Finds (Field.defaultFn.defectsIn key value) := by
  cases value <;> first | exact Reading.finds_accepted _ | exact Reading.finds_refuse _ _

/-- A word is read as a truth value if it is one of the known ones. -/
theorem isSome_flagOfWord? (word : String) :
    (flagOfWord? word).isSome = (.text word : Value F).isFlag := by
  simp only [flagOfWord?, isFlag, List.any_append]
  split
  · simp [*]
  · split <;> simp [*]

/-- A whole number is read as a truth value if it is zero or one, and is unclear if it fits. -/
theorem finds_number (location : Location) (number : Int) (fits : Bool) :
    (if number = 0 then .accepted false
      else if number = 1 then .accepted true
      else if fits then .refuse location .unclearFlag
      else .refuse location .notAFlag : Reading Bool).Finds
        (if number == 0 || number == 1 then []
        else [⟨location, if fits then .unclearFlag else .notAFlag⟩]) := by
  by_cases zero : number = 0
  · subst zero
    exact Reading.finds_accepted false
  by_cases one : number = 1
  · subst one
    exact Reading.finds_accepted true
  have neither : (number == 0 || number == 1) = false := by simp [zero, one]
  rw [if_neg zero, if_neg one, neither]
  cases fits <;> exact Reading.finds_refuse _ _

/-- What reading a truth value finds. -/
theorem finds_readFlag (value : Value F) :
    (value.readFlag (.entry key)).Finds
      (if value.isFlag then []
      else [⟨.entry key, if value.resemblesFlag then .unclearFlag else .notAFlag⟩]) := by
  cases value with
  | bool flag => exact Reading.finds_accepted flag
  | text word =>
    rw [← isSome_flagOfWord?]
    simp only [readFlag]
    cases flagOfWord? word with
    | some flag => exact Reading.finds_accepted flag
    | none => exact Reading.finds_refuse _ _
  | int number =>
    have found := finds_number (.entry key) number (Value.int number : Value F).resemblesFlag
    simpa only [readFlag, isFlag, resemblesFlag, decide_eq_true_eq] using found
  | float number =>
    cases whole : number.toInt? with
    | none =>
      simp only [readFlag, isFlag, resemblesFlag, whole]
      exact Reading.finds_refuse _ _
    | some value =>
      have found := finds_number (.entry key) value (decide (value.natAbs < Nat.pow 2 63))
      simpa only [readFlag, isFlag, resemblesFlag, whole, Option.some_beq_some, Option.any_some,
        decide_eq_true_eq] using found
  | _ => exact Reading.finds_refuse _ _

/-- What reading an item of a list finds. -/
theorem finds_readItem (index : Nat) (value : Value F) :
    (value.readText (.item key index)).Finds
      (if value.isText then [] else [⟨.item key index, .notAText⟩]) := by
  cases value <;> first | exact Reading.finds_accepted _ | exact Reading.finds_refuse _ _

/-- What reading a list of texts finds. -/
theorem finds_readItems (items : List (Value F)) :
    (Reading.ofItems (fun index => Value.readText (.item key index)) 0 items).Finds
      (Field.itemDefects key items) := by
  have found := Reading.finds_ofItems (fun item index => finds_readItem key index item) items 0
  rwa [flatMap_ite_eq_map_filter] at found

/-- Texts are read with the defects of aliases. -/
theorem finds_readTexts (value : Value F) :
    (value.readTexts key).Finds (Field.aliases.defectsIn key value) := by
  cases value with
  | list items | tuple items | set items =>
    have found := finds_readItems key items
    show (Reading.ofItems _ 0 items).Finds
      (if items.all isText = true then [] else Field.itemDefects key items)
    by_cases texts : items.all isText = true
    · rwa [if_pos texts, ← (Field.itemDefects_eq_nil_iff key items).mpr texts]
    · rwa [if_neg texts]
  | _ => exact Reading.finds_refuse _ _

end Value

namespace Definition

variable (entries : List (String × Value F))

/-- A record is read with the defects of its fields. -/
theorem finds_readFields :
    (readFields entries).Finds (Field.all.flatMap (Field.defects entries)) := by
  have name := Field.name.finds_read entries (Reading.finds_refuse _ _)
    (Value.finds_readFilledText (F := F))
  have docProperty := Field.docProperty.finds_read entries (Reading.finds_accepted none)
    Value.finds_readText?
  have tagProperty := Field.tagProperty.finds_read entries (Reading.finds_accepted "description")
    Value.finds_readText
  have flag := fun (field : Field) (flag : field = .required ∨ field = .multi) =>
    field.finds_read entries
      (by rcases flag with rfl | rfl <;> exact Reading.finds_accepted false)
      fun key value => by simpa only [Field.defectsIn_flag flag] using Value.finds_readFlag key value
  have required := flag .required (.inl rfl)
  have multi := flag .multi (.inr rfl)
  have defaultFn := Field.defaultFn.finds_read entries (Reading.finds_accepted none)
    Value.finds_readFunction?
  have transforms := Field.transforms.finds_read entries (Reading.finds_accepted .null)
    (fun _ => Reading.finds_accepted)
  have aliases := Field.aliases.finds_read entries (Reading.finds_accepted [])
    Value.finds_readTexts
  have all := (((((((name.map Definition.mk).also docProperty).also tagProperty).also
    required).also multi).also defaultFn).also transforms).also aliases
  simpa only [readFields, Field.all, List.flatMap_cons, List.flatMap_nil, List.append_nil,
    List.append_assoc] using all

/-- The keys that give no field are those that are no spelling of one, and the second spellings of
fields that are given by the first. -/
theorem isGivenBy_eq {key : String} (present : key ∈ entries.map Prod.fst) :
    Field.isGivenBy entries key = !isExtra entries key := by
  have here : (lookupEntry key entries).isSome := (lookupEntry_isSome_iff key entries).mpr present
  rw [isExtra, Bool.not_not, Field.isGivenBy]
  congr 1
  funext field
  rw [Field.entry?_eq_given?, Field.given?]
  cases first : lookupEntry field.spelling entries with
  | some value => simp
  | none =>
    -- The key is there, so it is not the first spelling, which is missing.
    have apart : (field.spelling == key) = false := by
      rw [beq_eq_false_iff_ne]
      rintro rfl
      simp [first] at here
    rw [apart]
    cases field.otherSpelling with
    | none => simp
    | some other =>
      by_cases same : other = key
      · subst same
        obtain ⟨value, found⟩ := Option.isSome_iff_exists.mp here
        simp [found]
      · cases second : lookupEntry other entries <;> simp [second, same]

/-- The unknown keys of a record are its extra ones, in their order. -/
theorem unknownKeys_eq :
    unknownKeys entries = (extraKeys entries).map fun key => ⟨.entry key, .unknownKey⟩ := by
  rw [unknownKeys, extraKeys, List.filter_map, List.map_map]
  have same : ∀ entry ∈ entries, (!Field.isGivenBy entries entry.1) = isExtra entries entry.1 := by
    intro entry inside
    rw [isGivenBy_eq entries (List.mem_map_of_mem inside), Bool.not_not]
  rw [List.filter_congr same]
  rfl

/-- A record is read with its defects. -/
theorem finds_read : (read entries).Finds (defects entries) := by
  rw [read, defects, unknownKeys_eq]
  exact (finds_readFields entries).noting _

/-- A key that gives a field is its first spelling, or its second one where the first is missing. -/
theorem isExtra_eq_false_iff (key : String) :
    isExtra entries key = false ↔ ∃ field : Field, field.spelling = key ∨
      field.otherSpelling = some key ∧ lookupEntry field.spelling entries = none := by
  simp only [isExtra, Bool.not_eq_false', List.any_eq_true, Field.mem_all, true_and,
    Bool.or_eq_true, Bool.and_eq_true, beq_iff_eq, Option.isNone_iff_eq_none]

/-- A record has no defects exactly when no field has any and every key gives a field. -/
theorem defects_eq_nil_iff :
    defects entries = [] ↔ (∀ field : Field, field.defects entries = []) ∧
      ∀ key ∈ entries.map Prod.fst, isExtra entries key = false := by
  simp only [defects, extraKeys, List.append_eq_nil_iff, List.flatMap_eq_nil_iff, Field.mem_all,
    true_implies, List.map_eq_nil_iff, List.filter_eq_nil_iff, Bool.not_eq_true]

variable {entries}

/-- A valid record has no defects. -/
theorem Valid.defects_eq_nil (valid : Valid entries) : defects entries = [] := by
  refine (defects_eq_nil_iff entries).mpr ⟨fun field => ?_, fun key present => ?_⟩
  · rw [Field.defects]
    cases given : field.given? entries with
    | none =>
      have unnamed : field ≠ .name := by
        rintro rfl
        obtain ⟨value, found⟩ := Option.isSome_iff_exists.mp valid.named
        simp [Field.given?, found] at given
      exact if_neg unnamed
    | some entry =>
      obtain ⟨known, found⟩ := Field.given?_eq_some entries given
      exact (field.defectsIn_eq_nil_iff _ _).mpr (valid.accepted field _ known _ found)
  · obtain ⟨field, known⟩ := valid.known key present
    refine (isExtra_eq_false_iff entries key).mpr ⟨field, ?_⟩
    rcases (field.mem_spellings_iff key).mp known with first | second
    · exact .inl first
    · have here := (lookupEntry_isSome_iff key entries).mpr present
      refine .inr ⟨second, ?_⟩
      by_contra given
      exact valid.once field key second ⟨Option.isSome_iff_ne_none.mpr given, here⟩

/-- A record without defects is valid. -/
theorem valid_of_defects_eq_nil (clean : defects entries = []) : Valid entries := by
  obtain ⟨fields, keys⟩ := (defects_eq_nil_iff entries).mp clean
  -- Of two spellings of one field, the second one would be an extra key.
  have once : ∀ field : Field, ∀ other ∈ field.otherSpelling,
      ¬ ((lookupEntry field.spelling entries).isSome ∧ (lookupEntry other entries).isSome) := by
    rintro field other second ⟨both, present⟩
    have here := (lookupEntry_isSome_iff other entries).mp present
    obtain ⟨owner, gives⟩ := (isExtra_eq_false_iff entries other).mp (keys other here)
    have owned : other ∈ owner.spellings :=
      (owner.mem_spellings_iff other).mpr (gives.imp_right And.left)
    obtain rfl : owner = field :=
      Field.eq_of_mem_spellings owned ((field.mem_spellings_iff other).mpr (.inr second))
    rcases gives with first | ⟨-, missing⟩
    · exact owner.otherSpelling_ne (first ▸ second)
    · simp [missing] at both
  refine ⟨?_, fun field spelling known value found => ?_, fun key present => ?_, once⟩
  · by_contra unnamed
    have missing := fields .name
    rw [Option.not_isSome_iff_eq_none] at unnamed
    simp [Field.defects, Field.given?, unnamed, Field.otherSpelling] at missing
  · have given := Field.given?_of_lookup field entries once known found
    have none := fields field
    rw [Field.defects, given] at none
    exact (field.defectsIn_eq_nil_iff spelling value).mp none
  · obtain ⟨field, gives⟩ := (isExtra_eq_false_iff entries key).mp (keys key present)
    exact ⟨field, (field.mem_spellings_iff key).mpr (gives.imp_right And.left)⟩

/-- In a record that has each key once, nothing is a defect twice. -/
theorem nodup_defects (distinct : (entries.map Prod.fst).Nodup) : (defects entries).Nodup := by
  refine List.Nodup.append ?_ ?_ ?_
  · refine List.nodup_flatMap.mpr ⟨fun field _ => field.nodup_defects entries, ?_⟩
    have fields : Field.all.Nodup := by decide
    refine fields.imp fun {field other} apart problem one another => ?_
    exact apart (Field.eq_of_mem_spellings (Field.mem_defects one).1 (Field.mem_defects another).1)
  · refine (distinct.filter _).map fun key other same => ?_
    simpa using same
  · intro problem field extra
    obtain ⟨owner, -, wrong⟩ := List.mem_flatMap.mp field
    obtain ⟨key, -, rfl⟩ := List.mem_map.mp extra
    exact (Field.mem_defects wrong).2 rfl

/-- A record is loaded exactly if it is valid. One that is not is refused with the name that it
states and with its defects, each of them once: what is wrong with the fields, in their order, and
the keys that give none. -/
theorem load_record (entries : List (String × Value F)) :
    ((∃ loaded, load (.record entries) = .ok loaded) ↔ Valid entries) ∧
      (¬ Valid entries →
        load (.record entries) =
          .error (.invalidDefinition ((lookupEntry "name" entries).getD .null)
            (defects entries))) ∧
      ((entries.map Prod.fst).Nodup → (defects entries).Nodup) := by
  have found := finds_read entries
  by_cases clean : defects entries = []
  · have valid := valid_of_defects_eq_nil clean
    rw [clean] at found
    obtain ⟨loaded, made⟩ := found.exists_of_nil
    have loads : load (.record entries) = .ok loaded := by simp only [load, made]
    exact ⟨iff_of_true ⟨loaded, loads⟩ valid, fun invalid => absurd valid invalid, nodup_defects⟩
  · have invalid : ¬ Valid entries := fun valid => clean valid.defects_eq_nil
    have made := found.eq_of_ne_nil clean
    have refused : load (.record entries) =
        .error (.invalidDefinition ((lookupEntry "name" entries).getD .null)
          (defects entries)) := by
      simp only [load, made]
      rfl
    refine ⟨iff_of_false ?_ invalid, fun _ => refused, nodup_defects⟩
    rintro ⟨loaded, loads⟩
    cases refused.symm.trans loads

/-- A record without a name, with a number that is too large for a truth value, a word that is none,
aliases that are no texts, a property in both spellings, and a key of its own. -/
def muddled : List (String × Value Unit) :=
  [("multi", .text "maybe"), ("doc_property", .int 3), ("docProperty", .null),
    ("aliases", .list [.text "a", .int 1, .null]), ("extra", .null), ("required", .int 18446744073709551616)]

/-- All of this is said, the fields first. -/
theorem load_muddled :
    ¬ Valid muddled ∧
      load (.record muddled) = .error (.invalidDefinition .null
        [⟨.entry "name", .missing⟩, ⟨.entry "required", .notAFlag⟩, ⟨.entry "multi", .unclearFlag⟩,
          ⟨.item "aliases" 1, .notAText⟩, ⟨.item "aliases" 2, .notAText⟩,
          ⟨.entry "doc_property", .unknownKey⟩, ⟨.entry "extra", .unknownKey⟩]) ∧
      (defects muddled).Nodup := by
  have nameless : ¬ Valid muddled := by
    intro valid
    have named := valid.named
    revert named
    decide
  obtain ⟨-, refused, once⟩ := load_record muddled
  refine ⟨nameless, (refused nameless).trans ?_, once (by decide)⟩
  have listed : defects muddled =
      [⟨.entry "name", .missing⟩, ⟨.entry "required", .notAFlag⟩, ⟨.entry "multi", .unclearFlag⟩,
        ⟨.item "aliases" 1, .notAText⟩, ⟨.item "aliases" 2, .notAText⟩,
        ⟨.entry "doc_property", .unknownKey⟩, ⟨.entry "extra", .unknownKey⟩] := by decide
  rw [listed]
  rfl

end Definition

end TagBinding
