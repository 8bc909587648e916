import TagBinding.Proofs.Validation
import TagBinding.Stock.Standard

/-!
# Records of a definition

A definition can be written down as a record in many ways: in any order, with either spelling of a
field, and without the fields that have their default values (`Definition.entries`). Whichever way
is taken, the record is loaded as the definition (`Definition.load_entries`).

Two records that differ in spelling and order only (`Definition.Respells`) state the same values for
the fields. They are therefore read alike (`Reading.Alike`): as the same definition, or with the
same complaints, at places that are spelled as each of them spells them.
-/
namespace TagBinding

variable {F : Type}

namespace Reading

variable {α β : Type}

/-- That two readings come to the same, except for the places at which something is wrong. -/
inductive Alike : Reading α → Reading α → Prop where
  /-- Both give the same value. -/
  | accepted (value : α) : Alike (.accepted value) (.accepted value)
  /-- Both are refused with the same complaints. -/
  | refused {problems others : List Problem}
    (same : problems.map Problem.complaint = others.map Problem.complaint) :
    Alike (.refused problems) (.refused others)

/-- Of two parts that are accepted together each is accepted. -/
theorem exists_of_also {first : Reading (α → β)} {second : Reading α} {whole : β}
    (made : first.also second = .accepted whole) :
    ∃ change part, first = .accepted change ∧ second = .accepted part ∧ change part = whole := by
  cases first with
  | refused problems => cases second <;> cases made
  | accepted change =>
    cases second with
    | refused problems => cases made
    | accepted part => exact ⟨change, part, rfl, rfl, accepted.inj made⟩

/-- A changed reading that is accepted was accepted. -/
theorem exists_of_map {change : α → β} {reading : Reading α} {whole : β}
    (made : reading.map change = .accepted whole) :
    ∃ part, reading = .accepted part ∧ change part = whole := by
  cases reading with
  | refused problems => cases made
  | accepted part => exact ⟨part, rfl, accepted.inj made⟩

namespace Alike

variable {one other : Reading α}

/-- A reading is like itself. -/
@[refl] theorem refl (reading : Reading α) : reading.Alike reading := by
  cases reading with
  | accepted value => exact .accepted value
  | refused problems => exact .refused rfl

/-- Refusals with the same complaint are alike. -/
theorem refuse (here there : Location) (complaint : Complaint) :
    (Reading.refuse here complaint : Reading α).Alike (.refuse there complaint) := .refused rfl

/-- Readings that are alike stay alike when what they accept is changed. -/
theorem map (alike : one.Alike other) (change : α → β) :
    (one.map change).Alike (other.map change) := by
  cases alike with
  | accepted value => exact .accepted (change value)
  | refused same => exact .refused same

/-- Two parts that are alike make readings that are alike. -/
theorem also {first second : Reading (α → β)} (alike : first.Alike second)
    (parts : one.Alike other) : (first.also one).Alike (second.also other) := by
  cases alike with
  | accepted change =>
    cases parts with
    | accepted value => exact .accepted (change value)
    | refused same => exact .refused same
  | refused same =>
    cases parts with
    | accepted value => exact .refused same
    | refused more => exact .refused (by rw [List.map_append, List.map_append, same, more])

/-- Readings that are alike stay alike under further problems with the same complaints. -/
theorem noting (alike : one.Alike other) {more others : List Problem}
    (same : more.map Problem.complaint = others.map Problem.complaint) :
    (one.noting more).Alike (other.noting others) := by
  cases alike with
  | accepted value =>
    cases more <;> cases others
    · exact .accepted value
    · cases same
    · cases same
    · exact .refused same
  | refused before => exact .refused (by rw [List.map_append, List.map_append, before, same])

/-- Lists are read alike if their items are. -/
theorem ofItems {ι : Type} {read again : Nat → ι → Reading α}
    (each : ∀ index item, (read index item).Alike (again index item)) (start : Nat)
    (items : List ι) :
    (Reading.ofItems read start items).Alike (Reading.ofItems again start items) := by
  induction items generalizing start with
  | nil => exact .accepted []
  | cons item rest ih => exact ((each start item).map List.cons).also (ih (start + 1))

end Alike

end Reading

open Reading

namespace Value

variable (value : Value F) (here there : Location)

/-- A text is read alike wherever it stands. -/
theorem readText_alike : (value.readText here).Alike (value.readText there) := by
  cases value with
  | text content => exact .accepted content
  | _ => exact .refuse here there _

/-- A text that has to be filled is read alike wherever it stands. -/
theorem readFilledText_alike : (value.readFilledText here).Alike (value.readFilledText there) := by
  cases value with
  | text content =>
    simp only [readFilledText]
    split
    · exact .refuse here there _
    · exact .accepted content
  | _ => exact .refuse here there _

/-- A text that is read where one has to be filled is not empty. -/
theorem ne_of_readFilledText {value : Value F} {location : Location} {content : String}
    (read : value.readFilledText location = .accepted content) : content ≠ "" := by
  cases value with
  | text held =>
    simp only [readFilledText] at read
    split at read
    · cases read
    · next filled =>
      obtain rfl := Reading.accepted.inj read
      simpa using filled
  | _ => cases read

/-- A text that may be missing is read alike wherever it stands. -/
theorem readText?_alike : (value.readText? here).Alike (value.readText? there) := by
  cases value with
  | null => exact .accepted none
  | text content => exact .accepted (some content)
  | _ => exact .refuse here there _

/-- A function that may be missing is read alike wherever it stands. -/
theorem readFunction?_alike : (value.readFunction? here).Alike (value.readFunction? there) := by
  cases value with
  | null => exact .accepted none
  | function symbol => exact .accepted (some symbol)
  | _ => exact .refuse here there _

/-- A truth value is read alike wherever it stands. -/
theorem readFlag_alike : (value.readFlag here).Alike (value.readFlag there) := by
  unfold readFlag
  repeat' split
  all_goals first | exact .accepted _ | exact .refuse here there _

/-- Texts are read alike under every key. -/
theorem readTexts_alike (key other : String) :
    (value.readTexts key).Alike (value.readTexts other) := by
  cases value with
  | list items | tuple items | set items =>
    exact .ofItems (fun index item => item.readText_alike _ _) 0 items
  | _ => exact .refuse _ _ _

end Value

/-- Records that state the same value for a field give it alike, if the value is read alike under
every key. -/
theorem Field.read_alike {α : Type} (field : Field) (missing : Reading α)
    {value : String → Value F → Reading α} {first second : List (String × Value F)}
    (same : (field.given? first).map Prod.snd = (field.given? second).map Prod.snd)
    (each : ∀ key other found, (value key found).Alike (value other found)) :
    (field.read missing value first).Alike (field.read missing value second) := by
  rw [Field.read, Field.read, Field.entry?_eq_given?, Field.entry?_eq_given?]
  cases one : field.given? first with
  | none =>
    rw [one, Option.map_none, eq_comm, Option.map_eq_none_iff] at same
    rw [same]
  | some entry =>
    rw [one, Option.map_some, eq_comm, Option.map_eq_some_iff] at same
    obtain ⟨other, given, equal⟩ := same
    rw [given]
    dsimp only
    rw [equal]
    exact each _ _ _

namespace Definition

/-- That a record has each key once, and no field in two spellings. -/
structure SpelledOnce (entries : List (String × Value F)) : Prop where
  /-- No key occurs twice. -/
  distinct : (entries.map Prod.fst).Nodup
  /-- No field is given in both spellings. -/
  once : ∀ field : Field, ∀ other ∈ field.otherSpelling,
    ¬ ((lookupEntry field.spelling entries).isSome ∧ (lookupEntry other entries).isSome)

/-- That one record is another one in another order, with other spellings of its fields. -/
def Respells (first second : List (String × Value F)) : Prop :=
  ∃ respelled : String → String,
    (∀ key, respelled key = key ∨
      ∃ field : Field, key ∈ field.spellings ∧ respelled key ∈ field.spellings) ∧
    second.Perm (first.map fun entry => (respelled entry.1, entry.2))

/-- Whether a key is no spelling of a field. -/
def isForeign (key : String) : Bool := Field.all.all fun field => key ∉ field.spellings

/-- What is written down for a field. The aliases may be a list or a tuple. -/
def content (definition : Definition F) (asTuple : Bool) : Field → Value F
  | .name => .text definition.name
  | .docProperty => .ofText? definition.docProperty
  | .tagProperty => .text definition.tagProperty
  | .required => .bool definition.required
  | .multi => .bool definition.multi
  | .defaultFn => definition.defaultFn.elim .null .function
  | .transforms => definition.transforms
  | .aliases =>
    if asTuple then .tuple (definition.aliases.map .text)
    else .list (definition.aliases.map .text)

/-- That a field has the value that it has when it is left out. A name cannot be left out. -/
def HasDefault (definition : Definition F) : Field → Prop
  | .name => False
  | .docProperty => definition.docProperty = none
  | .tagProperty => definition.tagProperty = "description"
  | .required => definition.required = false
  | .multi => definition.multi = false
  | .defaultFn => definition.defaultFn = none
  | .transforms => definition.transforms = .null
  | .aliases => definition.aliases = []

/-- A definition written down as a record of some fields, in an order and with spellings of one's
choice. -/
def entries (definition : Definition F) (spelled : Field → String) (asTuple : Bool)
    (fields : List Field) : List (String × Value F) :=
  fields.map fun field => (spelled field, definition.content asTuple field)

/-- A key is foreign if it spells no field. -/
theorem isForeign_eq_true_iff (key : String) :
    isForeign key = true ↔ ∀ field : Field, key ∉ field.spellings := by
  simp only [isForeign, List.all_eq_true, Field.mem_all, true_implies, decide_eq_true_eq]

namespace SpelledOnce

variable {entries : List (String × Value F)} (single : SpelledOnce entries)

include single

/-- A value is stated for a field if it stands under one of its spellings. -/
theorem given?_iff (field : Field) (value : Value F) :
    (field.given? entries).map Prod.snd = some value ↔
      ∃ key ∈ field.spellings, (key, value) ∈ entries := by
  rw [Option.map_eq_some_iff]
  constructor
  · rintro ⟨⟨key, found⟩, given, rfl⟩
    obtain ⟨known, there⟩ := Field.given?_eq_some entries given
    exact ⟨key, known, (lookupEntry_eq_some_iff single.distinct key found).mp there⟩
  · rintro ⟨key, known, inside⟩
    have there := (lookupEntry_eq_some_iff single.distinct key value).mpr inside
    exact ⟨(key, value), field.given?_of_lookup entries single.once known there, rfl⟩

/-- The extra keys are those that are no spelling of a field. -/
theorem isExtra_eq {key : String} (present : key ∈ entries.map Prod.fst) :
    isExtra entries key = isForeign key := by
  have here := (lookupEntry_isSome_iff key entries).mpr present
  rw [Bool.eq_iff_iff, ← not_iff_not, Bool.not_eq_true, isExtra_eq_false_iff,
    isForeign_eq_true_iff, not_forall_not]
  refine exists_congr fun field => ?_
  rw [field.mem_spellings_iff]
  refine or_congr_right (and_iff_left_of_imp fun second => ?_)
  by_contra given
  exact single.once field key second ⟨Option.isSome_iff_ne_none.mpr given, here⟩

/-- There are as many extra keys as keys that are no spelling of a field. -/
theorem length_extraKeys :
    (extraKeys entries).length = (entries.map Prod.fst).countP isForeign := by
  rw [extraKeys, List.filter_congr fun key present => single.isExtra_eq present,
    List.countP_eq_length_filter]

end SpelledOnce

/-- The name that a record states is what it states for the field. -/
theorem statedName_eq (entries : List (String × Value F)) :
    statedName entries = ((Field.name.given? entries).map Prod.snd).getD .null := by
  have alone : Field.name.otherSpelling = none := rfl
  rw [statedName, Field.given?, alone, Option.bind_none, Option.or_none, Option.map_map]
  exact congrArg (Option.getD · _) Option.map_id'.symm

section Respells

variable {first second : List (String × Value F)}

/-- A record in other spellings states the same values. -/
theorem Respells.stated_eq (respells : Respells first second) (one : SpelledOnce first)
    (other : SpelledOnce second) (field : Field) :
    (field.given? first).map Prod.snd = (field.given? second).map Prod.snd := by
  obtain ⟨respelled, same, order⟩ := respells
  have spells : ∀ key, respelled key ∈ field.spellings ↔ key ∈ field.spellings := by
    intro key
    rcases same key with equal | ⟨owner, old, new⟩
    · rw [equal]
    · constructor
      · exact fun known => Field.eq_of_mem_spellings new known ▸ old
      · exact fun known => Field.eq_of_mem_spellings old known ▸ new
  ext value
  rw [one.given?_iff, other.given?_iff]
  constructor
  · rintro ⟨key, known, inside⟩
    exact ⟨respelled key, (spells key).mpr known,
      order.mem_iff.mpr (List.mem_map.mpr ⟨(key, value), inside, rfl⟩)⟩
  · rintro ⟨key, known, inside⟩
    obtain ⟨⟨old, held⟩, there, equal⟩ := List.mem_map.mp (order.mem_iff.mp inside)
    obtain ⟨rfl, rfl⟩ := Prod.mk.inj equal
    exact ⟨old, (spells old).mp known, there⟩

/-- A record in other spellings has as many extra keys. -/
theorem Respells.length_extraKeys (respells : Respells first second) (one : SpelledOnce first)
    (other : SpelledOnce second) :
    (extraKeys first).length = (extraKeys second).length := by
  obtain ⟨respelled, same, order⟩ := respells
  have foreign : ∀ key, isForeign (respelled key) = isForeign key := by
    intro key
    rcases same key with equal | ⟨field, old, new⟩
    · rw [equal]
    · have known : ∀ key ∈ field.spellings, isForeign key = false := fun key known =>
        Bool.eq_false_iff.mpr fun all => (isForeign_eq_true_iff key).mp all field known
      rw [known key old, known _ new]
  rw [one.length_extraKeys, other.length_extraKeys, (order.map Prod.fst).countP_eq,
    List.countP_map, List.countP_map, List.countP_map]
  exact List.countP_congr fun entry _ => by simp only [Function.comp, foreign]

/-- Records that state the same values for all fields are read alike. -/
theorem readFields_alike
    (same : ∀ field : Field,
      (field.given? first).map Prod.snd = (field.given? second).map Prod.snd) :
    (readFields first).Alike (readFields second) := by
  have name := Field.name.read_alike (.refuse (.entry Field.name.spelling) .missing) (same .name)
    fun key other found => found.readFilledText_alike (.entry key) (.entry other)
  have docProperty := Field.docProperty.read_alike (.accepted none) (same .docProperty)
    fun key other found => found.readText?_alike (.entry key) (.entry other)
  have tagProperty := Field.tagProperty.read_alike (.accepted "description") (same .tagProperty)
    fun key other found => found.readText_alike (.entry key) (.entry other)
  have flag := fun field : Field => field.read_alike (.accepted false) (same field)
    fun key other found => found.readFlag_alike (.entry key) (.entry other)
  have defaultFn := Field.defaultFn.read_alike (.accepted none) (same .defaultFn)
    fun key other found => found.readFunction?_alike (.entry key) (.entry other)
  have transforms := Field.transforms.read_alike (.accepted .null) (same .transforms)
    fun _ _ found => .accepted found
  have aliases := Field.aliases.read_alike (.accepted []) (same .aliases)
    fun key other found => found.readTexts_alike key other
  exact (((((((name.map Definition.mk).also docProperty).also tagProperty).also
    (flag .required)).also (flag .multi)).also defaultFn).also transforms).also aliases

/-- A record in other spellings is read alike. -/
theorem Respells.read_alike (respells : Respells first second) (one : SpelledOnce first)
    (other : SpelledOnce second) : (read first).Alike (read second) := by
  refine (readFields_alike (respells.stated_eq one other)).noting ?_
  rw [unknownKeys_eq, unknownKeys_eq, List.map_map, List.map_map]
  -- The complaint about an extra key is the same whatever the key.
  have counted : ∀ keys : List String,
      keys.map (Problem.complaint ∘ fun key => ⟨.entry key, .unknownKey⟩) =
        List.replicate keys.length .unknownKey := fun keys => List.map_const'
  rw [counted, counted, respells.length_extraKeys one other]

/-- A record in other spellings is loaded as the same definition, or refused with the same name and
the same complaints. -/
theorem Respells.load_eq (respells : Respells first second) (one : SpelledOnce first)
    (other : SpelledOnce second) :
    (∃ loaded, load (.record first) = .ok loaded ∧ load (.record second) = .ok loaded) ∨
      ∃ name problems others,
        load (.record first) = .error (.invalidDefinition name problems) ∧
        load (.record second) = .error (.invalidDefinition name others) ∧
        problems.map Problem.complaint = others.map Problem.complaint := by
  have alike := respells.read_alike one other
  have named : statedName first = statedName second := by
    rw [statedName_eq, statedName_eq, respells.stated_eq one other]
  simp only [load, named]
  generalize read first = former at alike
  generalize read second = latter at alike
  cases alike with
  | accepted loaded => exact .inl ⟨loaded, rfl, rfl⟩
  | refused same => exact .inr ⟨_, _, _, rfl, rfl, same⟩

end Respells

/-- A list of texts is read as these texts. -/
theorem ofItems_texts (key : String) (start : Nat) (texts : List String) :
    Reading.ofItems (fun index => Value.readText (F := F) (.item key index)) start
      (texts.map .text) = .accepted texts := by
  induction texts generalizing start with
  | nil => rfl
  | cons text rest ih =>
    rw [List.map_cons, Reading.ofItems, ih]
    rfl

section Entries

variable (definition : Definition F) {spelled : Field → String} {fields : List Field}
  (known : ∀ field, spelled field ∈ field.spellings) (distinct : fields.Nodup)

include known distinct

/-- A definition is written down with each field in one spelling. -/
theorem spelledOnce_entries (asTuple : Bool) :
    SpelledOnce (definition.entries spelled asTuple fields) := by
  have keys : (definition.entries spelled asTuple fields).map Prod.fst = fields.map spelled := by
    rw [Definition.entries, List.map_map]
    rfl
  have apart : ∀ field other, spelled field ∈ Field.spellings other → field = other :=
    fun field other spells => Field.eq_of_mem_spellings (known field) spells
  refine ⟨?_, ?_⟩
  · rw [keys]
    exact distinct.map fun field other same => apart field other (same ▸ known other)
  · rintro field other second ⟨one, two⟩
    rw [lookupEntry_isSome_iff, keys, List.mem_map] at one two
    obtain ⟨first, -, spelling⟩ := one
    obtain ⟨third, -, spelling'⟩ := two
    obtain rfl := apart first field (spelling ▸ List.mem_cons_self)
    obtain rfl := apart third first
      (spelling' ▸ (first.mem_spellings_iff other).mpr (.inr second))
    exact third.otherSpelling_ne (second.trans (congrArg some (spelling'.symm.trans spelling)))

/-- A field is read as a value if that is what its content is read as, and it has that value when it
is left out. -/
theorem read_entries {α : Type} {asTuple : Bool} (field : Field) {missing : Reading α}
    {value : String → Value F → Reading α} {read : α}
    (left : ∀ field ∉ fields, definition.HasDefault field)
    (content : ∀ key, value key (definition.content asTuple field) = .accepted read)
    (default : definition.HasDefault field → missing = .accepted read) :
    field.read missing value (definition.entries spelled asTuple fields) = .accepted read := by
  have single := definition.spelledOnce_entries known distinct asTuple
  rw [Field.read, Field.entry?_eq_given?]
  by_cases written : field ∈ fields
  · have inside : (spelled field, definition.content asTuple field) ∈
        definition.entries spelled asTuple fields := List.mem_map_of_mem written
    have there := (lookupEntry_eq_some_iff single.distinct _ _).mpr inside
    rw [field.given?_of_lookup _ single.once (known field) there]
    exact content _
  · have absent : field.given? (definition.entries spelled asTuple fields) = none := by
      refine Option.eq_none_iff_forall_ne_some.mpr fun entry given => ?_
      obtain ⟨spells, there⟩ := Field.given?_eq_some _ given
      obtain ⟨other, inside, same⟩ := List.mem_map.mp
        ((lookupEntry_eq_some_iff single.distinct _ _).mp there)
      rw [← congrArg Prod.fst same] at spells
      exact written (Field.eq_of_mem_spellings (known other) spells ▸ inside)
    rw [absent]
    exact default (left field written)

end Entries

/-- A definition that is loaded from a record has a name. -/
theorem name_ne_of_load {raw : List (String × Value F)} {definition : Definition F}
    (loaded : load (.record raw) = .ok definition) : definition.name ≠ "" := by
  have fields : readFields raw = .accepted definition := by
    cases given : readFields raw with
    | accepted value =>
      cases extra : unknownKeys raw with
      | nil =>
        simp only [load, read, given, extra, Reading.noting, List.isEmpty_nil, if_true] at loaded
        exact congrArg _ (Except.ok.inj loaded)
      | cons problem rest => simp [load, read, given, extra, Reading.noting] at loaded
    | refused problems => simp [load, read, given, Reading.noting] at loaded
  obtain ⟨_, _, others, -, aliases⟩ := exists_of_also fields
  obtain ⟨_, _, others, -, transforms⟩ := exists_of_also others
  obtain ⟨_, _, others, -, defaultFn⟩ := exists_of_also others
  obtain ⟨_, _, others, -, multi⟩ := exists_of_also others
  obtain ⟨_, _, others, -, required⟩ := exists_of_also others
  obtain ⟨_, _, others, -, tagProperty⟩ := exists_of_also others
  obtain ⟨_, _, others, -, docProperty⟩ := exists_of_also others
  obtain ⟨name, first, whole⟩ := exists_of_map others
  subst whole docProperty tagProperty required multi defaultFn transforms aliases
  show name ≠ ""
  rw [Field.read] at first
  cases given : Field.name.entry? raw with
  | none =>
    rw [given] at first
    cases first
  | some entry =>
    rw [given] at first
    exact Value.ne_of_readFilledText first

/-- A definition with a name is loaded from every record in which it is written down. -/
theorem load_entries {definition : Definition F} (named : definition.name ≠ "")
    {spelled : Field → String} (known : ∀ field, spelled field ∈ field.spellings) (asTuple : Bool)
    {fields : List Field} (distinct : fields.Nodup)
    (left : ∀ field ∉ fields, definition.HasDefault field) :
    load (.record (definition.entries spelled asTuple fields)) = .ok definition := by
  let entries := definition.entries spelled asTuple fields
  have name : Field.name.read (.refuse (.entry Field.name.spelling) .missing)
      (fun key => Value.readFilledText (.entry key)) entries = .accepted definition.name :=
    definition.read_entries known distinct .name left (fun key => if_neg (by simpa using named))
      False.elim
  have docProperty : Field.docProperty.read (.accepted none)
      (fun key => Value.readText? (.entry key)) entries = .accepted definition.docProperty := by
    refine definition.read_entries known distinct .docProperty left (fun key => ?_)
      fun default => congrArg _ default.symm
    cases given : definition.docProperty <;> simp [content, given, Value.ofText?, Value.readText?]
  have tagProperty : Field.tagProperty.read (.accepted "description")
      (fun key => Value.readText (.entry key)) entries = .accepted definition.tagProperty :=
    definition.read_entries known distinct .tagProperty left (fun key => rfl)
      fun default => congrArg _ default.symm
  have required : Field.required.read (.accepted false)
      (fun key => Value.readFlag (.entry key)) entries = .accepted definition.required :=
    definition.read_entries known distinct .required left (fun key => rfl)
      fun default => congrArg _ default.symm
  have multi : Field.multi.read (.accepted false)
      (fun key => Value.readFlag (.entry key)) entries = .accepted definition.multi :=
    definition.read_entries known distinct .multi left (fun key => rfl)
      fun default => congrArg _ default.symm
  have defaultFn : Field.defaultFn.read (.accepted none)
      (fun key => Value.readFunction? (.entry key)) entries = .accepted definition.defaultFn := by
    refine definition.read_entries known distinct .defaultFn left (fun key => ?_)
      fun default => congrArg _ default.symm
    cases given : definition.defaultFn <;> simp [content, given, Value.readFunction?]
  have transforms : Field.transforms.read (.accepted .null) (fun _ => .accepted) entries =
      .accepted definition.transforms :=
    definition.read_entries known distinct .transforms left (fun key => rfl)
      fun default => congrArg _ default.symm
  have aliases : Field.aliases.read (.accepted []) Value.readTexts entries =
      .accepted definition.aliases := by
    refine definition.read_entries known distinct .aliases left (fun key => ?_)
      fun default => congrArg _ default.symm
    cases asTuple <;> exact ofItems_texts key 0 definition.aliases
  have fields : readFields entries = .accepted definition := by
    rw [readFields, name, docProperty, tagProperty, required, multi, defaultFn, transforms, aliases]
    cases definition
    rfl
  have single := definition.spelledOnce_entries known distinct asTuple
  have clean : extraKeys entries = [] := by
    refine List.filter_eq_nil_iff.mpr fun key present => ?_
    rw [single.isExtra_eq present, isForeign_eq_true_iff, not_forall_not]
    obtain ⟨entry, inside, rfl⟩ := List.mem_map.mp present
    obtain ⟨field, -, rfl⟩ := List.mem_map.mp inside
    exact ⟨field, known field⟩
  show load (.record entries) = _
  simp only [load, read, fields, unknownKeys_eq, clean, Reading.noting, List.map_nil,
    List.isEmpty_nil, if_true]

/-- The definitions that are loaded from records are those with a name. -/
theorem exists_load_iff (definition : Definition F) :
    (∃ raw, load (.record raw) = .ok definition) ↔ definition.name ≠ "" := by
  constructor
  · rintro ⟨raw, loaded⟩
    exact name_ne_of_load loaded
  · intro named
    have known : ∀ field : Field, field.spelling ∈ field.spellings := fun _ => List.mem_cons_self
    exact ⟨_, load_entries named known false (by decide : Field.all.Nodup)
      fun field absent => absurd field.mem_all absent⟩

/-- Loading undoes writing down. Every definition with a name, and no other, is loaded from some
record. It is then loaded again from every record in which it is written down, with any spellings of
its fields, in any order, and without any of the fields that have their default values. And of two
records that give no field twice and differ in spelling and order only, either both are loaded as
the same definition, or both are refused with the same name and the same complaints. -/
theorem loading_of_written :
    (∀ definition : Definition F,
      (∃ raw, load (.record raw) = .ok definition) ↔ definition.name ≠ "") ∧
    (∀ (raw : List (String × Value F)) (definition : Definition F),
      load (.record raw) = .ok definition →
      ∀ (spelled : Field → String) (asTuple : Bool) (fields : List Field),
        (∀ field, spelled field ∈ field.spellings) → fields.Nodup →
        (∀ field ∉ fields, definition.HasDefault field) →
        load (.record (definition.entries spelled asTuple fields)) = .ok definition) ∧
    (∀ first second : List (String × Value F), SpelledOnce first → SpelledOnce second →
      Respells first second →
      (∃ loaded, load (.record first) = .ok loaded ∧ load (.record second) = .ok loaded) ∨
        ∃ name problems others,
          load (.record first) = .error (.invalidDefinition name problems) ∧
          load (.record second) = .error (.invalidDefinition name others) ∧
          problems.map Problem.complaint = others.map Problem.complaint ∧
          problems.length = others.length) := by
  refine ⟨exists_load_iff, ?_, ?_⟩
  · intro raw definition loaded spelled asTuple fields known distinct left
    exact load_entries (name_ne_of_load loaded) known asTuple distinct left
  · intro first second one other respells
    rcases respells.load_eq one other with both | ⟨name, problems, others, former, latter, same⟩
    · exact .inl both
    · refine .inr ⟨name, problems, others, former, latter, same, ?_⟩
      simpa using congrArg List.length same

/-- The definition of references to other places. -/
def references : Definition Unit :=
  { (plain "see").collecting.onto "links" with aliases := ["ref"] }

/-- The spellings that do not win, where there are any. -/
def otherwiseSpelled (field : Field) : String := field.otherSpelling.getD field.spelling

/-- A record without a name and with two fields that hold something else. -/
def mistyped : List (String × Value Unit) :=
  [("docProperty", .int 3), ("tag_property", .null), ("extra", .null)]

/-- The other spellings of the two fields. -/
def changedSpelling : String → String
  | "docProperty" => "doc_property"
  | "tag_property" => "tagProperty"
  | key => key

/-- The same record in another order and with other spellings. -/
def mistypedOtherwise : List (String × Value Unit) :=
  [("extra", .null), ("tagProperty", .null), ("doc_property", .int 3)]

/-- The definition is loaded from four of its fields in another order, spelled otherwise. The two
records are refused with as many problems each. -/
theorem loading_of_references :
    load (.record [("name", .text "see"), ("multi", .text "Yes"), ("docProperty", .text "links"),
      ("aliases", .set [.text "ref"])]) = .ok references ∧
    load (.record [("aliases", .list [.text "ref"]), ("doc_property", .text "links"),
      ("multi", .bool true), ("name", .text "see")]) = .ok references ∧
    ∃ problems others,
      load (.record mistyped) = .error (.invalidDefinition .null problems) ∧
      load (.record mistypedOtherwise) = .error (.invalidDefinition .null others) ∧
      problems.length = others.length := by
  obtain ⟨-, written, respelled⟩ := loading_of_written (F := Unit)
  have loaded : load (.record [("name", .text "see"), ("multi", .text "Yes"),
      ("docProperty", .text "links"), ("aliases", .set [.text "ref"])]) = .ok references := rfl
  refine ⟨loaded, ?_, ?_⟩
  · refine written _ references loaded otherwiseSpelled false
      [.aliases, .docProperty, .multi, .name] ?_ (by decide) ?_
    · intro field
      cases field <;> decide
    · intro field absent
      cases field <;> first | rfl | exact absurd (by decide) absent
  · have one : SpelledOnce mistyped := ⟨by decide, fun field => by cases field <;> decide⟩
    have other : SpelledOnce mistypedOtherwise :=
      ⟨by decide, fun field => by cases field <;> decide⟩
    have respells : Respells mistyped mistypedOtherwise := by
      refine ⟨changedSpelling, fun key => ?_, ?_⟩
      · unfold changedSpelling
        split
        · exact .inr ⟨.docProperty, by decide, by decide⟩
        · exact .inr ⟨.tagProperty, by decide, by decide⟩
        · exact .inl rfl
      · have reversed : mistypedOtherwise =
            (mistyped.map fun entry => (changedSpelling entry.1, entry.2)).reverse := rfl
        rw [reversed]
        exact List.reverse_perm _
    rcases respelled _ _ one other respells with ⟨_, former, -⟩ |
      ⟨name, problems, others, former, latter, -, same⟩
    · cases former
    · obtain ⟨rfl, -⟩ := Fault.invalidDefinition.inj (Except.error.inj former)
      exact ⟨problems, others, former, latter, same⟩

end Definition

end TagBinding
