/-!
# Tables in order of first insertion

A table maps names to values and remembers the order in which its names first came in.
Writing to a name that is present replaces the value in its place; writing to a new name adds
an entry at the end. So no operation here drops a name or moves one: the names of a table are
a prefix of the names after any write (`Table.keys_prefix_insert`), and only the written name
reads differently afterwards (`Table.get?_insert`).
-/
namespace TagBinding

variable {α : Type}

/-- Write a value in the place of the first entry of its name, or at the end when there is
none. -/
def insertEntry (key : String) (value : α) : List (String × α) → List (String × α)
  | [] => [(key, value)]
  | (name, old) :: rest =>
    if name = key then (key, value) :: rest else (name, old) :: insertEntry key value rest

/-- The value of the first entry of a name. -/
def lookupEntry (key : String) : List (String × α) → Option α
  | [] => none
  | (name, value) :: rest => if name = key then some value else lookupEntry key rest

/-- The names of a list of entries after a write: unchanged when the name is present, one
longer when it is new. -/
theorem map_fst_insertEntry (key : String) (value : α) (entries : List (String × α)) :
    (insertEntry key value entries).map Prod.fst =
      if key ∈ entries.map Prod.fst then entries.map Prod.fst
      else entries.map Prod.fst ++ [key] := by
  induction entries with
  | nil => simp [insertEntry]
  | cons entry rest ih =>
    obtain ⟨name, old⟩ := entry
    by_cases same : name = key
    · simp [insertEntry, same]
    · have other : key ≠ name := fun equal => same equal.symm
      simp only [insertEntry, same, ↓reduceIte, List.map_cons, ih, List.mem_cons, other, false_or]
      split <;> simp

/-- A write is seen under its own name and under no other. -/
theorem lookupEntry_insertEntry (key : String) (value : α) (entries : List (String × α))
    (name : String) :
    lookupEntry name (insertEntry key value entries) =
      if name = key then some value else lookupEntry name entries := by
  induction entries with
  | nil => simp [insertEntry, lookupEntry, eq_comm]
  | cons entry rest ih =>
    obtain ⟨first, old⟩ := entry
    by_cases replaced : first = key
    · subst replaced
      by_cases same : first = name
      · simp [insertEntry, lookupEntry, same]
      · have other : name ≠ first := fun equal => same equal.symm
        simp [insertEntry, lookupEntry, same, other]
    · by_cases same : first = name
      · subst same
        simp [insertEntry, lookupEntry, replaced]
      · simp [insertEntry, lookupEntry, replaced, same, ih]

/-- A name has a value exactly when it is among the names. -/
theorem lookupEntry_isSome_iff (key : String) (entries : List (String × α)) :
    (lookupEntry key entries).isSome ↔ key ∈ entries.map Prod.fst := by
  induction entries with
  | nil => simp [lookupEntry]
  | cons entry rest ih =>
    obtain ⟨name, value⟩ := entry
    by_cases same : name = key
    · simp [lookupEntry, same]
    · have other : key ≠ name := fun equal => same equal.symm
      simp [lookupEntry, same, ih, other]

/-- Where no name occurs twice, the value of a name is the one of its entry. -/
theorem lookupEntry_eq_some_iff {entries : List (String × α)}
    (distinct : (entries.map Prod.fst).Nodup) (key : String) (value : α) :
    lookupEntry key entries = some value ↔ (key, value) ∈ entries := by
  induction entries with
  | nil => simp [lookupEntry]
  | cons entry rest ih =>
    obtain ⟨name, held⟩ := entry
    obtain ⟨fresh, others⟩ := List.nodup_cons.mp distinct
    by_cases same : name = key
    · subst same
      have absent : (name, value) ∉ rest := fun inside =>
        fresh (List.mem_map.mpr ⟨(name, value), inside, rfl⟩)
      simp [lookupEntry, absent, eq_comm]
    · have other : key ≠ name := fun equal => same equal.symm
      simp [lookupEntry, same, other, ih others]

/-- Of two writes to one name only the second one is left. -/
theorem insertEntry_insertEntry (key : String) (first second : α) (entries : List (String × α)) :
    insertEntry key second (insertEntry key first entries) = insertEntry key second entries := by
  induction entries with
  | nil => simp [insertEntry]
  | cons entry rest ih =>
    obtain ⟨name, old⟩ := entry
    by_cases same : name = key
    · simp [insertEntry, same]
    · simp [insertEntry, same, ih]

/-- A write to a name that is present may change places with a write to another name: neither
moves an entry of the other. -/
theorem insertEntry_comm {key other : String} (different : other ≠ key) (first second : α)
    (entries : List (String × α)) (present : key ∈ entries.map Prod.fst) :
    insertEntry other second (insertEntry key first entries) =
      insertEntry key first (insertEntry other second entries) := by
  induction entries with
  | nil => simp at present
  | cons entry rest ih =>
    obtain ⟨name, old⟩ := entry
    by_cases isKey : name = key
    · subst isKey
      simp [insertEntry, different.symm]
    · have below : key ∈ rest.map Prod.fst := by
        rcases List.mem_cons.mp present with here | there
        · exact absurd here.symm isKey
        · exact there
      by_cases isOther : name = other
      · subst isOther
        simp [insertEntry, isKey]
      · simp [insertEntry, isKey, isOther, ih below]

/-- A value under a new name is written at the end. -/
theorem insertEntry_of_not_mem {key : String} {value : α} {entries : List (String × α)}
    (absent : key ∉ entries.map Prod.fst) :
    insertEntry key value entries = entries ++ [(key, value)] := by
  induction entries with
  | nil => rfl
  | cons entry rest ih =>
    obtain ⟨name, old⟩ := entry
    obtain ⟨different, others⟩ := not_or.mp (mt List.mem_cons.mpr absent)
    have apart : ¬ name = key := fun same => different same.symm
    rw [insertEntry, if_neg apart, ih others, List.cons_append]

/-- Names with values, each name once, in order of first insertion. -/
structure Table (α : Type) where
  /-- The entries, oldest name first. -/
  entries : List (String × α)
  /-- No name occurs twice. -/
  nodup : (entries.map Prod.fst).Nodup

namespace Table

/-- The table without entries. -/
def empty : Table α := ⟨[], List.nodup_nil⟩

instance : EmptyCollection (Table α) := ⟨empty⟩

instance : Inhabited (Table α) := ⟨empty⟩

/-- The names of a table, oldest first. -/
def keys (table : Table α) : List String := table.entries.map Prod.fst

/-- The value under a name. -/
def get? (table : Table α) (key : String) : Option α := lookupEntry key table.entries

/-- Whether a name has a value. -/
def contains (table : Table α) (key : String) : Bool := (table.get? key).isSome

/-- Write a value: in place when the name is present, at the end when it is new. -/
def insert (table : Table α) (key : String) (value : α) : Table α where
  entries := insertEntry key value table.entries
  nodup := by
    rw [map_fst_insertEntry]
    split
    · exact table.nodup
    next absent =>
      refine List.nodup_append.mpr ⟨table.nodup, List.pairwise_singleton _ key, ?_⟩
      intro name present other added
      obtain rfl := List.mem_singleton.mp added
      exact fun same => absent (same ▸ present)

/-- Write a list of entries in order, so that the last one of each name stays. -/
def insertMany (table : Table α) (entries : List (String × α)) : Table α :=
  entries.foldl (fun grown entry => grown.insert entry.1 entry.2) table

/-- The table of a list of entries, written in order. -/
def ofList (entries : List (String × α)) : Table α := empty.insertMany entries

/-- A table of the same names with other values. -/
def map {β : Type} (change : α → β) (table : Table α) : Table β where
  entries := table.entries.map fun entry => (entry.1, change entry.2)
  nodup := by simpa [Function.comp_def] using table.nodup

/-- Two tables with the same entries are equal. -/
@[ext] theorem ext {left right : Table α} (same : left.entries = right.entries) :
    left = right := by
  cases left
  cases right
  cases same
  rfl

/-- The empty table holds no name. -/
@[simp] theorem get?_empty (key : String) : (empty : Table α).get? key = none := rfl

/-- A write is seen under its own name and under no other. -/
theorem get?_insert (table : Table α) (key : String) (value : α) (name : String) :
    (table.insert key value).get? name = if name = key then some value else table.get? name :=
  lookupEntry_insertEntry key value table.entries name

/-- A written value is read back. -/
@[simp] theorem get?_insert_self (table : Table α) (key : String) (value : α) :
    (table.insert key value).get? key = some value := by
  simp [get?_insert]

/-- A write leaves every other name as it was. -/
theorem get?_insert_of_ne (table : Table α) {key name : String} (value : α)
    (different : name ≠ key) : (table.insert key value).get? name = table.get? name := by
  simp [get?_insert, different]

/-- A name of a table with other values has the other value for the one that it had. -/
theorem get?_map {β : Type} (change : α → β) (table : Table α) (key : String) :
    (table.map change).get? key = (table.get? key).map change := by
  show lookupEntry key (table.entries.map fun entry => (entry.1, change entry.2)) =
    (lookupEntry key table.entries).map change
  induction table.entries with
  | nil => rfl
  | cons entry rest ih =>
    obtain ⟨name, value⟩ := entry
    by_cases same : name = key
    · simp [lookupEntry, same]
    · simpa [lookupEntry, same] using ih

/-- A write keeps the names and their order, and adds its own name at the end when it is new. -/
theorem keys_insert (table : Table α) (key : String) (value : α) :
    (table.insert key value).keys =
      if key ∈ table.keys then table.keys else table.keys ++ [key] :=
  map_fst_insertEntry key value table.entries

/-- No write drops a name or moves one. -/
theorem keys_prefix_insert (table : Table α) (key : String) (value : α) :
    table.keys <+: (table.insert key value).keys := by
  rw [keys_insert]
  split
  · exact List.prefix_refl _
  · exact List.prefix_append _ _

/-- A written name is among the names. -/
theorem mem_keys_insert_self (table : Table α) (key : String) (value : α) :
    key ∈ (table.insert key value).keys := by
  rw [keys_insert]
  split
  · assumption
  · simp

/-- Of two writes to one name only the second one is left. -/
theorem insert_insert (table : Table α) (key : String) (first second : α) :
    (table.insert key first).insert key second = table.insert key second :=
  ext (insertEntry_insertEntry key first second table.entries)

/-- A write to a name that is present may change places with a write to another name. -/
theorem insert_comm (table : Table α) {key other : String} (different : other ≠ key)
    (first second : α) (present : key ∈ table.keys) :
    (table.insert key first).insert other second =
      (table.insert other second).insert key first :=
  ext (insertEntry_comm different first second table.entries present)

/-- A name is among the names exactly when it has a value. -/
theorem mem_keys_iff (table : Table α) (key : String) :
    key ∈ table.keys ↔ (table.get? key).isSome :=
  (lookupEntry_isSome_iff key table.entries).symm

/-- After writes in order a name holds what the last one of them wrote to it, or what it held
before when none did. -/
theorem get?_insertMany (table : Table α) (entries : List (String × α)) (name : String) :
    (table.insertMany entries).get? name =
      ((entries.filter fun entry => entry.1 = name).getLast?.map Prod.snd).or
        (table.get? name) := by
  induction entries generalizing table with
  | nil => rfl
  | cons entry rest ih =>
    have first : table.insertMany (entry :: rest) =
        (table.insert entry.1 entry.2).insertMany rest := rfl
    rw [first, ih, get?_insert]
    by_cases same : entry.1 = name
    · rw [if_pos same.symm, List.filter_cons_of_pos (by simpa using same), List.getLast?_cons]
      cases (rest.filter fun entry => entry.1 = name).getLast? <;> rfl
    · rw [if_neg fun equal => same equal.symm, List.filter_cons_of_neg (by simpa using same)]

/-- Entries with new names that are written in order come behind those that are there. -/
theorem entries_insertMany (table : Table α) (entries : List (String × α))
    (distinct : ((table.entries ++ entries).map Prod.fst).Nodup) :
    (table.insertMany entries).entries = table.entries ++ entries := by
  induction entries generalizing table with
  | nil => exact (List.append_nil _).symm
  | cons entry rest ih =>
    rw [List.append_cons] at distinct ⊢
    have fresh : entry.1 ∉ table.entries.map Prod.fst := by
      rw [List.map_append, List.map_append] at distinct
      have parts := List.nodup_append.mp (List.nodup_append.mp distinct).1
      exact fun inside => parts.2.2 _ inside _ List.mem_cons_self rfl
    have first : (table.insert entry.1 entry.2).entries = table.entries ++ [entry] :=
      insertEntry_of_not_mem fresh
    rw [← first] at distinct ⊢
    exact ih _ distinct

/-- A table that is made from entries with different names has these entries. -/
theorem entries_ofList {entries : List (String × α)} (distinct : (entries.map Prod.fst).Nodup) :
    (ofList entries).entries = entries :=
  entries_insertMany empty entries distinct

/-- What a table that is made from entries holds under a name is the value of one of the entries. -/
theorem mem_of_get?_ofList {entries : List (String × α)} {name : String} {value : α}
    (found : (ofList entries).get? name = some value) : (name, value) ∈ entries := by
  rw [ofList, get?_insertMany, get?_empty, Option.or_none, Option.map_eq_some_iff] at found
  obtain ⟨⟨key, held⟩, last, rfl⟩ := found
  obtain ⟨among, named⟩ := List.mem_filter.mp (List.mem_of_getLast? last)
  have same : key = name := by simpa using named
  exact same ▸ among

/-- After every name of a list has been given its value, if there is one for it, these names hold
their values and all other ones what they held before. -/
theorem get?_insertMany_filterMap (table : Table α) (keys : List String)
    (value : String → Option α) (name : String) :
    (table.insertMany (keys.filterMap fun key => (value key).map (key, ·))).get? name =
      if name ∈ keys then (value name).or (table.get? name) else table.get? name := by
  induction keys generalizing table with
  | nil => rfl
  | cons key rest ih =>
    by_cases same : name = key
    · subst same
      rw [List.filterMap_cons, if_pos List.mem_cons_self]
      cases given : value name with
      | none =>
        refine (ih table).trans ?_
        rw [given, Option.none_or, ite_self]
      | some held =>
        refine (ih (table.insert name held)).trans ?_
        rw [given, get?_insert_self]
        exact ite_self _
    · simp only [List.mem_cons, same, false_or, List.filterMap_cons]
      cases value key with
      | none => exact ih table
      | some held =>
        refine (ih (table.insert key held)).trans ?_
        rw [get?_insert_of_ne table held same]

end Table

end TagBinding
