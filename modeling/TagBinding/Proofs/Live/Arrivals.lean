import Mathlib.Data.List.Pairwise
import TagBinding.Live.Session
import TagBinding.Proofs.Live.Refinement

/-!
# Documents that come in

What is brought to life has lists of its own, one for each list of the plain value, and none of them
is held twice. Its lists take up the free places of a region one after another, and a list holds
lists of lower places only. So a document that comes in is read as the plain document that it is made
from, and shares no list: whatever the properties are in which values are collected, it has that
document for its portrait (`Session.portrays_addDocument`, `Session.portrays_ofPlain`).
-/
namespace TagBinding.Live

variable {F M : Type}

/-- That a list is one of those of a region that take up a number of places from some place on. -/
def Between (region place count : Nat) (address : Address) : Prop :=
  address.region = region ∧ place ≤ address.place ∧ address.place < place + count

namespace Heap

/-- That a region has lists, which hold the given items, from a place on. -/
def Stores (heap : Heap F) (region place : Nat) (lists : List (List (Value F))) : Prop :=
  ∀ offset items, lists[offset]? = some items → heap.items ⟨region, place + offset⟩ = items

variable {heap : Heap F} {region place : Nat}

/-- Lists that are stored in a row are stored the first ones first, and then the others. -/
theorem Stores.append {first second : List (List (Value F))}
    (stores : heap.Stores region place (first ++ second)) :
    heap.Stores region place first ∧ heap.Stores region (place + first.length) second := by
  constructor
  · intro offset items found
    refine stores offset items ?_
    rw [List.getElem?_append_left (List.getElem?_eq_some_iff.mp found).1, found]
  · intro offset items found
    rw [Nat.add_assoc]
    refine stores (first.length + offset) items ?_
    rw [List.getElem?_append_right (Nat.le_add_right _ _), Nat.add_sub_cancel_left, found]

/-- Lists that are made one after another are stored in the free places of the region. -/
theorem stores_makeAll (heap : Heap F) (region : Nat) (lists : List (List (Value F))) :
    (heap.makeAll region lists).Stores region (heap.used region) lists ∧
      heap.Extends (heap.makeAll region lists) ∧
      ∀ address, Between region (heap.used region) lists.length address →
        (heap.makeAll region lists).Knows address := by
  induction lists generalizing heap with
  | nil =>
    refine ⟨fun _ _ found => (by simp at found), .refl heap, fun address inside => ?_⟩
    obtain ⟨-, low, high⟩ := inside
    exact absurd high (Nat.not_lt_of_le low)
  | cons first rest ih =>
    obtain ⟨stores, larger, known⟩ := ih (heap.make region first)
    have used : (heap.make region first).used region = heap.used region + 1 := if_pos rfl
    have next : (heap.make region first).Knows (heap.next region) :=
      (heap.knows_make_iff region first _).mpr (.inr rfl)
    rw [used] at stores known
    refine ⟨fun offset items found => ?_, (heap.extends_make region first).trans larger,
      fun address inside => ?_⟩
    · cases offset with
      | zero =>
        obtain rfl := Option.some.inj found
        refine (larger.items (heap.next region) next).trans ?_
        rw [items_make, if_pos rfl]
      | succ offset =>
        have later := stores offset items found
        rwa [Nat.add_assoc, Nat.add_comm 1] at later
    · obtain ⟨own, low, high⟩ := inside
      rw [List.length_cons] at high
      by_cases first : address = heap.next region
      · exact first ▸ larger.knows next
      · refine known address ⟨own, ?_, by omega⟩
        have different : address.place ≠ heap.used region := by
          rintro same
          exact first (by rw [Heap.next, ← same, ← own])
        omega

/-- What holds lists of two closed sets only is of one closed set. -/
theorem Closed.or {first second : Address → Prop} (one : heap.Closed first)
    (other : heap.Closed second) : heap.Closed fun address => first address ∨ second address := by
  rintro address (inside | inside) item held
  · exact (one address inside item held).mono fun _ => .inl
  · exact (other address inside item held).mono fun _ => .inr

/-- What is read within a set is read the same within a larger one. -/
theorem Depicts.mono {kept wider : Address → Prop} {value : Value F}
    {shown : TagBinding.Value F} (depicts : heap.Depicts kept value shown)
    (more : ∀ address, kept address → wider address) : heap.Depicts wider value shown :=
  ⟨depicts.within.mono more, depicts.shows⟩

/-- A tag that is read within a set is read the same within a larger one. -/
theorem DepictsTag.mono {kept wider : Address → Prop} {tag : Tag F}
    {shown : TagBinding.Tag F} (depicts : heap.DepictsTag kept tag shown)
    (more : ∀ address, kept address → wider address) : heap.DepictsTag wider tag shown :=
  { depicts with within := depicts.within.mono more }

/-- That a named value is read as a plain value of the same name. -/
def DepictsEntry (heap : Heap F) (kept : Address → Prop) (entry : String × Value F)
    (shown : String × TagBinding.Value F) : Prop :=
  entry.1 = shown.1 ∧ heap.Depicts kept entry.2 shown.2

/-- Named values that are read one by one as plain values are read as these at every depth from some
one on, and within the same set. -/
theorem depicts_record {kept : Address → Prop} {entries : List (String × Value F)}
    {shown : List (String × TagBinding.Value F)}
    (each : List.Forall₂ (heap.DepictsEntry kept) entries shown) :
    heap.Depicts kept (.record entries) (.record shown) := by
  have parts : (∀ address ∈ addressesEach entries, kept address) ∧ ∃ enough, ∀ depth,
      enough ≤ depth → unfoldEach (heap.follow depth) entries = shown := by
    induction each with
    | nil => exact ⟨fun _ held => absurd held List.not_mem_nil, 0, fun _ _ => rfl⟩
    | @cons entry plain _ _ head _ ih =>
      obtain ⟨within, others, rest⟩ := ih
      obtain ⟨named, inside, enough, read⟩ := head
      obtain ⟨name, value⟩ := entry
      obtain ⟨same, result⟩ := plain
      obtain rfl : name = same := named
      refine ⟨fun address held => ?_, max enough others, fun depth deep => ?_⟩
      · exact (List.mem_append.mp held).elim (inside address) (within address)
      · rw [unfoldEach, rest depth (by omega)]
        exact congrArg (fun value => (name, value) :: _) (read depth (by omega))
  obtain ⟨within, enough, read⟩ := parts
  exact ⟨within, enough, fun depth deep => congrArg _ (read depth deep)⟩

/-- A list in the last of some places is read as its items are, which hold lists of the lower places
only. -/
theorem closed_append_list {count : Nat} {items : List (Value F)}
    {shown : List (TagBinding.Value F)} (closed : heap.Closed (Between region place count))
    (each : List.Forall₂ (heap.Depicts (Between region place count)) items shown)
    (stored : heap.items ⟨region, place + count⟩ = items) :
    heap.Closed (Between region place (count + 1)) ∧
      heap.Depicts (Between region place (count + 1)) (.list ⟨region, place + count⟩)
        (.list shown) := by
  have more : ∀ address, Between region place count address →
      Between region place (count + 1) address :=
    fun address ⟨own, low, high⟩ => ⟨own, low, by omega⟩
  constructor
  · intro address inside item held
    by_cases last : address = ⟨region, place + count⟩
    · rw [last, stored] at held
      intro inner there
      exact more inner ((depicts_all each).1 inner (mem_addressesAll.mpr ⟨item, held, there⟩))
    · obtain ⟨own, low, high⟩ := inside
      have lower : Between region place count address := by
        refine ⟨own, low, ?_⟩
        have different : address.place ≠ place + count := by
          rintro same
          exact last (by rw [← own, ← same])
        omega
      exact (closed address lower item held).mono more
  · refine depicts_list ⟨rfl, by simp, by simp⟩ ?_
    rw [stored]
    exact each.imp fun _ _ depicts => depicts.mono more

end Heap

section Holding

variable {heap : Heap F} {region : Nat}

/-- The places of two runs of lists, the second one behind the first one, are those of both. -/
theorem between_append {place first second : Nat} {address : Address} :
    Between region place (first + second) address ↔
      Between region place first address ∨ Between region (place + first) second address := by
  unfold Between
  omega

/-- Lists in no places are closed. -/
theorem closed_between_zero {place : Nat} : heap.Closed (Between region place 0) := by
  rintro address ⟨-, low, high⟩
  exact absurd high (Nat.not_lt_of_le low)

/-- Lists in two runs of places are closed when those of each run are. -/
theorem closed_between_append {place first second : Nat}
    (one : heap.Closed (Between region place first))
    (other : heap.Closed (Between region (place + first) second)) :
    heap.Closed (Between region place (first + second)) := by
  have same : (fun address => Between region place first address ∨
      Between region (place + first) second address) = Between region place (first + second) :=
    funext fun _ => propext between_append.symm
  exact same ▸ one.or other

mutual

/-- A value that is brought to life is read as the value that it is made from, and its lists are
those that are made for it. -/
theorem hold_depicts : (value : TagBinding.Value F) → (place : Nat) →
    heap.Stores region place (hold region value place).2 →
    heap.Closed (Between region place (hold region value place).2.length) ∧
      heap.Depicts (Between region place (hold region value place).2.length)
        (hold region value place).1 value
  | .null, _, _ | .bool _, _, _ | .int _, _, _ | .float _, _, _ | .text _, _, _
  | .function _, _, _ | .definition _, _, _ =>
    ⟨closed_between_zero, .of_forall rfl fun _ => rfl⟩
  | .list items, place, stores => by
    obtain ⟨inner, own⟩ := Heap.Stores.append stores
    obtain ⟨closed, each⟩ := holdAll_depicts items place inner
    simp only [hold, List.length_append, List.length_singleton]
    exact Heap.closed_append_list closed each (own 0 _ rfl)
  | .tuple items, place, stores => by
    obtain ⟨closed, each⟩ := holdAll_depicts items place stores
    obtain ⟨within, enough, read⟩ := Heap.depicts_all each
    exact ⟨closed, within, enough, fun depth deep => congrArg _ (read depth deep)⟩
  | .set members, place, stores => by
    obtain ⟨closed, each⟩ := holdAll_depicts members place stores
    obtain ⟨within, enough, read⟩ := Heap.depicts_all each
    exact ⟨closed, within, enough, fun depth deep => congrArg _ (read depth deep)⟩
  | .record entries, place, stores => by
    obtain ⟨closed, each⟩ := holdEach_depicts entries place stores
    exact ⟨closed, Heap.depicts_record each⟩
  | .tag tag, place, stores => by
    obtain ⟨closed, depicts⟩ := holdTag_depicts tag place stores
    exact ⟨closed, depicts.value⟩

/-- A tag that is brought to life is read as the tag that it is made from, and its lists are those
that are made for it. -/
theorem holdTag_depicts : (tag : TagBinding.Tag F) → (place : Nat) →
    heap.Stores region place (holdTag region tag place).2 →
    heap.Closed (Between region place (holdTag region tag place).2.length) ∧
      heap.DepictsTag (Between region place (holdTag region tag place).2.length)
        (holdTag region tag place).1 tag
  | ⟨tagName, description, startingLine, name, typeExpression, errors⟩, place, stores => by
    obtain ⟨inner, own⟩ := Heap.Stores.append stores
    obtain ⟨closed, depicts⟩ := hold_depicts description place inner
    have stored := own 0 (errors.map .text) rfl
    obtain ⟨all, list⟩ := Heap.closed_append_list closed (Heap.depicts_texts errors) stored
    simp only [holdTag, List.length_append, List.length_singleton]
    refine ⟨all, ?_, rfl, depicts.shows, rfl, rfl, rfl, stored⟩
    intro address held
    rcases List.mem_cons.mp held with rfl | there
    · exact Value.within_list.mp list.within
    · exact between_append.mpr (.inl (depicts.within address there))

/-- Values that are brought to life are read as the values that they are made from, and their lists
are those that are made for them. -/
theorem holdAll_depicts : (items : List (TagBinding.Value F)) → (place : Nat) →
    heap.Stores region place (holdAll region items place).2 →
    heap.Closed (Between region place (holdAll region items place).2.length) ∧
      List.Forall₂ (heap.Depicts (Between region place (holdAll region items place).2.length))
        (holdAll region items place).1 items
  | [], _, _ => ⟨closed_between_zero, .nil⟩
  | first :: rest, place, stores => by
    obtain ⟨own, others⟩ := Heap.Stores.append stores
    obtain ⟨closed, depicts⟩ := hold_depicts first place own
    obtain ⟨closedRest, each⟩ := holdAll_depicts rest _ others
    simp only [holdAll, List.length_append]
    refine ⟨closed_between_append closed closedRest, .cons ?_ (each.imp fun _ _ other => ?_)⟩
    · exact depicts.mono fun _ inside => between_append.mpr (.inl inside)
    · exact other.mono fun _ inside => between_append.mpr (.inr inside)

/-- Named values that are brought to life are read as the values that they are made from, and their
lists are those that are made for them. -/
theorem holdEach_depicts : (entries : List (String × TagBinding.Value F)) → (place : Nat) →
    heap.Stores region place (holdEach region entries place).2 →
    heap.Closed (Between region place (holdEach region entries place).2.length) ∧
      List.Forall₂
        (heap.DepictsEntry (Between region place (holdEach region entries place).2.length))
        (holdEach region entries place).1 entries
  | [], _, _ => ⟨closed_between_zero, .nil⟩
  | (name, value) :: rest, place, stores => by
    obtain ⟨own, others⟩ := Heap.Stores.append stores
    obtain ⟨closed, depicts⟩ := hold_depicts value place own
    obtain ⟨closedRest, each⟩ := holdEach_depicts rest _ others
    simp only [holdEach, List.length_append]
    refine ⟨closed_between_append closed closedRest, .cons ⟨rfl, ?_⟩
      (each.imp fun _ _ other => ⟨other.1, ?_⟩)⟩
    · exact depicts.mono fun _ inside => between_append.mpr (.inl inside)
    · exact other.2.mono fun _ inside => between_append.mpr (.inr inside)

end

/-- Tags that are brought to life are read as the tags that they are made from, and their lists are
those that are made for them. -/
theorem holdTags_depicts (tags : List (TagBinding.Tag F)) (place : Nat)
    (stores : heap.Stores region place (holdTags region tags place).2) :
    heap.Closed (Between region place (holdTags region tags place).2.length) ∧
      List.Forall₂ (heap.DepictsTag (Between region place (holdTags region tags place).2.length))
        (holdTags region tags place).1 tags := by
  induction tags generalizing place with
  | nil => exact ⟨closed_between_zero, .nil⟩
  | cons first rest ih =>
    obtain ⟨own, others⟩ := Heap.Stores.append stores
    obtain ⟨closed, depicts⟩ := holdTag_depicts first place own
    obtain ⟨closedRest, each⟩ := ih _ others
    simp only [holdTags, List.length_append]
    refine ⟨closed_between_append closed closedRest, .cons ?_ (each.imp fun _ _ other => ?_)⟩
    · exact depicts.mono fun _ inside => between_append.mpr (.inl inside)
    · exact other.mono fun _ inside => between_append.mpr (.inr inside)

/-- A value that is brought to life for a property has its lists in a closed set, apart from the list
that the property holds, if values are collected in it. -/
theorem exists_holds (value : TagBinding.Value F) (place : Nat) (collects : Prop)
    (stores : heap.Stores region place (hold region value place).2)
    (known : ∀ address, Between region place (hold region value place).2.length address →
      heap.Knows address) :
    ∃ kept : Address → Prop,
      (∀ address, kept address →
        Between region place (hold region value place).2.length address) ∧
      heap.Closed kept ∧
      heap.Holds kept collects (some (hold region value place).1) (some value) := by
  obtain ⟨closed, depicts⟩ := hold_depicts value place stores
  by_cases own : collects ∧ ∃ items, value = .list items
  · obtain ⟨-, items, rfl⟩ := own
    obtain ⟨inner, last⟩ := Heap.Stores.append stores
    obtain ⟨closed, each⟩ := holdAll_depicts items place inner
    simp only [hold, List.length_append, List.length_singleton] at known ⊢
    refine ⟨_, fun address ⟨mine, low, high⟩ => ⟨mine, low, by omega⟩, closed,
      .own ?_ (known _ ⟨rfl, by simp, by simp⟩) ?_⟩
    · rintro ⟨-, -, high⟩
      exact Nat.lt_irrefl _ high
    · have stored : heap.items ⟨region, place + (holdAll region items place).2.length⟩ =
          (holdAll region items place).1 := last 0 _ rfl
      rw [stored]
      exact each
  · refine ⟨_, fun _ inside => inside, closed, .given depicts fun collects address held => ?_⟩
    exact own ⟨collects, depicts.shows.list_iff.mp ⟨address, held⟩⟩

/-- That named values hold what plain values of the same names hold, as properties do, and that no
two of them hold the same list. -/
structure Heap.HoldsEach (heap : Heap F) (kept : Address → Prop) (collecting : String → Prop)
    (entries : List (String × Value F)) (shown : List (String × TagBinding.Value F)) : Prop where
  /-- Each holds what the plain value holds. -/
  each : List.Forall₂ (fun entry plain => entry.1 = plain.1 ∧
    heap.Holds kept (collecting entry.1) (some entry.2) (some plain.2)) entries shown
  /-- No two hold the same list. -/
  apart : entries.Pairwise fun entry other =>
    ∀ address, entry.2 = .list address → other.2 ≠ .list address

/-- Named values hold what plain values hold also when more lists may be held anywhere, if these are
none of the lists that the values are. -/
theorem Heap.HoldsEach.or {kept extra : Address → Prop} {collecting : String → Prop}
    {entries : List (String × Value F)} {shown : List (String × TagBinding.Value F)}
    (holds : heap.HoldsEach kept collecting entries shown) (closed : heap.Closed kept)
    (separate : ∀ entry ∈ entries, ∀ address, entry.2 = .list address → ¬ extra address) :
    heap.HoldsEach (fun address => extra address ∨ kept address) collecting entries shown where
  each := by
    refine ((List.forall₂_and_left _ _).mpr ⟨separate, holds.each⟩).imp fun entry plain related => ?_
    obtain ⟨free, named, holds⟩ := related
    refine ⟨named, holds.transfer closed (fun _ _ => rfl) (fun _ => .inr) ?_⟩
    intro address held mine known
    exact ⟨not_or.mpr ⟨free address (Option.some.inj held), mine⟩, known, rfl⟩
  apart := holds.apart

/-- A list that one of the named values is that are brought to life is in one of their places. -/
theorem within_holdEach {entries : List (String × TagBinding.Value F)} {place : Nat}
    (stores : heap.Stores region place (holdEach region entries place).2)
    {entry : String × Value F} (among : entry ∈ (holdEach region entries place).1)
    {address : Address} (held : entry.2 = .list address) :
    Between region place (holdEach region entries place).2.length address := by
  have within := (Heap.depicts_record (holdEach_depicts entries place stores).2).within
  refine within address (mem_addressesEach among ?_)
  rw [held]
  exact List.mem_cons_self

/-- Named values that are brought to life for properties have their lists in a closed set, apart from
the lists that properties hold in which values are collected. -/
theorem exists_holdsEach (entries : List (String × TagBinding.Value F)) (place : Nat)
    (collecting : String → Prop)
    (stores : heap.Stores region place (holdEach region entries place).2)
    (known : ∀ address, Between region place (holdEach region entries place).2.length address →
      heap.Knows address) :
    ∃ kept : Address → Prop,
      (∀ address, kept address →
        Between region place (holdEach region entries place).2.length address) ∧
      heap.Closed kept ∧
      heap.HoldsEach kept collecting (holdEach region entries place).1 entries := by
  induction entries generalizing place with
  | nil =>
    exact ⟨fun _ => False, fun _ => False.elim, fun _ => False.elim, .nil, .nil⟩
  | cons entry rest ih =>
    obtain ⟨name, value⟩ := entry
    obtain ⟨own, others⟩ := Heap.Stores.append stores
    have within := (hold_depicts value place own).2.within
    simp only [holdEach, List.length_append] at known ⊢
    obtain ⟨first, low, closed, holds⟩ := exists_holds value place (collecting name) own
      fun address there => known address (between_append.mpr (.inl there))
    obtain ⟨second, high, closedRest, later⟩ := ih _ others
      fun address there => known address (between_append.mpr (.inr there))
    -- The lists of the first value are in lower places than those of the others.
    have separate : ∀ address, Between region place (hold region value place).2.length address →
        ¬ Between region (place + (hold region value place).2.length)
          (holdEach region rest (place + (hold region value place).2.length)).2.length address := by
      rintro address ⟨-, -, below⟩ ⟨-, above, -⟩
      omega
    have free : ∀ entry ∈ (holdEach region rest (place + (hold region value place).2.length)).1,
        ∀ address, entry.2 = .list address → ¬ first address :=
      fun entry among address held inside =>
        separate address (low address inside) (within_holdEach others among held)
    have wider := later.or closedRest free
    refine ⟨fun address => first address ∨ second address, ?_, closed.or closedRest,
      .cons ⟨rfl, ?_⟩ wider.each, .cons ?_ wider.apart⟩
    · exact fun address inside => between_append.mpr (inside.imp (low address) (high address))
    · refine holds.transfer closed (fun _ _ => rfl) (fun _ => .inl) fun address held mine there => ?_
      have here := Value.within_list.mp (Option.some.inj held ▸ within)
      exact ⟨not_or.mpr ⟨mine, fun other => separate address here (high address other)⟩, there, rfl⟩
    · intro other among address held same
      rw [show (hold region value place).1 = .list address from held] at within
      have here := Value.within_list.mp within
      exact separate address here (within_holdEach others among same)

end Holding

namespace Heap.HoldsEach

variable {heap : Heap F} {kept : Address → Prop} {collecting : String → Prop}
  {entries : List (String × Value F)} {shown : List (String × TagBinding.Value F)}
  (holds : heap.HoldsEach kept collecting entries shown)

include holds

/-- The names are the same. -/
theorem map_fst_eq : entries.map Prod.fst = shown.map Prod.fst := by
  obtain ⟨each, -⟩ := holds
  induction each with
  | nil => rfl
  | cons head _ ih => rw [List.map_cons, List.map_cons, head.1, ih]

/-- Under a name is held what is held under it among the plain values. -/
theorem lookup (key : String) :
    heap.Holds kept (collecting key) (lookupEntry key entries) (lookupEntry key shown) := by
  obtain ⟨each, -⟩ := holds
  induction each with
  | nil => exact .absent
  | @cons entry plain _ _ head _ ih =>
    obtain ⟨named, value⟩ := head
    obtain ⟨name, held⟩ := entry
    obtain ⟨same, read⟩ := plain
    obtain rfl : name = same := named
    by_cases found : name = key
    · subst found
      rw [lookupEntry, lookupEntry, if_pos rfl, if_pos rfl]
      exact value
    · rw [lookupEntry, lookupEntry, if_neg found, if_neg found]
      exact ih

/-- Two names do not hold the same list. -/
theorem lookup_ne (distinct : (entries.map Prod.fst).Nodup) {key other : String}
    (different : key ≠ other) {address : Address}
    (one : lookupEntry key entries = some (.list address)) :
    lookupEntry other entries ≠ some (.list address) := by
  intro two
  have symm : Std.Symm fun entry other : String × Value F =>
      ∀ address, entry.2 = .list address → other.2 ≠ .list address :=
    ⟨fun _ _ apart address two one => apart address one two⟩
  have here := (lookupEntry_eq_some_iff distinct key _).mp one
  have there := (lookupEntry_eq_some_iff distinct other _).mp two
  exact holds.apart.forall here there (fun same => different (congrArg Prod.fst same)) address rfl
    rfl

end Heap.HoldsEach

namespace Session

/-- A document that comes in has the plain document that it is made from for its portrait, whatever
the properties are in which values are collected. -/
theorem portrays_addDocument (session : Session F M) (document : TagBinding.Document F)
    (collecting : String → Prop) :
    ∃ added kept,
      (session.addDocument document).documents = session.documents ++ [added] ∧
      session.heap.Extends (session.addDocument document).heap ∧
      ((session.addDocument document).sceneOf added).Portrays collecting kept document := by
  let home := session.documents.length
  let place := session.heap.used home
  let wellFormed := holdTags home document.tags.wellFormed place
  let bad := holdTags home document.tags.bad (place + wellFormed.2.length)
  let held := holdEach home document.properties.entries
    (place + wellFormed.2.length + bad.2.length)
  let heap := session.heap.makeAll home (wellFormed.2 ++ bad.2 ++ held.2)
  obtain ⟨stores, larger, known⟩ :=
    session.heap.stores_makeAll home (wellFormed.2 ++ bad.2 ++ held.2)
  obtain ⟨tags, properties⟩ := Heap.Stores.append stores
  obtain ⟨first, second⟩ := Heap.Stores.append tags
  rw [List.length_append, ← Nat.add_assoc] at properties
  rw [List.length_append, List.length_append] at known
  obtain ⟨closedFirst, eachFirst⟩ := holdTags_depicts document.tags.wellFormed place first
  obtain ⟨closedSecond, eachSecond⟩ := holdTags_depicts document.tags.bad _ second
  -- The lists of the tags are in lower places than those of the properties.
  let tagged : Address → Prop := Between home place (wellFormed.2.length + bad.2.length)
  have closedTags : heap.Closed tagged := closed_between_append closedFirst closedSecond
  obtain ⟨kept, inside, closed, own⟩ := exists_holdsEach document.properties.entries _ collecting
    properties fun address there => known address (between_append.mpr (.inr (by
      rwa [← Nat.add_assoc])))
  have separate : ∀ entry ∈ held.1, ∀ address, entry.2 = .list address → ¬ tagged address := by
    rintro entry among address found ⟨-, -, below⟩
    obtain ⟨-, above, -⟩ := within_holdEach properties among found
    omega
  have holds := own.or closed separate
  have distinct : (held.1.map Prod.fst).Nodup := by
    rw [own.map_fst_eq]
    exact document.properties.nodup
  have entries : (Table.ofList held.1).entries = held.1 := Table.entries_ofList distinct
  refine ⟨⟨home, document.file, document.startingLine, document.tags.aliases, wellFormed.1, bad.1,
    .ofList held.1⟩, fun address => tagged address ∨ kept address, rfl, larger, ?_⟩
  refine ⟨closedTags.or closed, ?_, rfl, rfl, rfl, ?_, ?_, ?_, ?_, ?_⟩
  · rintro address (there | there)
    · exact known address (between_append.mpr (.inl there))
    · refine known address (between_append.mpr (.inr ?_))
      rw [← Nat.add_assoc]
      exact inside address there
  · exact eachFirst.imp fun _ _ depicts =>
      depicts.mono fun _ there => .inl (between_append.mpr (.inl there))
  · exact eachSecond.imp fun _ _ depicts =>
      depicts.mono fun _ there => .inl (between_append.mpr (.inr there))
  · show (Table.ofList held.1).entries.map Prod.fst = _
    rw [entries, own.map_fst_eq]
    rfl
  · intro key
    show heap.Holds _ _ (lookupEntry key (Table.ofList held.1).entries) _
    rw [entries]
    exact holds.lookup key
  · intro key other address different one two
    have read : ∀ name, (Table.ofList held.1).get? name = lookupEntry name held.1 :=
      fun name => congrArg (lookupEntry name) entries
    exact absurd ((read other).symm.trans two)
      (holds.lookup_ne distinct different ((read key).symm.trans one))

/-- Every document that comes in with a session has its plain document for its portrait. -/
theorem portrays_ofPlain (memory : M) (session : TagBinding.Session F)
    (collecting : String → Prop) {index : Nat} {document : TagBinding.Document F}
    (present : session.documents[index]? = some document) :
    ∃ live kept, (ofPlain memory session).documents[index]? = some live ∧
      ((ofPlain memory session).sceneOf live).Portrays collecting kept document := by
  -- On the documents that are still to come in, behind those that are in the session.
  have run : ∀ (rest done : List (TagBinding.Document F)) (start : Session F M),
      List.Forall₂ (fun live document =>
        ∃ kept, (start.sceneOf live).Portrays collecting kept document) start.documents done →
      List.Forall₂ (fun live document => ∃ kept, ((rest.foldl addDocument start).sceneOf
        live).Portrays collecting kept document) (rest.foldl addDocument start).documents
        (done ++ rest) := by
    intro rest
    induction rest with
    | nil =>
      intro done start each
      rw [List.append_nil]
      exact each
    | cons first rest ih =>
      intro done start each
      obtain ⟨added, kept, documents, larger, portrays⟩ :=
        start.portrays_addDocument first collecting
      rw [List.append_cons]
      refine ih (done ++ [first]) (start.addDocument first) ?_
      rw [documents]
      refine List.rel_append (each.imp fun live document ⟨kept, portrays⟩ => ⟨kept, ?_⟩)
        (.cons ⟨kept, portrays⟩ .nil)
      exact portrays.of_extends rfl larger
  have each := run session.documents [] ⟨memory, .empty, [], session.extractors, session.reporters⟩
    .nil
  obtain ⟨inside, rfl⟩ := List.getElem?_eq_some_iff.mp present
  have short := each.length_eq
  have there : index < (ofPlain memory session).documents.length := by
    rw [show (ofPlain memory session).documents.length = _ from short]
    exact inside
  obtain ⟨kept, portrays⟩ := each.get there inside
  exact ⟨_, kept, List.getElem?_eq_getElem there, portrays⟩

/-- Every document that comes in with a session is ready for functions that rely on nothing. -/
theorem ready_ofPlain (memory : M) (session : TagBinding.Session F) (collecting : String → Prop)
    {index : Nat} {document : TagBinding.Document F}
    (present : session.documents[index]? = some document) :
    ∃ live kept, (ofPlain memory session).documents[index]? = some live ∧
      ((ofPlain memory session).sceneOf live).Ready .nothing collecting kept document := by
  obtain ⟨live, kept, found, portrays⟩ := portrays_ofPlain memory session collecting present
  exact ⟨live, kept, found, portrays, trivial⟩

end Session

end TagBinding.Live
