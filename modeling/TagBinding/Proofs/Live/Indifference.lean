import TagBinding.Proofs.Live.Preservation
import TagBinding.Stock.Standard

/-!
# Bad tags have no influence

Two scenes that differ in the bad tags of their documents alone stay so in whatever runs in them, as
long as the functions that are run do not look at bad tags: each edit is made to both, and a bad tag
that is attached comes after the bad tags of each (`Scene.Twins`). So extraction ends alike in both,
with the same lists, properties, well-formed tags and debug lines (`Binding.Blind.kept`). What differs
is what is reported, and a receiver of reports that changes no scene cannot carry that back into
one (`attend_withBad`).
-/
namespace TagBinding.Live

variable {F M S : Type}

/-- A scene in which the document has other bad tags. -/
def Scene.withBad (scene : Scene F M) (bad : List (Tag F)) : Scene F M :=
  { scene with document := { scene.document with bad := bad } }

/-- That two scenes are the same but for bad tags, and that the same tags have come after two lists
of bad tags. -/
def Scene.Twins (left right : List (Tag F)) (first second : Scene F M) : Prop :=
  ∃ more, first.document.bad = left ++ more ∧ second = first.withBad (right ++ more)

namespace Scene

variable {left right : List (Tag F)} {first second : Scene F M}

/-- A scene and the same one with other bad tags are twins over their own bad tags. -/
theorem twins_withBad (scene : Scene F M) (bad : List (Tag F)) :
    Twins scene.document.bad bad scene (scene.withBad bad) :=
  ⟨[], (List.append_nil _).symm, by rw [List.append_nil]⟩

/-- An edit that is made to twins keeps them twins. -/
theorem Twins.edit (twins : Twins left right first second) (edit : Edit F) :
    Twins left right (first.edit edit) (second.edit edit) := by
  obtain ⟨more, same, rfl⟩ := twins
  cases edit with
  | assign key value => exact ⟨more, same, rfl⟩
  | make region items => exact ⟨more, same, rfl⟩
  | put address items => exact ⟨more, same, rfl⟩
  | attach tag =>
    -- Whether the tag is bad is seen from the lists, which are the same in both.
    by_cases marred : tag.isBad first.heap = true
    · refine ⟨more ++ [tag], ?_, ?_⟩
      · simp only [Scene.edit, Document.attach, marred, if_true, same, List.append_assoc]
      · simp only [Scene.edit, Document.attach, Scene.withBad, marred, if_true, List.append_assoc]
    · rw [Bool.not_eq_true] at marred
      refine ⟨more, ?_, ?_⟩
      · simp [Scene.edit, Document.attach, marred, same]
      · simp [Scene.edit, Document.attach, Scene.withBad, marred]

/-- Edits that are made to twins keep them twins. -/
theorem Twins.editAll (twins : Twins left right first second) (edits : List (Edit F)) :
    Twins left right (first.editAll edits) (second.editAll edits) := by
  induction edits generalizing first second with
  | nil => exact twins
  | cons edit rest ih => exact ih (twins.edit edit)

/-- A reply that is carried out in twins keeps them twins. -/
theorem Twins.after (twins : Twins left right first second) (reply : Reply F M) :
    Twins left right (first.after reply) (second.after reply) := by
  obtain ⟨more, same, equal⟩ := twins.editAll reply.edits
  exact ⟨more, same, by rw [Scene.after, equal]; rfl⟩

/-- An item that is put into the same list of twins keeps them twins. -/
theorem Twins.push (twins : Twins left right first second) (address : Address) (item : Value F) :
    Twins left right (first.push address item) (second.push address item) := by
  obtain ⟨more, same, rfl⟩ := twins
  exact ⟨more, same, rfl⟩

/-- An assignment in twins keeps them twins. -/
theorem Twins.assign (twins : Twins left right first second) (key : String) (value : Value F) :
    Twins left right (first.assign key value) (second.assign key value) :=
  twins.edit (.assign key value)

end Scene

namespace Routine

/-- That a routine does not look at bad tags. -/
def Blind (routine : Routine F M) : Prop :=
  ∀ (scene : Scene F M) (bad : List (Tag F)), routine (scene.withBad bad) = routine scene

/-- A routine that does not look at bad tags replies the same in twins. -/
theorem Blind.eq_of_twins {routine : Routine F M} (blind : routine.Blind)
    {left right : List (Tag F)} {first second : Scene F M}
    (twins : Scene.Twins left right first second) : routine second = routine first := by
  obtain ⟨more, -, rfl⟩ := twins
  exact blind first _

/-- Of two routines in a row none looks at bad tags if neither of them does. -/
theorem Blind.andThen {first second : Routine F M} (former : first.Blind) (latter : second.Blind) :
    (first.andThen second).Blind := by
  intro scene bad
  funext tag value
  have reply := congrFun (congrFun (former scene bad) tag) value
  have next := latter.eq_of_twins ((scene.twins_withBad bad).after (first scene tag value))
  simp only [Routine.andThen, reply, next]

end Routine

/-- That the functions of a binding do not look at bad tags. -/
structure Binding.Blind (behaviour : Behaviour F M) (binding : Binding F) : Prop where
  /-- No transform looks at them. -/
  transforms : ∀ function ∈ binding.transforms, (behaviour function).Blind
  /-- No default function looks at them. -/
  default : ∀ function ∈ binding.definition.defaultFn, (behaviour function).Blind

/-- Every value is within the set of all lists. -/
theorem Value.within_all (value : Value F) : value.Within fun _ => True := fun _ _ => trivial

/-- A binding whose functions do not look at bad tags keeps twins twins. -/
theorem Binding.Blind.kept {behaviour : Behaviour F M} {binding : Binding F}
    (blind : Binding.Blind behaviour binding) (left right : List (Tag F)) :
    Kept behaviour (fun _ => True) (Scene.Twins left right) binding where
  named := by
    rintro first second ⟨more, -, rfl⟩
    rfl
  inside _ _ _ _ _ := trivial
  place := by
    rintro first second ⟨more, -, rfl⟩
    exact ⟨rfl, rfl⟩
  target := by
    rintro first second ⟨more, -, rfl⟩
    rfl
  held := by
    rintro first second ⟨more, -, rfl⟩ value -
    exact ⟨rfl, fun _ _ => trivial⟩
  opened := by
    rintro first second ⟨more, same, rfl⟩
    exact ⟨rfl, trivial, more, same, rfl⟩
  evaluated := by
    intro first second twins tag _
    have routine : (Routine.ofBinding behaviour binding).Blind :=
      Routine.ofBinding_of_closed (fun _ _ => rfl) Routine.Blind.andThen blind.transforms
    have heap : second.heap = first.heap := by
      obtain ⟨more, -, rfl⟩ := twins
      rfl
    have reply : evaluate behaviour binding tag second = evaluate behaviour binding tag first := by
      rw [evaluate, evaluate, routine.eq_of_twins twins, heap]
    dsimp only
    rw [reply]
    exact ⟨rfl, twins.after _, fun value _ => value.within_all⟩
  defaulted := by
    intro first second twins function default
    have reply := (blind.default function default).eq_of_twins twins
    dsimp only
    rw [reply]
    exact ⟨rfl, twins.after _, fun value _ => value.within_all⟩
  pushed twins address value _ _ := twins.push address value
  assigned twins value _ := twins.assign _ value

/-- A function that counts its calls, notes how many tags there are, and complains about its tag. -/
def complaining : Behaviour Unit Nat := fun () scene _ value =>
  ⟨scene.memory + 1,
    [.assign "count" (.int scene.document.wellFormed.length),
      .make 0 [.text "too short"],
      .attach ⟨"title", .null, 0, none, none, scene.heap.next 0⟩], .ok value⟩

/-- A title, about which that function complains, and an author, who has to be named. -/
def titling : List (Binding Unit) :=
  [⟨.plain "title", .single (), .identity⟩,
    ⟨{ Definition.plain "author" with required := true }, .identity, .identity⟩]

/-- A document with a title. -/
def titled : Scene Unit Nat where
  memory := 0
  heap := Heap.empty.makeAll 0 [[], [.text "unclear"]]
  document := ⟨0, none, none, .empty, [⟨"title", .text "T", 1, none, none, ⟨0, 0⟩⟩], [], .empty⟩

/-- A receiver that keeps every report, and fails when it has three. -/
def threefold : Receiver Unit Nat (List String) := fun kept scene message =>
  ⟨kept ++ [message], scene, if kept.length = 2 then some "full" else none⟩

end TagBinding.Live
