import TagBinding.Live.Command
import TagBinding.Proofs.Live.Deliveries
import TagBinding.Proofs.Live.Stock

/-!
# Housed sessions

A session is housed when each of its documents is at home in the region of its own number
(`Session.Housed`): then no two documents hold the same list. Documents that come in as plain values
have lists of their own, so sessions start housed (`Session.housed_ofPlain`), and as long as all
functions are confined, every command leaves them housed (`Session.Housed.perform`). What a command
does to a document is done in the region of the document; the other documents and their lists are
left as they are (`Scene.Beside`).
-/
namespace TagBinding.Live

variable {F M : Type}

/-- A heap stays closed on every region when lists of a region are made that hold lists of the
region only. -/
theorem Heap.Closed.makeAll {heap : Heap F} {region home : Nat}
    (closed : heap.Closed (InRegion region)) {lists : List (List (Value F))}
    (within : ∀ made ∈ lists, ∀ item ∈ made, item.Within (InRegion home)) :
    (heap.makeAll home lists).Closed (InRegion region) := by
  induction lists generalizing heap with
  | nil => exact closed
  | cons first rest ih =>
    obtain ⟨head, tail⟩ := List.forall_mem_cons.mp within
    have next : (heap.make home first).Closed (InRegion region) := by
      intro address inside item held
      rw [Heap.items_make] at held
      split at held
      · rename_i same
        have mine : home = region := by
          rw [← inside, same, Heap.next]
        exact mine ▸ head item held
      · exact closed address inside item held
    exact ih next tail

/-- Bindings are confined when all functions are. -/
theorem Binding.Confined.of_all {behaviour : Behaviour F M}
    (confined : ∀ function, (behaviour function).Confined) (binding : Binding F) :
    Binding.Confined behaviour binding :=
  ⟨fun function _ => confined function, fun function _ => confined function⟩

namespace Session

/-- Reading leaves the session as it is. -/
theorem session_readDocument (session : Session F M) (index : Nat)
    (answer : Document F → Except (Fault F) (Answer F)) :
    (session.readDocument index answer).session = session := by
  rw [readDocument]
  cases session.documents[index]? <;> rfl

/-- That each document of a session is at home in the region of its own number. -/
structure Housed (session : Session F M) : Prop where
  /-- The region of a document has the number of the document. -/
  home : ∀ index (document : Document F), session.documents[index]? = some document →
    document.home = index
  /-- The lists of a region hold lists of the region only. -/
  closed : ∀ region, session.heap.Closed (InRegion region)
  /-- A document holds lists of its region only. -/
  within : ∀ index (document : Document F), session.documents[index]? = some document →
    document.Within (InRegion index)

/-- That two sessions are the same in the place of a document: the document is the same, and so are
the lists of its region. -/
structure SameAt (index : Nat) (one other : Session F M) : Prop where
  /-- The document is the same, or there is none in both. -/
  document : one.documents[index]? = other.documents[index]?
  /-- The lists of its region hold the same. -/
  items : Heap.SameOn (InRegion index) one.heap other.heap
  /-- Its region has as many lists. -/
  lists : one.heap.used index = other.heap.used index

namespace SameAt

variable {place : Nat} {one other third : Session F M}

/-- Every session is the same as itself. -/
@[refl] theorem refl (place : Nat) (session : Session F M) : session.SameAt place session :=
  ⟨rfl, fun _ _ => rfl, rfl⟩

/-- The order of the two sessions makes no difference. -/
@[symm] theorem symm (same : one.SameAt place other) : other.SameAt place one :=
  ⟨same.document.symm, same.items.symm, same.lists.symm⟩

/-- Sessions that are the same as a third one are the same. -/
theorem trans (first : one.SameAt place other) (second : other.SameAt place third) :
    one.SameAt place third where
  document := first.document.trans second.document
  items address inside := (first.items address inside).trans (second.items address inside)
  lists := first.lists.trans second.lists

/-- Scenes that are the same in their region, and differ from the sessions there only, may take the
place of a document. -/
theorem putScene (same : one.SameAt place other) {index : Nat} {first second : Scene F M}
    (left : Scene.Beside index one.heap first second)
    (right : Scene.Beside index other.heap second second) :
    (one.putScene index first).SameAt place (other.putScene index second) where
  document := by
    show (one.documents.set index first.document)[place]? =
      (other.documents.set index second.document)[place]?
    by_cases put : index = place
    · subst put
      rw [List.getElem?_set_self', List.getElem?_set_self', same.document, left.document]
    · rw [List.getElem?_set_ne put, List.getElem?_set_ne put, same.document]
  items address inside := by
    by_cases own : InRegion index address
    · exact left.items address own
    · have before := left.elsewhere address own
      have after := right.elsewhere address own
      exact before.trans ((same.items address inside).trans after.symm)
  lists := by
    show first.heap.used place = second.heap.used place
    by_cases own : place = index
    · rw [own]
      exact left.used.symm
    · rw [left.unused place own, right.unused place own, same.lists]

end SameAt

/-- A scene that takes the place of a document, and differs in its own region only, makes no
difference in other places. -/
theorem sameAt_putScene (session : Session F M) {index place : Nat} (apart : index ≠ place)
    {scene : Scene F M} (beside : Scene.Beside index session.heap scene scene) :
    session.SameAt place (session.putScene index scene) where
  document := (List.getElem?_set_ne apart).symm
  items address inside := by
    refine (beside.elsewhere address fun own => apart ?_).symm
    exact own.symm.trans inside
  lists := (beside.unused place apart.symm).symm

variable {session : Session F M}

/-- A session without documents and lists is housed. -/
theorem housed_empty (memory : M) (extractors : List (Extractor F)) (reporters : List Reporter) :
    (⟨memory, .empty, [], extractors, reporters⟩ : Session F M).Housed where
  home _ _ present := by simp at present
  closed _ _ _ _ held := absurd held List.not_mem_nil
  within _ _ present := by simp at present

namespace Housed

/-- The scene of a document is the same as itself in the region of the document. -/
theorem alike (housed : session.Housed) {index : Nat} {document : Document F}
    (present : session.documents[index]? = some document) :
    (session.sceneOf document).Alike index (session.sceneOf document) := by
  have home := housed.home index document present
  have atHome : (session.sceneOf document).AtHome := by
    constructor
    · exact housed.closed document.home
    · show document.Within (InRegion document.home)
      rw [home]
      exact housed.within index document present
  exact ⟨rfl, home, fun _ _ => rfl, rfl, atHome⟩

/-- The scenes of a document are the same in its region where the sessions are the same in its
place. -/
theorem alike_of_sameAt {other : Session F M} (housed : session.Housed) {index : Nat}
    (same : session.SameAt index other) {document : Document F}
    (present : session.documents[index]? = some document) :
    (session.sceneOf document).Alike index (other.sceneOf document) where
  document := rfl
  home := housed.home index document present
  items := same.items
  used := same.lists.symm
  atHome := (housed.alike present).atHome

/-- A scene that differs in its own region only may take the place of a document. -/
theorem putScene (housed : session.Housed) {index : Nat} {scene other : Scene F M}
    (beside : Scene.Beside index session.heap scene other) :
    (session.putScene index scene).Housed := by
  obtain ⟨closed, document⟩ := beside.atHome
  rw [beside.home] at closed document
  have found : ∀ place held, (session.putScene index scene).documents[place]? = some held →
      (place = index ∧ held = scene.document) ∨ session.documents[place]? = some held := by
    intro place held present
    by_cases own : index = place
    · subst own
      have set : (session.documents.set index scene.document)[index]? = some held := present
      rw [List.getElem?_set_self'] at set
      obtain ⟨-, -, rfl⟩ := Option.map_eq_some_iff.mp set
      exact .inl ⟨rfl, rfl⟩
    · have set : (session.documents.set index scene.document)[place]? = some held := present
      rw [List.getElem?_set_ne own] at set
      exact .inr set
  refine ⟨?_, ?_, ?_⟩
  · intro place held present
    rcases found place held present with ⟨rfl, rfl⟩ | old
    · exact beside.home
    · exact housed.home place held old
  · intro region
    by_cases own : region = index
    · rw [own]
      exact closed
    · refine (housed.closed region).of_sameOn fun address inside => ?_
      refine (beside.elsewhere address fun mine => own ?_).symm
      exact inside.symm.trans mine
  · intro place held present
    rcases found place held present with ⟨rfl, rfl⟩ | old
    · exact document
    · exact housed.within place held old

/-- A session stays housed whatever becomes of its reporters. -/
theorem setReporters (housed : session.Housed) (reporters : List Reporter) :
    ({ session with reporters := reporters } : Session F M).Housed :=
  ⟨housed.home, housed.closed, housed.within⟩

section Commands

variable {behaviour : Behaviour F M} (confined : ∀ function, (behaviour function).Confined)
  (thread : Thread)

include confined

/-- A pass over a document of a housed session leaves the other regions as they are. -/
theorem extractPass (housed : session.Housed) (bindings : List (Binding F)) {index : Nat}
    {document : Document F} (present : session.documents[index]? = some document) :
    Scene.Beside index session.heap
      (extractPass behaviour bindings (session.sceneOf document)).scene
      (extractPass behaviour bindings (session.sceneOf document)).scene := by
  have all := fun binding (_ : binding ∈ bindings) => Binding.Confined.of_all confined binding
  exact (extractPass_beside all (housed.alike present)).1.scene

/-- The extraction of a document leaves the session housed. -/
theorem extractWith (housed : session.Housed) (extractor : Extractor F) (index : Nat) :
    (session.extractWith behaviour thread extractor index).session.Housed := by
  cases present : session.documents[index]? with
  | none => rwa [session.extractWith_of_none thread behaviour extractor present]
  | some document =>
    rw [session.extractWith_of_some thread behaviour extractor present]
    have beside := housed.extractPass confined extractor.bindings present
    exact (housed.putScene beside).setReporters _

/-- The extraction of documents in order leaves the session housed. -/
theorem extractEachWith (housed : session.Housed) (extractor : Extractor F)
    (indices : List Nat) :
    (session.extractEachWith behaviour thread extractor indices).session.Housed := by
  induction indices generalizing session with
  | nil => exact housed
  | cons index rest ih =>
    have first := housed.extractWith confined thread extractor index
    simp only [Session.extractEachWith]
    cases (session.extractWith behaviour thread extractor index).answer with
    | error fault => exact first
    | ok done => exact ih first

end Commands

/-- A confined change of a document leaves the session housed. -/
theorem changeDocument (housed : session.Housed) (index : Nat)
    {edits : Scene F M → List (Edit F)} (confined : ConfinedEdits edits) :
    (session.changeDocument index edits).session.Housed := by
  cases present : session.documents[index]? with
  | none => simpa only [Session.changeDocument, present] using housed
  | some document =>
    simp only [Session.changeDocument, present]
    have alike := housed.alike present
    exact housed.putScene (alike.beside.editAll _ (confined alike).2)

/-- A session stays housed when a document comes in. -/
theorem addDocument (housed : session.Housed) (document : TagBinding.Document F) :
    (session.addDocument document).Housed := by
  let home := session.documents.length
  let place := session.heap.used home
  let wellFormed := holdTags home document.tags.wellFormed place
  let bad := holdTags home document.tags.bad (place + wellFormed.2.length)
  let held := holdEach home document.properties.entries
    (place + wellFormed.2.length + bad.2.length)
  obtain ⟨wellFormedWithin, wellFormedLists⟩ :=
    holdTags_within home document.tags.wellFormed place
  obtain ⟨badWithin, badLists⟩ :=
    holdTags_within home document.tags.bad (place + wellFormed.2.length)
  obtain ⟨heldWithin, heldLists⟩ := holdEach_within home document.properties.entries
    (place + wellFormed.2.length + bad.2.length)
  have lists : ∀ made ∈ wellFormed.2 ++ bad.2 ++ held.2, ∀ item ∈ made,
      item.Within (InRegion home) :=
    List.forall_mem_append.mpr
      ⟨List.forall_mem_append.mpr ⟨wellFormedLists, badLists⟩, heldLists⟩
  have properties : ∀ key value, (Table.ofList held.1).get? key = some value →
      value.Within (InRegion home) := by
    intro key value found address there
    exact heldWithin address (mem_addressesEach (Table.mem_of_get?_ofList found) there)
  let added : Document F := ⟨home, document.file, document.startingLine, document.tags.aliases,
    wellFormed.1, bad.1, .ofList held.1⟩
  have found : ∀ index present, (session.documents ++ [added])[index]? = some present →
      session.documents[index]? = some present ∨ (index = home ∧ present = added) := by
    intro index present there
    rw [List.getElem?_append] at there
    split at there
    · exact .inl there
    · rename_i past
      obtain ⟨inside, same⟩ := List.getElem?_eq_some_iff.mp there
      have last : index = home := by
        have short : index - session.documents.length < 1 := inside
        have long : session.documents.length ≤ index := Nat.le_of_not_lt past
        show index = session.documents.length
        omega
      exact .inr ⟨last, by simpa using same.symm⟩
  refine ⟨?_, fun region => (housed.closed region).makeAll lists, ?_⟩
  · intro index present there
    rcases found index present there with old | ⟨rfl, rfl⟩
    · exact housed.home index present old
    · rfl
  · intro index present there
    rcases found index present there with old | ⟨rfl, rfl⟩
    · exact housed.within index present old
    · exact ⟨wellFormedWithin, badWithin, properties⟩

/-- Every command with confined functions leaves the session housed. -/
theorem perform (housed : session.Housed) {behaviour : Behaviour F M}
    (confined : ∀ function, (behaviour function).Confined) (thread : Thread)
    (command : Command F) : (session.perform behaviour thread command).session.Housed := by
  cases command with
  | newDocument document => exact housed.addDocument document
  | extract extractor document =>
    unfold Session.perform useExtractor
    dsimp only
    split
    · exact housed
    · exact housed.extractWith confined thread _ document
  | extractEach extractor documents =>
    unfold Session.perform useExtractor
    dsimp only
    split
    · exact housed
    · split
      · exact housed.extractEachWith confined thread _ documents
      · exact housed.extractEachWith confined thread _ documents
  | addTag document tag => exact housed.changeDocument document (confinedEdits_attach tag)
  | assign document key value =>
    exact housed.changeDocument document (confinedEdits_assign key value)
  | findTags document _ | canonicalName document _ | listTags document | read document _ _
  | demand document _ | contains document _ | readId document | readName document
  | describeBadTags document =>
    unfold Session.perform
    rw [session_readDocument]
    exact housed
  | report reporter document message | reset reporter =>
    unfold Session.perform useReporter
    dsimp only
    split
    · exact housed
    · exact housed.setReporters _

end Housed

/-- A session of documents that come in as plain values is housed. -/
theorem housed_ofPlain (memory : M) (session : TagBinding.Session F) :
    (ofPlain memory session).Housed := by
  have run : ∀ (documents : List (TagBinding.Document F)) (start : Session F M), start.Housed →
      (documents.foldl addDocument start).Housed := by
    intro documents
    induction documents with
    | nil => exact fun start housed => housed
    | cons document rest ih => exact fun start housed => ih _ (housed.addDocument document)
  exact run session.documents _ (housed_empty memory session.extractors session.reporters)

end Session

end TagBinding.Live
