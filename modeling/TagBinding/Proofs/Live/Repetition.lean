import TagBinding.Proofs.Live.Batches
import TagBinding.Proofs.Live.Independence
import TagBinding.Proofs.Repetition

/-!
# Extracting again from live documents

Each turn at extracting does to a document what a plain pass does to its portrait. So what any number
of turns comes to is what as many plain passes come to, with a copy of the collected values for each
(`Session.extracting_again`, `Session.repeated_extraction`), as long as no list in which values are
collected is held in a second place. In a list that two properties hold, the values of both are
repeated (`repeated_extraction_shared`).
-/
namespace TagBinding.Live

variable {F M : Type}

namespace Session

variable {reliance : Reliance F M} {collecting : String → Prop} {behaviour : Behaviour F M}
  {plain : TagBinding.Behaviour F} {session : Session F M} {extractor index : Nat}
  {found : Extractor F}

/-- A turn at extracting does to a document what a plain pass does to its portrait. -/
theorem perform_extract_portrayed (implements : ∀ binding ∈ found.bindings,
      Binding.Implements reliance collecting behaviour plain binding)
    (collects : ∀ binding ∈ found.bindings, Binding.Collects collecting binding)
    (available : session.extractors[extractor]? = some found) {live : Document F}
    (present : session.documents[index]? = some live) {kept : Address → Prop}
    {document : TagBinding.Document F}
    (ready : (session.sceneOf live).Ready reliance collecting kept document) (thread : Thread) :
    let step := session.perform behaviour thread (.extract extractor index)
    let pass := TagBinding.extractPass plain found.bindings document
    (∃ after wider, step.session.documents[index]? = some after ∧
      (step.session.sceneOf after).Ready reliance collecting wider pass.document) ∧
      step.session.extractors[extractor]? = some found ∧
      (step.answer = .ok .done ↔ pass.fault? = none) := by
  intro step pass
  obtain ⟨left, ends, -⟩ := extractWith_portrayed present ready found implements collects thread
  have own : step = _ := perform_extract_eq behaviour thread available index
  refine ⟨?_, available_perform_extract behaviour thread available index, ?_⟩
  · rw [own]
    exact left
  · rw [← ends, own]
    simp only [Step.map]
    cases (session.extractWith behaviour thread found index).answer <;> simp [Except.map]

variable {transform : F → TagBinding.Tag F → TagBinding.Value F → Except String (TagBinding.Value F)}
  {fallback : F → TagSet F → Except String (TagBinding.Value F)}
  {document : TagBinding.Document F}
  (implements : ∀ binding ∈ found.bindings,
    Binding.Implements reliance collecting behaviour plain binding)
  (collects : ∀ binding ∈ found.bindings, Binding.Collects collecting binding)
  (determined : ∀ binding ∈ found.bindings, binding.Determined plain transform fallback)
  (distinct : (found.bindings.map Binding.target).Nodup)

include implements collects determined distinct

/-- Turns at extracting after the first one all succeed, and each deposits one more copy of the
values. -/
theorem extracting_again
    (suits : ∀ binding ∈ found.bindings, binding.Suits transform fallback document)
    (available : session.extractors[extractor]? = some found) (threads : List Thread)
    (count : Nat) {live : Document F} (present : session.documents[index]? = some live)
    {kept : Address → Prop}
    (ready : (session.sceneOf live).Ready reliance collecting kept
      (depositAll (copies (count + 1) (Binding.offer transform fallback document.tags))
        found.bindings document)) :
    let turns := threads.map fun thread => Turn.mk thread (.extract extractor index)
    (∀ entry ∈ session.transcript behaviour turns, entry.step.answer = .ok .done) ∧
      ∃ after wider, (session.afterTurns behaviour turns).documents[index]? = some after ∧
        ((session.afterTurns behaviour turns).sceneOf after).Ready reliance collecting wider
          (depositAll (copies (count + threads.length + 1)
            (Binding.offer transform fallback document.tags)) found.bindings document) := by
  -- On the turns that are left; how many copies there are by then is carried along.
  induction threads generalizing session count live kept with
  | nil => exact ⟨fun _ inside => absurd inside List.not_mem_nil, live, kept, present, ready⟩
  | cons thread rest ih =>
    intro turns
    obtain ⟨done, left⟩ := extractPass_of_copies determined distinct suits count
    obtain ⟨⟨now, wider, there, same⟩, still, answer⟩ :=
      perform_extract_portrayed implements collects available present ready thread
    rw [left] at same
    obtain ⟨others, last⟩ := ih still (count + 1) there same
    refine ⟨List.forall_mem_cons.mpr ⟨answer.mpr done, others⟩, ?_⟩
    rw [List.length_cons, Nat.add_comm rest.length 1, ← Nat.add_assoc]
    exact last

omit implements collects

/-- What repeated extraction comes to, when no list in which values are collected is held in a second
place. If one extraction of a document succeeds, by bindings with different targets whose functions
read tags alone, then so do all that follow, on whatever threads, and the properties stay in their
places. A property that does not collect is read as the value that it had after the first extraction.
One that collects is read as its first list, and behind that the values that the first extraction put
there, once for each extraction: the values of its tags in order, or its default. -/
theorem repeated_extraction (implements : ∀ binding ∈ found.bindings,
      Binding.Implements reliance (Collecting found.bindings) behaviour plain binding)
    (available : session.extractors[extractor]? = some found) {live : Document F}
    (present : session.documents[index]? = some live) {kept : Address → Prop}
    (ready : (session.sceneOf live).Ready reliance (Collecting found.bindings) kept document)
    (thread : Thread)
    (succeeds : (session.perform behaviour thread (.extract extractor index)).answer = .ok .done)
    (threads : List Thread) :
    let first := (session.perform behaviour thread (.extract extractor index)).session
    let turns := (thread :: threads).map fun thread => Turn.mk thread (.extract extractor index)
    let last := session.afterTurns behaviour turns
    ∃ once after shown again,
      first.documents[index]? = some once ∧ last.documents[index]? = some after ∧
      (∃ wider, (first.sceneOf once).Ready reliance (Collecting found.bindings) wider shown) ∧
      (∃ wider, (last.sceneOf after).Ready reliance (Collecting found.bindings) wider again) ∧
      (∀ entry ∈ session.transcript behaviour turns, entry.step.answer = .ok .done) ∧
      after.properties.keys = once.properties.keys ∧
      (∀ key, (∀ binding ∈ found.bindings, binding.definition.multi = true →
        binding.target ≠ key) → again.get? key = shown.get? key) ∧
      (∀ binding ∈ found.bindings, binding.definition.multi = true → ∃ appended,
        (document.tags.named binding.name ≠ [] →
          (document.tags.named binding.name).map
              (fun tag => (binding.evaluate plain tag document).outcome) =
            appended.map .ok) ∧
        (document.tags.named binding.name = [] →
          (appended = [] ∧ ∀ function ∈ binding.definition.defaultFn,
            (plain function document none .null).outcome = .ok .null) ∨
          ∃ function ∈ binding.definition.defaultFn, ∃ value, value ≠ .null ∧
            (plain function document none .null).outcome = .ok value ∧ appended = [value]) ∧
        (appended = [] → shown.get? binding.target = document.get? binding.target ∧
          again.get? binding.target = document.get? binding.target) ∧
        (appended ≠ [] → document.CanCollect binding.target ∧
          shown.get? binding.target =
            some (.list (document.items binding.target ++ appended)) ∧
          again.get? binding.target =
            some (.list (document.items binding.target ++
              (List.replicate (threads.length + 1) appended).flatten)))) ∧
      ((∀ binding ∈ found.bindings, binding.definition.multi = false) → again = shown) := by
  intro first turns last
  have apart : ∀ one ∈ found.bindings, ∀ other ∈ found.bindings, one.target = other.target →
      one.definition.multi = other.definition.multi := by
    intro one here other there same
    rw [List.inj_on_of_nodup_map distinct here there same]
  have collects := collects_of_apart apart
  obtain ⟨⟨once, wider, now, left⟩, still, answer⟩ :=
    perform_extract_portrayed implements collects available present ready thread
  have done := answer.mp succeeds
  have suits := suits_of_extractPass found.bindings document determined distinct done
  rw [(extractPass_of_suits found.bindings document determined distinct suits).2] at left
  obtain ⟨others, after, widest, there, all⟩ := extracting_again implements collects determined
    distinct suits still threads 0 now (by rwa [Nat.zero_add, copies_one])
  rw [Nat.zero_add] at all
  refine ⟨once, after, _, _, now, there, ⟨wider, left⟩, ⟨widest, all⟩,
    List.forall_mem_cons.mpr ⟨succeeds, others⟩, ?_, ?_, ?_,
    depositAll_copies_of_single _ document _⟩
  · exact all.keys.trans ((keys_depositAll_copies _ document _).trans left.keys.symm)
  · intro key free
    refine get?_depositAll_copies_of_single _ document distinct _ fun binding inside same => ?_
    exact Bool.eq_false_iff.mpr fun multi => free binding inside multi same
  · intro binding inside multi
    have own := determined binding inside
    have fits := suits binding inside
    have one := get?_depositAll_of_collecting
      (Binding.offer transform fallback document.tags) document distinct inside multi
    have many := get?_depositAll_of_collecting
      (copies (threads.length + 1) (Binding.offer transform fallback document.tags)) document
      distinct inside multi
    refine ⟨binding.offer transform fallback document.tags, fun some => ?_, own.offer_of_nil fits,
      fun none => ?_, fun some => ⟨fits.growable multi some, ?_, ?_⟩⟩
    · simp only [own.evaluate]
      exact Binding.map_outcome_eq_offer some fits.values
    · have copied := (copies_succ_eq_nil_iff threads.length _ binding).mpr none
      rw [one, many, if_pos none, if_pos copied]
      exact ⟨rfl, rfl⟩
    · rw [one, if_neg some]
    · rw [many, if_neg (mt (copies_succ_eq_nil_iff _ _ _).mp some)]
      rfl

end Session

/-- A title, remarks, and keywords, of which there is one by default. -/
def numbers : List (Binding Bool) :=
  [⟨.plain "title", .single true, .identity⟩,
    ⟨(Definition.plain "remark").collecting, .identity, .single true⟩,
    ⟨{ (Definition.plain "keyword").collecting with defaultFn := some false }, .identity,
      .identity⟩]

/-- A document with a title and two remarks, and with one remark that it has already. -/
def numbered : TagBinding.Document Bool :=
  ⟨none, none, .ofList .empty
    [⟨"title", .text "T", 1, none, none, []⟩, ⟨"remark", .text "a", 2, none, none, []⟩,
      ⟨"remark", .text "b", 3, none, none, []⟩],
    .ofList [("remark", .list [.text "x"])]⟩

/-- A session with that document and an extractor for it. -/
def Session.numbering : Session Bool Unit := .ofPlain () ⟨[numbered], [⟨numbers, .record⟩], []⟩

/-- Two more extractions repeat the remarks and the keyword. -/
theorem repeated_extraction_numbered :
    let turns := [Thread.main, .main, .main].map fun thread => Turn.mk thread (.extract 0 0)
    let last := Session.numbering.afterTurns counting turns
    (∀ entry ∈ Session.numbering.transcript counting turns, entry.step.answer = .ok .done) ∧
      ∃ after again, last.documents[0]? = some after ∧
        (∃ kept, (last.sceneOf after).Ready .nothing (Collecting numbers) kept again) ∧
        again.get? "remark" = some (.list [.text "x", .text "a", .text "b", .text "a", .text "b",
          .text "a", .text "b"]) ∧
        again.get? "keyword" = some (.list [.int 3, .int 3, .int 3]) := by
  intro turns last
  have transforms : ∀ binding ∈ numbers, ∀ function ∈ binding.transforms, function = true := by
    decide
  have defaults : ∀ binding ∈ numbers, ∀ function ∈ binding.definition.defaultFn,
      function = false := by decide
  have determined : ∀ binding ∈ numbers, binding.Determined plainCounting
      (fun function tag value => (plainCounting function .empty (some tag) value).outcome)
      (fun _ tags => .ok (.int tags.size)) := by
    intro binding inside
    constructor
    · intro function used document tag value
      obtain rfl := transforms binding inside function used
      cases value <;> rfl
    · intro function default document
      obtain rfl := defaults binding inside function default
      rfl
  obtain ⟨live, kept, present, ready⟩ := Session.ready_ofPlain () ⟨[numbered], [⟨numbers, .record⟩],
    []⟩ (Collecting numbers) (show [numbered][0]? = _ from rfl)
  have available : Session.numbering.extractors[0]? = some ⟨numbers, .record⟩ := rfl
  have succeeds : (Session.numbering.perform counting .main (.extract 0 0)).answer = .ok .done := rfl
  obtain ⟨once, after, shown, again, -, there, -, read, all, -, -, lists, -⟩ :=
    Session.repeated_extraction determined (by decide) (fun binding inside =>
      implements_counting (transforms binding inside) (defaults binding inside)) available present
      ready .main succeeds [.main, .main]
  refine ⟨all, after, again, there, read, ?_, ?_⟩
  · obtain ⟨appended, values, -, -, grown⟩ := lists numbers[1] (by simp [numbers]) rfl
    have same : appended = [.text "a", .text "b"] := by
      have mapped : [.ok (.text "a"), .ok (.text "b")] = appended.map Except.ok :=
        values (List.cons_ne_nil _ _)
      exact (List.map_injective_iff.mpr fun _ _ => Except.ok.inj) mapped.symm
    have items : numbered.items numbers[1].target = [.text "x"] := rfl
    obtain ⟨-, -, held⟩ := grown (by simp [same])
    rw [items, same] at held
    exact held
  · obtain ⟨appended, -, default, -, grown⟩ := lists numbers[2] (by simp [numbers]) rfl
    have same : appended = [.int 3] := by
      rcases default rfl with ⟨-, null⟩ | ⟨function, used, value, -, given, one⟩
      · cases null false rfl
      · obtain rfl : false = function := Option.some.inj used
        rw [one, ← Except.ok.inj given]
        rfl
    have items : numbered.items numbers[2].target = [] := rfl
    obtain ⟨-, -, held⟩ := grown (by simp [same])
    rw [items, same] at held
    exact held

/-- A session with the document in which two properties hold one list, and an extractor that collects
in both. -/
def Session.paired : Session Empty Unit :=
  ⟨(), Live.shared.heap, [Live.shared.document], [⟨pairing, .record⟩], []⟩

/-- The bindings have different targets, and the first extraction succeeds. After a second one, each
of the properties shows the values of both twice. -/
theorem repeated_extraction_shared :
    let turns := [Thread.main, .main].map fun thread => Turn.mk thread (.extract 0 0)
    let last := Session.paired.afterTurns functionless turns
    (pairing.map Binding.target).Nodup ∧
      (∀ entry ∈ Session.paired.transcript functionless turns,
        entry.step.answer = .ok .done) ∧
      (Live.shared.document.named "b").map Tag.description = [.text "B"] ∧
      (Live.shared.document.named "c").map Tag.description = [.text "C"] ∧
      ∀ key ∈ ["x", "y"], (last.documents[0]?.bind (Document.get? · key)).map last.heap.read =
        some (.list [.text "q", .text "B", .text "C", .text "B", .text "C"]) := by
  refine ⟨by decide, ?_, rfl, rfl, ?_⟩
  · exact List.forall_mem_cons.mpr ⟨rfl, List.forall_mem_cons.mpr ⟨rfl,
      fun _ inside => absurd inside List.not_mem_nil⟩⟩
  · simp only [List.forall_mem_cons]
    exact ⟨rfl, rfl, fun _ inside => absurd inside List.not_mem_nil⟩

end TagBinding.Live
