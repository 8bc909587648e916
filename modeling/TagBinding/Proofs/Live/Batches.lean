import TagBinding.Proofs.Live.Interleaving
import Mathlib.Data.List.Nodup
import Mathlib.Data.List.Perm.Basic

/-!
# Batches of documents

An extractor may be used on documents in order, up to the first that it cannot be used on. Whatever
the functions do, this comes to what single turns at extracting come to that are taken one after
another (`Session.Batched`), reports and reporters included.

If the functions are confined, a turn at extracting changes its own document only
(`Session.Housed.sameAt_perform_extract`), and what it makes of that one, and whether it can, depends
on nothing else (`Session.SameAt.perform_extract`). So a document stays as its own last extraction
has left it, unless it is also the one that stops the batch, and where no document has two places,
the order of the batch makes no difference. Functions that remember their runs, or that hand out a
list of their own, entangle the documents of a batch (`batches_entangled`).
-/
namespace TagBinding

namespace Output

/-- Outputs one after another. -/
def join (outputs : List Output) : Output := outputs.foldr (· ++ ·) ∅

/-- An output before none is that output. -/
theorem append_empty (output : Output) : output ++ (∅ : Output) = output := by
  show Output.mk _ _ _ = output
  simp only [EmptyCollection.emptyCollection, empty, List.append_nil]

/-- One output alone is that output. -/
theorem join_singleton (output : Output) : join [output] = output := output.append_empty

end Output

namespace Live

variable {F M : Type}

namespace Session

/-- Turns of a thread at extracting documents, one for each place. -/
def extractions (thread : Thread) (extractor : Nat) (places : List Nat) : List (Turn F) :=
  places.map fun place => ⟨thread, .extract extractor place⟩

/-- What comes of an extraction of documents in order, in terms of turns at extracting them that are
taken one after another. There is one way to come to the end and one to be stopped. -/
inductive Batched (behaviour : Behaviour F M) (session : Session F M) (thread : Thread)
    (extractor : Nat) (places : List Nat) : Step F M (Answer F) → Prop where
  /-- If every turn succeeds, all of them are taken, and the documents are the answer. -/
  | completed
    (each : ∀ entry ∈ session.transcript behaviour (extractions thread extractor places),
      entry.step.answer = .ok .done) :
    Batched behaviour session thread extractor places
      ⟨session.afterTurns behaviour (extractions thread extractor places),
        .join ((session.transcript behaviour (extractions thread extractor places)).map
          (·.step.output)) ++ .ofDebug [.extracted places.length],
        .ok (.places places)⟩
  /-- If a turn ends in a fault, and no turn before it does, the turns after it are not taken, and
  the fault is the answer. -/
  | stopped {done rest : List Nat} {failing : Nat} {fault : Fault F}
    (split : places = done ++ failing :: rest)
    (each : ∀ entry ∈ session.transcript behaviour (extractions thread extractor done),
      entry.step.answer = .ok .done)
    (failed : ((session.afterTurns behaviour (extractions thread extractor done)).perform behaviour
      thread (.extract extractor failing)).answer = .error fault) :
    Batched behaviour session thread extractor places
      ⟨session.afterTurns behaviour (extractions thread extractor (done ++ [failing])),
        .join ((session.transcript behaviour
          (extractions thread extractor (done ++ [failing]))).map (·.step.output)),
        .error fault⟩

/-- What comes of turns in two runs: the second ones are taken in the session that the first ones
leave. -/
theorem transcript_append (behaviour : Behaviour F M) (session : Session F M)
    (first second : List (Turn F)) :
    session.transcript behaviour (first ++ second) =
      session.transcript behaviour first ++
        (session.afterTurns behaviour first).transcript behaviour second := by
  induction first generalizing session with
  | nil => rfl
  | cons turn rest ih => exact congrArg (List.cons _) (ih _)

/-- Turns in two runs are turns in one. -/
theorem afterTurns_append (behaviour : Behaviour F M) (session : Session F M)
    (first second : List (Turn F)) :
    session.afterTurns behaviour (first ++ second) =
      (session.afterTurns behaviour first).afterTurns behaviour second := by
  induction first generalizing session with
  | nil => rfl
  | cons turn rest ih => exact ih _

section Batches

variable (behaviour : Behaviour F M) {session : Session F M} (thread : Thread) {extractor : Nat}
  {found : Extractor F} (available : session.extractors[extractor]? = some found)

include available

/-- A turn at extracting is the extraction of the document. -/
theorem perform_extract_eq (place : Nat) :
    session.perform behaviour thread (.extract extractor place) =
      (session.extractWith behaviour thread found place).map fun _ => .done := by
  simp only [perform, useExtractor, available]

/-- Extraction leaves the extractors as they are. -/
theorem available_perform_extract (place : Nat) :
    (session.perform behaviour thread (.extract extractor place)).session.extractors[extractor]? =
      some found := by
  rw [perform_extract_eq behaviour thread available]
  show (session.extractWith behaviour thread found place).session.extractors[extractor]? = _
  cases present : session.documents[place]? with
  | none =>
    rw [session.extractWith_of_none thread behaviour found present]
    exact available
  | some document =>
    rw [session.extractWith_of_some thread behaviour found present]
    exact available

/-- Turns at extracting leave the extractors as they are. -/
theorem available_afterTurns (places : List Nat) :
    (session.afterTurns behaviour
      (extractions thread extractor places)).extractors[extractor]? = some found := by
  induction places generalizing session with
  | nil => exact available
  | cons place rest ih => exact ih (available_perform_extract behaviour thread available place)

/-- An extraction of documents in order starts with the turn for the first one. If the turn ends in
a fault, that is all; if it does not, the extraction goes on with the other documents. -/
theorem extractEachWith_cons (place : Nat) (rest : List Nat) :
    let first := session.perform behaviour thread (.extract extractor place)
    let others := first.session.extractEachWith behaviour thread found rest
    (∃ fault, first.answer = .error fault ∧
      session.extractEachWith behaviour thread found (place :: rest) =
        ⟨first.session, first.output, .error fault⟩) ∨
    (first.answer = .ok .done ∧
      session.extractEachWith behaviour thread found (place :: rest) =
        ⟨others.session, first.output ++ others.output, others.answer⟩) := by
  rw [perform_extract_eq behaviour thread available]
  cases answer : (session.extractWith behaviour thread found place).answer with
  | error fault =>
    refine .inl ⟨fault, ?_, ?_⟩
    · rw [Step.map, answer]
      rfl
    · simp only [extractEachWith, answer]
      rfl
  | ok _ =>
    refine .inr ⟨?_, ?_⟩
    · rw [Step.map, answer]
      rfl
    · simp only [extractEachWith, answer]
      rfl

/-- An extraction of documents in order comes to what the turns come to, up to the first that ends
in a fault. -/
theorem extractEachWith_turns (places : List Nat) :
    ((∀ entry ∈ session.transcript behaviour (extractions thread extractor places),
        entry.step.answer = .ok .done) ∧
      session.extractEachWith behaviour thread found places =
        ⟨session.afterTurns behaviour (extractions thread extractor places),
          .join ((session.transcript behaviour (extractions thread extractor places)).map
            (·.step.output)), .ok ()⟩) ∨
    ∃ done failing rest fault, places = done ++ failing :: rest ∧
      (∀ entry ∈ session.transcript behaviour (extractions thread extractor done),
        entry.step.answer = .ok .done) ∧
      ((session.afterTurns behaviour (extractions thread extractor done)).perform behaviour
        thread (.extract extractor failing)).answer = .error fault ∧
      session.extractEachWith behaviour thread found places =
        ⟨session.afterTurns behaviour (extractions thread extractor (done ++ [failing])),
          .join ((session.transcript behaviour
            (extractions thread extractor (done ++ [failing]))).map (·.step.output)),
          .error fault⟩ := by
  induction places generalizing session with
  | nil => exact .inl ⟨fun _ inside => absurd inside List.not_mem_nil, rfl⟩
  | cons place rest ih =>
    have others := ih (available_perform_extract behaviour thread available place)
    rcases extractEachWith_cons behaviour thread available place rest with
      ⟨fault, failed, whole⟩ | ⟨answer, step⟩
    · refine .inr ⟨[], place, rest, fault, rfl, fun _ inside => absurd inside List.not_mem_nil,
        failed, ?_⟩
      rw [whole, ← Output.join_singleton (session.perform behaviour thread _).output]
      rfl
    · rw [step]
      rcases others with ⟨each, whole⟩ | ⟨done, failing, last, fault, rfl, each, failed, cut⟩
      · refine .inl ⟨List.forall_mem_cons.mpr ⟨answer, each⟩, ?_⟩
        rw [whole]
        rfl
      · refine .inr ⟨place :: done, failing, last, fault, rfl,
          List.forall_mem_cons.mpr ⟨answer, each⟩, failed, ?_⟩
        rw [cut]
        rfl

/-- The use of an extractor on documents in order comes to what the turns come to. -/
theorem batched_perform (places : List Nat) :
    Batched behaviour session thread extractor places
      (session.perform behaviour thread (.extractEach extractor places)) := by
  rcases extractEachWith_turns behaviour thread available places with
    ⟨each, whole⟩ | ⟨done, failing, rest, fault, split, each, failed, cut⟩
  · have ends := Batched.completed each
    simpa only [perform, useExtractor, available, whole] using ends
  · have ends := Batched.stopped split each failed
    simpa only [perform, useExtractor, available, cut] using ends

/-- If all turns succeed, nothing stops the extraction of the documents. -/
theorem answer_perform_extractEach_iff (places : List Nat) :
    (session.perform behaviour thread (.extractEach extractor places)).answer =
        .ok (.places places) ↔
      ∀ entry ∈ session.transcript behaviour (extractions thread extractor places),
        entry.step.answer = .ok .done := by
  have batched := batched_perform behaviour thread available places
  generalize session.perform behaviour thread (.extractEach extractor places) = batch at batched
  cases batched with
  | completed each => exact iff_of_true rfl each
  | @stopped done rest failing fault split each failed =>
    refine iff_of_false nofun fun all => ?_
    -- The turn that stops it is one of the turns.
    have turns : session.transcript behaviour (extractions thread extractor places) =
        session.transcript behaviour (extractions thread extractor done) ++
          (session.afterTurns behaviour (extractions thread extractor done)).transcript behaviour
            (extractions thread extractor (failing :: rest)) := by
      rw [split, extractions, List.map_append]
      exact session.transcript_append behaviour _ _
    rw [turns] at all
    have answer := all _ (List.mem_append_right _ List.mem_cons_self)
    cases failed.symm.trans answer

/-- A batch that is not stopped leaves the session as the turns do. -/
theorem session_of_answer {places : List Nat}
    (answer : (session.perform behaviour thread (.extractEach extractor places)).answer =
      .ok (.places places)) :
    (session.perform behaviour thread (.extractEach extractor places)).session =
      session.afterTurns behaviour (extractions thread extractor places) := by
  have batched := batched_perform behaviour thread available places
  generalize session.perform behaviour thread (.extractEach extractor places) = batch
    at batched answer
  cases batched with
  | completed each => rfl
  | stopped split each failed => cases answer

end Batches

section Confined

variable {behaviour : Behaviour F M} (confined : ∀ function, (behaviour function).Confined)
  (thread : Thread) {extractor : Nat} {found : Extractor F}

include confined

/-- A turn at extracting makes no difference in the places of other documents. -/
theorem Housed.sameAt_perform_extract {session : Session F M} (housed : session.Housed)
    (available : session.extractors[extractor]? = some found) {index place : Nat}
    (apart : index ≠ place) :
    session.SameAt place (session.perform behaviour thread (.extract extractor index)).session := by
  rw [perform_extract_eq behaviour thread available]
  show session.SameAt place (session.extractWith behaviour thread found index).session
  cases present : session.documents[index]? with
  | none => rw [session.extractWith_of_none thread behaviour found present]
  | some document =>
    rw [session.extractWith_of_some thread behaviour found present]
    obtain ⟨same, items, lists⟩ := session.sameAt_putScene apart
      (housed.extractPass confined found.bindings present)
    exact ⟨same, items, lists⟩

/-- A turn at extracting comes to the same in sessions that are the same in its place. -/
theorem SameAt.perform_extract {one other : Session F M} {place : Nat}
    (same : one.SameAt place other) (oneHoused : one.Housed) (otherHoused : other.Housed)
    (available : one.extractors[extractor]? = some found)
    (alsoAvailable : other.extractors[extractor]? = some found) :
    (one.perform behaviour thread (.extract extractor place)).answer =
        (other.perform behaviour thread (.extract extractor place)).answer ∧
      (one.perform behaviour thread (.extract extractor place)).session.SameAt place
        (other.perform behaviour thread (.extract extractor place)).session := by
  rw [perform_extract_eq behaviour thread available,
    perform_extract_eq behaviour thread alsoAvailable]
  cases present : other.documents[place]? with
  | none =>
    rw [one.extractWith_of_none thread behaviour found (same.document.trans present),
      other.extractWith_of_none thread behaviour found present]
    exact ⟨rfl, same⟩
  | some document =>
    have there := same.document.trans present
    have all := fun binding (_ : binding ∈ found.bindings) =>
      Binding.Confined.of_all confined binding
    obtain ⟨passes, -⟩ := extractPass_beside all (oneHoused.alike_of_sameAt same there)
    have right := otherHoused.extractPass confined found.bindings present
    rw [one.extractWith_of_some thread behaviour found there,
      other.extractWith_of_some thread behaviour found present]
    obtain ⟨document, items, lists⟩ := same.putScene passes.scene right
    refine ⟨?_, document, items, lists⟩
    simp only [Step.map, passes.fault?]

/-- Turns at extracting make no difference in places for which there is none. -/
theorem Housed.sameAt_afterTurns {session : Session F M} (housed : session.Housed)
    (available : session.extractors[extractor]? = some found) {places : List Nat} {place : Nat}
    (outside : place ∉ places) :
    session.SameAt place (session.afterTurns behaviour (extractions thread extractor places)) := by
  induction places generalizing session with
  | nil => rfl
  | cons first rest ih =>
    obtain ⟨apart, later⟩ := not_or.mp (mt List.mem_cons.mpr outside)
    have step := housed.sameAt_perform_extract confined thread available (Ne.symm apart)
    have next := housed.perform confined thread (.extract extractor first)
    exact step.trans
      (ih next (available_perform_extract behaviour thread available first) later)

/-- Turns at extracting different documents come to what each of them comes to alone: all succeed
exactly if each does alone, and every document is left as it is left alone. -/
theorem Housed.turns_of_nodup {session alone : Session F M} (housed : session.Housed)
    (aloneHoused : alone.Housed) (available : session.extractors[extractor]? = some found)
    (alsoAvailable : alone.extractors[extractor]? = some found) {places : List Nat}
    (distinct : places.Nodup) (same : ∀ place ∈ places, session.SameAt place alone) :
    ((∀ entry ∈ session.transcript behaviour (extractions thread extractor places),
        entry.step.answer = .ok .done) ↔
      ∀ place ∈ places, (alone.perform behaviour thread (.extract extractor place)).answer =
        .ok .done) ∧
    ∀ place ∈ places,
      (session.afterTurns behaviour (extractions thread extractor places)).SameAt place
        (alone.perform behaviour thread (.extract extractor place)).session := by
  induction places generalizing session with
  | nil =>
    exact ⟨iff_of_true (fun _ inside => absurd inside List.not_mem_nil)
      (fun _ inside => absurd inside List.not_mem_nil),
      fun _ inside => absurd inside List.not_mem_nil⟩
  | cons place rest ih =>
    obtain ⟨fresh, others⟩ := List.nodup_cons.mp distinct
    obtain ⟨here, later⟩ := List.forall_mem_cons.mp same
    have next := housed.perform confined thread (.extract extractor place)
    have still := available_perform_extract behaviour thread available place
    -- The places behind are left alone by the turn in front.
    have untouched : ∀ index ∈ rest,
        (session.perform behaviour thread (.extract extractor place)).session.SameAt index
          alone := by
      intro index member
      have apart : place ≠ index := fun equal => fresh (equal ▸ member)
      exact (housed.sameAt_perform_extract confined thread available apart).symm.trans
        (later index member)
    obtain ⟨answers, ends⟩ := ih next still others untouched
    obtain ⟨answer, left⟩ :=
      here.perform_extract confined thread housed aloneHoused available alsoAvailable
    constructor
    · refine List.forall_mem_cons.trans (Iff.trans (and_congr ?_ answers)
        List.forall_mem_cons.symm)
      show (session.perform behaviour thread (.extract extractor place)).answer = _ ↔ _
      rw [answer]
    · refine List.forall_mem_cons.mpr ⟨?_, ends⟩
      have kept := next.sameAt_afterTurns confined thread still fresh
      exact kept.symm.trans left

end Confined

/-- A batch that is stopped has taken turns up to the one that ends in a fault. With confined functions
each document before that stays as the last of its extractions has left it. -/
theorem stopped_of_fault (behaviour : Behaviour F M) {session : Session F M} (thread : Thread)
    {extractor : Nat} {found : Extractor F}
    (available : session.extractors[extractor]? = some found) {places : List Nat} {fault : Fault F}
    (answer : (session.perform behaviour thread (.extractEach extractor places)).answer =
      .error fault) :
    let after := fun places => session.afterTurns behaviour (extractions thread extractor places)
    ∃ done failing rest, places = done ++ failing :: rest ∧
      (∀ entry ∈ session.transcript behaviour (extractions thread extractor done),
        entry.step.answer = .ok .done) ∧
      ((after done).perform behaviour thread (.extract extractor failing)).answer =
        .error fault ∧
      (session.perform behaviour thread (.extractEach extractor places)).session =
        after (done ++ [failing]) ∧
      (session.Housed → (∀ function, (behaviour function).Confined) →
        ∀ before place behind, done = before ++ place :: behind → place ∉ behind →
          place ≠ failing → (after (done ++ [failing])).SameAt place (after (before ++ [place]))) := by
  intro after
  have batched := batched_perform behaviour thread available places
  generalize session.perform behaviour thread (.extractEach extractor places) = batch
    at batched answer
  cases batched with
  | completed each => cases answer
  | @stopped done rest failing reason split each failed =>
    obtain rfl : reason = fault := Except.error.inj answer
    refine ⟨done, failing, rest, split, each, failed, rfl, ?_⟩
    rintro housed confined before place behind rfl unreached apart
    have turns : after (before ++ place :: behind ++ [failing]) =
        (after (before ++ [place])).afterTurns behaviour
          (extractions thread extractor (behind ++ [failing])) := by
      have rearranged : before ++ place :: behind ++ [failing] =
          before ++ [place] ++ (behind ++ [failing]) := by simp
      show session.afterTurns behaviour _ = (session.afterTurns behaviour _).afterTurns behaviour _
      rw [rearranged, extractions, List.map_append]
      exact session.afterTurns_append behaviour _ _
    have later := housed.afterTurns confined (extractions thread extractor (before ++ [place]))
    have still := available_afterTurns behaviour thread available (before ++ [place])
    have outside : place ∉ behind ++ [failing] := by
      simp [unreached, apart]
    rw [turns]
    exact (later.sameAt_afterTurns confined thread still outside).symm

end Session

/-- A tag that is not understood. -/
def remark : TagBinding.Tag Unit := ⟨"see", .null, 9, none, none, ["unclear"]⟩

/-- A function that attaches such a tag and keeps the value. -/
def remarking : Behaviour Unit Unit := fun _ => action (.addTag remark none)

/-- An extractor of titles, each of which gives rise to a remark. -/
def heading : Extractor Unit :=
  ⟨[⟨{ Definition.plain "title" with required := true }, .single (), .identity⟩], .record⟩

/-- A document with a title. -/
def headed : TagBinding.Document Unit :=
  ⟨some "a.js", some 3, .ofList .empty [⟨"title", .text "A", 4, none, none, []⟩],
    .ofList [("id", .text "a")]⟩

/-- A session of two documents with a title and one without. -/
def Session.headings : Session Unit Unit := .ofPlain () ⟨[headed, .empty, headed], [heading], []⟩

/-- Two functions: one answers how often it has been run, the other one hands out a list of its own,
which is the same one at every run. -/
def retentive : Behaviour Bool Nat
  | true, scene, _, _ => ⟨scene.memory + 1, [], .ok (.int scene.memory)⟩
  | false, scene, _, _ => scene.give (.list ⟨2, 0⟩)

/-- An extractor that collects a tag in two properties, and then puts another tag in the place of the
second list. -/
def displacing : Extractor Bool :=
  ⟨[⟨((Definition.plain "a").onto "seen").collecting, .identity, .identity⟩,
    ⟨((Definition.plain "a").onto "x").collecting, .identity, .identity⟩,
    ⟨(Definition.plain "b").onto "x", .identity, .identity⟩], .record⟩

/-- An extractor that numbers documents. -/
def enumerating : Extractor Bool :=
  ⟨[⟨{ Definition.plain "n" with defaultFn := some true }, .identity, .identity⟩], .record⟩

/-- An extractor that collects a tag in the list that a function hands out. -/
def lending : Extractor Bool :=
  ⟨[⟨{ (Definition.plain "n").onto "x" with defaultFn := some false }, .identity, .identity⟩,
    ⟨((Definition.plain "b").onto "x").collecting, .identity, .identity⟩], .record⟩

/-- A document with a tag of either name. -/
def lettered (content : String) : TagBinding.Document Bool :=
  ⟨none, none, .ofList .empty
    [⟨"a", .text "A", 0, none, none, []⟩, ⟨"b", .text content, 0, none, none, []⟩], .empty⟩

/-- A session of two such documents and of these extractors, in which there is the list of that
function. -/
def Session.letters : Session Bool Nat :=
  let session := Session.ofPlain 0
    ⟨[lettered "one", lettered "two"], [displacing, enumerating, lending], []⟩
  { session with heap := session.heap.make 2 [] }

end Live

end TagBinding
