import TagBinding.Report.Log

/-!
# Passes in parts

A pass is put together from parts, each of which runs on the document that the one before it
leaves, unless that one ended early. This makes the passes over a list of bindings compose
(`extractPass_append`), and a pass that ends early splits at the binding that stopped it: all of
the pass comes from the bindings before that one and from its own extraction
(`exists_split_of_fault`).
-/
namespace TagBinding

variable {F : Type}

namespace Pass

/-- Two passes that end alike, after the same events, are equal. -/
@[ext] theorem ext {left right : Pass F} (document : left.document = right.document)
    (events : left.events = right.events) (fault? : left.fault? = right.fault?) :
    left = right := by
  cases left
  cases right
  cases document
  cases events
  cases fault?
  rfl

/-- An event changes no document. -/
@[simp] theorem document_after (event : Event F) (pass : Pass F) :
    (pass.after event).document = pass.document := rfl

/-- An event stops no pass. -/
@[simp] theorem fault?_after (event : Event F) (pass : Pass F) :
    (pass.after event).fault? = pass.fault? := rfl

/-- An event that comes first stands before the other ones. -/
@[simp] theorem events_after (event : Event F) (pass : Pass F) :
    (pass.after event).events = event :: pass.events := rfl

/-- A pass that fails at once leaves the document. -/
@[simp] theorem document_failed (document : Document F) (fault : Fault F) :
    (failed document fault).document = document := rfl

/-- A pass in which nothing happens leaves the document. -/
@[simp] theorem document_still (document : Document F) : (still document).document = document :=
  rfl

/-- A pass that fails at once ends with its fault. -/
@[simp] theorem fault?_failed (document : Document F) (fault : Fault F) :
    (failed document fault).fault? = some fault := rfl

/-- A pass in which nothing happens ends well. -/
@[simp] theorem fault?_still (document : Document F) : (still document).fault? = none := rfl

/-- Where nothing happens nothing is called. -/
@[simp] theorem calls_still (document : Document F) : (still document).calls = [] := rfl

/-- Where all fails at once nothing is called. -/
@[simp] theorem calls_failed (document : Document F) (fault : Fault F) :
    (failed document fault).calls = [] := rfl

/-- The start of a binding is no call. -/
@[simp] theorem calls_after_began (name target : String) (pass : Pass F) :
    (pass.after (.began name target)).calls = pass.calls := rfl

/-- A default is not called for a tag. -/
@[simp] theorem calls_after_defaulted (seen : Document F) (reply : Reply F) (pass : Pass F) :
    (pass.after (.defaulted seen reply)).calls = pass.calls := rfl

/-- A call that comes first stands before the other ones. -/
@[simp] theorem calls_after_evaluated (call : Call F) (pass : Pass F) :
    (pass.after (.evaluated call)).calls = call :: pass.calls := rfl

/-- Where nothing happens nothing is reported. -/
@[simp] theorem messages_still (document : Document F) : (still document).messages = [] := rfl

/-- Where all fails at once nothing is reported. -/
@[simp] theorem messages_failed (document : Document F) (fault : Fault F) :
    (failed document fault).messages = [] := rfl

/-- The start of a binding reports nothing. -/
@[simp] theorem messages_after_began (name target : String) (pass : Pass F) :
    (pass.after (.began name target)).messages = pass.messages := rfl

/-- A default reports nothing. -/
@[simp] theorem messages_after_defaulted (seen : Document F) (reply : Reply F) (pass : Pass F) :
    (pass.after (.defaulted seen reply)).messages = pass.messages := rfl

/-- A call reports nothing. -/
@[simp] theorem messages_after_evaluated (call : Call F) (pass : Pass F) :
    (pass.after (.evaluated call)).messages = pass.messages := rfl

/-- A part that ended early has nothing after it. -/
theorem andThen_of_fault {pass : Pass F} (next : Document F → Pass F) {fault : Fault F}
    (failed : pass.fault? = some fault) : pass.andThen next = pass := by
  simp only [andThen, failed]

/-- A part that came to its end is followed by the next one, on the document that it leaves. -/
theorem andThen_of_none {pass : Pass F} (next : Document F → Pass F)
    (done : pass.fault? = none) :
    pass.andThen next =
      ⟨(next pass.document).document, pass.events ++ (next pass.document).events,
        (next pass.document).fault?⟩ := by
  simp only [andThen, done]

/-- Three parts in a row may be put together from either end. -/
theorem andThen_assoc (pass : Pass F) (first second : Document F → Pass F) :
    (pass.andThen first).andThen second =
      pass.andThen fun document => (first document).andThen second := by
  cases failed : pass.fault? with
  | some fault => simp only [andThen_of_fault _ failed]
  | none =>
    simp only [andThen_of_none _ failed]
    cases middle : (first pass.document).fault? with
    | some fault => simp only [andThen, middle]
    | none => simp only [andThen, middle, List.append_assoc]

end Pass

/-- A report never ends a pass. -/
@[simp] theorem Document.fault?_report (document : Document F) : document.report.fault? = none := by
  unfold report
  split <;> rfl

/-- A report changes no document. -/
@[simp] theorem Document.document_report (document : Document F) :
    document.report.document = document := by
  unfold report
  split <;> rfl

/-- The pass over bindings in a row is the pass over the first ones, and then over the others. -/
theorem extractPass_append (behaviour : Behaviour F) (first second : List (Binding F))
    (document : Document F) :
    extractPass behaviour (first ++ second) document =
      (extractPass behaviour first document).andThen (extractPass behaviour second) := by
  induction first generalizing document with
  | nil => rfl
  | cons binding rest ih =>
    have tail : extractPass behaviour (rest ++ second) =
        fun document => (extractPass behaviour rest document).andThen
          (extractPass behaviour second) := funext ih
    simp only [List.cons_append, extractPass, tail, Pass.andThen_assoc]

/-- A binding that ends a pass early leaves it as its own extraction left it. -/
theorem extractPass_cons_of_fault (behaviour : Behaviour F) (binding : Binding F)
    (rest : List (Binding F)) (document : Document F) {fault : Fault F}
    (failed : (binding.extract behaviour document).fault? = some fault) :
    extractPass behaviour (binding :: rest) document = binding.extract behaviour document := by
  simp only [extractPass, Pass.andThen_of_fault _ failed]

/-- A binding that is done is followed by the pass over the other ones. -/
theorem extractPass_cons_of_none (behaviour : Behaviour F) (binding : Binding F)
    (rest : List (Binding F)) (document : Document F)
    (done : (binding.extract behaviour document).fault? = none) :
    (extractPass behaviour (binding :: rest) document).document =
        (extractPass behaviour rest (binding.extract behaviour document).document).document ∧
      (extractPass behaviour (binding :: rest) document).fault? =
        (extractPass behaviour rest (binding.extract behaviour document).document).fault? := by
  have reported : ((binding.extract behaviour document).andThen Document.report).fault? = none := by
    simp [Pass.andThen_of_none _ done]
  rw [extractPass, Pass.andThen_of_none _ reported, Pass.andThen_of_none _ done]
  simp

/-- A pass that ends early splits at the binding that stopped it. The bindings before it are done,
the ones after it have no part in the pass. -/
theorem exists_split_of_fault (behaviour : Behaviour F) (bindings : List (Binding F))
    (document : Document F) {fault : Fault F}
    (failed : (extractPass behaviour bindings document).fault? = some fault) :
    ∃ done binding rest, bindings = done ++ binding :: rest ∧
      (extractPass behaviour done document).fault? = none ∧
      (binding.extract behaviour (extractPass behaviour done document).document).fault? =
        some fault := by
  induction bindings generalizing document with
  | nil => simp [extractPass, Pass.still] at failed
  | cons binding rest ih =>
    cases first : (binding.extract behaviour document).fault? with
    | some own =>
      refine ⟨[], binding, rest, rfl, rfl, ?_⟩
      rw [extractPass_cons_of_fault behaviour binding rest document first] at failed
      exact failed
    | none =>
      rw [(extractPass_cons_of_none behaviour binding rest document first).2] at failed
      obtain ⟨done, stopped, others, split, finished, broken⟩ := ih _ failed
      have before := extractPass_cons_of_none behaviour binding done document first
      refine ⟨binding :: done, stopped, others, ?_, ?_, ?_⟩
      · rw [split, List.cons_append]
      · rw [before.2, finished]
      · rw [before.1, broken]

end TagBinding
