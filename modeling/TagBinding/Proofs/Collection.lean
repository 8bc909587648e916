import TagBinding.Proofs.Edits
import TagBinding.Proofs.Passes

/-!
# Collecting while functions write

The functions that give the values of tags may change the document from which the tags came, its
collecting property included. What the loop over the tags leaves can still be said in one formula
(`Document.collecting`): write the whole list first, the values that the property held and then
the results of all calls, and let all edits follow. The formula covers both ways in which the loop
can go. As long as no call assigns the property, the list grows in it; from the first call on that
assigns the property, the list is lost, and the property holds what was assigned to it last.

`Binding.CollectsFrom` says what the loop does in terms of this formula, and
`Binding.collect_collectsFrom` proves it of the loop, from any point of it on, for functions that
do whatever they like, failing included.
-/
namespace TagBinding

variable {F : Type}

/-- The values that calls give, in order. -/
def results (calls : List (Call F)) : List (Value F) :=
  calls.filterMap fun call => call.reply.outcome.toOption

/-- The edits that calls make, in order. -/
def editsOf (calls : List (Call F)) : List (Edit F) := calls.flatMap fun call => call.reply.edits

/-- Without calls there are no values. -/
@[simp] theorem results_nil : results ([] : List (Call F)) = [] := rfl

/-- Without calls there are no edits. -/
@[simp] theorem editsOf_nil : editsOf ([] : List (Call F)) = [] := rfl

/-- The result of a last call comes last. -/
theorem results_concat {call : Call F} {value : Value F}
    (given : call.reply.outcome = .ok value) (past : List (Call F)) :
    results (past ++ [call]) = results past ++ [value] := by
  simp [results, given, Except.toOption]

/-- A last call that fails has no result. -/
theorem results_concat_of_error {call : Call F} {message : String}
    (failed : call.reply.outcome = .error message) (past : List (Call F)) :
    results (past ++ [call]) = results past := by
  simp [results, failed, Except.toOption]

/-- The edits of a last call come last. -/
theorem editsOf_concat (past : List (Call F)) (call : Call F) :
    editsOf (past ++ [call]) = editsOf past ++ call.reply.edits := by
  simp [editsOf]

namespace Document

/-- The items of the list that a property holds; there are none if it holds no list. -/
def items (document : Document F) (key : String) : List (Value F) :=
  match document.get? key with
  | some (.list items) => items
  | _ => []

/-- Whether values can be collected in a property: it is absent, or holds no value or a list. -/
def CanCollect (document : Document F) (key : String) : Prop :=
  ∀ held, document.get? key = some held → held = .null ∨ ∃ items, held = .list items

/-- A property in which values can be collected starts with the items that it holds. -/
theorem collected_of_canCollect {document : Document F} {key : String}
    (growable : document.CanCollect key) :
    (document.collected key : Except (Fault F) _) = .ok (document.items key) := by
  unfold collected items
  cases found : document.get? key with
  | none => rfl
  | some held =>
    rcases growable held found with rfl | ⟨items, rfl⟩ <;> rfl

/-- A property in which values cannot be collected holds something else, which is complained
about. -/
theorem collected_of_not_canCollect {document : Document F} {key : String}
    (fixed : ¬ document.CanCollect key) :
    ∃ held, document.get? key = some held ∧ held ≠ .null ∧ (∀ items, held ≠ .list items) ∧
      document.collected key = .error (.notAList held) := by
  simp only [CanCollect, Classical.not_forall, not_or, not_exists] at fixed
  obtain ⟨held, found, notNull, notList⟩ := fixed
  refine ⟨held, found, notNull, notList, ?_⟩
  unfold collected
  rw [found]
  cases held with
  | null => exact absurd rfl notNull
  | list items => exact absurd rfl (notList items)
  | _ => rfl

/-- A document after calls that collect values in a property: as if the whole list had been
written before the edits of the calls. -/
def collecting (document : Document F) (key : String) (held : List (Value F))
    (calls : List (Call F)) : Document F :=
  (document.assign key (.list (held ++ results calls))).editAll (editsOf calls)

/-- A call that fails adds its edits and no value. -/
theorem collecting_append_of_error (document : Document F) (key : String)
    (held : List (Value F)) (past : List (Call F)) {call : Call F} {message : String}
    (failed : call.reply.outcome = .error message) :
    document.collecting key held (past ++ [call]) =
      (document.collecting key held past).editAll call.reply.edits := by
  rw [collecting, results_concat_of_error failed, editsOf_concat, editAll_append, collecting]

/-- Once the collecting property has been assigned, by this call or by one before it, a call that
gives a value adds its edits alone. -/
theorem collecting_append_of_bound (document : Document F) (key : String)
    (held : List (Value F)) (past : List (Call F)) (call : Call F)
    (bound : (editsOf (past ++ [call])).any (Edit.assigns key) = true) :
    document.collecting key held (past ++ [call]) =
      (document.collecting key held past).editAll call.reply.edits := by
  rw [collecting, replace_of_bound document _ _ (.list (held ++ results past)) bound,
    editsOf_concat, editAll_append, collecting]

/-- As long as the collecting property has not been assigned, a call that gives a value adds its
edits, and the value at the end of the list. -/
theorem collecting_append_of_free (document : Document F) (key : String)
    (held : List (Value F)) (past : List (Call F)) {call : Call F} {value : Value F}
    (given : call.reply.outcome = .ok value)
    (free : (editsOf (past ++ [call])).any (Edit.assigns key) = false) :
    document.collecting key held (past ++ [call]) =
      ((document.collecting key held past).editAll call.reply.edits).assign key
        (.list (held ++ results past ++ [value])) := by
  rw [collecting, ← replace_of_free document _ (.list (held ++ results past)) _ free,
    editsOf_concat, editAll_append, collecting, results_concat given, List.append_assoc]

end Document

namespace Binding

/-- What the loop still carries of the list after calls: all of it, unless one of them has
assigned the collecting property. -/
def carried (binding : Binding F) (held : List (Value F)) (past : List (Call F)) :
    Option (List (Value F)) :=
  if (editsOf past).any (Edit.assigns binding.target) then none else some (held ++ results past)

/-- That a part of a pass asks for the values of tags and collects them, after calls that have
been made before. -/
structure CollectsFrom (behaviour : Behaviour F) (binding : Binding F) (document : Document F)
    (held : List (Value F)) (past : List (Call F)) (tags : List (Tag F)) (pass : Pass F) :
    Prop where
  /-- Every call finds the document as the calls before it have left it, and replies what the
  functions of the binding reply to that document. -/
  faithful : ∀ before call after, pass.calls = before ++ call :: after →
    call.seen = document.collecting binding.target held (past ++ before) ∧
      call.reply = binding.evaluate behaviour call.tag call.seen
  /-- The document is left as all calls leave it. -/
  left : pass.document = document.collecting binding.target held (past ++ pass.calls)
  /-- Nothing happens but calls. -/
  quiet : pass.events = pass.calls.map .evaluated
  /-- Either every tag has had its call, and every call has given a value, or the last call has
  failed, and the tags after it have had none. -/
  ending : (pass.fault? = none ∧ pass.calls.map Call.tag = tags ∧
      ∀ call ∈ pass.calls, ∃ value, call.reply.outcome = .ok value) ∨
    ∃ done call message rest, pass.calls = done ++ [call] ∧
      tags = done.map Call.tag ++ call.tag :: rest ∧
      (∀ call ∈ done, ∃ value, call.reply.outcome = .ok value) ∧
      call.reply.outcome = .error message ∧ pass.fault? = some (.functionFailed message)

section Loop

variable (behaviour : Behaviour F) (binding : Binding F) {call : Call F}

/-- A failing call ends the loop. -/
theorem collect_cons_of_error (held : Option (List (Value F))) (rest : List (Tag F))
    {message : String} (replied : call.reply = binding.evaluate behaviour call.tag call.seen)
    (failed : call.reply.outcome = .error message) :
    binding.collect behaviour held (call.tag :: rest) call.seen =
      .after (.evaluated call)
        (.failed (call.seen.editAll call.reply.edits) (.functionFailed message)) := by
  simp only [collect, ← replied, failed]

/-- A call that gives a value when the list is lost, or that loses it, adds its edits alone. -/
theorem collect_cons_of_lost (held : Option (List (Value F))) (rest : List (Tag F))
    {value : Value F} (replied : call.reply = binding.evaluate behaviour call.tag call.seen)
    (given : call.reply.outcome = .ok value)
    (lost : (if call.reply.assigns binding.target then none else held) = none) :
    binding.collect behaviour held (call.tag :: rest) call.seen =
      .after (.evaluated call)
        (binding.collect behaviour none rest (call.seen.editAll call.reply.edits)) := by
  simp only [collect, ← replied, given, lost]

/-- A call that gives a value and keeps the list adds its edits and the value. -/
theorem collect_cons_of_kept (held : Option (List (Value F))) (rest : List (Tag F))
    {value : Value F} {values : List (Value F)}
    (replied : call.reply = binding.evaluate behaviour call.tag call.seen)
    (given : call.reply.outcome = .ok value)
    (kept : (if call.reply.assigns binding.target then none else held) = some values) :
    binding.collect behaviour held (call.tag :: rest) call.seen =
      .after (.evaluated call)
        (binding.collect behaviour (some (values ++ [value])) rest
          ((call.seen.editAll call.reply.edits).assign binding.target
            (.list (values ++ [value])))) := by
  simp only [collect, ← replied, given, kept]

/-- What the loop carries after one more call: nothing, if that call has assigned the collecting
property, and else what it carried before, with the value at the end. -/
theorem carried_append (held : List (Value F)) (past : List (Call F)) {value : Value F}
    (given : call.reply.outcome = .ok value) :
    binding.carried held (past ++ [call]) =
      (if call.reply.assigns binding.target then none else binding.carried held past).map
        (· ++ [value]) := by
  have joined : (editsOf (past ++ [call])).any (Edit.assigns binding.target) =
      ((editsOf past).any (Edit.assigns binding.target) || call.reply.assigns binding.target) := by
    rw [editsOf_concat, List.any_append, Reply.assigns]
  rw [carried, carried, joined, results_concat given]
  cases call.reply.assigns binding.target <;>
    cases (editsOf past).any (Edit.assigns binding.target) <;> simp

/-- A call that gives a value is followed by the loop over the other tags. -/
theorem collect_cons_of_ok (document : Document F) (held : List (Value F))
    (past : List (Call F)) (rest : List (Tag F)) {value : Value F}
    (seen : call.seen = document.collecting binding.target held past)
    (replied : call.reply = binding.evaluate behaviour call.tag call.seen)
    (given : call.reply.outcome = .ok value) :
    binding.collect behaviour (binding.carried held past) (call.tag :: rest) call.seen =
      .after (.evaluated call)
        (binding.collect behaviour (binding.carried held (past ++ [call])) rest
          (document.collecting binding.target held (past ++ [call]))) := by
  have next := binding.carried_append held past given
  cases bound : (editsOf (past ++ [call])).any (Edit.assigns binding.target) with
  | true =>
    have gone : binding.carried held (past ++ [call]) = none := by
      rw [carried, if_pos bound]
    rw [gone] at next
    rw [collect_cons_of_lost behaviour binding _ rest replied given
        (Option.map_eq_none_iff.mp next.symm), gone,
      document.collecting_append_of_bound binding.target held past call bound, seen]
  | false =>
    have there : binding.carried held (past ++ [call]) =
        some (held ++ results (past ++ [call])) := by
      rw [carried, if_neg (by simp [bound])]
    rw [there] at next
    obtain ⟨values, kept, whole⟩ := Option.map_eq_some_iff.mp next.symm
    rw [collect_cons_of_kept behaviour binding _ rest replied given kept, there, whole,
      document.collecting_append_of_free binding.target held past given bound, seen,
      results_concat given, List.append_assoc]

/-- Without tags there is nothing to collect. -/
theorem collectsFrom_still (document : Document F) (held : List (Value F))
    (past : List (Call F)) :
    binding.CollectsFrom behaviour document held past []
      (.still (document.collecting binding.target held past)) where
  faithful := by simp
  left := by simp
  quiet := rfl
  ending := .inl ⟨rfl, rfl, by simp⟩

/-- A failing call is the last one. -/
theorem collectsFrom_failed (document : Document F) (held : List (Value F))
    (past : List (Call F)) (rest : List (Tag F)) {message : String}
    (seen : call.seen = document.collecting binding.target held past)
    (replied : call.reply = binding.evaluate behaviour call.tag call.seen)
    (failed : call.reply.outcome = .error message) :
    binding.CollectsFrom behaviour document held past (call.tag :: rest)
      (.after (.evaluated call)
        (.failed (call.seen.editAll call.reply.edits) (.functionFailed message))) where
  faithful := by
    intro before other after split
    obtain ⟨rfl, rfl, -⟩ : before = [] ∧ other = call ∧ after = [] := by
      simpa [eq_comm, List.append_eq_singleton_iff] using split
    exact ⟨by rw [seen, List.append_nil], replied⟩
  left := by
    simp [document.collecting_append_of_error binding.target held past failed, seen]
  quiet := rfl
  ending := .inr ⟨[], call, message, rest, rfl, rfl, by simp, failed, rfl⟩

/-- A call that gives a value comes before the calls that collect from there on. -/
theorem CollectsFrom.cons {document : Document F} {held : List (Value F)}
    {past : List (Call F)} {rest : List (Tag F)} {value : Value F} {pass : Pass F}
    (seen : call.seen = document.collecting binding.target held past)
    (replied : call.reply = binding.evaluate behaviour call.tag call.seen)
    (given : call.reply.outcome = .ok value)
    (tail : binding.CollectsFrom behaviour document held (past ++ [call]) rest pass) :
    binding.CollectsFrom behaviour document held past (call.tag :: rest)
      (.after (.evaluated call) pass) where
  faithful := by
    intro before other after split
    cases before with
    | nil =>
      obtain ⟨rfl, -⟩ : call = other ∧ pass.calls = after := by simpa using split
      exact ⟨by rw [seen, List.append_nil], replied⟩
    | cons first before =>
      obtain ⟨rfl, later⟩ : call = first ∧ pass.calls = before ++ other :: after := by
        simpa using split
      simpa using tail.faithful before other after later
  left := by simp [tail.left]
  quiet := by simp [tail.quiet]
  ending := by
    rcases tail.ending with ⟨finished, all, good⟩ | ⟨done, last, message, others, ends⟩
    · refine .inl ⟨finished, by simp [all], ?_⟩
      simpa using ⟨⟨value, given⟩, good⟩
    · obtain ⟨made, tags, good, failed, fault⟩ := ends
      refine .inr ⟨call :: done, last, message, others, by simp [made], by simp [tags], ?_,
        failed, fault⟩
      simpa using ⟨⟨value, given⟩, good⟩

/-- The loop over tags collects their values, from any point of it on. -/
theorem collect_collectsFrom (document : Document F) (held : List (Value F))
    (past : List (Call F)) (tags : List (Tag F)) :
    binding.CollectsFrom behaviour document held past tags
      (binding.collect behaviour (binding.carried held past) tags
        (document.collecting binding.target held past)) := by
  induction tags generalizing past with
  | nil => exact collectsFrom_still behaviour binding document held past
  | cons tag rest ih =>
    obtain ⟨call, rfl, seen, replied⟩ : ∃ call : Call F, call.tag = tag ∧
        call.seen = document.collecting binding.target held past ∧
        call.reply = binding.evaluate behaviour call.tag call.seen :=
      ⟨⟨tag, document.collecting binding.target held past, binding.evaluate behaviour tag
        (document.collecting binding.target held past)⟩, rfl, rfl, rfl⟩
    rw [← seen]
    cases outcome : call.reply.outcome with
    | error message =>
      rw [collect_cons_of_error behaviour binding _ rest replied outcome]
      exact collectsFrom_failed behaviour binding document held past rest seen replied outcome
    | ok value =>
      rw [collect_cons_of_ok behaviour binding document held past rest seen replied outcome]
      exact (ih (past ++ [call])).cons behaviour binding seen replied outcome

end Loop

end Binding

end TagBinding
