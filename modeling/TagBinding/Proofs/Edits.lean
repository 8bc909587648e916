import TagBinding.Document

/-!
# What edits leave behind

Edits run over a document one after the other. A property is left with the value that was assigned
to it last (`Document.get?_editAll`). A value that is assigned before edits may as well be replaced
after them as before them, as long as they leave its property alone
(`Document.replace_of_free`), and it does not matter at all once they assign the property
themselves (`Document.replace_of_bound`). Both hold of the whole document: the place of a property
is that of its first assignment, and no later one moves it.
-/
namespace TagBinding

variable {F : Type}

/-- The value that edits leave in a property, if they assign it at all. -/
def lastAssigned (key : String) : List (Edit F) → Option (Value F)
  | [] => none
  | .assign assigned value :: rest =>
    (lastAssigned key rest).or (if assigned = key then some value else none)
  | .attach _ :: rest => lastAssigned key rest

/-- The tags that edits attach, in order. -/
def attached : List (Edit F) → List (Tag F)
  | [] => []
  | .assign _ _ :: rest => attached rest
  | .attach tag :: rest => tag :: attached rest

/-- Edits leave no value in a property exactly when none of them assigns it. -/
theorem lastAssigned_eq_none_iff (key : String) (edits : List (Edit F)) :
    lastAssigned key edits = none ↔ edits.any (Edit.assigns key) = false := by
  induction edits with
  | nil => simp [lastAssigned]
  | cons edit rest ih =>
    cases edit with
    | assign assigned value =>
      by_cases same : assigned = key
      · simp [lastAssigned, Edit.assigns, same]
      · simpa [lastAssigned, Edit.assigns, same] using ih
    | attach tag => simpa [lastAssigned, Edit.assigns] using ih

namespace Document

/-- After edits a property holds the value that they leave in it, or else what it held before. -/
theorem get?_editAll (document : Document F) (edits : List (Edit F)) (key : String) :
    (document.editAll edits).get? key = (lastAssigned key edits).or (document.get? key) := by
  induction edits generalizing document with
  | nil => rfl
  | cons edit rest ih =>
    rw [editAll_cons, ih]
    cases edit with
    | assign assigned value =>
      have read : (document.edit (.assign assigned value)).get? key =
          if key = assigned then some value else document.get? key :=
        get?_assign document assigned value key
      rw [read, lastAssigned, Option.or_assoc]
      by_cases same : assigned = key
      · simp [same]
      · have other : ¬ key = assigned := fun equal => same equal.symm
        simp [same, other]
    | attach tag => rfl

/-- An assigned property is among the properties. -/
theorem mem_keys_assign (document : Document F) (key : String) (value : Value F) :
    key ∈ (document.assign key value).properties.keys :=
  Table.mem_keys_insert_self document.properties key value

/-- No edit drops a property. -/
theorem mem_keys_edit (document : Document F) (edit : Edit F) {key : String}
    (present : key ∈ document.properties.keys) : key ∈ (document.edit edit).properties.keys := by
  cases edit with
  | assign assigned value =>
    exact (Table.keys_prefix_insert document.properties assigned value).subset present
  | attach tag => exact present

/-- Of two assignments to one property only the second one is left. -/
theorem assign_assign (document : Document F) (key : String) (first second : Value F) :
    (document.assign key first).assign key second = document.assign key second := by
  simp only [assign, Table.insert_insert]

/-- An assignment to a property that is there may change places with an edit that leaves the
property alone. -/
theorem edit_assign_comm (document : Document F) (edit : Edit F) {key : String}
    (value : Value F) (present : key ∈ document.properties.keys)
    (free : edit.assigns key = false) :
    (document.assign key value).edit edit = (document.edit edit).assign key value := by
  cases edit with
  | assign assigned given =>
    have different : assigned ≠ key := by simpa [Edit.assigns] using free
    simp only [Document.edit, assign,
      Table.insert_comm document.properties different value given present]
  | attach tag => rfl

/-- An assignment to a property that is there may be moved behind edits that leave the property
alone. -/
theorem editAll_assign_of_free (document : Document F) (edits : List (Edit F)) {key : String}
    (value : Value F) (present : key ∈ document.properties.keys)
    (free : edits.any (Edit.assigns key) = false) :
    (document.assign key value).editAll edits = (document.editAll edits).assign key value := by
  induction edits generalizing document with
  | nil => rfl
  | cons edit rest ih =>
    obtain ⟨head, tail⟩ : edit.assigns key = false ∧ rest.any (Edit.assigns key) = false := by
      simpa only [List.any_cons, Bool.or_eq_false_iff] using free
    rw [editAll_cons, editAll_cons, edit_assign_comm document edit value present head]
    exact ih (document.edit edit) (mem_keys_edit document edit present) tail

/-- An assignment to a property that is there is lost behind edits that assign the property. -/
theorem editAll_assign_of_bound (document : Document F) (edits : List (Edit F)) {key : String}
    (value : Value F) (present : key ∈ document.properties.keys)
    (bound : edits.any (Edit.assigns key) = true) :
    (document.assign key value).editAll edits = document.editAll edits := by
  induction edits generalizing document with
  | nil => simp at bound
  | cons edit rest ih =>
    rw [editAll_cons, editAll_cons]
    cases head : edit.assigns key with
    | false =>
      have tail : rest.any (Edit.assigns key) = true := by
        simpa only [List.any_cons, head, Bool.false_or] using bound
      rw [edit_assign_comm document edit value present head]
      exact ih (document.edit edit) (mem_keys_edit document edit present) tail
    | true =>
      cases edit with
      | assign assigned given =>
        obtain rfl : assigned = key := by simpa [Edit.assigns] using head
        simp only [Document.edit, assign_assign]
      | attach tag => simp [Edit.assigns] at head

/-- Behind edits that leave a property alone, its value can still be replaced as if the new value
had been there before them. -/
theorem replace_of_free (document : Document F) (edits : List (Edit F)) {key : String}
    (first second : Value F) (free : edits.any (Edit.assigns key) = false) :
    ((document.assign key first).editAll edits).assign key second =
      (document.assign key second).editAll edits := by
  rw [← editAll_assign_of_free _ edits second (mem_keys_assign document key first) free,
    assign_assign]

/-- Behind edits that assign a property, the value that it had before them makes no difference. -/
theorem replace_of_bound (document : Document F) (edits : List (Edit F)) {key : String}
    (first second : Value F) (bound : edits.any (Edit.assigns key) = true) :
    (document.assign key first).editAll edits = (document.assign key second).editAll edits := by
  rw [← editAll_assign_of_bound _ edits second (mem_keys_assign document key first) bound,
    assign_assign]

end Document

end TagBinding
