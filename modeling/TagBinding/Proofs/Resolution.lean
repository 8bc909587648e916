import Mathlib.Data.List.Forall2
import TagBinding.Proofs.SharedTransforms

/-!
# What stops a set-up

A set-up makes declared definitions ready in order, with transforms that they share. It fails for
the first thing that is wrong: the shared transforms, then for each definition its fields before its
transforms (`Binding.FirstFault`). If nothing is wrong, each definition is made ready by itself.

Definitions may also be loaded first and made ready afterwards. This looks at the same things in
another order, so it may fail for something else, but it fails exactly if the set-up does, and gives
the same definitions otherwise (`Binding.resolution_of_declared`).
-/
namespace TagBinding

variable {F : Type}

section Traversal

variable {α β ε : Type} {visit : α → Except ε β}

/-- In lists that are related item by item, each item has one that it is related to. -/
theorem forall₂_members {related : α → β → Prop} {items : List α} {results : List β}
    (each : List.Forall₂ related items results) :
    (∀ item ∈ items, ∃ result ∈ results, related item result) ∧
      ∀ result ∈ results, ∃ item ∈ items, related item result := by
  induction each with
  | nil => exact ⟨fun _ inside => absurd inside List.not_mem_nil,
      fun _ inside => absurd inside List.not_mem_nil⟩
  | @cons item result _ _ first _ ih =>
    constructor
    · refine List.forall_mem_cons.mpr ⟨⟨result, List.mem_cons_self, first⟩, fun other inside => ?_⟩
      obtain ⟨partner, there, same⟩ := ih.1 other inside
      exact ⟨partner, List.mem_cons_of_mem _ there, same⟩
    · refine List.forall_mem_cons.mpr ⟨⟨item, List.mem_cons_self, first⟩, fun other inside => ?_⟩
      obtain ⟨partner, there, same⟩ := ih.2 other inside
      exact ⟨partner, List.mem_cons_of_mem _ there, same⟩

/-- A list is visited to its end if every item is, and gives their results in order. -/
theorem mapM_eq_ok_iff {items : List α} {results : List β} :
    items.mapM visit = .ok results ↔
      List.Forall₂ (fun item result => visit item = .ok result) items results := by
  induction items generalizing results with
  | nil =>
    rw [List.mapM_nil, List.forall₂_nil_left_iff]
    exact ⟨fun same => (Except.ok.inj same).symm, fun same => same ▸ rfl⟩
  | cons item rest ih =>
    rw [List.mapM_cons, List.forall₂_cons_left_iff]
    cases first : visit item with
    | error fault => exact iff_of_false nofun fun ⟨_, _, same, _⟩ => nomatch same
    | ok result =>
      cases others : rest.mapM visit with
      | error fault =>
        refine iff_of_false nofun fun ⟨_, later, _, visited, _⟩ => ?_
        cases others.symm.trans (ih.mpr visited)
      | ok later =>
        have visited := ih.mp others
        constructor
        · intro same
          exact ⟨result, later, rfl, visited, (Except.ok.inj same).symm⟩
        · rintro ⟨_, more, same, again, rfl⟩
          obtain rfl := Except.ok.inj same
          rw [Except.ok.inj (others.symm.trans (ih.mpr again))]
          rfl

/-- A visit of a list is stopped by the first item that stops it. -/
theorem mapM_eq_error_iff {items : List α} {fault : ε} :
    items.mapM visit = .error fault ↔
      ∃ before item after, items = before ++ item :: after ∧
        (∀ other ∈ before, ∃ result, visit other = .ok result) ∧ visit item = .error fault := by
  induction items with
  | nil => exact iff_of_false nofun fun ⟨before, _, _, same, _⟩ => by simp at same
  | cons item rest ih =>
    rw [List.mapM_cons]
    cases first : visit item with
    | error reason =>
      constructor
      · intro same
        obtain rfl : reason = fault := Except.error.inj same
        exact ⟨[], item, rest, rfl, fun _ inside => absurd inside List.not_mem_nil, first⟩
      · rintro ⟨_ | ⟨other, before⟩, failing, after, same, sound, stopped⟩
        · obtain ⟨rfl, -⟩ := List.cons.inj same
          rw [Except.error.inj (first.symm.trans stopped)]
          rfl
        · obtain ⟨rfl, -⟩ := List.cons.inj same
          obtain ⟨result, fine⟩ := sound item List.mem_cons_self
          cases first.symm.trans fine
    | ok result =>
      have tail : (do let later ← rest.mapM visit; pure (result :: later) : Except ε (List β)) =
          .error fault ↔ rest.mapM visit = .error fault := by
        cases rest.mapM visit <;> simp [bind, Except.bind, pure, Except.pure]
      refine tail.trans (ih.trans ?_)
      constructor
      · rintro ⟨before, failing, after, rfl, sound, stopped⟩
        exact ⟨item :: before, failing, after, rfl,
          List.forall_mem_cons.mpr ⟨⟨result, first⟩, sound⟩, stopped⟩
      · rintro ⟨_ | ⟨other, before⟩, failing, after, same, sound, stopped⟩
        · obtain ⟨rfl, -⟩ := List.cons.inj same
          cases first.symm.trans stopped
        · obtain ⟨rfl, rfl⟩ := List.cons.inj same
          exact ⟨before, failing, after, rfl, (List.forall_mem_cons.mp sound).2, stopped⟩

end Traversal

/-- Whether a fault is one of a declaration. -/
def Fault.IsConfiguration : Fault F → Prop
  | .invalidDefinition _ _ | .invalidTransforms _ => True
  | _ => False

/-- That a value declares a definition which can be made ready: it can be loaded, and what it has for
its transforms declares transforms. -/
def Value.DeclaresBinding (declared : Value F) : Prop :=
  ∃ definition, Definition.load declared = .ok definition ∧
    definition.transforms.DeclaresTransforms

namespace Binding

/-- What is wrong with a declared definition: its fields, or else its transforms. -/
inductive Flaw (declared : Value F) : Fault F → Prop where
  /-- It cannot be loaded. -/
  | fields {fault : Fault F} (refused : Definition.load declared = .error fault) :
    Flaw declared fault
  /-- It can be loaded, but its transforms are no functions. -/
  | transforms {definition : Definition F} (loads : Definition.load declared = .ok definition)
    (invalid : ¬ definition.transforms.DeclaresTransforms) :
    Flaw declared (.invalidTransforms definition.name)

/-- The first thing that is wrong with a set-up. -/
inductive FirstFault (declared : List (Value F)) (shared : Value F) : Fault F → Prop where
  /-- The shared transforms are no functions. -/
  | shared (invalid : ¬ shared.DeclaresTransforms) :
    FirstFault declared shared (.invalidTransforms "<default transforms>")
  /-- The shared transforms are, and so is every definition before the one with the flaw. -/
  | definition {before after : List (Value F)} {flawed : Value F} {fault : Fault F}
    (valid : shared.DeclaresTransforms) (split : declared = before ++ flawed :: after)
    (sound : ∀ other ∈ before, other.DeclaresBinding) (flaw : Flaw flawed fault) :
    FirstFault declared shared fault

variable {declared : List (Value F)} {shared : Value F}

/-- A definition with a flaw cannot be made ready. -/
theorem Flaw.not_declaresBinding {raw : Value F} {fault : Fault F} (flaw : Flaw raw fault) :
    ¬ raw.DeclaresBinding := by
  rintro ⟨definition, loads, valid⟩
  cases flaw with
  | fields refused => cases refused.symm.trans loads
  | transforms again invalid => exact invalid (Except.ok.inj (again.symm.trans loads) ▸ valid)

/-- A definition that can be loaded and has transforms is made ready. -/
theorem ofDeclared_of_loads {pipeline : Pipeline F} {raw : Value F} {definition : Definition F}
    (loads : Definition.load raw = .ok definition)
    (valid : definition.transforms.DeclaresTransforms) :
    ofDeclared pipeline raw = .ok ⟨definition, definition.transforms.pipeline, pipeline⟩ := by
  have own := ((ofDeclaration_eq definition.name definition.transforms).1 valid).1
  simp only [ofDeclared, loads, own, bind, Except.bind]

/-- A definition with a flaw is refused for it. -/
theorem ofDeclared_of_flaw {pipeline : Pipeline F} {raw : Value F} {fault : Fault F}
    (flaw : Flaw raw fault) : ofDeclared pipeline raw = .error fault := by
  rcases flaw with refused | @⟨definition, loads, invalid⟩
  · simp only [ofDeclared, refused, bind, Except.bind]
  · have own := (ofDeclaration_eq definition.name definition.transforms).2 invalid
    simp only [ofDeclared, loads, own, bind, Except.bind]

/-- A value declares a definition that can be made ready, or else it has a flaw. -/
theorem declaresBinding_or_flaw (raw : Value F) :
    raw.DeclaresBinding ∨ ∃ fault, Flaw raw fault := by
  cases loads : Definition.load raw with
  | error fault => exact .inr ⟨fault, .fields loads⟩
  | ok definition =>
    by_cases valid : definition.transforms.DeclaresTransforms
    · exact .inl ⟨definition, loads, valid⟩
    · exact .inr ⟨_, .transforms loads valid⟩

/-- A definition is not made ready exactly if it has a flaw. -/
theorem ofDeclared_eq_error_iff {pipeline : Pipeline F} {raw : Value F} {fault : Fault F} :
    ofDeclared pipeline raw = .error fault ↔ Flaw raw fault := by
  refine ⟨fun refused => ?_, ofDeclared_of_flaw⟩
  rcases declaresBinding_or_flaw raw with ⟨_, loads, valid⟩ | ⟨other, flaw⟩
  · cases (ofDeclared_of_loads loads valid).symm.trans refused
  · exact Except.error.inj ((ofDeclared_of_flaw flaw).symm.trans refused) ▸ flaw

/-- A definition is made ready exactly if it can be loaded and has transforms. -/
theorem exists_ofDeclared_iff {pipeline : Pipeline F} {raw : Value F} :
    (∃ binding, ofDeclared pipeline raw = .ok binding) ↔ raw.DeclaresBinding := by
  constructor
  · rintro ⟨binding, made⟩
    rcases declaresBinding_or_flaw raw with valid | ⟨_, flaw⟩
    · exact valid
    · cases (ofDeclared_of_flaw flaw).symm.trans made
  · rintro ⟨definition, loads, valid⟩
    exact ⟨_, ofDeclared_of_loads loads valid⟩

/-- With valid shared transforms, a set-up comes to making each definition ready. -/
theorem resolveAll_of_valid (valid : shared.DeclaresTransforms) :
    resolveAll declared shared = declared.mapM (ofDeclared shared.pipeline) := by
  have accepted := ((ofDeclaration_eq sharedName shared).1 valid).1
  simp only [resolveAll, accepted, bind, Except.bind]

/-- A set-up fails for the first thing that is wrong with it, and only then. -/
theorem resolveAll_eq_error_iff {fault : Fault F} :
    resolveAll declared shared = .error fault ↔ FirstFault declared shared fault := by
  by_cases valid : shared.DeclaresTransforms
  · rw [resolveAll_of_valid valid, mapM_eq_error_iff]
    simp only [exists_ofDeclared_iff, ofDeclared_eq_error_iff]
    constructor
    · rintro ⟨before, flawed, after, split, sound, flaw⟩
      exact .definition valid split sound flaw
    · rintro (invalid | ⟨-, split, sound, flaw⟩)
      · exact absurd valid invalid
      · exact ⟨_, _, _, split, sound, flaw⟩
  · have refused : resolveAll declared shared =
        .error (.invalidTransforms "<default transforms>") := by
      have own := (ofDeclaration_eq sharedName shared).2 valid
      simp only [resolveAll, own, bind, Except.bind]
      rfl
    rw [refused, Except.error.injEq]
    constructor
    · rintro rfl
      exact .shared valid
    · rintro (_ | ⟨given, -, -, -⟩)
      · rfl
      · exact absurd given valid

/-- A set-up that succeeds has valid shared transforms, and makes ready what each definition is
loaded as. -/
theorem forall₂_of_resolveAll {bindings : List (Binding F)}
    (made : resolveAll declared shared = .ok bindings) :
    shared.DeclaresTransforms ∧ List.Forall₂ (fun raw binding =>
      ∃ definition, Definition.load raw = .ok definition ∧
        definition.transforms.DeclaresTransforms ∧ binding = ready shared definition)
      declared bindings := by
  have valid : shared.DeclaresTransforms := by
    by_contra invalid
    cases (resolveAll_eq_error_iff.mpr (.shared invalid)).symm.trans made
  rw [resolveAll_of_valid valid, mapM_eq_ok_iff] at made
  refine ⟨valid, made.imp fun raw binding ready => ?_⟩
  obtain ⟨definition, loads, transforms⟩ := exists_ofDeclared_iff.mp ⟨binding, ready⟩
  exact ⟨definition, loads, transforms,
    Except.ok.inj (ready.symm.trans (ofDeclared_of_loads loads transforms))⟩

/-- A set-up succeeds exactly if nothing is wrong. -/
theorem exists_resolveAll_iff :
    (∃ bindings, resolveAll declared shared = .ok bindings) ↔
      shared.DeclaresTransforms ∧ ∀ raw ∈ declared, raw.DeclaresBinding := by
  constructor
  · rintro ⟨bindings, made⟩
    obtain ⟨valid, each⟩ := forall₂_of_resolveAll made
    refine ⟨valid, fun raw inside => ?_⟩
    obtain ⟨-, -, definition, loads, transforms, -⟩ := (forall₂_members each).1 raw inside
    exact ⟨definition, loads, transforms⟩
  · rintro ⟨valid, each⟩
    cases made : resolveAll declared shared with
    | ok bindings => exact ⟨bindings, rfl⟩
    | error fault =>
      rcases resolveAll_eq_error_iff.mp made with invalid | ⟨-, split, -, flaw⟩
      · exact absurd valid invalid
      · have inside := split ▸ List.mem_append_right _ List.mem_cons_self
        exact absurd (each _ inside) flaw.not_declaresBinding

/-- Each definition of a set-up that succeeds is made ready by itself. -/
theorem map_some_of_resolveAll {bindings : List (Binding F)}
    (made : resolveAll declared shared = .ok bindings) :
    bindings.map some =
      declared.map fun raw => (Definition.load raw).toOption.map (ready shared) := by
  rw [← List.forall₂_eq_eq_eq, List.forall₂_map_left_iff, List.forall₂_map_right_iff]
  refine List.Forall₂.flip ((forall₂_of_resolveAll made).2.imp ?_)
  rintro raw _ ⟨definition, loads, -, rfl⟩
  simp only [flip, loads]
  rfl

/-- Load declared definitions, and make ready what they are loaded as. -/
def resolveLoaded (declared : List (Value F)) (shared : Value F) :
    Except (Fault F) (List (Binding F)) := do
  let definitions ← Definition.loadAll declared
  resolveAll (definitions.map .definition) shared

/-- What is made ready of definitions that can be loaded. -/
theorem resolveLoaded_of_loads {definitions : List (Definition F)}
    (loads : Definition.loadAll declared = .ok definitions) :
    resolveLoaded declared shared = resolveAll (definitions.map .definition) shared := by
  simp only [resolveLoaded, loads, bind, Except.bind]

/-- What is wrong in the loading is what is wrong with all. -/
theorem resolveLoaded_of_refused {fault : Fault F}
    (refused : Definition.loadAll declared = .error fault) :
    resolveLoaded declared shared = .error fault := by
  simp only [resolveLoaded, refused, bind, Except.bind]

/-- Loaded definitions are loaded as they are. -/
theorem loadAll_map_definition (definitions : List (Definition F)) :
    Definition.loadAll (definitions.map .definition) = .ok definitions :=
  mapM_eq_ok_iff.mpr (List.forall₂_map_left_iff.mpr (List.forall₂_same.mpr fun _ _ => rfl))

/-- Whether definitions are loaded first makes no difference to a set-up that succeeds. -/
theorem resolveLoaded_eq_ok_iff {bindings : List (Binding F)} :
    resolveLoaded declared shared = .ok bindings ↔
      resolveAll declared shared = .ok bindings := by
  constructor
  · intro made
    cases loads : Definition.loadAll declared with
    | error fault => cases (resolveLoaded_of_refused loads).symm.trans made
    | ok definitions =>
      rw [resolveLoaded_of_loads loads] at made
      obtain ⟨valid, each⟩ := forall₂_of_resolveAll made
      have transforms : ∀ definition ∈ definitions, definition.transforms.DeclaresTransforms := by
        have sound := (exists_resolveAll_iff.mp ⟨bindings, made⟩).2
        intro definition inside
        obtain ⟨_, same, transforms⟩ := sound _ (List.mem_map_of_mem inside)
        exact Except.ok.inj same ▸ transforms
      rw [resolveAll_of_declares loads valid transforms, ← made,
        resolveAll_of_declares (loadAll_map_definition definitions) valid transforms]
  · intro made
    obtain ⟨valid, each⟩ := forall₂_of_resolveAll made
    have loads : Definition.loadAll declared = .ok (bindings.map Binding.definition) := by
      refine mapM_eq_ok_iff.mpr (List.forall₂_map_right_iff.mpr (each.imp ?_))
      rintro raw _ ⟨definition, loads, -, rfl⟩
      exact loads
    have transforms : ∀ definition ∈ bindings.map Binding.definition,
        definition.transforms.DeclaresTransforms := by
      intro definition inside
      obtain ⟨binding, there, rfl⟩ := List.mem_map.mp inside
      obtain ⟨-, -, made, -, transforms, rfl⟩ := (forall₂_members each).2 binding there
      exact transforms
    rw [resolveLoaded_of_loads loads,
      resolveAll_of_declares (loadAll_map_definition _) valid transforms, ← made,
      resolveAll_of_declares loads valid transforms]

/-- A definition that cannot be loaded is a fault of configuration. -/
theorem isConfiguration_of_load {raw : Value F} {fault : Fault F}
    (refused : Definition.load raw = .error fault) : fault.IsConfiguration := by
  cases raw with
  | definition loaded => cases refused
  | record entries =>
    simp only [Definition.load] at refused
    split at refused
    · cases refused
    · exact Except.error.inj refused ▸ trivial
  | _ => exact Except.error.inj refused ▸ trivial

/-- Whatever is wrong with a set-up first is a fault of configuration. -/
theorem FirstFault.isConfiguration {fault : Fault F} (first : FirstFault declared shared fault) :
    fault.IsConfiguration := by
  rcases first with invalid | ⟨-, -, -, refused | ⟨loads, invalid⟩⟩
  · trivial
  · exact isConfiguration_of_load refused
  · trivial

/-- Loading first fails for faults of configuration only. -/
theorem isConfiguration_of_resolveLoaded {fault : Fault F}
    (refused : resolveLoaded declared shared = .error fault) : fault.IsConfiguration := by
  cases loads : Definition.loadAll declared with
  | error reason =>
    rw [resolveLoaded_of_refused loads] at refused
    obtain rfl := Except.error.inj refused
    obtain ⟨_, raw, _, -, -, stopped⟩ := mapM_eq_error_iff.mp loads
    exact isConfiguration_of_load stopped
  | ok definitions =>
    rw [resolveLoaded_of_loads loads] at refused
    exact (resolveAll_eq_error_iff.mp refused).isConfiguration

/-- What a set-up comes to. It succeeds if the shared transforms are valid and every definition can
be loaded and has valid transforms; else it fails for the first thing that is wrong. If it succeeds,
each definition is made ready by itself, with the shared transforms. With the definitions loaded
first it gives the same, or else both fail for a fault of configuration, which need not be the
same. -/
theorem resolution_of_declared (declared : List (Value F)) (shared : Value F) :
    ((∃ bindings, resolveAll declared shared = .ok bindings) ↔
      shared.DeclaresTransforms ∧ ∀ raw ∈ declared, raw.DeclaresBinding) ∧
    (∀ fault, resolveAll declared shared = .error fault ↔ FirstFault declared shared fault) ∧
    (∀ bindings, resolveAll declared shared = .ok bindings → bindings.map some =
      declared.map fun raw => (Definition.load raw).toOption.map (ready shared)) ∧
    ((∃ bindings, resolveAll declared shared = .ok bindings ∧
        resolveLoaded declared shared = .ok bindings) ∨
      ∃ fault other, resolveAll declared shared = .error fault ∧
        resolveLoaded declared shared = .error other ∧
        fault.IsConfiguration ∧ other.IsConfiguration) := by
  refine ⟨exists_resolveAll_iff, fun fault => resolveAll_eq_error_iff,
    fun bindings => map_some_of_resolveAll, ?_⟩
  cases made : resolveAll declared shared with
  | ok bindings => exact .inl ⟨bindings, rfl, resolveLoaded_eq_ok_iff.mpr made⟩
  | error fault =>
    cases staged : resolveLoaded declared shared with
    | ok bindings => cases made.symm.trans (resolveLoaded_eq_ok_iff.mp staged)
    | error other =>
      exact .inr ⟨fault, other, rfl, rfl, (resolveAll_eq_error_iff.mp made).isConfiguration,
        isConfiguration_of_resolveLoaded staged⟩

/-- Records of which the first has a number for its transforms, and the second has no name. -/
def scribbles : List (Value Bool) :=
  [.record [("name", .text "title"), ("transforms", .int 3)], .record []]

/-- Jots are made ready, loaded first or not. Of the scribbles, the one with a number is what stops
the set-up, but the one without a name is what stops their loading. -/
theorem resolution_of_jots :
    let shared : Value Bool := .list [.function false]
    (∃ bindings, resolveAll jots shared = .ok bindings ∧
      resolveLoaded jots shared = .ok bindings ∧
      bindings.map some = jotDefinitions.map fun definition => some (ready shared definition)) ∧
    resolveAll scribbles shared = .error (.invalidTransforms "title") ∧
    resolveLoaded scribbles shared =
      .error (.invalidDefinition .null [⟨.entry "name", .missing⟩]) := by
  intro shared
  have valid : shared.DeclaresTransforms := .list [false]
  obtain ⟨succeeds, -, each, agree⟩ := resolution_of_declared jots shared
  obtain ⟨-, fails, -, -⟩ := resolution_of_declared scribbles shared
  refine ⟨?_, (fails _).mpr ?_, rfl⟩
  · obtain ⟨bindings, made⟩ := succeeds.mpr ⟨valid, List.forall_mem_cons.mpr
      ⟨⟨_, rfl, .function true⟩, List.forall_mem_cons.mpr ⟨⟨_, rfl, .vacant rfl⟩, by simp⟩⟩⟩
    rcases agree with ⟨same, again, loaded⟩ | ⟨fault, -, refused, -⟩
    · obtain rfl := Except.ok.inj (made.symm.trans again)
      exact ⟨bindings, made, loaded, (each bindings made).trans rfl⟩
    · cases refused.symm.trans made
  · let numbered : Definition Bool := { Definition.plain "title" with transforms := .int 3 }
    have loads : Definition.load (.record [("name", .text "title"), ("transforms", .int 3)]) =
        .ok numbered := rfl
    have invalid : ¬ numbered.transforms.DeclaresTransforms := by
      intro declares
      cases declares with
      | vacant empty => cases empty
    exact .definition valid (List.nil_append scribbles).symm (by simp) (.transforms loads invalid)

end Binding

end TagBinding
