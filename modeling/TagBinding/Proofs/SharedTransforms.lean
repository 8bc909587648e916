import Mathlib.Data.List.Basic
import TagBinding.Proofs.Cases
import TagBinding.Proofs.Deliveries
import TagBinding.Stock.Standard

/-!
# Shared transforms

Transforms that all definitions of a set-up share are declared once, and run behind those of each
definition. They may as well be declared by each definition, as the last of its own ones
(`Definition.folding`): whatever shape the declarations have, a tag then passes through the same
functions in the same order (`Binding.evaluate_ready`), each on the value that the one before it
gives, up to the first that fails (`Staged`). So nothing that is done with such a set-up comes to
anything else (`Session.folded_transforms`), even if the functions write to the document.
-/
namespace TagBinding

variable {F : Type}

section Declarations

/-- The functions that a value declares, in order. -/
def Value.stages : Value F → List F
  | .function symbol => [symbol]
  | .list items | .tuple items => items.filterMap Value.function?
  | _ => []

/-- The values that declare transforms: those that count as not given, functions, and lists and
tuples of functions. -/
inductive Value.DeclaresTransforms : Value F → Prop where
  /-- What counts as not given declares none. -/
  | vacant {value : Value F} (empty : value.isVacant = true) : DeclaresTransforms value
  /-- A function declares itself. -/
  | function (symbol : F) : DeclaresTransforms (.function symbol)
  /-- A list declares its functions. -/
  | list (symbols : List F) : DeclaresTransforms (.list (symbols.map .function))
  /-- A tuple declares its functions. -/
  | tuple (symbols : List F) : DeclaresTransforms (.tuple (symbols.map .function))

/-- The pipeline that a value declares; nothing happens in it if the value declares none. -/
def Value.pipeline (value : Value F) : Pipeline F := (Pipeline.ofValue? value).getD .identity

/-- A row of functions gives back its functions. -/
theorem functions?_map (symbols : List F) : functions? (symbols.map .function) = some symbols := by
  induction symbols with
  | nil => rfl
  | cons symbol rest ih =>
    simp only [List.map_cons, functions?, Value.function?, ih]
    rfl

/-- Only a row of functions gives functions. -/
theorem eq_map_of_functions? {items : List (Value F)} {symbols : List F}
    (found : functions? items = some symbols) : items = symbols.map .function := by
  induction items generalizing symbols with
  | nil =>
    obtain rfl : [] = symbols := Option.some.inj found
    rfl
  | cons first rest ih =>
    simp only [functions?, Option.bind_eq_bind, Option.bind_eq_some_iff] at found
    obtain ⟨symbol, own, others, tail, whole⟩ := found
    obtain rfl := Option.some.inj whole
    cases first with
    | function name =>
      obtain rfl : name = symbol := Option.some.inj own
      rw [List.map_cons, ih tail]
    | _ => cases own

/-- The functions of a row of functions are all of them. -/
theorem filterMap_function?_map (symbols : List F) :
    (symbols.map .function).filterMap Value.function? = symbols := by
  rw [List.filterMap_map]
  exact List.filterMap_some

/-- What counts as not given has no stages. -/
theorem Value.stages_of_vacant {value : Value F} (empty : value.isVacant = true) :
    value.stages = [] := by
  cases value with
  | function => cases empty
  | list items | tuple items =>
    obtain rfl : items = [] := List.isEmpty_iff.mp empty
    rfl
  | _ => rfl

/-- A value that declares transforms is accepted, and its pipeline has the functions that it
declares. -/
theorem Value.DeclaresTransforms.accepted {value : Value F} (declares : value.DeclaresTransforms) :
    Pipeline.ofValue? value = some value.pipeline ∧ value.pipeline.stages = value.stages := by
  cases declares with
  | vacant empty =>
    have nothing : Pipeline.ofValue? value = some .identity := by
      unfold Pipeline.ofValue?
      rw [if_pos empty]
    rw [Value.pipeline, nothing, Value.stages_of_vacant empty]
    exact ⟨rfl, rfl⟩
  | function symbol => exact ⟨rfl, rfl⟩
  | list symbols | tuple symbols =>
    cases symbols with
    | nil => exact ⟨rfl, rfl⟩
    | cons first rest =>
      simp only [Value.pipeline, Pipeline.ofValue?, functions?_map, Option.map_some, Value.stages,
        filterMap_function?_map]
      exact ⟨rfl, rfl⟩

/-- Only a value that declares transforms is accepted. -/
theorem Value.declaresTransforms_of_accepted {value : Value F} {pipeline : Pipeline F}
    (accepted : Pipeline.ofValue? value = some pipeline) : value.DeclaresTransforms := by
  cases empty : value.isVacant with
  | true => exact .vacant empty
  | false =>
    unfold Pipeline.ofValue? at accepted
    rw [if_neg (by simp [empty])] at accepted
    cases value with
    | function symbol => exact .function symbol
    | list items =>
      obtain ⟨symbols, found, -⟩ := Option.map_eq_some_iff.mp accepted
      rw [eq_map_of_functions? found]
      exact .list symbols
    | tuple items =>
      obtain ⟨symbols, found, -⟩ := Option.map_eq_some_iff.mp accepted
      rw [eq_map_of_functions? found]
      exact .tuple symbols
    | _ => cases accepted

/-- A declaration is accepted if and only if it declares transforms, and is refused by the name of
its definition otherwise. -/
theorem ofDeclaration_eq (name : String) (value : Value F) :
    (value.DeclaresTransforms → Pipeline.ofDeclaration name value = .ok value.pipeline ∧
      value.pipeline.stages = value.stages) ∧
    (¬ value.DeclaresTransforms →
      Pipeline.ofDeclaration name value = .error (.invalidTransforms name)) := by
  constructor
  · intro declares
    obtain ⟨accepted, stages⟩ := declares.accepted
    simp only [Pipeline.ofDeclaration, accepted]
    exact ⟨trivial, stages⟩
  · intro other
    cases found : Pipeline.ofValue? value with
    | none => simp only [Pipeline.ofDeclaration, found]
    | some pipeline => exact absurd (Value.declaresTransforms_of_accepted found) other

end Declarations

/-- A definition made ready for extraction, with shared transforms. -/
def Binding.ready (shared : Value F) (definition : Definition F) : Binding F :=
  ⟨definition, definition.transforms.pipeline, shared.pipeline⟩

/-- A definition that declares shared transforms behind its own ones. -/
def Definition.folding (shared : Value F) (definition : Definition F) : Definition F :=
  { definition with
    transforms := .list ((definition.transforms.stages ++ shared.stages).map .function) }

/-- Definitions that can be loaded and declare transforms are made ready in order. -/
theorem resolveAll_of_declares {declared : List (Value F)} {definitions : List (Definition F)}
    {shared : Value F} (loads : Definition.loadAll declared = .ok definitions)
    (declares : shared.DeclaresTransforms)
    (each : ∀ definition ∈ definitions, definition.transforms.DeclaresTransforms) :
    Binding.resolveAll declared shared = .ok (definitions.map (Binding.ready shared)) := by
  have pipeline := ((ofDeclaration_eq Binding.sharedName shared).1 declares).1
  -- The shared transforms are looked at once; the rest is said of all declared definitions.
  have rest : declared.mapM (Binding.ofDeclared shared.pipeline) =
      .ok (definitions.map (Binding.ready shared)) := by
    induction declared generalizing definitions with
    | nil =>
      obtain rfl : [] = definitions := Except.ok.inj loads
      rfl
    | cons first others ih =>
      rw [Definition.loadAll, List.mapM_cons] at loads
      cases own : Definition.load first with
      | error fault =>
        rw [own] at loads
        cases loads
      | ok definition =>
        cases tail : others.mapM Definition.load with
        | error fault =>
          rw [own, tail] at loads
          cases loads
        | ok loaded =>
          rw [own, tail] at loads
          obtain rfl : definition :: loaded = definitions := Except.ok.inj loads
          obtain ⟨head, later⟩ := List.forall_mem_cons.mp each
          have accepted := ((ofDeclaration_eq definition.name definition.transforms).1 head).1
          have made : Binding.ofDeclared shared.pipeline first =
              .ok (Binding.ready shared definition) := by
            simp only [Binding.ofDeclared, own, accepted, bind, Except.bind, Binding.ready]
          rw [List.mapM_cons, made, ih tail later]
          rfl
  rw [Binding.resolveAll, pipeline]
  exact rest

/-- One run of a function on the value of a tag. -/
structure StageRun (F : Type) where
  /-- The function. -/
  function : F
  /-- The document as the function finds it. -/
  seen : Document F
  /-- The value that it is given. -/
  given : Value F
  /-- What it replies. -/
  reply : Reply F

/-- What it means that functions are run in a row for a tag, on a document and a value: which runs
there are, and what the row replies. Every function is given the tag, and the document and the
value as they come from the function before it. After a function that fails none is run. -/
inductive Staged (behaviour : Behaviour F) (tag : Tag F) :
    Document F → Value F → List F → List (StageRun F) → Reply F → Prop where
  /-- After the last function the value is the reply. -/
  | finished (document : Document F) (value : Value F) :
    Staged behaviour tag document value [] [] (.value value)
  /-- The failure of a function is the reply, whatever functions are left. -/
  | failed {document : Document F} {value : Value F} {function : F} {reply : Reply F}
    {message : String} (rest : List F) (run : behaviour function document (some tag) value = reply)
    (failed : reply.outcome = .error message) :
    Staged behaviour tag document value (function :: rest) [⟨function, document, value, reply⟩]
      reply
  /-- The value of a function is given to the next one, which finds the edits of all before it. -/
  | passed {document : Document F} {value next : Value F} {function : F} {reply later : Reply F}
    {rest : List F} {runs : List (StageRun F)}
    (run : behaviour function document (some tag) value = reply)
    (given : reply.outcome = .ok next)
    (others : Staged behaviour tag (document.editAll reply.edits) next rest runs later) :
    Staged behaviour tag document value (function :: rest)
      (⟨function, document, value, reply⟩ :: runs) ⟨reply.edits ++ later.edits, later.outcome⟩

section Stages

variable {behaviour : Behaviour F} {tag : Tag F} {document : Document F} {value : Value F}
  {functions : List F}

/-- A row of routines runs them as stages. -/
theorem exists_staged (behaviour : Behaviour F) (tag : Tag F) (document : Document F)
    (value : Value F) (functions : List F) :
    ∃ runs, Staged behaviour tag document value functions runs
      (Routine.sequence (functions.map behaviour) document (some tag) value) := by
  induction functions generalizing document value with
  | nil => exact ⟨[], .finished document value⟩
  | cons function rest ih =>
    have row : Routine.sequence ((function :: rest).map behaviour) document (some tag) value =
        (behaviour function).andThen (Routine.sequence (rest.map behaviour)) document (some tag)
          value := rfl
    cases came : (behaviour function document (some tag) value).outcome with
    | error message =>
      have whole : Routine.sequence ((function :: rest).map behaviour) document (some tag) value =
          behaviour function document (some tag) value := by
        simp only [row, Routine.andThen, came]
      rw [whole]
      exact ⟨_, .failed rest rfl came⟩
    | ok next =>
      obtain ⟨runs, others⟩ := ih
        (document.editAll (behaviour function document (some tag) value).edits) next
      refine ⟨⟨function, document, value, behaviour function document (some tag) value⟩ :: runs, ?_⟩
      simp only [row, Routine.andThen, came]
      exact .passed rfl came others

/-- The functions that are run are the first ones of the row. The row gives a value if each of them
does, and then it runs them all; else it fails as the last one that is run fails. -/
theorem Staged.ending {runs : List (StageRun F)} {reply : Reply F}
    (staged : Staged behaviour tag document value functions runs reply) :
    (runs.map StageRun.function = functions ∧
        (∀ run ∈ runs, ∃ given, run.reply.outcome = .ok given) ∧
        ∃ last, reply.outcome = .ok last) ∨
      ∃ done last message rest, runs = done ++ [last] ∧
        functions = done.map StageRun.function ++ last.function :: rest ∧
        (∀ run ∈ done, ∃ given, run.reply.outcome = .ok given) ∧
        last.reply.outcome = .error message ∧ reply.outcome = .error message := by
  induction staged with
  | finished document value => exact .inl ⟨rfl, by simp, value, rfl⟩
  | failed rest run failed =>
    exact .inr ⟨[], _, _, rest, rfl, rfl, by simp, failed, failed⟩
  | passed run given others ih =>
    rcases ih with ⟨all, good, last⟩ | ⟨done, last, message, rest, made, split, good, failed, ends⟩
    · exact .inl ⟨by rw [List.map_cons, all], List.forall_mem_cons.mpr ⟨⟨_, given⟩, good⟩, last⟩
    · refine .inr ⟨_ :: done, last, message, rest, by rw [made]; rfl, by rw [split]; rfl, ?_,
        failed, ends⟩
      exact List.forall_mem_cons.mpr ⟨⟨_, given⟩, good⟩

end Stages

namespace Binding

variable (behaviour : Behaviour F)

/-- That two bindings cannot be told apart by an extraction: they are for the same tags and the same
property, and evaluate every tag alike. -/
structure Interchangeable (first second : Binding F) : Prop where
  /-- They have the same name. -/
  name : first.name = second.name
  /-- They have the same target. -/
  target : first.target = second.target
  /-- Both require a tag, or neither does. -/
  required : first.definition.required = second.definition.required
  /-- Both allow several tags, or neither does. -/
  multi : first.definition.multi = second.definition.multi
  /-- They have the same default function. -/
  defaultFn : first.definition.defaultFn = second.definition.defaultFn
  /-- They evaluate every tag alike. -/
  evaluate : ∀ tag document,
    first.evaluate behaviour tag document = second.evaluate behaviour tag document

/-- A definition that is made ready has its own functions and then the shared ones. -/
theorem transforms_ready {shared : Value F} {definition : Definition F}
    (declares : shared.DeclaresTransforms) (own : definition.transforms.DeclaresTransforms) :
    (ready shared definition).transforms = definition.transforms.stages ++ shared.stages := by
  rw [transforms, ready, own.accepted.2, declares.accepted.2]

/-- A definition that is made ready passes a tag through its own functions, and then through the
shared ones. -/
theorem evaluate_ready {shared : Value F} {definition : Definition F}
    (declares : shared.DeclaresTransforms) (own : definition.transforms.DeclaresTransforms)
    (tag : Tag F) (document : Document F) :
    (ready shared definition).evaluate behaviour tag document =
      Routine.sequence ((definition.transforms.stages ++ shared.stages).map behaviour) document
        (some tag) (tag.part definition.tagProperty) := by
  rw [evaluate, routine_eq_sequence, transforms_ready declares own]
  rfl

/-- It does not show whether shared transforms are folded into a definition. -/
theorem interchangeable_folding {shared : Value F} {definition : Definition F}
    (declares : shared.DeclaresTransforms) (own : definition.transforms.DeclaresTransforms) :
    Interchangeable behaviour (ready shared definition)
      (ready .null (definition.folding shared)) where
  name := rfl
  target := rfl
  required := rfl
  multi := rfl
  defaultFn := rfl
  evaluate tag document := by
    have stages : (definition.folding shared).transforms.stages ++ (Value.null : Value F).stages =
        definition.transforms.stages ++ shared.stages := by
      rw [Definition.folding, Value.stages, filterMap_function?_map]
      exact List.append_nil _
    rw [evaluate_ready behaviour declares own,
      evaluate_ready behaviour (.vacant rfl) (.list _), stages]
    rfl

variable {behaviour} {first second : Binding F} (same : Interchangeable behaviour first second)

include same

/-- They collect values alike. -/
theorem Interchangeable.collect (held : Option (List (Value F))) (tags : List (Tag F))
    (document : Document F) :
    first.collect behaviour held tags document = second.collect behaviour held tags document := by
  induction tags generalizing held document with
  | nil => rfl
  | cons tag rest ih => simp only [Binding.collect, same.evaluate, same.target, ih]

/-- They are extracted alike. -/
theorem Interchangeable.extract (document : Document F) :
    first.extract behaviour document = second.extract behaviour document := by
  have all : ∀ tags, first.extractAll behaviour tags document =
      second.extractAll behaviour tags document := by
    intro tags
    simp only [extractAll, same.target, same.collect]
  have only : ∀ tag, first.extractOnly behaviour tag document =
      second.extractOnly behaviour tag document := by
    intro tag
    simp only [extractOnly, same.target, same.evaluate]
  have written : ∀ value filled, first.writeDefault value filled =
      second.writeDefault value filled := by
    intro value filled
    simp only [writeDefault, same.multi, same.target]
  have default : first.extractDefault behaviour document =
      second.extractDefault behaviour document := by
    simp only [extractDefault, same.required, same.name, same.defaultFn, written]
  simp only [Binding.extract, same.name, same.target, same.multi, all, only, default]

end Binding

section Interchangeable

variable {behaviour : Behaviour F} {ι : Type} {items : List ι} {one other : ι → Binding F}
  (same : ∀ item ∈ items, Binding.Interchangeable behaviour (one item) (other item))

include same

/-- A pass does not tell such bindings apart. -/
theorem extractPass_of_interchangeable (document : Document F) :
    extractPass behaviour (items.map one) document =
      extractPass behaviour (items.map other) document := by
  induction items generalizing document with
  | nil => rfl
  | cons item rest ih =>
    obtain ⟨head, tail⟩ := List.forall_mem_cons.mp same
    have others : extractPass behaviour (rest.map one) = extractPass behaviour (rest.map other) :=
      funext fun document => ih tail document
    simp only [List.map_cons, extractPass, head.extract, others]

/-- An extraction does not tell such bindings apart. -/
theorem Session.extractWith_of_interchangeable (session : Session F) (thread : Thread) (sink : Sink)
    (index : Nat) :
    session.extractWith behaviour thread ⟨items.map one, sink⟩ index =
      session.extractWith behaviour thread ⟨items.map other, sink⟩ index := by
  simp only [Session.extractWith, extractPass_of_interchangeable same]

/-- The extraction of documents in a row does not tell such bindings apart. -/
theorem Session.extractEachWith_of_interchangeable (session : Session F) (thread : Thread)
    (sink : Sink) (indices : List Nat) :
    session.extractEachWith behaviour thread ⟨items.map one, sink⟩ indices =
      session.extractEachWith behaviour thread ⟨items.map other, sink⟩ indices := by
  induction indices generalizing session with
  | nil => rfl
  | cons index rest ih =>
    simp only [Session.extractEachWith, Session.extractWith_of_interchangeable same, ih]

end Interchangeable

/-- Shared transforms may be folded into the definitions. A declaration is accepted if and only if
it declares transforms, and is refused by the name of its definition otherwise. Every tag passes
through the functions that its definition declares, and then through the shared ones, and if one of
them fails, none of those after it is run. The definitions that declare all these functions
themselves, set up without shared transforms, give every tag the same reply, and leave no session,
output or answer other than the same. -/
theorem Session.folded_transforms (behaviour : Behaviour F) {declared folded : List (Value F)}
    {definitions : List (Definition F)} {shared : Value F}
    (loads : Definition.loadAll declared = .ok definitions)
    (loadsFolded : Definition.loadAll folded = .ok (definitions.map (Definition.folding shared)))
    (declares : shared.DeclaresTransforms)
    (each : ∀ definition ∈ definitions, definition.transforms.DeclaresTransforms) :
    let foldedReady := fun definition => Binding.ready .null (Definition.folding shared definition)
    let bindings := definitions.map (Binding.ready shared)
    let foldedBindings := definitions.map foldedReady
    (∀ (name : String) (value : Value F),
      (value.DeclaresTransforms → Pipeline.ofDeclaration name value = .ok value.pipeline ∧
        value.pipeline.stages = value.stages) ∧
      (¬ value.DeclaresTransforms →
        Pipeline.ofDeclaration name value = .error (.invalidTransforms name))) ∧
    (∀ (session : Session F) (sink : Option Sink),
      session.declareExtractor declared shared sink =
        ⟨session.addExtractor bindings sink, .ofDebug [.resolved definitions.length], .ok ()⟩ ∧
      session.declareExtractor folded .null sink =
        ⟨session.addExtractor foldedBindings sink, .ofDebug [.resolved definitions.length],
          .ok ()⟩) ∧
    (∀ definition ∈ definitions, ∀ (tag : Tag F) (document : Document F),
      let functions := definition.transforms.stages ++ shared.stages
      let reply := (Binding.ready shared definition).evaluate behaviour tag document
      (foldedReady definition).evaluate behaviour tag document = reply ∧
      ∃ runs, Staged behaviour tag document (tag.part definition.tagProperty) functions runs
          reply ∧
        ((runs.map StageRun.function = functions ∧
            (∀ run ∈ runs, ∃ given, run.reply.outcome = .ok given) ∧
            ∃ last, reply.outcome = .ok last) ∨
          ∃ done last message rest, runs = done ++ [last] ∧
            functions = done.map StageRun.function ++ last.function :: rest ∧
            (∀ run ∈ done, ∃ given, run.reply.outcome = .ok given) ∧
            last.reply.outcome = .error message ∧ reply.outcome = .error message)) ∧
    (∀ (session : Session F) (thread : Thread) (sink : Sink),
      (∀ index, session.extractWith behaviour thread ⟨bindings, sink⟩ index =
        session.extractWith behaviour thread ⟨foldedBindings, sink⟩ index) ∧
      ∀ indices, session.extractEachWith behaviour thread ⟨bindings, sink⟩ indices =
        session.extractEachWith behaviour thread ⟨foldedBindings, sink⟩ indices) := by
  intro foldedReady bindings foldedBindings
  have resolved : Binding.resolveAll declared shared = .ok bindings :=
    resolveAll_of_declares loads declares each
  have foldedEach : ∀ definition ∈ definitions.map (Definition.folding shared),
      definition.transforms.DeclaresTransforms := by
    intro definition inside
    obtain ⟨plain, -, rfl⟩ := List.mem_map.mp inside
    exact .list _
  have foldedResolved : Binding.resolveAll folded .null = .ok foldedBindings := by
    rw [resolveAll_of_declares loadsFolded (.vacant rfl) foldedEach, List.map_map]
    rfl
  have same : ∀ definition ∈ definitions, Binding.Interchangeable behaviour
      (Binding.ready shared definition) (foldedReady definition) := fun definition inside =>
    Binding.interchangeable_folding behaviour declares (each definition inside)
  refine ⟨ofDeclaration_eq, fun session sink => ⟨?_, ?_⟩, fun definition inside tag document => ?_,
    fun session thread sink => ⟨?_, ?_⟩⟩
  · simp only [declareExtractor, resolved, bindings, List.length_map]
  · simp only [declareExtractor, foldedResolved, foldedBindings, List.length_map]
  · obtain ⟨runs, staged⟩ := exists_staged behaviour tag document
      (tag.part definition.tagProperty) (definition.transforms.stages ++ shared.stages)
    rw [← Binding.evaluate_ready behaviour declares (each definition inside)] at staged
    exact ⟨((same definition inside).evaluate tag document).symm, runs, staged, staged.ending⟩
  · exact extractWith_of_interchangeable same session thread sink
  · exact extractEachWith_of_interchangeable same session thread sink

/-- A function that notes down its value, and one that refuses an empty text. -/
def jotting : Behaviour Bool
  | true, _, _, value => ⟨[.assign "last" value], .ok value⟩
  | false, _, _, .text "" => ⟨[], .error "empty"⟩
  | false, _, _, value => .value value

/-- Records of a title, which is noted down, and of remarks. -/
def jots : List (Value Bool) :=
  [.record [("name", .text "title"), ("transforms", .function true)],
    .record [("name", .text "remark"), ("multi", .bool true)]]

/-- The same records with the refusal as the last transform. -/
def foldedJots : List (Value Bool) :=
  [.record [("name", .text "title"), ("transforms", .list [.function true, .function false])],
    .record [("name", .text "remark"), ("multi", .bool true),
      ("transforms", .list [.function false])]]

/-- The definitions of the records. -/
def jotDefinitions : List (Definition Bool) :=
  [(Definition.plain "title").through true, (Definition.plain "remark").collecting]

/-- A document with a title, which is empty, and a remark. -/
def jotted : Document Bool :=
  ⟨none, none, .ofList .empty
    [⟨"title", .text "", 1, none, none, []⟩, ⟨"remark", .text "R", 2, none, none, []⟩], .empty⟩

/-- Set up in either way, the title is noted down and then refused. -/
theorem folded_transforms_jots :
    let shared : Value Bool := .list [.function false]
    let session : Session Bool := ⟨[jotted], [], []⟩
    let bindings := jotDefinitions.map (Binding.ready shared)
    let foldedBindings := jotDefinitions.map fun definition =>
      Binding.ready .null (Definition.folding shared definition)
    Definition.loadAll jots = .ok jotDefinitions ∧
      Definition.loadAll foldedJots = .ok (jotDefinitions.map (Definition.folding shared)) ∧
      session.extractWith jotting .main ⟨bindings, .record⟩ 0 =
        session.extractWith jotting .main ⟨foldedBindings, .record⟩ 0 ∧
      (session.extractWith jotting .main ⟨foldedBindings, .record⟩ 0).answer =
        .error (.functionFailed "empty") := by
  intro shared session bindings foldedBindings
  have loads : Definition.loadAll jots = .ok jotDefinitions := rfl
  have loadsFolded : Definition.loadAll foldedJots =
      .ok (jotDefinitions.map (Definition.folding shared)) := rfl
  have each : ∀ definition ∈ jotDefinitions, definition.transforms.DeclaresTransforms :=
    List.forall_mem_cons.mpr ⟨.function true, List.forall_mem_cons.mpr ⟨.vacant rfl, by simp⟩⟩
  obtain ⟨-, -, -, same⟩ :=
    Session.folded_transforms jotting loads loadsFolded (.list [false]) each
  exact ⟨loads, loadsFolded, (same session .main .record).1 0, rfl⟩

end TagBinding
