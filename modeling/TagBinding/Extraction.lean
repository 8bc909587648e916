import TagBinding.Binding
import TagBinding.Report.Message

/-!
# Extraction

A plain pass works on documents of which no list is held in two places, so that a list is nothing
but the value of the property that holds it. Lists that are shared are kept track of in
`TagBinding.Live.Extraction`, which does the same as long as none is.

A pass takes bindings in order and writes, for each, the values of a document's tags to a
property. It stops at the first fault and keeps what was written before. After each binding
that is done, the bad tags that the document has at that moment are reported.

A binding that allows several tags collects their values into the list of its property, which
the functions it runs may assign as well. What they assign is a list of its own, so once one of
them does, the property no longer holds the list that is collected, and neither does anything else:
the values that are still to come are not seen in the document (`Binding.collect`). It is different
when the very list that is collected is assigned again, or is held elsewhere too.
-/
namespace TagBinding

variable {F : Type}

/-- One run of the functions of a binding for a tag. -/
structure Call (F : Type) where
  /-- The tag whose value is asked for. -/
  tag : Tag F
  /-- The document as the functions find it. -/
  seen : Document F
  /-- What they reply. -/
  reply : Reply F

/-- Something that happens during a pass. -/
inductive Event (F : Type) where
  /-- A binding of a name is taken up, for a property. -/
  | began (name target : String)
  /-- There is no tag, and the default function is run on the document as it is then. -/
  | defaulted (seen : Document F) (reply : Reply F)
  /-- The value of a tag is asked for. -/
  | evaluated (call : Call F)
  /-- The bad tags are reported. -/
  | reported (message : String)

/-- A pass, or a part of one, from its beginning to its end. -/
structure Pass (F : Type) where
  /-- The document at the end. -/
  document : Document F
  /-- What has happened, in order. -/
  events : List (Event F)
  /-- Why it ended early, if it did. -/
  fault? : Option (Fault F)

namespace Pass

/-- A part without events that leaves a document as it is. -/
def still (document : Document F) : Pass F := ⟨document, [], none⟩

/-- A part that comes to nothing for a fault. -/
def failed (document : Document F) (fault : Fault F) : Pass F := ⟨document, [], some fault⟩

/-- A part before which an event has happened. -/
def after (event : Event F) (pass : Pass F) : Pass F := { pass with events := event :: pass.events }

/-- A part and the one that follows it, unless it ended early. -/
def andThen (pass : Pass F) (next : Document F → Pass F) : Pass F :=
  match pass.fault? with
  | some _ => pass
  | none =>
    let following := next pass.document
    { following with events := pass.events ++ following.events }

end Pass

/-- The list that a property collects: an empty one if there is none yet. -/
def Document.collected (document : Document F) (key : String) :
    Except (Fault F) (List (Value F)) :=
  match document.get? key with
  | none | some .null => .ok []
  | some (.list items) => .ok items
  | some held => .error (.notAList held)

namespace Binding

/-- Evaluate tags and collect their values. The values so far are given as long as the target
property holds their list. Where no list is shared, that is until a function assigns the property,
since what it assigns is never the list itself. -/
def collect (behaviour : Behaviour F) (binding : Binding F) :
    Option (List (Value F)) → List (Tag F) → Document F → Pass F
  | _, [], document => .still document
  | held, tag :: rest, document =>
    let reply := binding.evaluate behaviour tag document
    let edited := document.editAll reply.edits
    .after (.evaluated ⟨tag, document, reply⟩) <|
      match reply.outcome with
      | .error message => .failed edited (.functionFailed message)
      | .ok value =>
        match if reply.assigns binding.target then none else held with
        | some values =>
          let grown := values ++ [value]
          collect behaviour binding (some grown) rest (edited.assign binding.target (.list grown))
        | none => collect behaviour binding none rest edited

/-- Collect the values of all tags into the target property. -/
def extractAll (behaviour : Behaviour F) (binding : Binding F) (tags : List (Tag F))
    (document : Document F) : Pass F :=
  match document.collected binding.target with
  | .error fault => .failed document fault
  | .ok values =>
    binding.collect behaviour (some values) tags (document.assign binding.target (.list values))

/-- Write the value of the only tag to the target property. -/
def extractOnly (behaviour : Behaviour F) (binding : Binding F) (tag : Tag F)
    (document : Document F) : Pass F :=
  let reply := binding.evaluate behaviour tag document
  let edited := document.editAll reply.edits
  .after (.evaluated ⟨tag, document, reply⟩) <|
    match reply.outcome with
    | .error message => .failed edited (.functionFailed message)
    | .ok value => .still (edited.assign binding.target value)

/-- Write a default value to the target property, as one more value if it collects several. -/
def writeDefault (binding : Binding F) (value : Value F) (document : Document F) : Pass F :=
  if binding.definition.multi then
    match document.collected binding.target with
    | .error fault => .failed document fault
    | .ok values => .still (document.assign binding.target (.list (values ++ [value])))
  else .still (document.assign binding.target value)

/-- Do without a tag: fail if one is required, and else write the value of the default function,
if there is such a function and it gives a value. -/
def extractDefault (behaviour : Behaviour F) (binding : Binding F) (document : Document F) :
    Pass F :=
  if binding.definition.required then
    .failed document (.missingTag binding.name document.file document.startingLine)
  else
    match binding.definition.defaultFn with
    | none => .still document
    | some function =>
      let reply := behaviour function document none .null
      let edited := document.editAll reply.edits
      .after (.defaulted document reply) <|
        match reply.outcome with
        | .error message => .failed edited (.functionFailed message)
        | .ok .null => .still edited
        | .ok value => binding.writeDefault value edited

/-- Extract the tags of one binding. -/
def extract (behaviour : Behaviour F) (binding : Binding F) (document : Document F) : Pass F :=
  .after (.began binding.name binding.target) <|
    match document.tags.named binding.name with
    | [] => binding.extractDefault behaviour document
    | tag :: rest =>
      if binding.definition.multi then binding.extractAll behaviour (tag :: rest) document
      else if rest.isEmpty then binding.extractOnly behaviour tag document
      else
        .failed document
          (.duplicateTag binding.name (rest.length + 1) document.file document.startingLine)

end Binding

/-- Report the bad tags that a document has, if it has any. -/
def Document.report (document : Document F) : Pass F :=
  if document.tags.bad.isEmpty then .still document
  else .after (.reported document.badTagReport) (.still document)

/-- Extract the tags of bindings in order, with a report after each. -/
def extractPass (behaviour : Behaviour F) : List (Binding F) → Document F → Pass F
  | [], document => .still document
  | binding :: rest, document =>
    ((binding.extract behaviour document).andThen Document.report).andThen
      (extractPass behaviour rest)

end TagBinding
