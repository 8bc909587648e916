import TagBinding.Live.Routine
import TagBinding.Report.Log

/-!
# Live extraction

A live pass takes bindings in order, as a pass over plain values does, and keeps to the lists as
they are held. A binding that allows several tags looks once for the list of its property, makes
one if there is none, and puts the value of each tag at the end of that very list: whatever
becomes of the property meanwhile, and whoever else holds the list.
-/
namespace TagBinding.Live

variable {F M : Type}

/-- One run of the functions of a binding for a tag. -/
structure Call (F M : Type) where
  /-- The tag whose value is asked for. -/
  tag : Tag F
  /-- The scene as the functions find it. -/
  seen : Scene F M
  /-- What they reply. -/
  reply : Reply F M

/-- Something that happens during a live pass. -/
inductive Event (F M : Type) where
  /-- A binding of a name is taken up, for a property. -/
  | began (name target : String)
  /-- There is no tag, and the default function is run in the scene as it is then. -/
  | defaulted (seen : Scene F M) (reply : Reply F M)
  /-- The value of a tag is asked for. -/
  | evaluated (call : Call F M)
  /-- The bad tags are reported. -/
  | reported (message : String)

/-- A live pass, or a part of one, from its beginning to its end. -/
structure Pass (F M : Type) where
  /-- The scene at the end. -/
  scene : Scene F M
  /-- What has happened, in order. -/
  events : List (Event F M)
  /-- Why it ended early, if it did. -/
  fault? : Option (Fault F)

namespace Pass

/-- A part without events that leaves a scene as it is. -/
def still (scene : Scene F M) : Pass F M := ⟨scene, [], none⟩

/-- A part that comes to nothing for a fault. -/
def failed (scene : Scene F M) (fault : Fault F) : Pass F M := ⟨scene, [], some fault⟩

/-- A part before which an event has happened. -/
def after (event : Event F M) (pass : Pass F M) : Pass F M :=
  { pass with events := event :: pass.events }

/-- A part and the one that follows it, unless it ended early. -/
def andThen (pass : Pass F M) (next : Scene F M → Pass F M) : Pass F M :=
  match pass.fault? with
  | some _ => pass
  | none =>
    let following := next pass.scene
    { following with events := pass.events ++ following.events }

end Pass

/-- The list that a property collects, and the scene in which the property holds it: a new list if
there is none yet. -/
def Scene.collected (scene : Scene F M) (key : String) :
    Except (Fault F) (Address × Scene F M) :=
  match scene.document.get? key with
  | none | some .null =>
    let address := scene.heap.next scene.document.home
    .ok (address,
      { scene with
        heap := scene.heap.make scene.document.home []
        document := scene.document.assign key (.list address) })
  | some (.list address) => .ok (address, scene)
  | some held => .error (.notAList (scene.heap.read held))

section Bindings

variable (behaviour : Behaviour F M) (binding : Binding F)

/-- Evaluate tags and put their values at the end of a list. -/
def collect (address : Address) : List (Tag F) → Scene F M → Pass F M
  | [], scene => .still scene
  | tag :: rest, scene =>
    let reply := evaluate behaviour binding tag scene
    .after (.evaluated ⟨tag, scene, reply⟩) <|
      match reply.outcome with
      | .error message => .failed (scene.after reply) (.functionFailed message)
      | .ok value => collect address rest ((scene.after reply).push address value)

/-- Collect the values of all tags into the list of the target property. -/
def extractAll (tags : List (Tag F)) (scene : Scene F M) : Pass F M :=
  match scene.collected binding.target with
  | .error fault => .failed scene fault
  | .ok (address, start) => collect behaviour binding address tags start

/-- Write the value of the only tag to the target property. -/
def extractOnly (tag : Tag F) (scene : Scene F M) : Pass F M :=
  let reply := evaluate behaviour binding tag scene
  .after (.evaluated ⟨tag, scene, reply⟩) <|
    match reply.outcome with
    | .error message => .failed (scene.after reply) (.functionFailed message)
    | .ok value => .still ((scene.after reply).assign binding.target value)

/-- Write a default value to the target property, at the end of its list if it collects several. -/
def writeDefault (value : Value F) (scene : Scene F M) : Pass F M :=
  if binding.definition.multi then
    match scene.collected binding.target with
    | .error fault => .failed scene fault
    | .ok (address, start) => .still (start.push address value)
  else .still (scene.assign binding.target value)

/-- Do without a tag: fail if one is required, and else write the value of the default function,
if there is such a function and it gives a value. -/
def extractDefault (scene : Scene F M) : Pass F M :=
  if binding.definition.required then
    .failed scene (.missingTag binding.name scene.document.file scene.document.startingLine)
  else
    match binding.definition.defaultFn with
    | none => .still scene
    | some function =>
      let reply := behaviour function scene none .null
      .after (.defaulted scene reply) <|
        match reply.outcome with
        | .error message => .failed (scene.after reply) (.functionFailed message)
        | .ok .null => .still (scene.after reply)
        | .ok value => writeDefault binding value (scene.after reply)

/-- Extract the tags of one binding. -/
def extract (scene : Scene F M) : Pass F M :=
  .after (.began binding.name binding.target) <|
    match scene.document.named binding.name with
    | [] => extractDefault behaviour binding scene
    | tag :: rest =>
      if binding.definition.multi then extractAll behaviour binding (tag :: rest) scene
      else if rest.isEmpty then extractOnly behaviour binding tag scene
      else
        .failed scene (.duplicateTag binding.name (rest.length + 1) scene.document.file
          scene.document.startingLine)

end Bindings

/-- Report the bad tags that the document has, if it has any. -/
def Scene.report (scene : Scene F M) : Pass F M :=
  if scene.document.bad.isEmpty then .still scene
  else .after (.reported scene.badTagReport) (.still scene)

/-- Extract the tags of bindings in order, with a report after each. -/
def extractPass (behaviour : Behaviour F M) : List (Binding F) → Scene F M → Pass F M
  | [], scene => .still scene
  | binding :: rest, scene =>
    ((extract behaviour binding scene).andThen Scene.report).andThen (extractPass behaviour rest)

namespace Event

/-- The debug lines of an event. -/
def debugLines : Event F M → List LogLine
  | .began name target =>
    [.ofExtractor ("extracting tags for: " ++ name),
      .ofExtractor (" - to be attached to doc." ++ target)]
  | .defaulted _ _ => [.ofExtractor " - tag not found, applying default value function"]
  | .evaluated _ => []
  | .reported _ => []

/-- The message of an event that is a report. -/
def message? : Event F M → Option String
  | .reported message => some message
  | _ => none

/-- The call of an event that asks for the value of a tag. -/
def call? : Event F M → Option (Call F M)
  | .evaluated call => some call
  | _ => none

end Event

namespace Pass

/-- The debug lines of a pass, in order. -/
def debugLines (pass : Pass F M) : List LogLine := pass.events.flatMap Event.debugLines

/-- The reports of a pass, in order. -/
def messages (pass : Pass F M) : List String := pass.events.filterMap Event.message?

/-- The calls for the values of tags in a pass, in order. -/
def calls (pass : Pass F M) : List (Call F M) := pass.events.filterMap Event.call?

end Pass

end TagBinding.Live
