import TagBinding.Definition.Problem
import TagBinding.Value.Render

/-!
# Faults

A fault is the reason why a set-up or a step ends without a result: a declaration is invalid, a
document breaks a definition, or a function that was run has failed. Each fault carries what its
text needs, and `Fault.message` is the only place where faults are worded.
-/
namespace TagBinding

/-- The parts of a session to which a step may refer. -/
inductive Registry where
  /-- The documents. -/
  | documents
  /-- The extractors. -/
  | extractors
  /-- The reporters. -/
  | reporters
  deriving DecidableEq, Repr

/-- A reason to end without a result. -/
inductive Fault (F : Type) where
  /-- The record of a definition has problems; the name is the one that the record states. -/
  | invalidDefinition (name : Value F) (problems : List Problem)
  /-- The declared transforms of the named definition are no functions. -/
  | invalidTransforms (name : String)
  /-- A document lacks a tag that is required. -/
  | missingTag (name : String) (file : Option String) (line : Option Int)
  /-- A document has more than one of a tag that may occur once. -/
  | duplicateTag (name : String) (count : Nat) (file : Option String) (line : Option Int)
  /-- A property that collects values holds something that cannot grow. -/
  | notAList (held : Value F)
  /-- A function has failed with a message. -/
  | functionFailed (message : String)
  /-- A document has no property of a name. -/
  | absentProperty (key : String)
  /-- A step refers to a part that the session does not have. -/
  | absentPart (registry : Registry)

variable {F : Type}

/-- The text of a fault. -/
def Fault.message : Fault F → String
  | .invalidDefinition name problems =>
    "Invalid tag definition, " ++ name.display ++ " - " ++
      joinTexts "; " (problems.map Problem.text)
  | .invalidTransforms name =>
    "Invalid transform in tag definition, " ++ name ++
      " - transform must be a function or a sequence of functions"
  | .missingTag name file line =>
    "Missing tag \"" ++ name ++ "\" in file \"" ++ displayText? file ++ "\" at line " ++
      displayInt? line
  | .duplicateTag name count file line =>
    "Only one of \"" ++ name ++ "\" (or its aliases) allowed. There were " ++ toString count ++
      " in file \"" ++ displayText? file ++ "\" at line " ++ displayInt? line
  | .notAList held => "'" ++ held.kind ++ "' object has no attribute 'append'"
  | .functionFailed message => message
  | .absentProperty key => Text.quote key
  | .absentPart _ => "list index out of range"

end TagBinding
