/-!
# Problems of a tag definition

A problem says where in the record of a definition something is wrong and what is wrong there.
-/
namespace TagBinding

/-- A place in the record of a definition. -/
inductive Location where
  /-- The record itself. -/
  | whole
  /-- The entry of a key, as the record spells it. -/
  | entry (key : String)
  /-- An item of the list under a key, counted from zero. -/
  | item (key : String) (index : Nat)
  deriving DecidableEq, Repr

/-- What can be wrong at a place. -/
inductive Complaint where
  /-- The whole is not a record. -/
  | notARecord
  /-- A key that every record needs is missing. -/
  | missing
  /-- The value is not a text. -/
  | notAText
  /-- The text is empty. -/
  | emptyText
  /-- The value could stand for a truth value, but for neither of the two. -/
  | unclearFlag
  /-- The value cannot stand for a truth value. -/
  | notAFlag
  /-- The value is not a function. -/
  | notAFunction
  /-- The value is not a sequence. -/
  | notASequence
  /-- No definition has such a key, or the record gives its value under another spelling. -/
  | unknownKey
  deriving DecidableEq, Repr

/-- Something wrong at a place of a record. -/
structure Problem where
  /-- Where. -/
  location : Location
  /-- What. -/
  complaint : Complaint
  deriving DecidableEq, Repr

/-- The path of a place; it is empty for the whole and for the empty key. -/
def Location.path : Location → String
  | .whole => ""
  | .entry key => key
  | .item key index => key ++ "." ++ toString index

/-- The text of a place: its path, or a word for the whole where the path is empty. -/
def Location.text (location : Location) : String :=
  if location.path.isEmpty then "definition" else location.path

/-- The text of a complaint. -/
def Complaint.text : Complaint → String
  | .notARecord => "Input should be a valid dictionary or instance of TagDefinition"
  | .missing => "Field required"
  | .notAText => "Input should be a valid string"
  | .emptyText => "String should have at least 1 character"
  | .unclearFlag => "Input should be a valid boolean, unable to interpret input"
  | .notAFlag => "Input should be a valid boolean"
  | .notAFunction => "Input should be callable"
  | .notASequence => "Input should be a valid tuple"
  | .unknownKey => "Extra inputs are not permitted"

/-- The text of a problem. -/
def Problem.text (problem : Problem) : String :=
  problem.location.text ++ ": " ++ problem.complaint.text

end TagBinding
