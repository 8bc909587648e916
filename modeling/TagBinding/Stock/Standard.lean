import TagBinding.Definition.Load
import TagBinding.Stock.Builtin

/-!
# The standard definitions

The tag definitions for documentation comments on an application programming interface, and the
aliases that they declare. They need the names under which the built-in functions are known.
-/
namespace TagBinding

variable {F : Type}

namespace Definition

/-- A definition of a name with everything else left to its default. -/
def plain (name : String) : Definition F where
  name := name
  docProperty := none
  tagProperty := "description"
  required := false
  multi := false
  defaultFn := none
  transforms := .null
  aliases := []

/-- A definition with the declaration of one function as its transforms. -/
def through (definition : Definition F) (function : F) : Definition F :=
  { definition with transforms := .function function }

/-- A definition whose values are collected. -/
def collecting (definition : Definition F) : Definition F := { definition with multi := true }

/-- A definition that writes a property of another name. -/
def onto (definition : Definition F) (property : String) : Definition F :=
  { definition with docProperty := some property }

/-- A definition with other names of its tags. -/
def alsoNamed (definition : Definition F) (aliases : List String) : Definition F :=
  { definition with aliases := aliases }

/-- The standard definitions in order, given the names of the built-in functions. Every `see`
tag gives a list of references, one a line. -/
def standard (known : Builtin → F) : List (Definition F) :=
  [(plain "name").through (known .trimWhitespace),
    (plain "module").through (known .trimWhitespace),
    { (plain "kind").through (known .trimWhitespace) with
      defaultFn := some (known .defaultKind) },
    (plain "description").alsoNamed ["desc"],
    (((plain "param").alsoNamed ["arg", "argument"]).onto "params").collecting.through
      (known .wholeTag),
    ((plain "returns").alsoNamed ["return"]).through (known .wholeTag),
    ((plain "example").onto "examples").collecting,
    { (plain "see").collecting with
      transforms := .list [.function (known .trimWhitespace), .function (known .splitLines)] },
    plain "deprecated",
    (plain "private").through (known .toBool)]

/-- The aliases of the standard definitions. -/
def standardAliases : Table String := aliasMap (standard (id : Builtin → Builtin))

end Definition

end TagBinding
