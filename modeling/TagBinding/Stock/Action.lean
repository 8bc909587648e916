import TagBinding.Routine

/-!
# Actions

Small functions from which others are put together: they give a value, read a document or a tag,
write to a document, or fail.
-/
namespace TagBinding

variable {F : Type}

/-- A small function. -/
inductive Action (F : Type) where
  /-- Puts something at the end of a text. -/
  | suffix (ending : String)
  /-- Gives a fixed value. -/
  | const (value : Value F)
  /-- Gives a property of the document, or no value. -/
  | property (key : String)
  /-- Gives a part of the tag, or no value. -/
  | tagPart (part : String)
  /-- Assigns a property, a given value or else the incoming one; gives a given result or else
  the incoming value. -/
  | setProperty (key : String) (value result : Option (Value F))
  /-- Attaches a tag; gives a given result or else the incoming value. -/
  | addTag (tag : Tag F) (result : Option (Value F))
  /-- Gives the count of the well-formed tags. -/
  | tagCount
  /-- Fails with a message. -/
  | fail (message : String)

/-- A text with an ending; any other value as it is. -/
def Value.withSuffix (ending : String) : Value F → Value F
  | .text content => .text (content ++ ending)
  | value => value

/-- What an action does. -/
def Action.routine : Action F → Routine F
  | .suffix ending, _, _, value => .value (value.withSuffix ending)
  | .const given, _, _, _ => .value given
  | .property key, document, _, _ => .value ((document.get? key).getD .null)
  | .tagPart part, _, tag, _ => .value (tag.elim .null fun found => found.part part)
  | .setProperty key given result, _, _, value =>
    ⟨[.assign key (given.getD value)], .ok (result.getD value)⟩
  | .addTag added result, _, _, value => ⟨[.attach added], .ok (result.getD value)⟩
  | .tagCount, document, _, _ => .value (.int document.tags.size)
  | .fail message, _, _, _ => ⟨[], .error message⟩

end TagBinding
