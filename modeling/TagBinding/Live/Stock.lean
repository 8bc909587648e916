import TagBinding.Live.Routine
import TagBinding.Stock.Action
import TagBinding.Stock.Builtin

/-!
# Live functions of the library

The built-in functions hand on the value that they are given, lists included, unless they have
another one to give; only the lines of a text are a new list. Actions take and give copies: every
list in what they store or give is a new one.
-/
namespace TagBinding.Live

variable {F M : Type}

namespace Value

/-- A text without the blanks at its ends; any other value as it is. -/
def trimmed : Value F → Value F
  | .text content => .text (Text.trim content)
  | value => value

end Value

/-- What a built-in function does in a scene. -/
def builtin : Builtin → Routine F M
  | .identity, scene, _, value => scene.give value
  | .trimWhitespace, scene, _, value => scene.give value.trimmed
  | .wholeTag, scene, tag, _ => scene.give (tag.elim .null .tag)
  | .toBool, scene, _, _ => scene.give (.bool true)
  | .splitLines, scene, _, .text content =>
    ⟨scene.memory, [.make scene.document.home ((Text.cleanLines content).map .text)],
      .ok (.list (scene.heap.next scene.document.home))⟩
  | .splitLines, scene, _, value => scene.give value
  | .defaultKind, scene, _, _ =>
    scene.give (if (scene.document.named "module").isEmpty then .null else .text "module")

/-- A value brought to life in the region of the document, and the edits that make its lists. -/
def Scene.copy (scene : Scene F M) (value : TagBinding.Value F) : Value F × List (Edit F) :=
  let home := scene.document.home
  let held := hold home value (scene.heap.used home)
  (held.1, held.2.map (.make home))

/-- A tag brought to life in the region of the document, and the edits that make its lists. -/
def Scene.copyTag (scene : Scene F M) (tag : TagBinding.Tag F) : Tag F × List (Edit F) :=
  let home := scene.document.home
  let held := holdTag home tag (scene.heap.used home)
  (held.1, held.2.map (.make home))

/-- A reply of a copy of a value, after other edits. -/
def Scene.giveCopy (scene : Scene F M) (edits : List (Edit F)) (value : TagBinding.Value F) :
    Reply F M :=
  let copied := (scene.editAll edits).copy value
  ⟨scene.memory, edits ++ copied.2, .ok copied.1⟩

/-- What an action does in a scene. -/
def action : Action F → Routine F M
  | .suffix ending, scene, _, value =>
    scene.giveCopy [] ((scene.heap.read value).withSuffix ending)
  | .const given, scene, _, _ => scene.giveCopy [] given
  | .property key, scene, _, _ =>
    scene.giveCopy [] ((scene.document.get? key).elim .null scene.heap.read)
  | .tagPart part, scene, tag, _ =>
    scene.giveCopy [] (tag.elim .null fun found => scene.heap.read (found.part scene.heap part))
  | .setProperty key given result, scene, _, value =>
    let incoming := scene.heap.read value
    let stored := scene.copy (given.getD incoming)
    scene.giveCopy (stored.2 ++ [.assign key stored.1]) (result.getD incoming)
  | .addTag added result, scene, _, value =>
    let attached := scene.copyTag added
    scene.giveCopy (attached.2 ++ [.attach attached.1]) (result.getD (scene.heap.read value))
  | .tagCount, scene, _, _ => scene.give (.int scene.document.wellFormed.length)
  | .fail message, scene, _, _ => ⟨scene.memory, [], .error message⟩

end TagBinding.Live
