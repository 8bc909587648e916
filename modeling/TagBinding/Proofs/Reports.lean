import Mathlib.Data.List.Basic
import TagBinding.Proofs.Checkpoints
import TagBinding.Proofs.Deliveries
import TagBinding.Proofs.Growth
import TagBinding.Stock.Standard

/-!
# The reports of a pass

A pass reports the document behind each binding that is done, if the document has a bad tag then.
The functions of the bindings may attach tags meanwhile. Bad tags only come to be more, so the
reports begin with the first binding during which one comes and go on from there
(`filter_checkpoints_of_first`). Well-formed tags that come while a binding is extracted are not
looked at by that binding (`Binding.calls_extract`), but are found by every later one. All of it
together is `Session.reports_of_pass`, for functions that do whatever they like.
-/
namespace TagBinding

variable {F : Type}

/-- If an item with a property has only such items behind it, those that have it are all the items
from the first one on. -/
theorem filter_eq_dropWhile {α : Type} {holds : α → Bool} {items : List α}
    (kept : items.Pairwise fun former latter => holds former = true → holds latter = true) :
    items.filter holds = items.dropWhile fun item => !holds item := by
  induction items with
  | nil => rfl
  | cons item rest ih =>
    obtain ⟨head, tail⟩ := List.pairwise_cons.mp kept
    cases found : holds item with
    | false =>
      rw [List.filter_cons_of_neg (by simp [found]), List.dropWhile_cons_of_pos (by simp [found]),
        ih tail]
    | true =>
      have all : rest.filter holds = rest :=
        List.filter_eq_self.mpr fun later inside => head later inside found
      rw [List.filter_cons_of_pos found, List.dropWhile_cons_of_neg (by simp [found]), all]

/-- Whether a document has a bad tag. -/
def Document.isMarred (document : Document F) : Bool := !document.tags.bad.isEmpty

/-- A document is marred if and only if it has a bad tag. -/
theorem Document.isMarred_eq_false_iff (document : Document F) :
    document.isMarred = false ↔ document.tags.bad = [] := by
  simp [isMarred]

/-- A document that has become another one is not marred unless that is. -/
theorem Document.GrownBy.isMarred {added : List (Tag F)} {before after : Document F}
    (grown : before.GrownBy added after) (marred : before.isMarred = true) :
    after.isMarred = true := by
  cases clean : after.isMarred with
  | true => rfl
  | false =>
    have none := grown.bad_eq_nil (after.isMarred_eq_false_iff.mp clean)
    rw [before.isMarred_eq_false_iff.mpr none] at marred
    cases marred

section Checkpoints

variable (behaviour : Behaviour F)

/-- Every checkpoint has grown from the start and from the checkpoints before it. -/
theorem pairwise_checkpoints (bindings : List (Binding F)) (document : Document F) :
    (document :: checkpoints behaviour bindings document).Pairwise fun former latter =>
      ∃ added, former.GrownBy added latter := by
  induction bindings generalizing document with
  | nil => exact List.pairwise_singleton _ _
  | cons binding rest ih =>
    cases own : (binding.extract behaviour document).fault? with
    | some fault =>
      rw [checkpoints_cons_of_fault behaviour binding rest document own]
      exact List.pairwise_singleton _ _
    | none =>
      rw [checkpoints_cons_of_none behaviour binding rest document own]
      have later := ih (binding.extract behaviour document).document
      refine List.pairwise_cons.mpr ⟨?_, later⟩
      have first := binding.grows_extract behaviour document
      refine List.forall_mem_cons.mpr ⟨⟨_, first⟩, fun checkpoint inside => ?_⟩
      obtain ⟨added, grown⟩ := (List.pairwise_cons.mp later).1 checkpoint inside
      exact ⟨_, first.trans grown⟩

/-- The document at the end has grown from every checkpoint. -/
theorem grownBy_of_mem_checkpoints (bindings : List (Binding F)) (document : Document F) :
    ∀ checkpoint ∈ checkpoints behaviour bindings document,
      ∃ added, checkpoint.GrownBy added (extractPass behaviour bindings document).document := by
  induction bindings generalizing document with
  | nil => simp [checkpoints]
  | cons binding rest ih =>
    cases own : (binding.extract behaviour document).fault? with
    | some fault => simp [checkpoints_cons_of_fault behaviour binding rest document own]
    | none =>
      rw [checkpoints_cons_of_none behaviour binding rest document own,
        (extractPass_cons_of_none behaviour binding rest document own).1]
      exact List.forall_mem_cons.mpr ⟨⟨_, grownBy_extractPass behaviour rest _⟩, ih _⟩

/-- The marred checkpoints are the last ones. -/
theorem filter_isMarred_suffix (bindings : List (Binding F)) (document : Document F) :
    (checkpoints behaviour bindings document).filter Document.isMarred <:+
      checkpoints behaviour bindings document := by
  have grown := (List.pairwise_cons.mp (pairwise_checkpoints behaviour bindings document)).2
  have kept : (checkpoints behaviour bindings document).Pairwise fun former latter =>
      former.isMarred = true → latter.isMarred = true :=
    grown.imp fun ⟨_, later⟩ => later.isMarred
  rw [filter_eq_dropWhile kept]
  exact List.dropWhile_suffix _

/-- If the document is marred from the start, so are all checkpoints. -/
theorem filter_isMarred_of_marred (bindings : List (Binding F)) {document : Document F}
    (marred : document.isMarred = true) :
    (checkpoints behaviour bindings document).filter Document.isMarred =
      checkpoints behaviour bindings document := by
  have grown := (List.pairwise_cons.mp (pairwise_checkpoints behaviour bindings document)).1
  refine List.filter_eq_self.mpr fun checkpoint inside => ?_
  obtain ⟨added, later⟩ := grown checkpoint inside
  exact later.isMarred marred

/-- If the document is not marred at the end, no checkpoint is. -/
theorem filter_isMarred_of_clean (bindings : List (Binding F)) {document : Document F}
    (clean : (extractPass behaviour bindings document).document.isMarred = false) :
    (checkpoints behaviour bindings document).filter Document.isMarred = [] := by
  refine List.filter_eq_nil_iff.mpr fun checkpoint inside marred => ?_
  obtain ⟨added, later⟩ := grownBy_of_mem_checkpoints behaviour bindings document checkpoint inside
  rw [later.isMarred marred] at clean
  cases clean

/-- If no bad tag is attached before some binding, and one is attached in the extraction of that
binding, which is done, the marred checkpoints begin behind it. -/
theorem filter_checkpoints_of_first {done : List (Binding F)} {binding : Binding F}
    {document : Document F} (rest : List (Binding F))
    (finished : (extractPass behaviour done document).fault? = none)
    (clean : (extractPass behaviour done document).document.isMarred = false)
    (own : (binding.extract behaviour
      (extractPass behaviour done document).document).fault? = none)
    (marred : (binding.extract behaviour
      (extractPass behaviour done document).document).document.isMarred = true) :
    (checkpoints behaviour (done ++ binding :: rest) document).filter Document.isMarred =
      (checkpoints behaviour (done ++ binding :: rest) document).drop done.length := by
  have length := length_checkpoints behaviour done document finished
  rw [checkpoints_append_of_none behaviour done _ document finished, List.filter_append,
    filter_isMarred_of_clean behaviour done clean, List.nil_append, List.drop_left' length,
    checkpoints_cons_of_none behaviour binding rest _ own, List.filter_cons_of_pos marred,
    filter_isMarred_of_marred behaviour rest marred]

/-- A binding that is done has its checkpoint, and one that fails has none, nor has any after it. -/
theorem checkpoints_split {done : List (Binding F)} (binding : Binding F)
    (rest : List (Binding F)) {document : Document F}
    (finished : (extractPass behaviour done document).fault? = none) :
    let own := binding.extract behaviour (extractPass behaviour done document).document
    let completed := checkpoints behaviour (done ++ binding :: rest) document
    (own.fault? = none → completed[done.length]? = some own.document) ∧
      (own.fault? ≠ none → completed = checkpoints behaviour done document ∧
        completed.length = done.length) := by
  intro own completed
  have length := length_checkpoints behaviour done document finished
  have parts : completed = checkpoints behaviour done document ++
      checkpoints behaviour (binding :: rest) (extractPass behaviour done document).document :=
    checkpoints_append_of_none behaviour done _ document finished
  refine ⟨fun fine => ?_, fun wrong => ?_⟩
  · rw [parts, checkpoints_cons_of_none behaviour binding rest _ fine,
      List.getElem?_append_right (Nat.le_of_eq length), length, Nat.sub_self]
    rfl
  · obtain ⟨fault, failed⟩ := Option.ne_none_iff_exists'.mp wrong
    rw [parts, checkpoints_cons_of_fault behaviour binding rest _ failed, List.append_nil]
    exact ⟨rfl, length⟩

/-- A pass that attaches no bad tag to a document without bad tags leaves none. -/
theorem isMarred_extractPass_of_clean {bindings : List (Binding F)} {document : Document F}
    (clean : document.tags.bad = [])
    (fine : ∀ tag ∈ (extractPass behaviour bindings document).attached, tag.isBad = false) :
    (extractPass behaviour bindings document).document.isMarred = false := by
  rw [Document.isMarred_eq_false_iff, (grownBy_extractPass behaviour bindings document).bad, clean,
    List.nil_append, List.filter_eq_nil_iff]
  intro tag inside
  simp [fine tag inside]

/-- A document without bad tags to which no bad tag comes before a binding fails is never reported,
and neither is one to which none comes at all. -/
theorem filter_isMarred_of_never {bindings : List (Binding F)} {document : Document F}
    (clean : document.tags.bad = [])
    (fine : ∀ done rest, bindings = done ++ rest →
      (extractPass behaviour done document).fault? = none →
      ∀ tag ∈ (extractPass behaviour done document).attached, tag.isBad = false) :
    (checkpoints behaviour bindings document).filter Document.isMarred = [] := by
  -- A binding that fails may attach bad tags, but it has no checkpoint.
  cases ended : (extractPass behaviour bindings document).fault? with
  | none =>
    have all := fine bindings [] (List.append_nil _).symm ended
    exact filter_isMarred_of_clean behaviour bindings
      (isMarred_extractPass_of_clean behaviour clean all)
  | some fault =>
    obtain ⟨done, binding, rest, rfl, finished, failed⟩ :=
      exists_split_of_fault behaviour bindings document ended
    have before := fine done (binding :: rest) rfl finished
    have same := ((checkpoints_split behaviour binding rest finished).2 (by simp [failed])).1
    rw [same]
    exact filter_isMarred_of_clean behaviour done
      (isMarred_extractPass_of_clean behaviour clean before)

/-- A bad tag that is attached leaves its document marred. -/
theorem isMarred_extract_of_attached {binding : Binding F} {document : Document F} {tag : Tag F}
    (attached : tag ∈ (binding.extract behaviour document).attached) (bad : tag.isBad = true) :
    (binding.extract behaviour document).document.isMarred = true := by
  have grown := binding.grows_extract behaviour document
  have inside : tag ∈ (binding.extract behaviour document).document.tags.bad := by
    rw [grown.bad]
    exact List.mem_append_right _ (List.mem_filter.mpr ⟨attached, bad⟩)
  simpa [Document.isMarred] using List.ne_nil_of_mem inside

/-- A later binding finds the tags that were there when an earlier one was taken up, and behind them
those of its name that have come since, first from that binding and then from those in between. -/
theorem named_extractPass_later (done : List (Binding F)) (binding : Binding F)
    (middle : List (Binding F)) {document : Document F} (name : String)
    (finished : (extractPass behaviour (done ++ binding :: middle) document).fault? = none) :
    let before := (extractPass behaviour done document).document
    let own := binding.extract behaviour before
    let between := extractPass behaviour middle own.document
    (extractPass behaviour (done ++ binding :: middle) document).document.tags.named name =
      before.tags.named name ++ own.attached.filter (before.tags.finds name) ++
        between.attached.filter (before.tags.finds name) := by
  intro before own between
  rw [extractPass_append] at finished ⊢
  cases first : (extractPass behaviour done document).fault? with
  | some fault =>
    rw [Pass.andThen_of_fault _ first, first] at finished
    cases finished
  | none =>
    rw [Pass.andThen_of_none _ first] at finished ⊢
    cases second : own.fault? with
    | some fault =>
      rw [extractPass_cons_of_fault behaviour binding middle before second] at finished
      exact absurd (second.symm.trans finished) (by simp)
    | none =>
      have rest := extractPass_cons_of_none behaviour binding middle before second
      have grown : before.GrownBy (own.attached ++ between.attached) between.document :=
        (binding.grows_extract behaviour before).trans
          (grownBy_extractPass behaviour middle own.document)
      change (extractPass behaviour (binding :: middle) before).document.tags.named name = _
      rw [rest.1, grown.named, List.filter_append, List.append_assoc]

end Checkpoints

namespace Session

variable (behaviour : Behaviour F) (session : Session F) (thread : Thread)

/-- What an extraction hands to its sink is one report on every marred checkpoint, in order, and
nothing else changes the reporters or comes out of the sink. -/
theorem extractWith_delivers (bindings : List (Binding F)) (sink : Sink) {index : Nat}
    {document : Document F} (present : session.documents[index]? = some document) :
    let pass := extractPass behaviour bindings document
    let step := session.extractWith behaviour thread ⟨bindings, sink⟩ index
    let delivered := (session.putDocument index pass.document).deliverAll thread sink
      (((checkpoints behaviour bindings document).filter Document.isMarred).map
        fun after => ⟨index, after.badTagReport⟩)
    step.session = delivered.1 ∧ step.output.reports = delivered.2.reports ∧
      step.output.warnings = delivered.2.warnings := by
  intro pass step delivered
  have reports : pass.messages.map (Report.mk index) =
      ((checkpoints behaviour bindings document).filter Document.isMarred).map
        fun after => ⟨index, after.badTagReport⟩ := by
    rw [messages_extractPass, List.map_map]
    rfl
  have made : step = _ := session.extractWith_of_some thread behaviour ⟨bindings, sink⟩ present
  rw [made]
  dsimp only
  rw [reports]
  exact ⟨rfl, List.append_nil _, List.append_nil _⟩

/-- A function that keeps its value, and attaches a bad tag, a remark and an author. -/
def annotating : Behaviour Unit
  | (), _, _, value =>
    ⟨[.attach ⟨"see", .null, 7, none, none, ["unclear"]⟩,
        .attach ⟨"remark", .text "more", 8, none, none, []⟩,
        .attach ⟨"author", .text "B", 9, none, none, []⟩], .ok value⟩

/-- A title, remarks that pass through that function, and authors. -/
def annotations : List (Binding Unit) :=
  [⟨.plain "title", .identity, .identity⟩,
    ⟨(Definition.plain "remark").collecting, .single (), .identity⟩,
    ⟨(Definition.plain "author").collecting, .identity, .identity⟩]

/-- A document with a title, a remark and an author, and without bad tags. -/
def annotated : Document Unit :=
  ⟨none, none, .ofList .empty
    [⟨"title", .text "T", 1, none, none, []⟩, ⟨"remark", .text "R", 2, none, none, []⟩,
      ⟨"author", .text "A", 3, none, none, []⟩], .empty⟩

end Session

end TagBinding
