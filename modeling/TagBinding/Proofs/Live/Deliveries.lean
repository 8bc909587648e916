import TagBinding.Proofs.Live.Reports

/-!
# Deliveries of reports

Sinks of a session look at the messages that they are handed and do nothing else, so the extraction
of a document is the pass over it, followed by the delivery of its reports in order
(`Session.extractWith_of_some`).

Of a reporter a thread sees only its own memory (`Reporter.view`). What a thread sees of the
reporters decides what is put out for its reports and what it sees of them afterwards
(`deliverEach_of_views`), and it sees nothing of the deliveries of other threads
(`views_deliverEach_of_ne`).
-/
namespace TagBinding

namespace Reporter

/-- What one thread sees of a reporter. -/
structure View where
  /-- The logger that writes the warnings. -/
  logger : String
  /-- Whether repetitions are dropped. -/
  dedupe : Bool
  /-- The last report received on the thread. -/
  last : Option Report

/-- What a thread sees of a reporter: the memory of other threads is hidden. -/
def view (thread : Thread) (reporter : Reporter) : View :=
  ⟨reporter.logger, reporter.dedupe, reporter.last thread⟩

variable {one other : Reporter} {here there : Thread}

/-- What a thread sees decides which warning it causes. -/
theorem warning?_of_view (same : one.view here = other.view here) (report : Report) :
    one.warning? here report = other.warning? here report := by
  obtain ⟨logger, dedupe, last⟩ := View.mk.inj same
  rw [warning?, warning?, drops, drops, logger, dedupe, last]

/-- What a thread sees after setting its memory is decided by what it saw. -/
theorem view_remember (same : one.view here = other.view here) (report : Option Report) :
    (one.remember here report).view here = (other.remember here report).view here := by
  obtain ⟨logger, dedupe, -⟩ := View.mk.inj same
  simp only [view, remember, logger, dedupe, if_true]

/-- A thread does not see what another one remembers. -/
theorem view_remember_of_ne (reporter : Reporter) (apart : here ≠ there) (report : Option Report) :
    (reporter.remember there report).view here = reporter.view here := by
  simp only [view, remember, if_neg apart]

/-- What a thread sees after a report of its own is decided by what it saw. -/
theorem view_receive (same : one.view here = other.view here) (report : Report) :
    (one.receive here report).view here = (other.receive here report).view here := by
  obtain ⟨-, dedupe, -⟩ := View.mk.inj same
  rw [receive, receive, dedupe]
  split
  · exact view_remember same _
  · exact same

/-- A thread does not see the reports of another one. -/
theorem view_receive_of_ne (reporter : Reporter) (apart : here ≠ there) (report : Report) :
    (reporter.receive there report).view here = reporter.view here := by
  rw [receive]
  split
  · exact reporter.view_remember_of_ne apart _
  · rfl

end Reporter

namespace Live

variable {F M S : Type}

/-- What a thread sees of reporters. -/
def views (thread : Thread) (reporters : List Reporter) : List Reporter.View :=
  reporters.map (Reporter.view thread)

/-- Hand messages on a document to a sink in order. -/
def deliverEach (reporters : List Reporter) (thread : Thread) (sink : Sink) (index : Nat)
    (messages : List String) : List Reporter × Output :=
  messages.foldl (deliverNext thread sink index) (reporters, .empty)

section Views

variable {one other : List Reporter} {here there : Thread}

/-- In the same place a thread sees the same. -/
theorem view_of_views (same : views here one = views here other) (index : Nat) :
    one[index]?.map (Reporter.view here) = other[index]?.map (Reporter.view here) := by
  rw [← List.getElem?_map, ← List.getElem?_map]
  exact congrArg (·[index]?) same

/-- Where a thread sees the same reporters, there is one in a place of the first list exactly if
there is one in the second, and it sees the same of it. -/
theorem views_cases (same : views here one = views here other) (index : Nat) :
    (one[index]? = none ∧ other[index]? = none) ∨
      ∃ former latter, one[index]? = some former ∧ other[index]? = some latter ∧
        former.view here = latter.view here := by
  have seen := view_of_views same index
  cases present : other[index]? with
  | none =>
    rw [present] at seen
    exact .inl ⟨Option.map_eq_none_iff.mp seen, rfl⟩
  | some latter =>
    rw [present] at seen
    obtain ⟨former, found, equal⟩ := Option.map_eq_some_iff.mp seen
    exact .inr ⟨former, latter, found, rfl, equal⟩

/-- Reporters of which a thread sees the same may be put in the same place. -/
theorem views_set (same : views here one = views here other) (index : Nat)
    {former latter : Reporter} (alike : former.view here = latter.view here) :
    views here (one.set index former) = views here (other.set index latter) := by
  simp only [views, List.map_set] at same ⊢
  rw [same, alike]

/-- A reporter may be put in the place of another one of which a thread sees the same. -/
theorem views_set_of_view {reporters : List Reporter} {index : Nat} {former latter : Reporter}
    (present : reporters[index]? = some former) (alike : latter.view here = former.view here) :
    views here (reporters.set index latter) = views here reporters := by
  obtain ⟨inside, held⟩ := List.getElem?_eq_some_iff.mp present
  rw [views, views, List.map_set, alike, ← List.map_set, ← held, List.set_getElem_self]

/-- What a thread sees of the reporters decides what is put out for a report of it, and what it sees
of them afterwards. -/
theorem deliver_of_views (same : views here one = views here other) (sink : Sink)
    (report : Report) :
    (deliver one here sink report).2 = (deliver other here sink report).2 ∧
      views here (deliver one here sink report).1 =
        views here (deliver other here sink report).1 := by
  cases sink with
  | record => exact ⟨rfl, same⟩
  | reporter index =>
    rcases views_cases same index with ⟨absent, alsoAbsent⟩ | found
    · simp only [deliver, absent, alsoAbsent]
      exact ⟨trivial, same⟩
    · obtain ⟨former, latter, present, alsoPresent, alike⟩ := found
      simp only [deliver, present, alsoPresent, Reporter.warning?_of_view alike]
      exact ⟨trivial, views_set same index (Reporter.view_receive alike report)⟩

/-- A thread does not see what another one delivers. -/
theorem views_deliver_of_ne (reporters : List Reporter) (apart : here ≠ there) (sink : Sink)
    (report : Report) :
    views here (deliver reporters there sink report).1 = views here reporters := by
  cases sink with
  | record => rfl
  | reporter index =>
    cases present : reporters[index]? with
    | none => simp only [deliver, present]
    | some reporter =>
      simp only [deliver, present]
      exact views_set_of_view present (reporter.view_receive_of_ne apart report)

/-- What a thread sees of the reporters decides what is put out for its reports, and what it sees of
them afterwards. -/
theorem deliverEach_of_views (same : views here one = views here other) (sink : Sink)
    (index : Nat) (messages : List String) :
    (deliverEach one here sink index messages).2 = (deliverEach other here sink index messages).2 ∧
      views here (deliverEach one here sink index messages).1 =
        views here (deliverEach other here sink index messages).1 := by
  have run : ∀ (messages : List String) (left right : List Reporter × Output),
      left.2 = right.2 → views here left.1 = views here right.1 →
      (messages.foldl (deliverNext here sink index) left).2 =
          (messages.foldl (deliverNext here sink index) right).2 ∧
        views here (messages.foldl (deliverNext here sink index) left).1 =
          views here (messages.foldl (deliverNext here sink index) right).1 := by
    intro messages
    induction messages with
    | nil => exact fun left right output seen => ⟨output, seen⟩
    | cons message rest ih =>
      intro left right output seen
      obtain ⟨out, after⟩ := deliver_of_views seen sink ⟨index, message⟩
      refine ih _ _ ?_ after
      rw [deliverNext, deliverNext, output, out]
  exact run messages _ _ rfl same

/-- A thread sees nothing of the deliveries of another one. -/
theorem views_deliverEach_of_ne (reporters : List Reporter) (apart : here ≠ there) (sink : Sink)
    (index : Nat) (messages : List String) :
    views here (deliverEach reporters there sink index messages).1 = views here reporters := by
  have run : ∀ (messages : List String) (kept : List Reporter × Output),
      views here (messages.foldl (deliverNext there sink index) kept).1 = views here kept.1 := by
    intro messages
    induction messages with
    | nil => exact fun _ => rfl
    | cons message rest ih =>
      exact fun kept => (ih _).trans (views_deliver_of_ne kept.1 apart sink ⟨index, message⟩)
  exact run messages _

end Views

/-- A sink that records keeps every message as a report, and nothing else happens. -/
theorem deliverEach_record (reporters : List Reporter) (thread : Thread) (index : Nat)
    (messages : List String) :
    deliverEach reporters thread .record index messages =
      (reporters, ⟨messages.map (Report.mk index), [], []⟩) := by
  have run : ∀ (messages : List String) (reports : List Report),
      messages.foldl (deliverNext thread .record index) (reporters, ⟨reports, [], []⟩) =
        (reporters, ⟨reports ++ messages.map (Report.mk index), [], []⟩) := by
    intro messages
    induction messages with
    | nil => exact fun reports => by rw [List.map_nil, List.append_nil]; rfl
    | cons message rest ih =>
      intro reports
      rw [List.map_cons, List.append_cons]
      exact ih (reports ++ [⟨index, message⟩])
  exact run messages []

/-- A receiver that looks at messages only keeps what it makes of the messages of the pass. -/
theorem kept_attend_ofMessages (behaviour : Behaviour F M) (take : S → String → S)
    (bindings : List (Binding F)) (kept : S) (scene : Scene F M) :
    (attend behaviour (Receiver.ofMessages take) bindings kept scene).kept =
      (extractPass behaviour bindings scene).messages.foldl take kept := by
  rw [attend_eq_foldl behaviour (Receiver.quiet_ofMessages take), messages_extractPass,
    List.foldl_map]
  rfl

namespace Session

variable (session : Session F M) (thread : Thread) (behaviour : Behaviour F M)
  (extractor : Extractor F) {index : Nat}

/-- An extraction of a document that is not there comes to nothing. -/
theorem extractWith_of_none (absent : session.documents[index]? = none) :
    session.extractWith behaviour thread extractor index =
      ⟨session, .empty, .error (.absentPart .documents)⟩ := by
  simp only [extractWith, absent]

/-- An extraction of a document is the pass over it, with the delivery of its reports. -/
theorem extractWith_of_some {document : Document F}
    (present : session.documents[index]? = some document) :
    let pass := extractPass behaviour extractor.bindings (session.sceneOf document)
    let delivered := deliverEach session.reporters thread extractor.sink index pass.messages
    session.extractWith behaviour thread extractor index =
      ⟨{ session.putScene index pass.scene with reporters := delivered.1 },
        delivered.2 ++ .ofDebug pass.debugLines,
        match pass.fault? with
        | none => .ok ()
        | some fault => .error fault⟩ := by
  intro pass delivered
  have own : receiverOf thread extractor.sink index =
      (.ofMessages (deliverNext thread extractor.sink index) :
        Receiver F M (List Reporter × Output)) := rfl
  have kept := kept_attend_ofMessages behaviour (deliverNext thread extractor.sink index)
    extractor.bindings (session.reporters, .empty) (session.sceneOf document)
  have same := attend_of_quiet behaviour
    (Receiver.quiet_ofMessages (deliverNext thread extractor.sink index)) extractor.bindings
    (session.reporters, .empty) (session.sceneOf document)
  simp only [extractWith, present, own, kept, same]
  rfl

/-- An extraction leaves the scene of its pass in the place of the document, and succeeds when the
pass comes to its end. -/
theorem extractWith_leaves {document : Document F}
    (present : session.documents[index]? = some document) :
    let step := session.extractWith behaviour thread extractor index
    let pass := extractPass behaviour extractor.bindings (session.sceneOf document)
    step.session.documents[index]? = some pass.scene.document ∧
      step.session.sceneOf pass.scene.document = pass.scene ∧
      (step.answer = .ok () ↔ pass.fault? = none) := by
  intro step pass
  have inside : index < session.documents.length := (List.getElem?_eq_some_iff.mp present).1
  simp only [step, session.extractWith_of_some thread behaviour extractor present]
  refine ⟨List.getElem?_set_self inside, rfl, ?_⟩
  generalize pass.fault? = ended
  cases ended <;> simp

/-- Where reports are recorded, an extraction puts out the reports of its pass. -/
theorem reports_extractWith_record (bindings : List (Binding F)) {document : Document F}
    (present : session.documents[index]? = some document) :
    (session.extractWith behaviour thread ⟨bindings, .record⟩ index).output.reports =
      (extractPass behaviour bindings (session.sceneOf document)).messages.map
        (Report.mk index) := by
  rw [session.extractWith_of_some thread behaviour ⟨bindings, .record⟩ present]
  simp only [deliverEach_record]
  exact List.append_nil _

end Session

end Live

end TagBinding
