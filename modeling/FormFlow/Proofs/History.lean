import FormFlow.Proofs.Session

/-!
# Stored data and the history of calls

What is stored for a node of a document can be told from the calls that were accepted. The data of
the submission is that of the last save or submit which named the document and the node; what the
document keeps under the node is the data of the last such submit; and the submission has the id it
got from the first of those calls.
-/

namespace FormFlow

/-- Data that is handed in for a node of a document. -/
structure Handover where
  data : Fields Value
  /-- The id for the submission, if there is none yet. -/
  submission : SubmissionId
  /-- Is the data submitted, and not only saved? -/
  final : Bool

/-- What an operation hands in for a node of a document. -/
def Operation.handover? (id : InstanceId) (node : NodeId) : Operation → Option Handover
  | .save document place data submission _ =>
      if (id, node) = (document, place) then some ⟨data, submission, false⟩ else none
  | .submit request submission _ =>
      if (id, node) = (request.document, request.node) then some ⟨request.data, submission, true⟩
      else none
  | .start .. | .currentForm .. | .list _ | .shutdown | .define _ => none

namespace Event

variable (id : InstanceId) (node : NodeId) (event : Event)

/-- What was handed in for a node of a document and accepted. -/
def handover? : Option Handover :=
  match event.answer with
  | .ok _ => event.operation.handover? id node
  | .error _ => none

/-- The data that was saved or submitted. -/
def accepted? : Option (Fields Value) :=
  (event.handover? id node).map Handover.data

/-- The data that was submitted, as a value. -/
def submitted? : Option Value :=
  ((event.handover? id node).filter Handover.final).map fun handover => .object handover.data

/-- The id that came with the data. -/
def submissionId? : Option SubmissionId :=
  (event.handover? id node).map Handover.submission

variable {event} in
theorem handover?_eq_none (h : event.operation.handover? id node = none) :
    event.handover? id node = none := by
  unfold handover?
  split
  next => exact h
  next => rfl

end Event

/-- What a document keeps under a node, if the store has the document. -/
def Store.contextAt (store : Store) (id : InstanceId) (node : NodeId) : Option Value :=
  (store.instances.get? id).bind fun document => document.context.get? node.text

/-! ## What one operation stores -/

namespace Store

variable (store : Store)

theorem contextAt_replace (document : Instance) (id : InstanceId) (node : NodeId) :
    (store.replace document).contextAt id node =
      if id = document.id then document.context.get? node.text else store.contextAt id node := by
  rw [contextAt, replace, Table.get?_put_document]
  split <;> rfl

/-- What documents keep is the same when a document is replaced by one that keeps the same. -/
theorem contextAt_replace_same {old document : Instance}
    (hhold : store.instances.get? document.id = some old) (hsame : document.context = old.context)
    (id : InstanceId) (node : NodeId) :
    (store.replace document).contextAt id node = store.contextAt id node := by
  rw [contextAt_replace]
  split
  next h =>
    rw [contextAt, h, hhold, hsame]
    rfl
  next => rfl

end Store

/-- A document that leaves a step keeps the data under the node of the step. -/
theorem OpenStep.leave_context (step : OpenStep) (data : Fields Value) (now : Timestamp)
    (taken : Option Edge) :
    (step.leave data now taken).context =
      step.document.context.insert step.node.id.text (.object data) := by
  rcases step.leave_cases data now taken with h | ⟨node, h⟩ <;> rw [h] <;> rfl

namespace Session

/-- An operation and what it answers. -/
def event (session : Session) (operation : Operation) : Event :=
  ⟨operation, (session.perform operation).1⟩

/-- An operation hands nothing in, and changes none of the data that is stored. -/
structure Quiet (session : Session) (operation : Operation) : Prop where
  handover : ∀ id node, (session.event operation).handover? id node = none
  submissions : (session.perform operation).2.store.submissions = session.store.submissions
  contexts : ∀ id node,
    (session.perform operation).2.store.contextAt id node = session.store.contextAt id node

/-- An operation stores the data that it hands in, and keeps it in the document if it is final. -/
structure Stores (session : Session) (operation : Operation) (submission : Submission)
    (final : Bool) : Prop where
  handover : ∀ id node, (session.event operation).handover? id node =
    if (id, node) = (submission.document, submission.node) then
      some ⟨submission.data, submission.id, final⟩
    else none
  submissions : (session.perform operation).2.store.submissions =
    (session.store.upsert submission).submissions
  contexts : ∀ id node, (session.perform operation).2.store.contextAt id node =
    if (id, node) = (submission.document, submission.node) ∧ final = true then
      some (.object submission.data)
    else session.store.contextAt id node

variable {session : Session}

theorem quiet_start {process : ProcessId} {id : InstanceId} {now : Timestamp}
    (hfresh : session.store.instances.get? id = none) : session.Quiet (.start process id now) := by
  constructor
  · exact fun _ _ => Event.handover?_eq_none _ _ rfl
  · simp only [perform, call, runOn_start]
    split
    · rfl
    · split <;> rfl
  · intro document node
    simp only [perform, call, runOn_start]
    split
    · rfl
    · rename_i found _
      split
      · rfl
      · rename_i first _
        have hbegun := found.firstRecord_begun first id now (session.store.lastNumber + 1)
        refine (session.store.contextAt_replace _ document node).trans ?_
        rw [Process.firstRecord_id, hbegun.blank]
        split
        next h =>
          subst h
          rw [Store.contextAt, hfresh]
          rfl
        next => rfl

theorem quiet_currentForm (session : Session) (id : InstanceId) (roles : List RoleId)
    (now : Timestamp) : session.Quiet (.currentForm id roles now) := by
  constructor
  · exact fun _ _ => Event.handover?_eq_none _ _ rfl
  · simp only [perform, call, runOn_currentForm]
    split <;> rfl
  · intro document node
    simp only [perform, call, runOn_currentForm]
    split
    · rfl
    · rfl
    · rename_i step form h
      obtain ⟨hs, -⟩ := Store.holds_of_shownStep h
      have hid : (step.arrived now).document.id = step.document.id := step.document.arrivedAt_id ..
      have hstored : session.store.instances.get? (step.arrived now).document.id =
          some step.document := by
        rw [hid]
        exact hs.stored
      exact session.store.contextAt_replace_same hstored (step.document.arrivedAt_context ..) _ _

theorem stores_save {id : InstanceId} {node : NodeId} (data : Fields Value)
    (submission : SubmissionId) (now : Timestamp) {step : OpenStep}
    (h : session.store.openStep id node = .ok step) :
    session.Stores (.save id node data submission now)
      ⟨submission, step.document.id, step.node.id, step.form, data, now⟩ false := by
  obtain ⟨-, hid, hnode⟩ := Store.openStep_eq_ok_iff.mp h
  have hperform : session.perform (.save id node data submission now) =
      (.ok (), ⟨session.store.upsert
        ⟨submission, step.document.id, step.node.id, step.form, data, now⟩, session.sandbox⟩) := by
    simp only [perform, call, runOn_save, h]
  constructor
  · intro document place
    simp only [event, Event.handover?, hperform, Operation.handover?, hid, hnode]
  · rw [hperform]
  · intro document place
    rw [hperform]
    simp only [Bool.false_eq_true, and_false, if_false]
    rfl

theorem stores_submit {request : SubmitRequest} (submission : SubmissionId) (now : Timestamp)
    {step : OpenStep} {taken : Option Edge}
    (h : session.store.openStep request.document request.node = .ok step)
    (hchoice : step.choice session.sandbox (session.store.projectOf step.process) request now =
      .ok taken) :
    session.Stores (.submit request submission now)
      ⟨submission, step.document.id, step.node.id, step.form, request.data, now⟩ true := by
  obtain ⟨hs, hid, hnode⟩ := Store.openStep_eq_ok_iff.mp h
  let moved := step.leave request.data now taken
  have hmoved : moved.id = step.document.id := step.leave_id ..
  have hperform : session.perform (.submit request submission now) =
      (.ok (.of moved), ⟨(session.store.upsert
        ⟨submission, step.document.id, step.node.id, step.form, request.data, now⟩).replace moved,
        session.sandbox⟩) :=
    session.perform_submit h hchoice submission
  constructor
  · intro document place
    simp only [event, Event.handover?, hperform, Operation.handover?, hid, hnode]
  · rw [hperform]
    rfl
  · intro document place
    rw [hperform]
    simp only [and_true]
    refine (Store.contextAt_replace _ moved document place).trans ?_
    rw [hmoved, step.leave_context, Fields.get?_insert]
    by_cases hdocument : document = step.document.id
    · subst hdocument
      have hcontext : session.store.contextAt step.document.id place =
          step.document.context.get? place.text := by
        rw [Store.contextAt, hs.stored]
        rfl
      have hplace : place.text = step.node.id.text ↔ place = step.node.id :=
        ⟨fun h => congrArg NodeId.mk h, fun h => congrArg NodeId.text h⟩
      simp only [hcontext, hplace, if_true, Prod.mk.injEq, true_and]
    · simp only [hdocument, if_false, Prod.mk.injEq, false_and]
      rfl

/-- An operation that hands nothing in is quiet if it leaves submissions and documents alone. -/
theorem quiet_of_same {operation : Operation}
    (handover : ∀ id node, (session.event operation).handover? id node = none)
    (hsubmissions : (session.perform operation).2.store.submissions = session.store.submissions)
    (hinstances : (session.perform operation).2.store.instances = session.store.instances) :
    session.Quiet operation := by
  refine ⟨handover, hsubmissions, fun id node => ?_⟩
  rw [Store.contextAt, hinstances]
  rfl

theorem quiet_of_refused {operation : Operation} {fault : ServiceFault}
    (h : session.perform operation = (.error fault, session)) : session.Quiet operation := by
  refine quiet_of_same (fun id node => ?_) (by rw [h]) (by rw [h])
  simp only [event, Event.handover?, h]

/-- An operation stores what it hands in, or hands nothing in and leaves the stored data alone. -/
theorem quiet_or_stores (session : Session) {operation : Operation}
    (fresh : operation.Fresh session.store) :
    session.Quiet operation ∨ ∃ submission final, session.Stores operation submission final := by
  cases operation with
  | start process id now => exact .inl (quiet_start fresh)
  | currentForm id roles now => exact .inl (session.quiet_currentForm id roles now)
  | save id node data submission now =>
      cases h : session.store.openStep id node with
      | error fault =>
          have hperform : session.perform (.save id node data submission now) =
              (.error fault, session) := by
            simp only [perform, call, runOn_save, h]
          exact .inl (quiet_of_refused hperform)
      | ok step => exact .inr ⟨_, _, stores_save data submission now h⟩
  | submit request submission now =>
      cases h : session.store.openStep request.document request.node with
      | error fault =>
          have hperform : session.perform (.submit request submission now) =
              (.error fault, session) := by
            simp only [perform, call, runOn_submit, h]
          exact .inl (quiet_of_refused hperform)
      | ok step =>
          cases hchoice : step.choice session.sandbox (session.store.projectOf step.process)
              request now with
          | error fault =>
              have hperform : session.perform (.submit request submission now) =
                  (.error (.mismatch fault), session) := by
                simp only [perform, call, runOn_submit, h, hchoice, OpenStep.settle]
              exact .inl (quiet_of_refused hperform)
          | ok taken => exact .inr ⟨_, _, stores_submit submission now h hchoice⟩
  | list project =>
      refine .inl (quiet_of_same (fun _ _ => Event.handover?_eq_none _ _ rfl) ?_ ?_)
      · simp only [perform, call, runOn_listDocuments]
      · simp only [perform, call, runOn_listDocuments]
  | shutdown => exact .inl (quiet_of_same (fun _ _ => Event.handover?_eq_none _ _ rfl) rfl rfl)
  | define definition =>
      refine .inl (quiet_of_same (fun _ _ => Event.handover?_eq_none _ _ rfl) ?_
        (session.store.define_instances definition))
      cases definition <;> rfl

section Step

variable {operation : Operation} (fresh : operation.Fresh session.store) (id : InstanceId)
  (node : NodeId)

include fresh

/-- The data of a submission is what has just been accepted, or what it was. -/
theorem perform_data :
    ((session.perform operation).2.store.submission? id node).map Submission.data =
      ((session.event operation).accepted? id node).or
        ((session.store.submission? id node).map Submission.data) := by
  rcases session.quiet_or_stores fresh with quiet | ⟨submission, final, stores⟩
  · rw [Event.accepted?, quiet.handover, Store.submission?, quiet.submissions]
    rfl
  · have h := session.store.submission?_upsert_eq submission id node
    rw [Store.submission?, ← stores.submissions] at h
    rw [Event.accepted?, stores.handover, Store.submission?, h]
    split
    next => exact congrArg some (session.store.withKnownId_data submission)
    next => rfl

/-- A submission keeps its id, and a new one gets the id that came with its data. -/
theorem perform_submissionId :
    ((session.perform operation).2.store.submission? id node).map Submission.id =
      ((session.store.submission? id node).map Submission.id).or
        ((session.event operation).submissionId? id node) := by
  rcases session.quiet_or_stores fresh with quiet | ⟨submission, final, stores⟩
  · rw [Event.submissionId?, quiet.handover, Store.submission?, quiet.submissions]
    exact Option.or_none.symm
  · have h := session.store.submission?_upsert_eq submission id node
    rw [Store.submission?, ← stores.submissions] at h
    rw [Event.submissionId?, stores.handover, Store.submission?, h]
    split
    next hsame =>
      obtain ⟨rfl, rfl⟩ := Prod.mk.inj hsame
      rw [Option.map_some, session.store.withKnownId_id submission]
      cases (session.store.submission? submission.document submission.node) <;> rfl
    next => exact Option.or_none.symm

/-- What a document keeps under a node is what has just been submitted there, or what it was. -/
theorem perform_contextAt :
    (session.perform operation).2.store.contextAt id node =
      ((session.event operation).submitted? id node).or (session.store.contextAt id node) := by
  rcases session.quiet_or_stores fresh with quiet | ⟨submission, final, stores⟩
  · rw [Event.submitted?, quiet.handover, quiet.contexts]
    rfl
  · rw [Event.submitted?, stores.handover, stores.contexts]
    by_cases hsame : (id, node) = (submission.document, submission.node)
    · cases final <;> simp [hsame, Option.filter]
    · simp [hsame]

/-- There is at most one submission for each node of each document. -/
theorem perform_distinct (distinct : session.store.submissions.Distinct) :
    (session.perform operation).2.store.submissions.Distinct := by
  rcases session.quiet_or_stores fresh with quiet | ⟨submission, final, stores⟩
  · rw [quiet.submissions]
    exact distinct
  · rw [stores.submissions]
    exact distinct.put _

end Step

end Session

/-! ## What a run stores -/

namespace Runs

variable {first last : Session} {events : List Event} {α : Type} (view : Session → Option α)
  (mark : Event → Option α)

/-- What every operation with a mark replaces is in the end what the last mark says. -/
theorem latest (run : Runs first events last)
    (hstep : ∀ (session : Session) (operation : Operation), operation.Fresh session.store →
      view (session.perform operation).2 =
        (mark (session.event operation)).or (view session)) :
    view last = (events.reverse.findSome? mark).or (view first) := by
  induction run with
  | nil => rfl
  | @cons session _ operation _ fresh _ ih =>
      have hlast : [session.event operation].findSome? mark = mark (session.event operation) :=
        List.findSome?_singleton
      rw [ih, hstep _ _ fresh, List.reverse_cons, List.findSome?_append, Option.or_assoc]
      exact congrArg (fun found => Option.or _ (Option.or found _)) hlast.symm

/-- What only the first operation with a mark sets is in the end what the first mark says. -/
theorem earliest (run : Runs first events last)
    (hstep : ∀ (session : Session) (operation : Operation), operation.Fresh session.store →
      view (session.perform operation).2 =
        (view session).or (mark (session.event operation))) :
    view last = (view first).or (events.findSome? mark) := by
  induction run with
  | nil => exact Option.or_none.symm
  | @cons session _ operation rest fresh _ ih =>
      have hfirst : (session.event operation :: rest).findSome? mark =
          (mark (session.event operation)).or (rest.findSome? mark) := by
        rw [List.findSome?_cons]
        cases mark (session.event operation) <;> rfl
      rw [ih, hstep _ _ fresh, Option.or_assoc, ← hfirst]
      rfl

end Runs

/-- Whatever is called in whatever order, definitions being inserted and replaced at any point: the
data of the submission for a node of a document is that of the last save or submit which named them
and succeeded; what the document keeps under the node is the data of the last such submit; the
submission has the id that came with the first such call, and is the only one for the document and
the node. Where no call succeeded there is what the store began with, which is nothing if it began
without documents and submissions. -/
theorem stored_data_is_last_accepted {first last : Session} {events : List Event}
    (run : Runs first events last) (id : InstanceId) (node : NodeId) :
    last.call (Service.submissionData id node) =
      (.ok ((events.reverse.findSome? (Event.accepted? id node)).or
        ((first.store.submission? id node).map Submission.data)), last) ∧
    last.store.contextAt id node =
      (events.reverse.findSome? (Event.submitted? id node)).or (first.store.contextAt id node) ∧
    (last.store.submission? id node).map Submission.id =
      ((first.store.submission? id node).map Submission.id).or
        (events.findSome? (Event.submissionId? id node)) ∧
    (first.store.submissions.Distinct → last.store.submissions.Distinct) := by
  refine ⟨?_, ?_, ?_, ?_⟩
  · have hdata := run.latest
      (fun session => (session.store.submission? id node).map Submission.data)
      (Event.accepted? id node) fun session _ fresh => session.perform_data fresh id node
    rw [← hdata]
    rfl
  · exact run.latest (fun session => session.store.contextAt id node) (Event.submitted? id node)
      fun session _ fresh => session.perform_contextAt fresh id node
  · exact run.earliest (fun session => (session.store.submission? id node).map Submission.id)
      (Event.submissionId? id node) fun session _ fresh =>
        session.perform_submissionId fresh id node
  · exact run.invariant fun session _ fresh distinct => session.perform_distinct fresh distinct

/-- The last accepted data for the request of an approved purchase has the size, and the first came
with the id that the submission has. -/
theorem stored_data_is_last_accepted_approved :
    ∃ events, Runs Purchase.session events Purchase.approved ∧
      (events.reverse.findSome? (Event.accepted? Purchase.document Purchase.request.id)).map
        Fields.keys = some ["size"] ∧
      events.findSome? (Event.submissionId? Purchase.document Purchase.request.id) =
        some ⟨⟨51⟩⟩ ∧
      Purchase.approved.store.submissions.Distinct := by
  obtain ⟨events, run⟩ := Purchase.approved_runs
  obtain ⟨hdata, -, hid, hdistinct⟩ :=
    stored_data_is_last_accepted run Purchase.document Purchase.request.id
  have hbegin : Purchase.session.store.submission? Purchase.document Purchase.request.id = none :=
    rfl
  have hstored : ((Purchase.approved.store.submission? Purchase.document
      Purchase.request.id).map Submission.data).map Fields.keys = some ["size"] := by
    decide +kernel
  have hknown : (Purchase.approved.store.submission? Purchase.document Purchase.request.id).map
      Submission.id = some ⟨⟨51⟩⟩ := by
    decide +kernel
  rw [hbegin, Option.map_none] at hdata hid
  rw [Option.or_none] at hdata
  have hlast := Except.ok.inj (Prod.mk.inj hdata).1
  refine ⟨events, run, ?_, hid.symm.trans hknown, hdistinct List.nodup_nil⟩
  rw [← hlast]
  exact hstored

end FormFlow
