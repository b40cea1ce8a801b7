import FormFlow.Proofs.Session

/-!
# Fetching the form

A call for the form moves the document to the node of its step. From there the walk comes to the
same step, so the next call writes nothing, and whatever is asked of the document later is answered
as if the form had not been fetched. A submit writes the document anew, and then nothing is left of
where the document stood before.
-/

namespace FormFlow

/-! ## Answers without the time -/

/-- A document without the moment at which it was written last. -/
def Instance.undated (document : Instance) : Instance :=
  { document with updatedAt := document.createdAt }

def CurrentForm.undated (form : CurrentForm) : CurrentForm :=
  { form with document := form.document.undated }

/-- An answer without the moment at which the document in it was written last. -/
def Operation.undated :
    (operation : Operation) → Except ServiceFault operation.Result →
      Except ServiceFault operation.Result
  | .start _ _ _, answer => answer.map Instance.undated
  | .currentForm _ _ _, answer => answer.map (Option.map CurrentForm.undated)
  | _, answer => answer

/-! ## Documents on the way to their step -/

/-- A document standing at another place, where it was put at some moment. -/
def Instance.standing (document : Instance) (place : NodeId) (moment : Timestamp) : Instance :=
  { document with current := some place, updatedAt := moment }

/-- An active document that arrives at a node stands there. -/
theorem Instance.arrivedAt_standing {document : Instance} (hactive : document.isActive = true)
    (node : NodeId) (now : Timestamp) :
    ∃ moment, document.arrivedAt node now = document.standing node moment := by
  have hstatus : document.status = .active := of_decide_eq_true hactive
  rcases document.arrivedAt_cases node now with ⟨hthere, hsame⟩ | hmoved
  · refine ⟨document.updatedAt, ?_⟩
    rw [hsame, standing, ← hthere]
  · refine ⟨now, ?_⟩
    rw [hmoved, moveTo, standing, ← hstatus]

theorem Store.replace_replace (store : Store) {first second : Instance}
    (hsame : first.id = second.id) :
    (store.replace first).replace second = store.replace second := by
  simp only [replace]
  rw [Table.put_put _ hsame]

namespace OpenStep

/-- The step with the document standing at another place. -/
def standing (step : OpenStep) (place : NodeId) (moment : Timestamp) : OpenStep :=
  { step with document := step.document.standing place moment }

variable {step : OpenStep} {store : Store} {place : NodeId}

/-- A document is at its step wherever it stands on the way to it. -/
theorem Holds.standing (holds : step.Holds store)
    (hleads : step.process.resolveForward place = .form step.node) (moment : Timestamp) :
    (step.standing place moment).Holds
      (store.replace (step.standing place moment).document) := by
  constructor
  · exact Table.get?_put_self store.instances _
  · exact holds.known
  · exact holds.active
  · exact ⟨place, rfl, hleads⟩
  · exact holds.bound

/-- A document that has arrived stands at the node of its step. -/
theorem Holds.arrived_standing (holds : step.Holds store) (now : Timestamp) :
    ∃ moment, step.arrived now = step.standing step.node.id moment := by
  obtain ⟨moment, h⟩ := Instance.arrivedAt_standing holds.active step.node.id now
  exact ⟨moment, congrArg (fun document => { step with document }) h⟩

/-- Of where a document stands the form of its step shows only the document itself. -/
theorem shown_standing {step : OpenStep} {store other : Store}
    (hprojects : store.projects = other.projects) (hcatalogs : store.catalogs = other.catalogs)
    (hsubmissions : store.submissions = other.submissions) (place : NodeId) (moment : Timestamp)
    (sandbox : Sandbox) (form : Form) (roles : List RoleId) (now : Timestamp) :
    store.shown sandbox (step.standing place moment) form roles now =
      { other.shown sandbox step form roles now with
        document := step.document.standing place moment } := by
  have hsubmission : store.submission? step.document.id step.node.id =
      other.submission? step.document.id step.node.id :=
    congrArg (fun submissions => submissions.get? (step.document.id, step.node.id)) hsubmissions
  exact Store.shown_congr (step.standing place moment) step hprojects hcatalogs rfl rfl hsubmission
    rfl
    sandbox form roles now now

theorem leave_standing (step : OpenStep) (place : NodeId) (moment : Timestamp)
    (data : Fields Value) (now : Timestamp) (taken : Option Edge) :
    (step.standing place moment).leave data now taken = step.leave data now taken := by
  cases taken <;> rfl

theorem choice_standing (step : OpenStep) (place : NodeId) (moment : Timestamp)
    (sandbox : Sandbox) (project : Option Project) (request : SubmitRequest) (now : Timestamp) :
    (step.standing place moment).choice sandbox project request now =
      step.choice sandbox project request now := rfl

/-- Whatever a submit that succeeds takes, it writes the document anew. -/
theorem settle_standing (step : OpenStep) (store : Store) (place : NodeId) (moment : Timestamp)
    (request : SubmitRequest) (submission : SubmissionId) (now : Timestamp)
    (taken : Option Edge) :
    (step.standing place moment).settle (store.replace (step.standing place moment).document)
        request submission now (.ok taken) =
      step.settle store request submission now (.ok taken) := by
  have hmoved := step.leave_standing place moment request.data now taken
  have hid : (step.standing place moment).document.id = (step.leave request.data now taken).id :=
    (step.leave_id request.data now taken).symm
  simp only [settle, hmoved]
  apply Prod.ext
  · rfl
  · exact Store.replace_replace (store.upsert _) hid

end OpenStep

/-! ## Calls for a document at its step -/

namespace OpenStep.Holds

variable {session : Session} {step : OpenStep}

theorem perform_currentForm_missing (holds : step.Holds session.store)
    (hmissing : session.store.forms.get? step.form = none) (roles : List RoleId)
    (now : Timestamp) :
    session.perform (.currentForm step.document.id roles now) =
      (.error (.definition (.formNotFound step.form)), session) := by
  simp only [Session.perform, Session.call, holds.runOn_currentForm, hmissing]

theorem perform_currentForm (holds : step.Holds session.store) {form : Form}
    (hfound : session.store.forms.get? step.form = some form) (roles : List RoleId)
    (now : Timestamp) :
    session.perform (.currentForm step.document.id roles now) =
      (.ok (some (session.store.shown session.sandbox (step.arrived now) form roles now)),
        ⟨session.store.replace (step.arrived now).document, session.sandbox⟩) := by
  simp only [Session.perform, Session.call, holds.runOn_currentForm, hfound]

/-- The form that has been fetched is shown again as it is, with nothing to move. -/
theorem perform_currentForm_again (holds : step.Holds session.store) {form : Form}
    (hfound : session.store.forms.get? step.form = some form) (roles : List RoleId)
    (now later : Timestamp) :
    let fetch := session.perform (.currentForm step.document.id roles now)
    fetch.2.perform (.currentForm step.document.id roles later) = fetch := by
  intro fetch
  have hfetch : fetch = (_, _) := holds.perform_currentForm hfound roles now
  let fetched : Session := ⟨session.store.replace (step.arrived now).document, session.sandbox⟩
  have hthere : (step.arrived now).Holds fetched.store := holds.arrived now
  have hagain :
      fetched.perform (.currentForm (step.arrived now).document.id roles later) = (_, _) :=
    hthere.perform_currentForm hfound roles later
  have hid : (step.arrived now).document.id = step.document.id := step.document.arrivedAt_id ..
  have harrived : (step.arrived now).arrived later = step.arrived now := by
    have hcurrent := step.document.arrivedAt_current step.node.id now
    exact congrArg (fun document => { step with document }) (if_pos hcurrent)
  have hshown : fetched.store.shown session.sandbox (step.arrived now) form roles later =
      session.store.shown session.sandbox (step.arrived now) form roles now :=
    Store.shown_congr (step.arrived now) (step.arrived now) rfl rfl rfl rfl rfl rfl session.sandbox
      form roles later now
  rw [hid, harrived, hshown] at hagain
  rw [hfetch]
  refine hagain.trans ?_
  rw [Store.replace_replace _ rfl]

theorem perform_save (holds : step.Holds session.store) (data : Fields Value)
    (submission : SubmissionId) (now : Timestamp) :
    session.perform (.save step.document.id step.node.id data submission now) =
      (.ok (), ⟨session.store.upsert
        ⟨submission, step.document.id, step.node.id, step.form, data, now⟩, session.sandbox⟩) := by
  simp only [Session.perform, Session.call, runOn_save, holds.openStep_eq, if_true]

/-- A save of any other node is refused. -/
theorem perform_save_elsewhere (holds : step.Holds session.store) {node : NodeId}
    (helsewhere : ¬ step.node.id = node) (data : Fields Value) (submission : SubmissionId)
    (now : Timestamp) :
    session.perform (.save step.document.id node data submission now) =
      (.error (.mismatch (.nodeMismatch node (some step.node.id))), session) := by
  simp only [Session.perform, Session.call, runOn_save, holds.openStep_eq, if_neg helsewhere]

theorem perform_submit (holds : step.Holds session.store) {request : SubmitRequest}
    (hown : request.document = step.document.id) (hthere : step.node.id = request.node)
    (submission : SubmissionId) (now : Timestamp) :
    let settled := step.settle session.store request submission now
      (step.choice session.sandbox (session.store.projectOf step.process) request now)
    session.perform (.submit request submission now) =
      (settled.1, ⟨settled.2, session.sandbox⟩) := by
  simp only [Session.perform, Session.call, FormFlow.runOn_submit, hown, holds.openStep_eq,
    if_pos hthere]

/-- A submit of any other node is refused. -/
theorem perform_submit_elsewhere (holds : step.Holds session.store) {request : SubmitRequest}
    (hown : request.document = step.document.id) (helsewhere : ¬ step.node.id = request.node)
    (submission : SubmissionId) (now : Timestamp) :
    session.perform (.submit request submission now) =
      (.error (.mismatch (.nodeMismatch request.node (some step.node.id))), session) := by
  simp only [Session.perform, Session.call, FormFlow.runOn_submit, hown, holds.openStep_eq,
    if_neg helsewhere]

end OpenStep.Holds

/-! ## Sessions that differ in where a document stands -/

/-- Two sessions that differ at most in where a document stands on the way to its step, and in when
it was put there. -/
inductive Session.SameStep (id : InstanceId) : Session → Session → Prop
  | same (session : Session) : SameStep id session session
  | standing {session : Session} (step : OpenStep) (place : NodeId) (moment : Timestamp)
      (holds : step.Holds session.store) (hown : step.document.id = id)
      (hleads : step.process.resolveForward place = .form step.node) :
      SameStep id session
        ⟨session.store.replace (step.standing place moment).document, session.sandbox⟩

namespace Session.SameStep

variable {id : InstanceId} {first second : Session}

/-- The form is shown alike, and then the document is at the node of its step in both sessions. -/
theorem perform_currentForm (h : SameStep id first second) (roles : List RoleId)
    (now : Timestamp) :
    let operation : Operation := .currentForm id roles now
    operation.undated (second.perform operation).1 =
        operation.undated (first.perform operation).1 ∧
      SameStep id (first.perform operation).2 (second.perform operation).2 := by
  intro operation
  cases h with
  | same => exact ⟨rfl, .same _⟩
  | standing step place moment holds hown hleads =>
      subst hown
      let other : Session :=
        ⟨first.store.replace (step.standing place moment).document, first.sandbox⟩
      have hthere : (step.standing place moment).Holds other.store := holds.standing hleads moment
      cases hform : first.store.forms.get? step.form with
      | none =>
          have hfirst := holds.perform_currentForm_missing hform roles now
          have hsecond : other.perform operation = (_, other) :=
            hthere.perform_currentForm_missing hform roles now
          rw [hfirst, hsecond]
          exact ⟨rfl, .standing step place moment holds rfl hleads⟩
      | some form =>
          obtain ⟨came, hcame⟩ := holds.arrived_standing now
          obtain ⟨went, hwent⟩ := hthere.arrived_standing now
          -- the document comes to the node in both sessions, perhaps at different moments
          let near := step.standing step.node.id came
          let far := step.standing step.node.id went
          have hnear : first.store.shown first.sandbox near form roles now =
              { first.store.shown first.sandbox step form roles now with
                document := near.document } :=
            OpenStep.shown_standing rfl rfl rfl _ came first.sandbox form roles now
          have hfar : other.store.shown first.sandbox far form roles now =
              { first.store.shown first.sandbox step form roles now with
                document := far.document } :=
            OpenStep.shown_standing rfl rfl rfl _ went first.sandbox form roles now
          have hfirst : first.perform operation =
              (.ok (some (first.store.shown first.sandbox near form roles now)),
                ⟨first.store.replace near.document, first.sandbox⟩) := by
            rw [← show step.arrived now = near from hcame]
            exact holds.perform_currentForm hform roles now
          have hsecond : other.perform operation =
              (.ok (some (other.store.shown first.sandbox far form roles now)),
                ⟨other.store.replace far.document, first.sandbox⟩) := by
            rw [← show (step.standing place moment).arrived now = far from hwent]
            exact hthere.perform_currentForm hform roles now
          have hreplace : other.store.replace far.document =
              (first.store.replace near.document).replace far.document := by
            rw [Store.replace_replace first.store, Store.replace_replace first.store]
            · rfl
            · rfl
          rw [hfirst, hsecond, hnear, hfar, hreplace]
          have harrived : near.Holds (first.store.replace near.document) :=
            holds.standing (Process.resolveForward_fixed hleads) came
          exact ⟨rfl, .standing near _ went harrived rfl (Process.resolveForward_fixed hleads)⟩

/-- A save is answered alike, and stores the same. -/
theorem perform_save (h : SameStep id first second) (node : NodeId) (data : Fields Value)
    (submission : SubmissionId) (now : Timestamp) :
    let operation : Operation := .save id node data submission now
    (second.perform operation).1 = (first.perform operation).1 ∧
      SameStep id (first.perform operation).2 (second.perform operation).2 := by
  intro operation
  cases h with
  | same => exact ⟨rfl, .same _⟩
  | standing step place moment holds hown hleads =>
      subst hown
      let other : Session :=
        ⟨first.store.replace (step.standing place moment).document, first.sandbox⟩
      have hthere : (step.standing place moment).Holds other.store := holds.standing hleads moment
      by_cases hnode : step.node.id = node
      · subst hnode
        have hfirst := holds.perform_save data submission now
        have hsecond : other.perform operation = (_, _) := hthere.perform_save data submission now
        rw [hfirst, hsecond]
        exact ⟨rfl, .standing step place moment (holds.upsert _) rfl hleads⟩
      · have hfirst := holds.perform_save_elsewhere hnode data submission now
        have hsecond : other.perform operation = (_, other) :=
          hthere.perform_save_elsewhere hnode data submission now
        rw [hfirst, hsecond]
        exact ⟨rfl, .standing step place moment holds rfl hleads⟩

/-- A submit is answered alike, and one that succeeds leaves nothing of the difference. -/
theorem perform_submit (h : SameStep id first second) {request : SubmitRequest}
    (hown : request.document = id) (submission : SubmissionId) (now : Timestamp) :
    let operation : Operation := .submit request submission now
    (second.perform operation).1 = (first.perform operation).1 ∧
      ((∃ fault, (first.perform operation).1 = .error fault) ∧
          SameStep id (first.perform operation).2 (second.perform operation).2 ∨
        (second.perform operation).2 = (first.perform operation).2) := by
  intro operation
  cases h with
  | same => exact ⟨rfl, .inr rfl⟩
  | standing step place moment holds hsame hleads =>
      subst hsame
      let other : Session :=
        ⟨first.store.replace (step.standing place moment).document, first.sandbox⟩
      have hthere : (step.standing place moment).Holds other.store := holds.standing hleads moment
      by_cases hnode : step.node.id = request.node
      · have hfirst := holds.perform_submit hown hnode submission now
        have hsecond : other.perform operation = (_, _) :=
          hthere.perform_submit hown hnode submission now
        have hchosen : (step.standing place moment).choice other.sandbox
            (other.store.projectOf (step.standing place moment).process) request now = _ :=
          step.choice_standing place moment first.sandbox (first.store.projectOf step.process)
            request now
        rw [hfirst, hsecond, hchosen]
        cases step.choice first.sandbox (first.store.projectOf step.process) request now with
        | error fault =>
            exact ⟨rfl, .inl ⟨⟨_, rfl⟩, .standing step place moment holds rfl hleads⟩⟩
        | ok taken =>
            rw [step.settle_standing]
            exact ⟨rfl, .inr rfl⟩
      · have hfirst := holds.perform_submit_elsewhere hown hnode submission now
        have hsecond : other.perform operation = (_, other) :=
          hthere.perform_submit_elsewhere hown hnode submission now
        rw [hfirst, hsecond]
        exact ⟨rfl, .inl ⟨⟨_, rfl⟩, .standing step place moment holds rfl hleads⟩⟩

/-- Every call for the document is answered alike, and the sessions go on to differ no more than
that. -/
theorem perform (h : SameStep id first second) {operation : Operation}
    (hon : operation.document? = some id) :
    operation.undated (second.perform operation).1 =
        operation.undated (first.perform operation).1 ∧
      SameStep id (first.perform operation).2 (second.perform operation).2 := by
  cases operation with
  | currentForm document roles now =>
      cases hon
      exact h.perform_currentForm roles now
  | save document node data submission now =>
      cases hon
      exact h.perform_save node data submission now
  | submit request submission now =>
      obtain ⟨hanswer, ⟨-, hlater⟩ | hlater⟩ :=
        h.perform_submit (Option.some.inj hon) submission now
      · exact ⟨hanswer, hlater⟩
      · rw [hlater]
        exact ⟨hanswer, .same _⟩
  | start | list | shutdown | define => cases hon

end Session.SameStep

/-! ## Sessions in which the form was fetched -/

namespace Session

variable (session : Session) (id : InstanceId)

/-- The session that operations performed one after the other lead to. -/
def after (operations : List Operation) : Session :=
  operations.foldl (fun session operation => (session.perform operation).2) session

/-- Calls for the document leave sessions that differ no more in where it stands than before. -/
theorem SameStep.after {id : InstanceId} {first second : Session} (h : SameStep id first second)
    {operations : List Operation} (hon : ∀ operation ∈ operations, operation.document? = some id) :
    SameStep id (first.after operations) (second.after operations) := by
  induction operations generalizing first second with
  | nil => exact h
  | cons operation rest ih =>
      apply ih
      · exact (h.perform (hon operation List.mem_cons_self)).2
      · exact fun other hother => hon other (List.mem_cons_of_mem operation hother)

/-- Nothing is done where there is no form to show, and otherwise the document is at a step. -/
theorem currentForm_cases :
    (∃ answer : Except ServiceFault (Option CurrentForm), ∀ roles now,
        session.perform (.currentForm id roles now) = (answer, session)) ∨
      ∃ (step : OpenStep) (form : Form), step.Holds session.store ∧ step.document.id = id ∧
        session.store.forms.get? step.form = some form := by
  cases hshown : session.store.shownStep id with
  | error fault =>
      refine .inl ⟨.error fault, fun roles now => ?_⟩
      simp only [perform, call, runOn_currentForm, hshown]
  | ok shown =>
      cases shown with
      | none =>
          refine .inl ⟨.ok none, fun roles now => ?_⟩
          simp only [perform, call, runOn_currentForm, hshown]
      | some found =>
          obtain ⟨step, form⟩ := found
          obtain ⟨holds, hown⟩ := Store.holds_of_shownStep hshown
          cases hform : session.store.forms.get? step.form with
          | none =>
              subst hown
              exact .inl ⟨.error _, holds.perform_currentForm_missing hform⟩
          | some form => exact .inr ⟨step, form, holds, hown, hform⟩

/-- A session differs from what it was before the form was fetched in where the document stands. -/
theorem sameStep_currentForm (roles : List RoleId) (now : Timestamp) :
    SameStep id session (session.perform (.currentForm id roles now)).2 := by
  rcases session.currentForm_cases id with ⟨answer, hquiet⟩ | ⟨step, form, holds, hown, hform⟩
  · rw [hquiet roles now]
    exact .same session
  · subst hown
    obtain ⟨current, -, hleads⟩ := holds.resolved
    obtain ⟨moment, harrived⟩ := holds.arrived_standing now
    rw [holds.perform_currentForm hform, harrived]
    exact .standing step _ moment holds rfl (Process.resolveForward_fixed hleads)

end Session

/-- Fetching the form of a document changes nothing, or nothing but where the document stands and
when it was written last, and then it stands at the node with a form that the walk from its node
comes to. The same call again writes nothing and answers the same. Whatever saves, submits and calls
for the form follow on the document, by whomever, each is answered as if the form had not been
fetched, faults included, but for when the document was written last; and a submit that succeeds
leaves the very same session behind. -/
theorem fetching_form_goes_unnoticed (session : Session) (id : InstanceId) (roles : List RoleId)
    (asked : Timestamp) :
    let fetch := session.perform (.currentForm id roles asked)
    (fetch.2 = session ∨
      ∃ document process current node,
        session.store.instances.get? id = some document ∧ document.status = .active ∧
        session.store.processes.get? document.process = some process ∧
        document.current = some current ∧ process.resolveForward current = .form node ∧
        fetch.2 = ⟨session.store.replace
          { document with current := some node.id, updatedAt := asked }, session.sandbox⟩) ∧
    (∀ later, fetch.2.perform (.currentForm id roles later) = fetch) ∧
    ∀ before : List Operation, (∀ operation ∈ before, operation.document? = some id) →
      let fetched := fetch.2.after before
      let unfetched := session.after before
      (∀ operation : Operation, operation.document? = some id →
        operation.undated (fetched.perform operation).1 =
          operation.undated (unfetched.perform operation).1) ∧
      ∀ request submission now outcome, request.document = id →
        (unfetched.perform (.submit request submission now)).1 = .ok outcome →
        fetched.perform (.submit request submission now) =
          unfetched.perform (.submit request submission now) := by
  intro fetch
  refine ⟨?_, ?_, ?_⟩
  · rcases session.currentForm_cases id with ⟨answer, hquiet⟩ | ⟨step, form, holds, hown, hform⟩
    · exact .inl (congrArg Prod.snd (hquiet roles asked))
    · subst hown
      obtain ⟨current, hcurrent, hleads⟩ := holds.resolved
      have hfetch : fetch = (_, _) := holds.perform_currentForm hform roles asked
      have hstatus : step.document.status = .active := of_decide_eq_true holds.active
      rcases step.document.arrivedAt_cases step.node.id asked with ⟨-, hstays⟩ | hmoves
      · refine .inl ?_
        rw [hfetch, OpenStep.arrived, hstays, Store.replace, Table.put_of_get? holds.stored]
      · refine .inr ⟨step.document, step.process, current, step.node, holds.stored, hstatus,
          holds.known, hcurrent, hleads, ?_⟩
        rw [hfetch, OpenStep.arrived, hmoves, Instance.moveTo, ← hstatus]
  · rcases session.currentForm_cases id with ⟨answer, hquiet⟩ | ⟨step, form, holds, hown, hform⟩
    · intro later
      have hfetch : fetch = (answer, session) := hquiet roles asked
      rw [hfetch]
      exact hquiet roles later
    · subst hown
      exact holds.perform_currentForm_again hform roles asked
  · intro before hon fetched unfetched
    have halike : Session.SameStep id unfetched fetched :=
      (session.sameStep_currentForm id roles asked).after hon
    constructor
    · intro operation hoperation
      exact (halike.perform hoperation).1
    · intro request submission now outcome hown houtcome
      obtain ⟨hanswer, ⟨⟨fault, hfault⟩, -⟩ | hlater⟩ := halike.perform_submit hown submission now
      · rw [houtcome] at hfault
        cases hfault
      · exact Prod.ext hanswer hlater

/-- A session in which the purchase stands at the start node, from where the walk comes to the
request. -/
def Purchase.parked : Session :=
  ⟨session.store.replace { atRequest.document with current := some ⟨"start"⟩ }, session.sandbox⟩

/-- Fetching the form moves the purchase to the request, and the next fetch finds it there. Saved
and sent to approval it is just as if nobody had fetched the form. -/
theorem fetching_form_goes_unnoticed_parked :
    let fetch := Purchase.parked.perform (.currentForm Purchase.document [] Purchase.noon)
    let save : Operation := .save Purchase.document Purchase.request.id [] ⟨⟨51⟩⟩ Purchase.noon
    let send : Operation := .submit Purchase.large ⟨⟨52⟩⟩ Purchase.noon
    ((fetch.2.store.instances.get? Purchase.document).map Instance.current =
        some (some Purchase.request.id)) ∧
      fetch.2.perform (.currentForm Purchase.document [] ⟨⟨2024, 3, 1⟩, 0, 0⟩) = fetch ∧
      (fetch.2.perform save).1 = (Purchase.parked.perform save).1 ∧
      (fetch.2.after [save]).perform send = (Purchase.parked.after [save]).perform send ∧
      ∃ outcome, ((Purchase.parked.after [save]).perform send).1 = .ok outcome := by
  intro fetch save send
  obtain ⟨-, hagain, hunnoticed⟩ :=
    fetching_form_goes_unnoticed Purchase.parked Purchase.document [] Purchase.noon
  have hsaves : ∀ operation ∈ [save], operation.document? = some Purchase.document := by
    intro operation hoperation
    obtain rfl := List.mem_singleton.mp hoperation
    rfl
  have hsent : ((Purchase.parked.after [save]).perform send).1 =
      .ok ⟨Purchase.document, .active, some Purchase.approval.id, false⟩ := by
    decide +kernel
  refine ⟨by decide +kernel, hagain _, ?_, ?_, _, hsent⟩
  · exact (hunnoticed [] (fun _ h => nomatch h)).1 save rfl
  · exact (hunnoticed [save] hsaves).2 Purchase.large ⟨⟨52⟩⟩ Purchase.noon _ rfl hsent

end FormFlow
