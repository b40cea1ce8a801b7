import FormFlow.Proofs.Session

/-!
# Failing calls change nothing

A call decides before it writes, and what it writes is never refused, because a document that was
looked up or just created is still there. So a call that fails has written nothing, and it never
fails for a reason of the store.
-/

namespace FormFlow

/-- The store has not refused anything. -/
def ServiceFault.IsDecided (fault : ServiceFault) : Prop :=
  ∀ refusal, fault ≠ .store refusal

namespace Store

variable {store : Store} {id : InstanceId} {given : NodeId} {fault : ServiceFault}

theorem openStep_isDecided (h : store.openStep id given = .error fault) : fault.IsDecided := by
  unfold openStep at h
  repeat' split at h
  all_goals cases h
  all_goals exact fun _ => ServiceFault.noConfusion

theorem shownStep_isDecided (h : store.shownStep id = .error fault) : fault.IsDecided := by
  unfold shownStep at h
  repeat' split at h
  all_goals cases h
  all_goals exact fun _ => ServiceFault.noConfusion

end Store

/-- An operation that fails leaves the session as it was, documents, submissions and document
numbers included, and the fault is a missing definition or document or a mismatch of the request,
never a refusal of the store. -/
theorem perform_failed_keeps_session (session : Session) (operation : Operation)
    (fault : ServiceFault) (h : (session.perform operation).1 = .error fault) :
    (session.perform operation).2 = session ∧ ∀ refusal, fault ≠ .store refusal := by
  cases operation with
  | start process id now =>
      simp only [Session.perform, Session.call, runOn_start] at h ⊢
      split at h
      · cases h
        exact ⟨rfl, fun _ => ServiceFault.noConfusion⟩
      · split at h
        · cases h
          exact ⟨rfl, fun _ => ServiceFault.noConfusion⟩
        · cases h
  | currentForm id roles now =>
      simp only [Session.perform, Session.call, runOn_currentForm] at h ⊢
      split at h
      · rename_i refused hs
        cases h
        exact ⟨rfl, Store.shownStep_isDecided hs⟩
      · cases h
      · cases h
  | save id node data submission now =>
      simp only [Session.perform, Session.call, runOn_save] at h ⊢
      split at h
      · rename_i refused hs
        cases h
        exact ⟨rfl, Store.openStep_isDecided hs⟩
      · cases h
  | submit request submission now =>
      simp only [Session.perform, Session.call, runOn_submit] at h ⊢
      split at h
      · rename_i refused hs
        cases h
        exact ⟨rfl, Store.openStep_isDecided hs⟩
      · rename_i step _
        cases hc : step.choice session.sandbox _ request now with
        | error refused =>
            rw [hc] at h
            cases h
            exact ⟨rfl, fun _ => ServiceFault.noConfusion⟩
        | ok taken =>
            rw [hc] at h
            cases h
  | list project =>
      simp only [Session.perform, Session.call, runOn_listDocuments] at h
      cases h
  | shutdown => cases h
  | define definition => cases h

/-- Fetching a form that is missing leaves the purchase that waits for it alone, and choosing a
transition without the role for it leaves the purchase unsent. -/
theorem perform_failed_keeps_purchases :
    let fetch : Operation := .currentForm Purchase.document [] Purchase.noon
    let send : Operation :=
      .submit { Purchase.large with roles := [], chosen := some Purchase.send.key } ⟨⟨52⟩⟩
        Purchase.noon
    (Purchase.waiting.perform fetch).1 =
        .error (.definition (.formNotFound Purchase.approvalForm)) ∧
      (Purchase.waiting.perform fetch).2 = Purchase.waiting ∧
      (Purchase.started.perform send).1 =
        .error (.mismatch (.transitionNotAvailable Purchase.request.id Purchase.send.key)) ∧
      (Purchase.started.perform send).2 = Purchase.started := by
  intro fetch send
  have hfetch : (Purchase.waiting.perform fetch).1 =
      .error (.definition (.formNotFound Purchase.approvalForm)) := by decide +kernel
  have hsend : (Purchase.started.perform send).1 =
      .error (.mismatch (.transitionNotAvailable Purchase.request.id Purchase.send.key)) := by
    decide +kernel
  exact ⟨hfetch, (perform_failed_keeps_session _ _ _ hfetch).1, hsend,
    (perform_failed_keeps_session _ _ _ hsend).1⟩

end FormFlow
