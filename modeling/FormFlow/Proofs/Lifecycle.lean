import FormFlow.Proofs.Session

/-!
# The life of a document

A document is at a node until it is completed, and is never touched after that. What was submitted
at a node can be submitted anew, but nothing that a document keeps is ever dropped.
-/

namespace FormFlow

/-- A document has no current node exactly when it has come to its end. -/
def Settled (document : Instance) : Prop :=
  document.current = none ↔ document.status = .completed ∨ document.status = .cancelled

theorem Begun.settled {document : Instance} (h : Begun document) : Settled document := by
  have hl := h.located
  constructor
  · intro hc
    rw [hc] at hl
    cases hl
  · rw [h.active]
    rintro (h | h) <;> cases h

namespace Evolves

variable {operation : Operation} {before after : Instance}

theorem settled (h : Evolves operation before after) (hs : Settled before) : Settled after := by
  cases h with
  | kept => exact hs
  | arrived | moved => simp [Settled, Instance.moveTo]
  | completed => simp [Settled, Instance.complete]

/-- Only an active document evolves. -/
theorem eq_of_not_active (h : Evolves operation before after) (hs : before.status ≠ .active) :
    after = before := by
  cases h with
  | kept => rfl
  | arrived _ _ _ ha | completed _ _ ha _ | moved _ _ _ ha _ =>
      exact absurd (by simpa [Instance.isActive] using ha) hs

/-- Only a submit changes what a document keeps, and only under the node that it names. -/
theorem context_eq (h : Evolves operation before after) (key : String)
    (hkey : ∀ request submission now, operation = .submit request submission now →
      request.document = before.id → request.node.text ≠ key) :
    after.context.get? key = before.context.get? key := by
  cases h with
  | kept | arrived => rfl
  | completed submission now _ hown | moved submission _ now _ hown =>
      exact Fields.get?_insert_of_ne _ _ (hkey _ _ _ rfl hown).symm

/-- Nothing that a document keeps is dropped. -/
theorem context_isSome (h : Evolves operation before after) (key : String)
    (hkey : (before.context.get? key).isSome) : (after.context.get? key).isSome := by
  cases h with
  | kept | arrived => exact hkey
  | @completed _ request | @moved _ request =>
      change ((before.context.insert request.node.text _).get? key).isSome
      rw [Fields.get?_insert]
      split
      · rfl
      · exact hkey

end Evolves

/-- Every document in the store has no current node exactly when it has come to its end. -/
def Session.Settled (session : Session) : Prop :=
  ∀ id document, session.store.instances.get? id = some document → FormFlow.Settled document

theorem Session.Settled.perform {session : Session} {operation : Operation}
    (hs : session.Settled) (fresh : operation.Fresh session.store) :
    (session.perform operation).2.Settled := by
  intro id after hafter
  cases h : session.store.instances.get? id with
  | none => exact (Session.perform_begins h hafter).settled
  | some document =>
      obtain ⟨other, hother, hevolves⟩ := Session.perform_evolves fresh h
      obtain rfl : after = other := Option.some.inj (hafter.symm.trans hother)
      exact hevolves.settled (hs id document h)

/-- A document that is not active stays as it is. -/
theorem Runs.get?_of_not_active {first last : Session} {events : List Event}
    (run : Runs first events last) {id : InstanceId} {document : Instance}
    (h : first.store.instances.get? id = some document) (hs : document.status ≠ .active) :
    last.store.instances.get? id = some document := by
  refine run.invariant (P := fun session => session.store.instances.get? id = some document)
    (fun session operation fresh hd => ?_) h
  obtain ⟨after, hafter, hevolves⟩ := Session.perform_evolves fresh hd
  rw [hafter, hevolves.eq_of_not_active hs]

/-- On a store that begins without documents, whatever is called in whatever order, definitions
being inserted and replaced at any point: every document that is stored has no current node
exactly when it is completed or cancelled; a completed document keeps its status, its node and
its context for good; and an operation drops no key from the context of a document and changes it
under no key but the node of a submit for that document. -/
theorem document_lifecycle {first reached last : Session} {earlier later : List Event}
    (hempty : first.store.instances = .empty) (hreach : Runs first earlier reached)
    (run : Runs reached later last) :
    (∀ id document, reached.store.instances.get? id = some document →
      (document.current = none ↔
        document.status = .completed ∨ document.status = .cancelled)) ∧
    (∀ id document, reached.store.instances.get? id = some document →
      document.status = .completed →
      ∃ after, last.store.instances.get? id = some after ∧ after.status = document.status ∧
        after.current = document.current ∧ after.context = document.context) ∧
    ∀ operation : Operation, operation.Fresh reached.store →
      ∀ id document, reached.store.instances.get? id = some document →
      ∃ after, (reached.perform operation).2.store.instances.get? id = some after ∧
        ∀ key, ((document.context.get? key).isSome → (after.context.get? key).isSome) ∧
          (after.context.get? key = document.context.get? key ∨
            ∃ request submission now, operation = .submit request submission now ∧
              request.document = id ∧ request.node.text = key) := by
  refine ⟨?_, ?_, ?_⟩
  · have hfirst : first.Settled := by
      intro id document h
      rw [hempty] at h
      cases h
    exact hreach.invariant (fun _ _ fresh hs => hs.perform fresh) hfirst
  · intro id document h hc
    exact ⟨document, run.get?_of_not_active h (by simp [hc]), rfl, rfl, rfl⟩
  · intro operation fresh id document h
    obtain ⟨after, hafter, hevolves⟩ := Session.perform_evolves fresh h
    refine ⟨after, hafter, fun key => ⟨hevolves.context_isSome key, ?_⟩⟩
    by_cases hnamed : ∃ request submission now, operation = .submit request submission now ∧
        request.document = id ∧ request.node.text = key
    · exact .inr hnamed
    · refine .inl (hevolves.context_eq key fun request submission now ho hd hn => hnamed ?_)
      exact ⟨request, submission, now, ho, hd.trans (Store.id_of_get? h), hn⟩

/-- An approved purchase is completed and at no node, and keeps its data when it is approved
again, which fails. -/
theorem document_lifecycle_approved :
    ∃ document after, Purchase.approved.store.instances.get? Purchase.document = some document ∧
      document.status = .completed ∧ document.current = none ∧
      (Purchase.approved.perform Purchase.approve).2.store.instances.get? Purchase.document =
        some after ∧
      after.context = document.context ∧ (after.context.get? Purchase.request.id.text).isSome := by
  have hcompleted : (Purchase.approved.store.instances.get? Purchase.document).map
      Instance.status = some .completed := by decide +kernel
  have hkept : (Purchase.approved.store.instances.get? Purchase.document).any
      (fun document => (document.context.get? Purchase.request.id.text).isSome) := by
    decide +kernel
  obtain ⟨document, hd, hs⟩ := Option.map_eq_some_iff.mp hcompleted
  obtain ⟨events, hreach⟩ := Purchase.approved_runs
  have run : Runs Purchase.approved [⟨Purchase.approve, _⟩]
      (Purchase.approved.perform Purchase.approve).2 := .cons trivial (.nil _)
  obtain ⟨hnode, hstays, hkeys⟩ := document_lifecycle rfl hreach run
  obtain ⟨after, hafter, -, -, hcontext⟩ := hstays _ _ hd hs
  refine ⟨document, after, hd, hs, (hnode _ _ hd).mpr (.inl hs), hafter, hcontext, ?_⟩
  rw [hd] at hkept
  rw [hcontext]
  exact hkept

end FormFlow
