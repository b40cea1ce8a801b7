import FormFlow.Proofs.History
import FormFlow.Proofs.Independence
import Mathlib.Data.List.Nodup

/-!
# Document numbers

The store gives numbers and nothing else does: calls write back whole documents, number included,
from copies that they have read before. A start takes the next number and puts its document after
those that are there; what any other call writes in place of a document has the same origin. So the
documents of the store are those that were started, in this order, and sorting them by number, in
whatever order the store yields them, is listing them in this order.
-/

namespace FormFlow

/-- What a document has from its start and keeps. -/
structure Origin where
  id : InstanceId
  documentNumber : Nat
  process : ProcessId
  createdAt : Timestamp
deriving DecidableEq

def Instance.origin (document : Instance) : Origin :=
  ⟨document.id, document.documentNumber, document.process, document.createdAt⟩

/-- A document evolves without change of its origin. -/
theorem Evolves.origin_eq {operation : Operation} {before after : Instance}
    (evolves : Evolves operation before after) : after.origin = before.origin := by
  cases evolves <;> rfl

/-- The document that a start has answered with. -/
def Event.begun? : Event → Option Instance
  | ⟨.start _ _ _, .ok document⟩ => some document
  | _ => none

theorem Process.firstRecord_documentNumber (process : Process) (first : Node)
    (new : Store.NewInstance) (number : Nat) :
    (process.firstRecord first new number).documentNumber = number := by
  unfold firstRecord
  split
  · rename_i node _
    rcases Instance.arrivedAt_cases (new.numbered number) node.id new.now with ⟨-, h⟩ | h <;>
      rw [h] <;> rfl
  · rfl

/-! ## What one operation does to the numbers -/

namespace Session

/-- An operation starts a document with the next number and puts it after those that are stored. -/
structure Begins (session : Session) (operation : Operation) (document : Instance) : Prop where
  answered : (session.event operation).begun? = some document
  next : document.documentNumber = session.store.lastNumber + 1
  stored : (session.perform operation).2.store.instances.rows =
    session.store.instances.rows ++ [document]
  counted : (session.perform operation).2.store.lastNumber = document.documentNumber

/-- An operation starts no document, takes no number and carries all origins through. -/
structure Carries (session : Session) (operation : Operation) : Prop where
  answered : (session.event operation).begun? = none
  origins : (session.perform operation).2.store.instances.rows.map Instance.origin =
    session.store.instances.rows.map Instance.origin
  counted : (session.perform operation).2.store.lastNumber = session.store.lastNumber

variable {session : Session}

/-- A start changes nothing, or enters a document under the id that it is given and the next
number. -/
theorem perform_start (session : Session) (process : ProcessId) (id : InstanceId)
    (now : Timestamp) :
    (∃ fault, session.perform (.start process id now) = (.error fault, session)) ∨
      ∃ document : Instance, document.id = id ∧
        document.documentNumber = session.store.lastNumber + 1 ∧
        session.perform (.start process id now) =
          (.ok document, ⟨session.store.enter document, session.sandbox⟩) := by
  simp only [perform, call, runOn_start]
  cases session.store.processes.get? process with
  | none => exact .inl ⟨_, rfl⟩
  | some found =>
      cases hstart : found.start? with
      | none => exact .inl ⟨.definition (.noStart found.id), by simp only [hstart]⟩
      | some first =>
          let document := found.firstRecord first ⟨id, found.id, some first.id, .active, [], now⟩
            (session.store.lastNumber + 1)
          have hnumber : document.documentNumber = session.store.lastNumber + 1 :=
            found.firstRecord_documentNumber ..
          refine .inr ⟨document, found.firstRecord_id .., hnumber, ?_⟩
          simp only [hstart]
          rfl

theorem begins_or_carries_start (process : ProcessId) {id : InstanceId} (now : Timestamp)
    (hfresh : session.store.instances.get? id = none) :
    (∃ document, session.Begins (.start process id now) document) ∨
      session.Carries (.start process id now) := by
  rcases session.perform_start process id now with ⟨fault, h⟩ | ⟨document, rfl, hnext, h⟩
  · refine .inr ⟨?_, by rw [h], by rw [h]⟩
    rw [event, h]
    rfl
  · refine .inl ⟨document, ?_, hnext, ?_, by rw [h]; rfl⟩
    · rw [event, h]
      rfl
    · rw [h]
      exact Table.rows_put_of_absent hfresh

/-- Only a start takes a number, for a call for a document enters none. -/
theorem perform_lastNumber {operation : Operation} (hother : operation.started? = none) :
    (session.perform operation).2.store.lastNumber = session.store.lastNumber := by
  cases hon : operation.document? with
  | some id =>
      obtain ⟨answer, change, -, updates, hdoes⟩ :=
        operation.isLocal hon session.store session.sandbox
      have h : session.perform operation =
          (answer, ⟨session.store.apply change, session.sandbox⟩) := hdoes _ (.refl id _)
      rw [h, Store.apply, updates.number]
      rfl
  | none =>
      cases operation with
      | start => cases hother
      | currentForm | save | submit => cases hon
      | list project => simp only [perform, call, runOn_listDocuments]
      | shutdown => rfl
      | define definition => cases definition <;> rfl

/-- What an operation other than a start writes in place of a document has the same origin. -/
theorem carries_of_other {operation : Operation} (hother : operation.started? = none) :
    session.Carries operation := by
  refine ⟨?_, ?_, perform_lastNumber hother⟩
  · cases operation with
    | start => cases hother
    | _ => rfl
  · rcases session.perform_instances operation with hsame | ⟨written, hput, hstart | hevolved⟩
    · rw [hsame]
    · obtain ⟨process, now, rfl, -⟩ := hstart
      cases hother
    · obtain ⟨old, hknown, evolves⟩ := hevolved
      rw [hput]
      exact Table.map_rows_put Instance.origin hknown evolves.origin_eq

/-- Every operation starts a document or carries those that are there through. -/
theorem begins_or_carries (session : Session) {operation : Operation}
    (fresh : operation.Fresh session.store) :
    (∃ document, session.Begins operation document) ∨ session.Carries operation := by
  cases operation with
  | start process id now => exact begins_or_carries_start process now fresh
  | _ => exact .inr (carries_of_other rfl)

/-! ## What a run does to them -/

/-- The documents of a session are those that have been started, in the order of their starts. -/
structure Numbers (session : Session) (begun : List Instance) : Prop where
  origins : session.store.instances.rows.map Instance.origin = begun.map Instance.origin
  numbers : begun.map Instance.documentNumber = List.range' 1 begun.length
  last : session.store.lastNumber = begun.length

variable {begun : List Instance}

theorem Numbers.perform {operation : Operation} (numbers : session.Numbers begun)
    (fresh : operation.Fresh session.store) :
    (session.perform operation).2.Numbers
      (begun ++ (session.event operation).begun?.toList) := by
  rcases session.begins_or_carries fresh with ⟨document, begins⟩ | carries
  · have hnext : document.documentNumber = 1 + begun.length := by
      rw [begins.next, numbers.last, Nat.add_comm]
    rw [begins.answered]
    constructor
    · rw [begins.stored, List.map_append, numbers.origins, ← List.map_append]
      rfl
    · calc (begun ++ [document]).map Instance.documentNumber
          _ = List.range' 1 begun.length ++ [1 + begun.length] := by
            rw [List.map_append, numbers.numbers, List.map_singleton, hnext]
          _ = List.range' 1 (begun ++ [document]).length := by
            rw [List.length_append, List.length_singleton, List.range'_1_concat]
    · rw [begins.counted, hnext, Option.toList_some, List.length_append, List.length_singleton,
        Nat.add_comm]
  · rw [carries.answered, Option.toList_none, List.append_nil]
    exact ⟨carries.origins.trans numbers.origins, numbers.numbers,
      carries.counted.trans numbers.last⟩

theorem Numbers.run {first last : Session} {events : List Event} (run : Runs first events last)
    (numbers : first.Numbers begun) : last.Numbers (begun ++ events.filterMap Event.begun?) := by
  induction run generalizing begun with
  | nil session =>
      rw [List.filterMap_nil, List.append_nil]
      exact numbers
  | @cons session _ operation rest fresh _ ih =>
      have hlater := ih (numbers.perform fresh)
      rw [List.append_assoc] at hlater
      have hhere : (session.event operation :: rest).filterMap Event.begun? =
          (session.event operation).begun?.toList ++ rest.filterMap Event.begun? := by
        rw [List.filterMap_cons]
        cases (session.event operation).begun? <;> rfl
      exact hhere ▸ hlater

/-- The documents are stored by ascending number. -/
theorem Numbers.ascending (numbers : session.Numbers begun) :
    (session.store.instances.rows.map Instance.documentNumber).Pairwise (· < ·) := by
  have hsame := congrArg (List.map Origin.documentNumber) numbers.origins
  rw [List.map_map, List.map_map] at hsame
  have hcounted : session.store.instances.rows.map Instance.documentNumber =
      List.range' 1 begun.length :=
    hsame.trans numbers.numbers
  rw [hcounted]
  exact List.pairwise_lt_range'

end Session

/-- Documents of ascending number are listed in their order, in whatever order the store yields
them. -/
theorem Store.listInstances_of_perm {store : Store} {documents : List Instance}
    (hascending : (documents.map Instance.documentNumber).Pairwise (· < ·))
    (hperm : store.instances.rows.Perm documents) : store.listInstances = documents := by
  let before (a b : Instance) : Bool := a.documentNumber ≤ b.documentNumber
  have hlisted : store.listInstances.Perm documents := (List.mergeSort_perm ..).trans hperm
  have hsorted : store.listInstances.Pairwise fun a b => before a b := by
    apply List.pairwise_mergeSort
    · simpa [before] using fun a b c => Nat.le_trans
    · simpa [before] using fun a b => Nat.le_total _ _
  have hstrict : documents.Pairwise fun a b => before a b :=
    (List.pairwise_map.mp hascending).imp fun h => decide_eq_true (Nat.le_of_lt h)
  refine List.Perm.eq_of_pairwise ?_ hsorted hstrict hlisted
  intro a b ha hb hab hba
  have hdifferent : (documents.map Instance.documentNumber).Nodup := hascending.imp Nat.ne_of_lt
  apply List.inj_on_of_nodup_map hdifferent (hlisted.subset ha) hb
  exact Nat.le_antisymm (of_decide_eq_true hab) (of_decide_eq_true hba)

/-- Listing all documents lists those of ascending number in their order. -/
theorem Session.call_listDocuments {session : Session} {documents : List Instance}
    (hascending : (documents.map Instance.documentNumber).Pairwise (· < ·))
    (hperm : session.store.instances.rows.Perm documents) :
    session.call (Service.listDocuments none) =
      (.ok (documents.map session.store.summary), session) := by
  have hall : documents.filter (fun _ => true) = documents := List.filter_eq_self.mpr fun _ _ => rfl
  simp only [call, runOn_listDocuments, Store.listInstances_of_perm hascending hperm,
    Option.elim_none, hall]

/-- A run begins with no document and no number given, and is shorter than the numbers are many.
The starts that succeed answer with the numbers 1, 2, 3 and so on. In the end all documents are
listed in the order of their starts, in whatever order the store yields them, each as it was when it
was started in id, number and process; and each stored document has the origin that it got from its
start. The number given last is that of the last start and fits into 64 bits; a start that fails
changes nothing; and no call, further operations included, changes the origin of a document. -/
theorem documents_are_numbered_by_start {first last : Session} {events : List Event}
    (run : Runs first events last) (hblank : first.store.instances = .empty)
    (hunnumbered : first.store.lastNumber = 0) (hshort : events.length < Nat.pow 2 64) :
    let begun := events.filterMap Event.begun?
    begun.map Instance.documentNumber = List.range' 1 begun.length ∧
    last.store.lastNumber = begun.length ∧ begun.length < Nat.pow 2 64 ∧
    last.store.instances.rows.map Instance.origin = begun.map Instance.origin ∧
    (∀ shelf : Table Instance, shelf.rows.Perm last.store.instances.rows →
      ∃ rows, (Session.mk { last.store with instances := shelf } last.sandbox).call
          (Service.listDocuments none) =
            (.ok rows, ⟨{ last.store with instances := shelf }, last.sandbox⟩) ∧
        rows.map (fun row => (row.id, row.documentNumber, row.process)) =
          begun.map fun document => (document.id, document.documentNumber, document.process)) ∧
    (∀ process id now fault, (last.perform (.start process id now)).1 = .error fault →
      (last.perform (.start process id now)).2 = last) ∧
    (∀ operation : Operation, operation.Fresh last.store → ∀ id document,
      last.store.instances.get? id = some document →
        ∃ after, (last.perform operation).2.store.instances.get? id = some after ∧
          after.origin = document.origin) ∧
    (∀ id node, (last.call (Service.getDocument id)).2 = last ∧
      (last.call (Service.submissionData id node)).2 = last) := by
  intro begun
  have hnoneYet : first.Numbers [] := by
    refine ⟨?_, rfl, hunnumbered⟩
    rw [hblank]
    rfl
  have numbers : last.Numbers begun := hnoneYet.run run
  refine ⟨numbers.numbers, numbers.last, ?_, numbers.origins, ?_, ?_, ?_, ?_⟩
  · exact Nat.lt_of_le_of_lt (List.length_filterMap_le ..) hshort
  · intro shelf hperm
    refine ⟨_, Session.call_listDocuments numbers.ascending hperm, ?_⟩
    have hrows := congrArg
      (List.map fun origin : Origin => (origin.id, origin.documentNumber, origin.process))
      numbers.origins
    rw [List.map_map, List.map_map] at hrows
    rw [List.map_map]
    exact hrows
  · intro process id now fault h
    rcases last.perform_start process id now with ⟨_, hsame⟩ | ⟨document, -, -, hbegins⟩
    · rw [hsame]
    · rw [hbegins] at h
      cases h
  · intro operation fresh id document hknown
    obtain ⟨after, hstored, evolves⟩ := Session.perform_evolves fresh hknown
    exact ⟨after, hstored, evolves.origin_eq⟩
  · exact fun id node => ⟨rfl, rfl⟩

namespace Purchase

def unknownStart : Operation :=
  .start ⟨⟨39⟩⟩ ⟨⟨42⟩⟩ noon

def secondStart : Operation :=
  .start process.id ⟨⟨43⟩⟩ noon

/-- A session in which, after a first purchase, an unknown process and then a second purchase have
been started. -/
def twice : Session :=
  ((waiting.perform unknownStart).2.perform secondStart).2

/-- The calls that lead there. -/
def twiceEvents : List Event :=
  [session.event (.start process.id document noon), started.event (.submit large ⟨⟨51⟩⟩ noon),
    waiting.event unknownStart, (waiting.perform unknownStart).2.event secondStart]

theorem twice_runs : Runs session twiceEvents twice := by
  have hfirst : (Operation.start process.id document noon).Fresh session.store := rfl
  have hsubmitted : (Operation.submit large ⟨⟨51⟩⟩ noon).Fresh started.store := trivial
  have hunknown : unknownStart.Fresh waiting.store := by
    have habsent : (waiting.store.instances.get? ⟨⟨42⟩⟩).isNone := by decide +kernel
    exact Option.isNone_iff_eq_none.mp habsent
  have fresh : secondStart.Fresh (waiting.perform unknownStart).2.store := by
    have habsent : ((waiting.perform unknownStart).2.store.instances.get? ⟨⟨43⟩⟩).isNone := by
      decide +kernel
    exact Option.isNone_iff_eq_none.mp habsent
  exact .cons hfirst (.cons hsubmitted (.cons hunknown (.cons fresh (.nil _))))

end Purchase

/-- The second purchase has the number 2, since the start of an unknown process took none. -/
theorem documents_are_numbered_by_start_purchases :
    Runs Purchase.session Purchase.twiceEvents Purchase.twice ∧
      ∃ rows, Purchase.twice.call (Service.listDocuments none) = (.ok rows, Purchase.twice) ∧
        rows.map (fun row => (row.id, row.documentNumber, row.process)) =
          [(Purchase.document, 1, Purchase.process.id), (⟨⟨43⟩⟩, 2, Purchase.process.id)] := by
  have hbegun : (Purchase.twiceEvents.filterMap Event.begun?).map
      (fun document => (document.id, document.documentNumber, document.process)) =
        [(Purchase.document, 1, Purchase.process.id), (⟨⟨43⟩⟩, 2, Purchase.process.id)] := by
    decide +kernel
  obtain ⟨-, -, -, -, hlisted, -⟩ :=
    documents_are_numbered_by_start Purchase.twice_runs rfl rfl (by decide +kernel)
  obtain ⟨rows, hcall, hsame⟩ := hlisted Purchase.twice.store.instances (.refl _)
  exact ⟨Purchase.twice_runs, rows, hcall, hsame.trans hbegun⟩

end FormFlow
