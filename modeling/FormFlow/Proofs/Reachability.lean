import FormFlow.Proofs.CheckedProcess
import Mathlib.Data.List.Perm.Subperm

/-!
# What paths lead to

Each round over the links of a process adds their targets to what has been reached. A round that
adds anything adds the id of a node, so after as many rounds as there are nodes nothing new is left
to find, and what has been found are the ids that paths of links lead to.
-/

namespace FormFlow

open Relation

namespace Process

section Spread

variable {links : List Edge} {reached : List NodeId} {edge : Edge}

theorem spread_cons (edge : Edge) (links : List Edge) (reached : List NodeId) :
    spread (edge :: links) reached =
      spread links (if edge.source ∈ reached ∧ edge.target ∉ reached then edge.target :: reached
        else reached) := rfl

/-- What has been reached stays reached. -/
theorem subset_spread (links : List Edge) (reached : List NodeId) :
    reached ⊆ spread links reached := by
  induction links generalizing reached with
  | nil => exact List.Subset.refl reached
  | cons edge rest ih =>
      rw [spread_cons]
      split
      · exact List.Subset.trans (List.subset_cons_self _ _) (ih _)
      · exact ih _

/-- A round follows every link out of what had been reached before. -/
theorem target_mem_spread (hleads : edge ∈ links) (hmem : edge.source ∈ reached) :
    edge.target ∈ spread links reached := by
  induction links generalizing reached with
  | nil => cases hleads
  | cons first rest ih =>
      rw [spread_cons]
      rcases List.mem_cons.mp hleads with rfl | hlater
      · apply subset_spread
        by_cases hknown : edge.target ∈ reached
        · rw [if_neg fun h => h.2 hknown]
          exact hknown
        · rw [if_pos ⟨hmem, hknown⟩]
          exact List.mem_cons_self
      · apply ih hlater
        split
        · exact List.mem_cons_of_mem _ hmem
        · exact hmem

/-- What passes along links passes on to everything that a round adds. -/
theorem spread_keeps {P : NodeId → Prop} (hkeeps : ∀ edge ∈ links, P edge.source → P edge.target)
    (h : ∀ id ∈ reached, P id) : ∀ id ∈ spread links reached, P id := by
  induction links generalizing reached with
  | nil => exact h
  | cons edge rest ih =>
      obtain ⟨hhere, hlater⟩ := List.forall_mem_cons.mp hkeeps
      rw [spread_cons]
      apply ih hlater
      split
      next hadds => exact List.forall_mem_cons.mpr ⟨hhere (h _ hadds.1), h⟩
      next => exact h

/-- A round finds nothing twice. -/
theorem nodup_spread (links : List Edge) (hdistinct : reached.Nodup) :
    (spread links reached).Nodup := by
  induction links generalizing reached with
  | nil => exact hdistinct
  | cons edge rest ih =>
      rw [spread_cons]
      apply ih
      split
      next hadds => exact List.nodup_cons.mpr ⟨hadds.2, hdistinct⟩
      next => exact hdistinct

/-- A round that adds nothing new changes nothing. -/
theorem spread_eq_or_length_lt (links : List Edge) (reached : List NodeId) :
    spread links reached = reached ∨ reached.length < (spread links reached).length := by
  induction links generalizing reached with
  | nil => exact .inl rfl
  | cons edge rest ih =>
      rw [spread_cons]
      split
      · rcases ih (edge.target :: reached) with hsame | hmore
        · rw [hsame]
          exact .inr (Nat.lt_succ_self _)
        · exact .inr (Nat.lt_trans (Nat.lt_succ_self _) hmore)
      · exact ih reached

end Spread

variable (process : Process) {start id : NodeId} {edge : Edge}

/-- An edge between two nodes of the process leads from one to the other. -/
def Links (id next : NodeId) : Prop :=
  ∃ edge ∈ process.edges, edge.source = id ∧ edge.target = next ∧
    id ∈ process.nodeIds ∧ next ∈ process.nodeIds

variable {process}

theorem mem_links_iff : edge ∈ process.links ↔
    edge ∈ process.edges ∧ edge.source ∈ process.nodeIds ∧ edge.target ∈ process.nodeIds := by
  rw [links, List.mem_filter, decide_eq_true_iff, danglingEnd?_eq_none_iff]

theorem links_of_mem (hleads : edge ∈ process.links) : process.Links edge.source edge.target := by
  obtain ⟨hmem, hsource, htarget⟩ := mem_links_iff.mp hleads
  exact ⟨edge, hmem, rfl, rfl, hsource, htarget⟩

/-! ## Rounds -/

/-- What has been reached from an id after so many rounds. -/
def reachedAfter (process : Process) (start : NodeId) (rounds : Nat) : List NodeId :=
  Nat.repeat (spread process.links) rounds [start]

theorem reachedAfter_succ (process : Process) (start : NodeId) (rounds : Nat) :
    process.reachedAfter start (rounds + 1) =
      spread process.links (process.reachedAfter start rounds) := rfl

/-- What passes along the links of a process passes on to everything that is reached. -/
theorem reachedAfter_keeps {P : NodeId → Prop}
    (hkeeps : ∀ id next, process.Links id next → P id → P next) (h : P start) (rounds : Nat) :
    ∀ id ∈ process.reachedAfter start rounds, P id := by
  induction rounds with
  | zero => exact fun id hmem => List.mem_singleton.mp hmem ▸ h
  | succ rounds ih =>
      rw [reachedAfter_succ]
      exact spread_keeps (fun edge hleads => hkeeps _ _ (links_of_mem hleads)) ih

theorem nodup_reachedAfter (start : NodeId) (rounds : Nat) :
    (process.reachedAfter start rounds).Nodup := by
  induction rounds with
  | zero => exact List.pairwise_singleton _ _
  | succ rounds ih =>
      rw [reachedAfter_succ]
      exact nodup_spread _ ih

/-- No more is ever reached than there are nodes. -/
theorem length_reachedAfter_le (hknown : start ∈ process.nodeIds) (rounds : Nat) :
    (process.reachedAfter start rounds).length ≤ process.nodes.length := by
  have hwithin : process.reachedAfter start rounds ⊆ process.nodeIds := by
    apply reachedAfter_keeps _ hknown
    rintro id next ⟨edge, -, -, -, -, htarget⟩ -
    exact htarget
  calc
    (process.reachedAfter start rounds).length ≤ process.nodeIds.length :=
      ((nodup_reachedAfter start rounds).subperm hwithin).length_le
    _ = process.nodes.length := List.length_map _

/-- As long as the rounds have not come to rest, each has added something. -/
theorem reachedAfter_rests_or_grows (process : Process) (start : NodeId) (rounds : Nat) :
    spread process.links (process.reachedAfter start rounds) = process.reachedAfter start rounds ∨
      rounds < (process.reachedAfter start rounds).length := by
  induction rounds with
  | zero => exact .inr Nat.one_pos
  | succ rounds ih =>
      rw [reachedAfter_succ]
      rcases ih with hrests | hgrows
      · rw [hrests]
        exact .inl hrests
      · rcases spread_eq_or_length_lt process.links (process.reachedAfter start rounds) with
          hsame | hmore
        · rw [hsame]
          exact .inl hsame
        · exact .inr (Nat.lt_of_le_of_lt hgrows hmore)

/-- After as many rounds as there are nodes another one adds nothing. -/
theorem spread_reachableFrom (hknown : start ∈ process.nodeIds) :
    spread process.links (process.reachableFrom start) = process.reachableFrom start := by
  rcases process.reachedAfter_rests_or_grows start process.nodes.length with hrests | hgrows
  · exact hrests
  · exact absurd (length_reachedAfter_le hknown process.nodes.length) (Nat.not_le.mpr hgrows)

theorem start_mem_reachedAfter (start : NodeId) (rounds : Nat) :
    start ∈ process.reachedAfter start rounds := by
  induction rounds with
  | zero => exact List.mem_singleton_self start
  | succ rounds ih =>
      rw [reachedAfter_succ]
      exact subset_spread _ _ ih

/-- What is reached from a node is what the paths from it lead to. -/
theorem mem_reachableFrom_iff (hknown : start ∈ process.nodeIds) :
    id ∈ process.reachableFrom start ↔ ReflTransGen process.Links start id := by
  constructor
  · intro hmem
    exact reachedAfter_keeps (fun _ _ link path => path.tail link) .refl _ id hmem
  · intro path
    induction path with
    | refl => exact start_mem_reachedAfter start _
    | tail _ link ih =>
        obtain ⟨edge, hmem, rfl, rfl, hsource, htarget⟩ := link
        rw [← spread_reachableFrom hknown]
        exact target_mem_spread (mem_links_iff.mpr ⟨hmem, hsource, htarget⟩) ih

end Process

end FormFlow
