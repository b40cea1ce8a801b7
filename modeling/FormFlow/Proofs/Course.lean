import FormFlow.Process.Check
import FormFlow.Proofs.Walk
import Mathlib.Data.List.Nodup
import Mathlib.Data.List.Perm.Subperm

/-!
# The course of a walk

From each node without a form the course of a walk goes on along the first edge. It either comes to
an id where it stops, or it comes back to an id and goes round from there for ever. Which of the two
it is shows within as many steps as there are nodes, and decides where the walk ends. The course
from a later id is the rest of the course, so that walk ends at the same place, unless the id lies
on a circle and the walk comes back to it.
-/

namespace FormFlow

namespace Process

/-- Where a walk goes on from an id. -/
def next? (process : Process) (id : NodeId) : Option NodeId :=
  match process.node? id with
  | none => none
  | some node =>
      if node.form.isSome then none else (process.edgesFrom id).head?.map Edge.target

/-- The id that a walk comes to in so many steps, unless it stops before. -/
def place? (process : Process) (start : NodeId) : Nat → Option NodeId
  | 0 => some start
  | steps + 1 => (process.place? start steps).bind process.next?

/-- The walk from a node as far as it gets by looking at so many ids. -/
def walkWithin (process : Process) : Nat → List NodeId → NodeId → Option Resolution
  | 0, _, _ => none
  | looks + 1, visited, current =>
      if current ∈ visited then some (.cycle current)
      else
        match process.node? current with
        | none => some (.missing current)
        | some node =>
            if node.form.isSome then some (.form node)
            else
              match (process.edgesFrom current).head? with
              | some edge => process.walkWithin looks (current :: visited) edge.target
              | none => some (if node.kind = .finish then .finish node else .deadEnd node)

variable {process : Process} {start id next last current : NodeId} {visited : List NodeId}
  {resolution other : Resolution} {steps first again : Nat}

/-! ## The walk, step by step -/

theorem next?_eq_some_iff : process.next? id = some next ↔ process.Follows id next := by
  unfold next? Follows
  cases process.node? id with
  | none => simp
  | some node => cases node.form <;> simp

theorem mem_nodeIds_of_next? (hgoesOn : process.next? id = some next) : id ∈ process.nodeIds := by
  obtain ⟨node, -, hknown, -⟩ := next?_eq_some_iff.mp hgoesOn
  obtain ⟨hmem, rfl⟩ := node?_some hknown
  exact List.mem_map_of_mem hmem

theorem walk_of_mem (hmem : current ∈ visited) :
    process.walk visited current = .cycle current := by
  rw [walk, if_pos hmem]

theorem walk_of_next? (hfresh : current ∉ visited) (hgoesOn : process.next? current = some next) :
    process.walk visited current = process.walk (current :: visited) next := by
  obtain ⟨node, edge, hknown, hblank, hleaves, rfl⟩ := next?_eq_some_iff.mp hgoesOn
  rw [walk, if_neg hfresh]
  grind

theorem stops_of_next? (hfresh : current ∉ visited) (hgoesOn : process.next? current = none) :
    process.Stops current (process.walk visited current) := by
  fun_cases process.walk visited current with
  | case1 hmem => exact absurd hmem hfresh
  | case2 _ hunknown => exact .missing hunknown
  | case3 _ node hknown hbound =>
      obtain rfl := (node?_some hknown).2
      exact .form hknown hbound
  | case4 _ node hknown hblank edge hleaves =>
      have follows : process.Follows current edge.target :=
        ⟨node, edge, hknown, by simpa using hblank, hleaves, rfl⟩
      rw [next?_eq_some_iff.mpr follows] at hgoesOn
      cases hgoesOn
  | case5 _ node hknown hblank hisolated hkind =>
      obtain rfl := (node?_some hknown).2
      exact .finish hknown (by simpa using hblank) (List.head?_eq_none_iff.mp hisolated) hkind
  | case6 _ node hknown hblank hisolated hkind =>
      obtain rfl := (node?_some hknown).2
      exact .deadEnd hknown (by simpa using hblank) (List.head?_eq_none_iff.mp hisolated) hkind

/-- Where a walk goes no further, what it has visited does not matter. -/
theorem walk_eq_resolveForward (hfresh : current ∉ visited)
    (hgoesOn : process.next? current = none) :
    process.walk visited current = process.resolveForward current := by
  rw [resolveForward, walk, walk, if_neg hfresh, if_neg List.not_mem_nil]
  grind [next?]

/-- Looking at one id more than there are nodes left to visit is enough for a walk. -/
theorem walkWithin_eq_some {looks : Nat} (henough : process.unvisited visited < looks) :
    process.walkWithin looks visited current = some (process.walk visited current) := by
  induction looks generalizing visited current with
  | zero => exact absurd henough (Nat.not_lt_zero _)
  | succ looks ih =>
      rw [walkWithin]
      fun_cases process.walk visited current with
      | case1 hmem => rw [if_pos hmem]
      | case2 hfresh hunknown => rw [if_neg hfresh, hunknown]
      | case3 hfresh node hknown hbound => simp only [if_neg hfresh, hknown, if_pos hbound]
      | case4 hfresh node hknown hblank edge hleaves =>
          simp only [if_neg hfresh, hknown, if_neg hblank, hleaves]
          apply ih
          obtain ⟨hmem, rfl⟩ := node?_some hknown
          have hfewer := unvisited_cons_lt hmem hfresh
          omega
      | case5 hfresh node hknown hblank hisolated hkind =>
          simp only [if_neg hfresh, hknown, if_neg hblank, hisolated, if_pos hkind]
      | case6 hfresh node hknown hblank hisolated hkind =>
          simp only [if_neg hfresh, hknown, if_neg hblank, hisolated, if_neg hkind]

/-! ## Places on the course -/

theorem place?_add (process : Process) (start : NodeId) (steps more : Nat) :
    process.place? start (steps + more) =
      (process.place? start steps).bind fun id => process.place? id more := by
  induction more with
  | zero => exact (Option.bind_fun_some _).symm
  | succ more ih =>
      calc
        process.place? start (steps + (more + 1))
          = (process.place? start (steps + more)).bind process.next? := rfl
        _ = ((process.place? start steps).bind fun id => process.place? id more).bind
              process.next? := by rw [ih]
        _ = (process.place? start steps).bind fun id =>
              (process.place? id more).bind process.next? := Option.bind_assoc ..

/-- The course from an id on the course is the rest of it. -/
theorem place?_rest (hthere : process.place? start steps = some id) (more : Nat) :
    process.place? id more = process.place? start (steps + more) := by
  rw [place?_add, hthere, Option.bind_some]

theorem place?_isSome_of_le {more : Nat} (hle : steps ≤ more)
    (hgoes : (process.place? start more).isSome) : (process.place? start steps).isSome := by
  obtain ⟨rest, rfl⟩ := Nat.exists_eq_add_of_le hle
  rw [place?_add] at hgoes
  exact Option.isSome_of_isSome_bind hgoes

/-- From two places that are the same the course goes on in the same way. -/
theorem place?_add_congr {i j : Nat} (hsame : process.place? start i = process.place? start j)
    (more : Nat) : process.place? start (i + more) = process.place? start (j + more) := by
  rw [place?_add, place?_add, hsame]

/-- Nothing is met twice within so many steps. -/
def Unrepeated (process : Process) (start : NodeId) (steps : Nat) : Prop :=
  ∀ i < steps, ∀ j < steps, process.place? start i = process.place? start j → i = j

/-- What a walk has visited in so many steps, the latest first. -/
def trail (process : Process) (start : NodeId) : Nat → List NodeId
  | 0 => []
  | steps + 1 => (process.place? start steps).toList ++ process.trail start steps

theorem mem_trail_iff : id ∈ process.trail start steps ↔
    ∃ i < steps, process.place? start i = some id := by
  induction steps with
  | zero => simp [trail]
  | succ steps ih =>
      rw [trail, List.mem_append, Option.mem_toList, ih]
      constructor
      · rintro (hhere | ⟨i, hlt, hthere⟩)
        · exact ⟨steps, Nat.lt_succ_self _, hhere⟩
        · exact ⟨i, Nat.lt_succ_of_lt hlt, hthere⟩
      · rintro ⟨i, hlt, hthere⟩
        rcases Nat.lt_succ_iff_lt_or_eq.mp hlt with hearlier | rfl
        · exact .inr ⟨i, hearlier, hthere⟩
        · exact .inl hthere

namespace Unrepeated

theorem of_lt (h : ∀ i j, i < j → j < steps → process.place? start i ≠ process.place? start j) :
    process.Unrepeated start steps := by
  intro i hi j hj hsame
  rcases Nat.lt_trichotomy i j with hlt | heq | hgt
  · exact absurd hsame (h i j hlt hj)
  · exact heq
  · exact absurd hsame.symm (h j i hgt hi)

theorem of_le {more : Nat} (unrepeated : process.Unrepeated start more) (hle : steps ≤ more) :
    process.Unrepeated start steps :=
  fun i hi j hj hsame =>
    unrepeated i (Nat.lt_of_lt_of_le hi hle) j (Nat.lt_of_lt_of_le hj hle) hsame

/-- What comes next is new, as long as nothing has been met twice. -/
theorem not_mem_trail (unrepeated : process.Unrepeated start (steps + 1))
    (hthere : process.place? start steps = some id) : id ∉ process.trail start steps := by
  intro hmem
  obtain ⟨i, hlt, hearlier⟩ := mem_trail_iff.mp hmem
  have hsame := unrepeated i (Nat.lt_succ_of_lt hlt) steps (Nat.lt_succ_self _)
    (hearlier.trans hthere.symm)
  omega

/-- After some steps a walk is still the walk from its start. -/
theorem walk_trail (unrepeated : process.Unrepeated start steps)
    (hthere : process.place? start steps = some id) :
    process.walk (process.trail start steps) id = process.resolveForward start := by
  induction steps generalizing id with
  | zero =>
      cases hthere
      rfl
  | succ steps ih =>
      obtain ⟨before, hhere, hgoesOn⟩ := Option.bind_eq_some_iff.mp hthere
      have hfresh := unrepeated.not_mem_trail hhere
      rw [trail, hhere]
      calc
        process.walk (before :: process.trail start steps) id
          = process.walk (process.trail start steps) before := (walk_of_next? hfresh hgoesOn).symm
        _ = process.resolveForward start := ih (unrepeated.of_le (Nat.le_succ _)) hhere

/-- A walk that has met nothing twice has taken no more steps than there are nodes. -/
theorem le_length_nodes (unrepeated : process.Unrepeated start steps)
    (hgoes : (process.place? start steps).isSome) : steps ≤ process.nodes.length := by
  let places := (List.range steps).map (process.place? start)
  have hdistinct : places.Nodup := by
    apply List.Nodup.map_on _ List.nodup_range
    exact fun i hi j hj => unrepeated i (List.mem_range.mp hi) j (List.mem_range.mp hj)
  -- a place that is left is a node
  have hwithin : places ⊆ process.nodeIds.map some := by
    intro place hmem
    obtain ⟨i, hi, rfl⟩ := List.mem_map.mp hmem
    obtain ⟨next, hnext⟩ := Option.isSome_iff_exists.mp
      (place?_isSome_of_le (List.mem_range.mp hi) hgoes)
    obtain ⟨id, hthere, hgoesOn⟩ := Option.bind_eq_some_iff.mp hnext
    rw [hthere]
    exact List.mem_map_of_mem (mem_nodeIds_of_next? hgoesOn)
  calc
    steps = places.length := by simp [places]
    _ ≤ (process.nodeIds.map some).length := (hdistinct.subperm hwithin).length_le
    _ = process.nodes.length := by simp [nodeIds]

end Unrepeated

/-! ## Walks that stop and walks that do not -/

/-- The course from an id stops in so many steps, at another one. -/
structure Ends (process : Process) (start : NodeId) (steps : Nat) (last : NodeId) : Prop where
  there : process.place? start steps = some last
  stopped : process.next? last = none

/-- The course from an id meets another one, for the first time in `first` steps and again in
`again` steps, before it has met anything else twice. -/
structure Returns (process : Process) (start : NodeId) (first again : Nat) (id : NodeId) :
    Prop where
  before : first < again
  there : process.place? start first = some id
  back : process.place? start again = some id
  unrepeated : process.Unrepeated start again

/-- An id lies on a circle if the course from it comes back to it. -/
def OnCircle (process : Process) (id : NodeId) : Prop :=
  ∃ period > 0, process.place? id period = some id

namespace Ends

theorem place?_succ (ends : process.Ends start steps last) :
    process.place? start (steps + 1) = none := by
  show (process.place? start steps).bind process.next? = none
  rw [ends.there, Option.bind_some, ends.stopped]

/-- No step comes after the last. -/
theorem le {more : Nat} (ends : process.Ends start steps last)
    (hgoes : (process.place? start more).isSome) : more ≤ steps := by
  apply Nat.le_of_not_lt
  intro hlater
  have hbeyond := place?_isSome_of_le hlater hgoes
  rw [Nat.succ_eq_add_one, ends.place?_succ] at hbeyond
  cases hbeyond

/-- The course from a later id stops where the whole of it does. -/
theorem rest {more : Nat} (ends : process.Ends start steps last)
    (hthere : process.place? start more = some id) : process.Ends id (steps - more) last := by
  have hle : more ≤ steps := ends.le (by rw [hthere]; rfl)
  refine ⟨?_, ends.stopped⟩
  rw [place?_rest hthere, Nat.add_sub_cancel' hle]
  exact ends.there

/-- A course that stops meets nothing twice, for it would go on as it did before. -/
theorem unrepeated (ends : process.Ends start steps last) :
    process.Unrepeated start (steps + 1) := by
  apply Unrepeated.of_lt
  intro i j hlt hle hsame
  have hbeyond : process.place? start (i + (steps + 1 - j)) = none := by
    rw [place?_add_congr hsame, Nat.add_sub_cancel' (Nat.le_of_lt hle)]
    exact ends.place?_succ
  have hwithin : i + (steps + 1 - j) ≤ steps := by omega
  have hgoes := place?_isSome_of_le hwithin (by rw [ends.there]; rfl)
  rw [hbeyond] at hgoes
  cases hgoes

/-- A walk along a course that stops ends as the walk from the last id. -/
theorem resolveForward_eq (ends : process.Ends start steps last) :
    process.resolveForward start = process.resolveForward last :=
  calc
    process.resolveForward start = process.walk (process.trail start steps) last :=
      ((ends.unrepeated.of_le (Nat.le_succ _)).walk_trail ends.there).symm
    _ = process.resolveForward last :=
      walk_eq_resolveForward (ends.unrepeated.not_mem_trail ends.there) ends.stopped

theorem stops (ends : process.Ends start steps last) :
    process.Stops last (process.resolveForward start) := by
  rw [ends.resolveForward_eq]
  exact stops_of_next? List.not_mem_nil ends.stopped

end Ends

namespace Returns

/-- A walk along a course that returns ends at the first id that it meets twice. -/
theorem resolveForward_eq (returns : process.Returns start first again id) :
    process.resolveForward start = .cycle id := by
  rw [← returns.unrepeated.walk_trail returns.back]
  exact walk_of_mem (mem_trail_iff.mpr ⟨first, returns.before, returns.there⟩)

theorem place?_add (returns : process.Returns start first again id) (more : Nat) :
    process.place? start (again + more) = process.place? start (first + more) :=
  place?_add_congr (returns.back.trans returns.there.symm) more

/-- A course that returns goes on for ever. -/
theorem goes (returns : process.Returns start first again id) (steps : Nat) :
    (process.place? start steps).isSome := by
  induction steps using Nat.strongRecOn with
  | ind steps ih =>
      rcases Nat.lt_or_ge steps again with hlt | hge
      · exact place?_isSome_of_le (Nat.le_of_lt hlt) (by rw [returns.back]; rfl)
      · obtain ⟨more, rfl⟩ := Nat.exists_eq_add_of_le hge
        rw [returns.place?_add]
        exact ih _ (Nat.add_lt_add_right returns.before more)

/-- No id on a course that returns has a form. -/
theorem blank (returns : process.Returns start first again id) (steps : Nat) :
    ∃ here node, process.place? start steps = some here ∧ process.node? here = some node ∧
      node.form = none := by
  obtain ⟨next, hnext⟩ := Option.isSome_iff_exists.mp (returns.goes (steps + 1))
  obtain ⟨here, hthere, hgoesOn⟩ := Option.bind_eq_some_iff.mp hnext
  obtain ⟨node, edge, hknown, blank, -⟩ := next?_eq_some_iff.mp hgoesOn
  exact ⟨here, node, hthere, hknown, blank⟩

/-- From where it meets an id that it will meet again, the course goes round in a circle. -/
theorem onCircle (returns : process.Returns start first again id) {here : NodeId}
    (hthere : process.place? start steps = some here) (hle : first ≤ steps) :
    process.OnCircle here := by
  obtain ⟨more, rfl⟩ := Nat.exists_eq_add_of_le hle
  have hbefore := returns.before
  refine ⟨again - first, by omega, ?_⟩
  calc
    process.place? here (again - first)
      = process.place? start (first + more + (again - first)) := place?_rest hthere _
    _ = process.place? start (again + more) := by congr 1; omega
    _ = process.place? start (first + more) := returns.place?_add more
    _ = some here := hthere

/-- Before that, the course meets the same id first. -/
theorem rest (returns : process.Returns start first again id) {here : NodeId}
    (hthere : process.place? start steps = some here) (hlt : steps < first) :
    process.Returns here (first - steps) (again - steps) id := by
  have hbefore := returns.before
  refine ⟨by omega, ?_, ?_, ?_⟩
  · rw [place?_rest hthere, Nat.add_sub_cancel' (Nat.le_of_lt hlt)]
    exact returns.there
  · rw [place?_rest hthere, Nat.add_sub_cancel' (by omega)]
    exact returns.back
  · intro i hi j hj hsame
    rw [place?_rest hthere, place?_rest hthere] at hsame
    have := returns.unrepeated (steps + i) (by omega) (steps + j) (by omega) hsame
    omega

end Returns

/-- In so many steps a course has stopped, or has returned, or it goes on and has met nothing
twice. -/
theorem ends_or_returns_or_goes (process : Process) (start : NodeId) (steps : Nat) :
    (∃ before < steps, ∃ last, process.Ends start before last) ∨
      (∃ again < steps, ∃ first id, process.Returns start first again id) ∨
        process.Unrepeated start steps ∧ (process.place? start steps).isSome := by
  induction steps with
  | zero => exact .inr (.inr ⟨fun i hi => absurd hi (Nat.not_lt_zero i), rfl⟩)
  | succ steps ih =>
      rcases ih with ⟨before, hlt, hends⟩ | ⟨again, hlt, hreturns⟩ | ⟨unrepeated, hgoes⟩
      · exact .inl ⟨before, Nat.lt_succ_of_lt hlt, hends⟩
      · exact .inr (.inl ⟨again, Nat.lt_succ_of_lt hlt, hreturns⟩)
      · obtain ⟨here, hthere⟩ := Option.isSome_iff_exists.mp hgoes
        by_cases hknown : ∃ first < steps, process.place? start first = some here
        · obtain ⟨first, hbefore, hearlier⟩ := hknown
          exact .inr (.inl ⟨steps, Nat.lt_succ_self _, first, here, hbefore, hearlier, hthere,
            unrepeated⟩)
        · cases hgoesOn : process.next? here with
          | none => exact .inl ⟨steps, Nat.lt_succ_self _, here, hthere, hgoesOn⟩
          | some next =>
              refine .inr (.inr ⟨Unrepeated.of_lt ?_, ?_⟩)
              · intro i j hlt hle hsame
                rcases Nat.lt_succ_iff_lt_or_eq.mp hle with hearlier | rfl
                · have := unrepeated i (Nat.lt_trans hlt hearlier) j hearlier hsame
                  omega
                · exact hknown ⟨i, hlt, hsame.trans hthere⟩
              · show ((process.place? start steps).bind process.next?).isSome
                rw [hthere, Option.bind_some, hgoesOn]
                rfl

/-- A course stops or returns within as many steps as there are nodes. -/
theorem ends_or_returns (process : Process) (start : NodeId) :
    (∃ steps ≤ process.nodes.length, ∃ last, process.Ends start steps last) ∨
      ∃ again ≤ process.nodes.length, ∃ first id, process.Returns start first again id := by
  rcases process.ends_or_returns_or_goes start (process.nodes.length + 1) with
    ⟨steps, hlt, hends⟩ | ⟨again, hlt, hreturns⟩ | ⟨unrepeated, hgoes⟩
  · exact .inl ⟨steps, Nat.le_of_lt_succ hlt, hends⟩
  · exact .inr ⟨again, Nat.le_of_lt_succ hlt, hreturns⟩
  · exact absurd (unrepeated.le_length_nodes hgoes) (Nat.not_succ_le_self _)

theorem place?_mul_period {period : Nat} (hback : process.place? id period = some id)
    (rounds : Nat) : process.place? id (rounds * period) = some id := by
  induction rounds with
  | zero => rw [Nat.zero_mul]; rfl
  | succ rounds ih => rw [Nat.succ_mul, ← place?_rest ih, hback]

/-- The first id that the course from an id on a circle meets twice is that id. -/
theorem OnCircle.returns (circle : process.OnCircle id) :
    ∃ again, process.Returns id 0 again id := by
  obtain ⟨period, hpositive, hback⟩ := circle
  rcases process.ends_or_returns id with ⟨steps, -, last, ends⟩ | ⟨again, -, first, met, returns⟩
  · -- going round once more than there are steps is too far
    have hfar : steps + 1 ≤ (steps + 1) * period := Nat.le_mul_of_pos_right _ hpositive
    have hgoes := ends.le (by rw [place?_mul_period hback (steps + 1)]; rfl)
    omega
  · have hbefore := returns.before
    rcases Nat.eq_zero_or_pos first with rfl | hlater
    · obtain rfl : id = met := Option.some.inj returns.there
      exact ⟨again, returns⟩
    · -- the id itself would have been met again before
      have hfar : first ≤ first * period := Nat.le_mul_of_pos_right _ hpositive
      obtain ⟨more, hmore⟩ := Nat.exists_eq_add_of_le hfar
      have hsame : process.place? id 0 = process.place? id (again - first) :=
        calc
          process.place? id 0 = process.place? id (first * period) :=
            (place?_mul_period hback first).symm
          _ = process.place? id (again + more) := by rw [hmore, returns.place?_add]
          _ = process.place? id (first * period + (again - first)) := by congr 1; omega
          _ = process.place? id (again - first) :=
            (place?_rest (place?_mul_period hback first) _).symm
      have := returns.unrepeated 0 (by omega) (again - first) (by omega) hsame
      omega

theorem OnCircle.resolveForward_eq (circle : process.OnCircle id) :
    process.resolveForward id = .cycle id := by
  obtain ⟨again, returns⟩ := circle.returns
  exact returns.resolveForward_eq

end Process

/-- For every graph, with circles, loops, repeated ids and edges that lead nowhere: a walk has its
result when it has looked at one id more than there are nodes. Its course either stops at an id,
and what is there is the result; or it returns to an id, and the result is a cycle at the first one
it meets twice, while no id on the course has a form. From every id on the course the walk ends as
it does from the start, except that from an id on a circle it ends in a cycle at that id. And from a
node with a form that a walk has come to, the walk comes to that node. -/
theorem walk_is_constant_along_its_course (process : Process) (start : NodeId) :
    process.walkWithin (process.nodes.length + 1) [] start =
      some (process.resolveForward start) ∧
    ((∃ steps ≤ process.nodes.length, ∃ last, process.Ends start steps last ∧
        process.Stops last (process.resolveForward start)) ∨
      ∃ again ≤ process.nodes.length, ∃ first id, process.Returns start first again id ∧
        process.resolveForward start = .cycle id ∧
        ∀ steps, ∃ here node, process.place? start steps = some here ∧
          process.node? here = some node ∧ node.form = none) ∧
    (∀ steps here, process.place? start steps = some here →
      (process.OnCircle here →
        process.resolveForward here = .cycle here ∧
          ∃ id, process.resolveForward start = .cycle id) ∧
      (¬ process.OnCircle here →
        process.resolveForward here = process.resolveForward start)) ∧
    ∀ node, process.resolveForward start = .form node →
      process.resolveForward node.id = .form node := by
  refine ⟨?_, ?_, ?_, fun node hwalk => Process.resolveForward_fixed hwalk⟩
  · apply Process.walkWithin_eq_some
    exact Nat.lt_succ_of_le List.countP_le_length
  · rcases process.ends_or_returns start with
      ⟨steps, hle, last, ends⟩ | ⟨again, hle, first, id, returns⟩
    · exact .inl ⟨steps, hle, last, ends, ends.stops⟩
    · exact .inr ⟨again, hle, first, id, returns, returns.resolveForward_eq, returns.blank⟩
  · intro steps here hthere
    rcases process.ends_or_returns start with
      ⟨_, -, last, ends⟩ | ⟨again, -, first, id, returns⟩
    · have hsame : process.resolveForward here = process.resolveForward start :=
        (ends.rest hthere).resolveForward_eq.trans ends.resolveForward_eq.symm
      refine ⟨fun circle => ?_, fun _ => hsame⟩
      rw [← hsame]
      exact ⟨circle.resolveForward_eq, here, circle.resolveForward_eq⟩
    · refine ⟨fun circle => ⟨circle.resolveForward_eq, id, returns.resolveForward_eq⟩, ?_⟩
      intro hstraight
      rcases Nat.lt_or_ge steps first with hlt | hge
      · exact (returns.rest hthere hlt).resolveForward_eq.trans returns.resolveForward_eq.symm
      · exact absurd (returns.onCircle hthere hge) hstraight

/-- A desk behind the start, and a gateway into a circle of two others. -/
def Roundabout.process : Process :=
  .ofGraph ⟨⟨33⟩⟩ "Roundabout" none
    [.bare ⟨"start"⟩ .start, .step ⟨"desk"⟩ ⟨⟨11⟩⟩, .bare ⟨"entry"⟩ .gateway,
      .bare ⟨"left"⟩ .gateway, .bare ⟨"right"⟩ .gateway]
    [.between ⟨"begin"⟩ ⟨"start"⟩ ⟨"desk"⟩, .between ⟨"enter"⟩ ⟨"entry"⟩ ⟨"left"⟩,
      .between ⟨"over"⟩ ⟨"left"⟩ ⟨"right"⟩, .between ⟨"back"⟩ ⟨"right"⟩ ⟨"left"⟩]

/-- The walks from the start and from the desk behind it end at the desk. The walk from the entry
ends in a cycle at the first gateway of the circle, the one from the second gateway at that one. -/
theorem walk_is_constant_along_its_course_roundabout :
    let process := Roundabout.process
    (process.place? ⟨"start"⟩ 1 = some ⟨"desk"⟩ ∧ ¬ process.OnCircle ⟨"desk"⟩ ∧
      process.resolveForward ⟨"desk"⟩ = process.resolveForward ⟨"start"⟩) ∧
    (process.resolveForward ⟨"start"⟩ = .form (.step ⟨"desk"⟩ ⟨⟨11⟩⟩) ∧
      process.resolveForward ⟨"desk"⟩ = .form (.step ⟨"desk"⟩ ⟨⟨11⟩⟩)) ∧
    process.place? ⟨"entry"⟩ 2 = some ⟨"right"⟩ ∧ process.OnCircle ⟨"right"⟩ ∧
      process.resolveForward ⟨"right"⟩ = .cycle ⟨"right"⟩ ∧
      ∃ id, process.resolveForward ⟨"entry"⟩ = .cycle id := by
  intro process
  obtain ⟨-, -, honward, hfixed⟩ := walk_is_constant_along_its_course process ⟨"start"⟩
  obtain ⟨-, -, haround, -⟩ := walk_is_constant_along_its_course process ⟨"entry"⟩
  have hwalk : process.resolveForward ⟨"start"⟩ = .form (.step ⟨"desk"⟩ ⟨⟨11⟩⟩) := by
    decide +kernel
  have hnext : process.place? ⟨"start"⟩ 1 = some ⟨"desk"⟩ := by decide +kernel
  have hstraight : ¬ process.OnCircle ⟨"desk"⟩ := fun circle =>
    nomatch circle.resolveForward_eq.symm.trans (hfixed _ hwalk)
  have hthere : process.place? ⟨"entry"⟩ 2 = some ⟨"right"⟩ := by decide +kernel
  have circle : process.OnCircle ⟨"right"⟩ := ⟨2, by decide, by decide +kernel⟩
  exact ⟨⟨hnext, hstraight, (honward 1 _ hnext).2 hstraight⟩, ⟨hwalk, hfixed _ hwalk⟩, hthere,
    circle, (haround 2 _ hthere).1 circle⟩

end FormFlow
