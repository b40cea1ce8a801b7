import FormFlow.Script.Basic

/-!
# Metered runs

What is metered has an outcome and takes a number of steps that the meter has no say in: the outcome
is a value or a type fault, and comes after the last step. The meter decides only whether the run
gets there, so a run on more fuel ends in no other way, unless the fuel ran out before. A condition
that ends with a value takes one step for each node of its tree.
-/

namespace FormFlow

namespace Meter

/-- So many steps finish before the deadline, if there is one. -/
def InTime (meter : Meter) (steps : Nat) : Prop :=
  ∀ last, meter.untilDeadline = some last → steps ≤ last

/-- The meter after so many steps. -/
def spend (meter : Meter) (steps : Nat) : Meter :=
  ⟨meter.fuel.map (· - steps), meter.untilDeadline.map (· - steps)⟩

theorem spend_zero (meter : Meter) : meter.spend 0 = meter := by
  obtain ⟨fuel, deadline⟩ := meter
  simp only [spend, Nat.sub_zero, Option.map_id']

theorem spend_succ (meter : Meter) (steps : Nat) :
    meter.spend (steps + 1) = (meter.spend 1).spend steps := by
  simp only [spend, Option.map_map, Function.comp_def, Nat.sub_sub, Nat.add_comm steps 1]

theorem InTime.spend {meter : Meter} {steps : Nat} (h : meter.InTime (steps + 1)) :
    (meter.spend 1).InTime steps := by
  intro last hlast
  obtain ⟨before, hbefore, rfl⟩ := Option.map_eq_some_iff.mp hlast
  have hle := h before hbefore
  omega

/-- A step is taken if there is fuel for it and time left. -/
theorem tick_of_inTime {meter : Meter} (hfuel : meter.fuel ≠ some 0) (htime : meter.InTime 1) :
    meter.tick = (.ok (), meter.spend 1) := by
  obtain ⟨fuel, deadline⟩ := meter
  have hlate : deadline ≠ some 0 := by
    rintro rfl
    exact absurd (htime 0 rfl) (by omega)
  unfold tick
  split
  next h => exact absurd h hfuel
  next => rw [if_neg hlate]; rfl

theorem tick_of_no_fuel {meter : Meter} (h : meter.fuel = some 0) :
    meter.tick = (.error .fuelExhausted, meter) := by
  obtain ⟨fuel, deadline⟩ := meter
  subst h
  rfl

end Meter

namespace Metered

variable {α β : Type}

theorem runWith_bind (computation : Metered α) (next : α → Metered β) (meter : Meter) :
    (computation >>= next).runWith meter =
      match computation.runWith meter with
      | (.ok value, left) => (next value).runWith left
      | (.error fault, left) => (.error fault, left) := by
  have h : (computation >>= next).runWith meter =
      (ExceptT.bindCont next (computation.runWith meter).1) (computation.runWith meter).2 := rfl
  rw [h]
  obtain ⟨answer, left⟩ := computation.runWith meter
  cases answer <;> rfl

/-- End at once, with a value or a type fault. -/
def conclude (outcome : Except TypeFault α) : Metered α :=
  ExceptT.mk (pure (outcome.mapError .type))

/-- Take some steps and end with an outcome. -/
def after (outcome : Except TypeFault α) : Nat → Metered α
  | 0 => conclude outcome
  | steps + 1 => do
    tick
    after outcome steps

/-! ## What a meter does to a run -/

section Run

variable (outcome : Except TypeFault α)

theorem runWith_after_zero (meter : Meter) :
    (after outcome 0).runWith meter = (outcome.mapError .type, meter) := rfl

/-- A run goes on with the meter that its first step leaves. -/
theorem runWith_after_succ {steps : Nat} {meter left : Meter} (h : meter.tick = (.ok (), left)) :
    (after outcome (steps + 1)).runWith meter = (after outcome steps).runWith left := by
  have hstep : tick.runWith meter = (.ok (), left) := h
  rw [after, runWith_bind, hstep]

/-- A run whose first step fails stops there. -/
theorem runWith_after_stop {steps : Nat} {meter left : Meter} {fault : EvalFault}
    (h : meter.tick = (.error fault, left)) :
    (after outcome (steps + 1)).runWith meter = (.error fault, left) := by
  have hstep : tick.runWith meter = (.error fault, left) := h
  rw [after, runWith_bind, hstep]

/-- A run with fuel and time for its steps ends with its outcome. -/
theorem runWith_after_of_enough {steps : Nat} {meter : Meter}
    (hfuel : ∀ fuel, meter.fuel = some fuel → steps ≤ fuel) (htime : meter.InTime steps) :
    (after outcome steps).runWith meter = (outcome.mapError .type, meter.spend steps) := by
  induction steps generalizing meter with
  | zero => rw [runWith_after_zero, Meter.spend_zero]
  | succ steps ih =>
      have hsome : meter.fuel ≠ some 0 := fun h => absurd (hfuel 0 h) (by omega)
      have hfirst : meter.InTime 1 := fun last h => Nat.le_trans (by omega) (htime last h)
      rw [runWith_after_succ outcome (Meter.tick_of_inTime hsome hfirst), meter.spend_succ steps]
      apply ih
      · intro fuel h
        obtain ⟨before, hbefore, rfl⟩ := Option.map_eq_some_iff.mp h
        have hle := hfuel before hbefore
        omega
      · exact htime.spend

/-- An unlimited meter stays unlimited. -/
theorem runWith_after_unlimited (steps : Nat) :
    (after outcome steps).runWith .unlimited = (outcome.mapError .type, .unlimited) := by
  rw [runWith_after_of_enough]
  · rfl
  · intro fuel hfuel
    cases hfuel
  · intro last hlast
    cases hlast

/-- A run with less fuel than steps spends it all and stops. -/
theorem runWith_after_of_short {steps fuel : Nat} {meter : Meter} (hfuel : meter.fuel = some fuel)
    (hshort : fuel < steps) (htime : meter.InTime fuel) :
    (after outcome steps).runWith meter = (.error .fuelExhausted, meter.spend fuel) := by
  induction steps generalizing fuel meter with
  | zero => omega
  | succ steps ih =>
      cases fuel with
      | zero =>
          rw [runWith_after_stop outcome (Meter.tick_of_no_fuel hfuel), Meter.spend_zero]
      | succ fuel =>
          have hsome : meter.fuel ≠ some 0 := by simp [hfuel]
          have hfirst : meter.InTime 1 := fun last h => Nat.le_trans (by omega) (htime last h)
          rw [runWith_after_succ outcome (Meter.tick_of_inTime hsome hfirst), meter.spend_succ fuel]
          apply ih
          · simp [Meter.spend, hfuel]
          · omega
          · exact htime.spend

/-- On more fuel a run ends as before, unless the fuel ran out before, whatever the deadline. -/
theorem runWith_after_more {steps fuel more : Nat} {deadline : Option Nat} (hle : fuel ≤ more)
    (h : ((after outcome steps).runWith ⟨some fuel, deadline⟩).1 ≠ .error .fuelExhausted) :
    ((after outcome steps).runWith ⟨some more, deadline⟩).1 =
      ((after outcome steps).runWith ⟨some fuel, deadline⟩).1 := by
  induction steps generalizing fuel more deadline with
  | zero => rfl
  | succ steps ih =>
      obtain _ | fuel := fuel
      · exact absurd (congrArg Prod.fst (runWith_after_stop outcome rfl)) h
      obtain _ | more := more
      · omega
      obtain _ | _ | last := deadline
      · rw [runWith_after_succ outcome rfl] at h ⊢
        rw [runWith_after_succ outcome rfl]
        exact ih (Nat.le_of_succ_le_succ hle) h
      · rw [runWith_after_stop outcome rfl, runWith_after_stop outcome rfl]
      · rw [runWith_after_succ outcome rfl] at h ⊢
        rw [runWith_after_succ outcome rfl]
        exact ih (Nat.le_of_succ_le_succ hle) h

end Run

/-! ## Runs that end on their own -/

/-- The run has an outcome and takes a number of steps, and there is nothing else to it. -/
def Takes (computation : Metered α) (outcome : Except TypeFault α) (steps : Nat) : Prop :=
  computation = after outcome steps

/-- A run that takes exactly `steps` steps: it ends with a value or a type fault, and so does every
run with fuel and time for the steps, which costs just them; with less fuel it stops when the fuel
is spent; and more fuel never changes how it ends, unless the fuel ran out. -/
structure Exact (computation : Metered α) (steps : Nat) : Prop where
  decided : ∀ fault, (computation.runWith .unlimited).1 = .error fault →
    ∃ cause, fault = .type cause
  enough : ∀ fuel deadline, steps ≤ fuel → Meter.InTime ⟨some fuel, deadline⟩ steps →
    computation.runWith ⟨some fuel, deadline⟩ =
      ((computation.runWith .unlimited).1, ⟨some (fuel - steps), deadline.map (· - steps)⟩)
  short : ∀ fuel deadline, fuel < steps → Meter.InTime ⟨some fuel, deadline⟩ fuel →
    computation.runWith ⟨some fuel, deadline⟩ =
      (.error .fuelExhausted, ⟨some 0, deadline.map (· - fuel)⟩)
  more : ∀ fuel more deadline, fuel ≤ more →
    (computation.runWith ⟨some fuel, deadline⟩).1 ≠ .error .fuelExhausted →
    (computation.runWith ⟨some more, deadline⟩).1 = (computation.runWith ⟨some fuel, deadline⟩).1

namespace Takes

variable {computation : Metered α} {outcome : Except TypeFault α} {steps : Nat}

/-- Without limits a run ends with its outcome. -/
theorem runWith_unlimited (h : computation.Takes outcome steps) :
    (computation.runWith .unlimited).1 = outcome.mapError .type := by
  rw [h, runWith_after_unlimited]

/-- What a run within some limits has for a value is its outcome. -/
theorem outcome_of_run (h : computation.Takes outcome steps) {meter : Meter} {value : α}
    (hrun : (computation.runWith meter).1 = .ok value) : outcome = .ok value := by
  subst h
  induction steps generalizing meter with
  | zero =>
      rw [runWith_after_zero] at hrun
      cases outcome with
      | error cause => cases hrun
      | ok result => exact congrArg _ (Except.ok.inj hrun)
  | succ steps ih =>
      rcases htick : meter.tick with ⟨fault | _, left⟩
      · rw [runWith_after_stop outcome htick] at hrun
        cases hrun
      · rw [runWith_after_succ outcome htick] at hrun
        exact ih hrun

theorem exact (h : computation.Takes outcome steps) : computation.Exact steps := by
  have hfree := h.runWith_unlimited
  constructor
  · intro fault hfault
    rw [hfree] at hfault
    cases outcome with
    | error cause => exact ⟨cause, (Except.error.inj hfault).symm⟩
    | ok value => cases hfault
  · intro fuel deadline hle htime
    rw [hfree, h]
    apply runWith_after_of_enough
    · rintro _ ⟨⟩
      exact hle
    · exact htime
  · intro fuel deadline hshort htime
    have hfuel : Meter.fuel ⟨some fuel, deadline⟩ = some fuel := rfl
    have hstop := runWith_after_of_short outcome hfuel hshort htime
    rw [h, hstop, Meter.spend]
    simp
  · intro fuel more deadline hle hne
    subst h
    exact runWith_after_more outcome hle hne

end Takes

theorem takes_pure (value : α) : (pure value : Metered α).Takes (.ok value) 0 := rfl

theorem takes_throw (cause : TypeFault) :
    (throw (.type cause) : Metered α).Takes (.error cause) 0 := rfl

theorem takes_tick : tick.Takes (.ok ()) 1 :=
  (bind_pure tick).symm

/-- The steps of a run that ends with a value are followed by those of the run that goes on. -/
theorem Takes.bind {computation : Metered α} {next : α → Metered β} {value : α}
    {outcome : Except TypeFault β} {steps more : Nat} (h : computation.Takes (.ok value) steps)
    (hnext : (next value).Takes outcome more) :
    (computation >>= next).Takes outcome (steps + more) := by
  subst h
  induction steps with
  | zero =>
      rw [Nat.zero_add]
      exact hnext
  | succ steps ih =>
      rw [Nat.succ_add, after, bind_assoc]
      exact congrArg (fun rest => tick >>= fun _ => rest) ih

/-- Nothing comes after a type fault. -/
theorem Takes.bind_fault {computation : Metered α} {cause : TypeFault} {steps : Nat}
    (h : computation.Takes (.error cause) steps) (next : α → Metered β) :
    (computation >>= next).Takes (.error cause) steps := by
  subst h
  induction steps with
  | zero => rfl
  | succ steps ih =>
      rw [after, bind_assoc]
      exact congrArg (fun rest => tick >>= fun _ => rest) ih

/-- The run ends on its own, whatever the meter. -/
def Ends (computation : Metered α) : Prop :=
  ∃ outcome steps, computation.Takes outcome steps

/-- A run that ends with a value within some limits ends with it without any. -/
theorem Ends.runWith_unlimited {computation : Metered α} (h : computation.Ends) {meter : Meter}
    {value : α} (hrun : (computation.runWith meter).1 = .ok value) :
    (computation.runWith .unlimited).1 = .ok value := by
  obtain ⟨outcome, steps, htakes⟩ := h
  rw [htakes.runWith_unlimited, htakes.outcome_of_run hrun]
  rfl

/-- The run ends on its own, after exactly `full` steps if it ends with a value. -/
def Counts (computation : Metered α) (full : Nat) : Prop :=
  ∃ outcome steps, computation.Takes outcome steps ∧ ∀ value, outcome = .ok value → steps = full

theorem counts_pure (value : α) : (pure value : Metered α).Counts 0 :=
  ⟨_, _, takes_pure value, fun _ _ => rfl⟩

theorem counts_throw (cause : TypeFault) : (throw (.type cause) : Metered α).Counts 0 :=
  ⟨_, _, takes_throw cause, fun _ _ => rfl⟩

theorem counts_tick : tick.Counts 1 :=
  ⟨_, _, takes_tick, fun _ _ => rfl⟩

theorem Counts.bind {computation : Metered α} {next : α → Metered β} {full more : Nat}
    (h : computation.Counts full) (hnext : ∀ value, (next value).Counts more) :
    (computation >>= next).Counts (full + more) := by
  obtain ⟨outcome, steps, htakes, hfull⟩ := h
  cases outcome with
  | error cause => exact ⟨_, _, htakes.bind_fault next, fun _ h => nomatch h⟩
  | ok value =>
      obtain ⟨last, rest, hrest, hmore⟩ := hnext value
      refine ⟨last, _, htakes.bind hrest, fun result h => ?_⟩
      rw [hfull value rfl, hmore result h]

theorem Counts.ends {computation : Metered α} {full : Nat} (h : computation.Counts full) :
    computation.Ends := by
  obtain ⟨outcome, steps, htakes, -⟩ := h
  exact ⟨outcome, steps, htakes⟩

theorem Ends.bind {computation : Metered α} {next : α → Metered β} (h : computation.Ends)
    (hnext : ∀ value, (next value).Ends) : (computation >>= next).Ends := by
  obtain ⟨outcome, steps, htakes⟩ := h
  cases outcome with
  | error cause => exact ⟨_, _, htakes.bind_fault next⟩
  | ok value =>
      obtain ⟨last, rest, hrest⟩ := hnext value
      exact ⟨last, _, htakes.bind hrest⟩

end Metered

open Metered

/-! ## Conditions -/

namespace Expr

mutual

/-- How many nodes a tree has. -/
def nodes : Expr → Nat
  | .literal _ | .path _ _ => 1
  | .list items => 1 + nodesOfItems items
  | .compare _ left right | .and left right | .or left right => 1 + (nodes left + nodes right)

def nodesOfItems : List Expr → Nat
  | [] => 0
  | item :: rest => nodes item + nodesOfItems rest

end

/-- A step, two values one after the other, and what is made of them without a further step. -/
theorem counts_pair {left right : Metered Value} {finish : Value → Value → Metered Value}
    {m n : Nat} (hleft : left.Counts m) (hright : right.Counts n)
    (hfinish : ∀ l r, (finish l r).Counts 0) :
    Counts (do tick; let l ← left; let r ← right; finish l r) (1 + (m + n)) := by
  apply counts_tick.bind
  intro _
  apply hleft.bind
  intro l
  exact hright.bind fun r => hfinish l r

variable (context : Fields Value)

mutual

/-- A tree takes a step for each of its nodes, unless it fails before it comes to the last. -/
theorem eval_counts : (tree : Expr) → (tree.eval context).Counts tree.nodes
  | .literal value => by
      rw [eval, nodes]
      exact counts_tick.bind fun _ => counts_pure _
  | .path root fields => by
      rw [eval, nodes]
      exact counts_tick.bind fun _ => counts_pure _
  | .list items => by
      rw [eval, nodes]
      apply counts_tick.bind
      intro _
      exact (evalItems_counts items).bind fun _ => counts_pure _
  | .compare op left right => by
      rw [eval, nodes]
      apply counts_pair (eval_counts left) (eval_counts right)
      intro l r
      cases Value.compare op l r with
      | ok outcome => exact counts_pure _
      | error cause => exact counts_throw cause
  | .and left right => by
      rw [eval, nodes]
      exact counts_pair (eval_counts left) (eval_counts right) fun _ _ => counts_pure _
  | .or left right => by
      rw [eval, nodes]
      exact counts_pair (eval_counts left) (eval_counts right) fun _ _ => counts_pure _

theorem evalItems_counts : (items : List Expr) →
    (evalItems context items).Counts (nodesOfItems items)
  | [] => by
      rw [evalItems, nodesOfItems]
      exact counts_pure _
  | item :: rest => by
      rw [evalItems, nodesOfItems]
      apply (eval_counts item).bind
      intro value
      exact (evalItems_counts rest).bind fun _ => counts_pure _

end

theorem holds_counts (tree : Expr) : (tree.holds context).Counts tree.nodes :=
  (tree.eval_counts context).bind fun _ => counts_pure _

end Expr

/-! ## Scripts -/

namespace Script

variable (context : Fields Value)

theorem guardHolds_ends (guardedBy : Option Expr) : (guardHolds guardedBy context).Ends := by
  cases guardedBy with
  | none => exact (counts_pure true).ends
  | some condition => exact (condition.holds_counts context).ends

theorem runVisibility_ends (sofar : Fields Permission) (statements : List VisibilityStatement) :
    (runVisibility context sofar statements).Ends := by
  induction statements generalizing sofar with
  | nil => exact (counts_pure sofar).ends
  | cons statement rest ih => exact (guardHolds_ends context _).bind fun applies => ih _

theorem runRules_ends (rules : List StepRule) : (runRules context rules).Ends := by
  induction rules with
  | nil => exact (counts_pure false).ends
  | cons rule rest ih =>
      apply (guardHolds_ends context rule.guardedBy).bind
      intro applies
      cases applies with
      | true => exact (counts_pure _).ends
      | false => exact ih

theorem runAssignments_ends (sofar : Bool) (results : List Expr) :
    (runAssignments context sofar results).Ends := by
  induction results generalizing sofar with
  | nil => exact (counts_pure sofar).ends
  | cons result rest ih => exact (result.holds_counts context).ends.bind fun next => ih next

theorem fieldPermissions_ends (script : Script) : (script.fieldPermissions context).Ends := by
  cases script with
  | visibility statements => exact runVisibility_ends context [] statements
  | rules => exact (counts_pure _).ends
  | assignments => exact (counts_pure _).ends

theorem allows_ends (script : Script) : (script.allows context).Ends := by
  cases script with
  | visibility => exact (counts_pure true).ends
  | rules ordered => exact runRules_ends context ordered
  | assignments ordered => exact runAssignments_ends context true ordered

end Script

/-- Metering changes nothing but how far a run gets. In every context, a condition and a script,
asked for permissions or for a step, take an exact number of steps; and a condition that ends with
a value takes as many as its tree has nodes, whatever the context. -/
theorem metering_is_exact (context : Fields Value) :
    (∀ tree : Expr, ∃ steps, (tree.eval context).Exact steps ∧
      ∀ value, ((tree.eval context).runWith .unlimited).1 = .ok value → steps = tree.nodes) ∧
    (∀ script : Script, ∃ steps, (script.fieldPermissions context).Exact steps) ∧
    ∀ script : Script, ∃ steps, (script.allows context).Exact steps := by
  refine ⟨?_, ?_, ?_⟩
  · intro tree
    obtain ⟨outcome, steps, htakes, hfull⟩ := tree.eval_counts context
    refine ⟨steps, htakes.exact, ?_⟩
    intro value h
    rw [htakes.runWith_unlimited] at h
    cases outcome with
    | error cause => cases h
    | ok result => exact hfull result rfl
  · intro script
    obtain ⟨outcome, steps, htakes⟩ := script.fieldPermissions_ends context
    exact ⟨steps, htakes.exact⟩
  · intro script
    obtain ⟨outcome, steps, htakes⟩ := script.allows_ends context
    exact ⟨steps, htakes.exact⟩

/-- The guard of a clerk's large purchase has seven nodes: seven steps are enough for it, and six
are not. -/
theorem metering_is_exact_large :
    let context : Fields Value :=
      [("role_ids", .list [.string "clerk"]), ("size", .string "large")]
    let large : Expr := .compare .eq (.path "size" []) (.literal (.text "large"))
    let clerk : Expr := .compare .within (.literal (.text "clerk")) (.path "role_ids" [])
    let guard := ((Expr.and large clerk).eval context)
    (Expr.and large clerk).nodes = 7 ∧
      guard.runWith (.withFuel 7) = (.ok (.bool true), .withFuel 0) ∧
      (guard.runWith (.withFuel 6)).1 = .error .fuelExhausted := by
  intro context large clerk guard
  obtain ⟨steps, hexact, hnodes⟩ := (metering_is_exact context).1 (.and large clerk)
  have hfree : (guard.runWith .unlimited).1 = .ok (.bool true) := by with_unfolding_all rfl
  have hseven : (Expr.and large clerk).nodes = 7 := by with_unfolding_all rfl
  have hsteps : steps = 7 := (hnodes _ hfree).trans hseven
  subst hsteps
  have hnever : ∀ fuel steps, Meter.InTime ⟨some fuel, none⟩ steps := fun _ _ _ h => nomatch h
  refine ⟨hseven, ?_, ?_⟩
  · have henough := hexact.enough 7 none (Nat.le_refl 7) (hnever 7 7)
    rwa [hfree] at henough
  · exact congrArg Prod.fst (hexact.short 6 none (by decide) (hnever 6 6))

end FormFlow
