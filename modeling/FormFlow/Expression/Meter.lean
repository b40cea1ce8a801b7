import FormFlow.Expression.Fault

/-!
# Metered evaluation

An evaluation may be limited in two ways: by a budget of steps and by a deadline. A meter counts
both down, one step at a time; the deadline is given as the number of steps that finish before it
passes.
-/

namespace FormFlow

structure Meter where
  /-- Steps that may still be taken, if they are limited. -/
  fuel : Option Nat
  /-- Steps that still finish before the deadline, if there is one. -/
  untilDeadline : Option Nat
deriving DecidableEq

namespace Meter

def unlimited : Meter := ⟨none, none⟩

/-- A budget of steps and a deadline that is far away. -/
def withFuel (fuel : Nat) : Meter := ⟨some fuel, none⟩

/-- Take one step. Without fuel nothing is spent; a step after the deadline spends its fuel and
fails. -/
def tick (meter : Meter) : Except EvalFault Unit × Meter :=
  match meter.fuel with
  | some 0 => (.error .fuelExhausted, meter)
  | fuel =>
      let left : Meter := ⟨fuel.map (· - 1), meter.untilDeadline.map (· - 1)⟩
      if meter.untilDeadline = some 0 then (.error .deadlineExceeded, left) else (.ok (), left)

end Meter

/-- A computation that spends from a meter and may fail; what it spent stays spent. -/
abbrev Metered := ExceptT EvalFault (StateM Meter)

namespace Metered

/-- The result and the meter afterwards. -/
def runWith {α : Type} (computation : Metered α) (meter : Meter) : Except EvalFault α × Meter :=
  computation.run.run meter

/-- One step of the meter. -/
def tick : Metered Unit :=
  ExceptT.mk Meter.tick

end Metered

end FormFlow
