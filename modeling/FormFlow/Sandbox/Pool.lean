/-!
# Worker pools

A pool runs at most a fixed number of jobs at once, each under a time limit that covers waiting
for a permit as well as running. A permit belongs to its job until the job returns or crashes, so
a job that never finishes keeps it although the caller has stopped waiting. A pool that is shut
down starts nothing.
-/

namespace FormFlow

/-- What a job does once it has been started. -/
inductive Job (α : Type) where
  /-- It returns a result, which may depend on the milliseconds it was given. -/
  | returns (result : Nat → α)
  | crashes
  /-- It never finishes. -/
  | stalls

/-- Why a job has no result. -/
inductive PoolFault where
  /-- The time limit passed, in milliseconds. -/
  | timeout (limit : Nat)
  /-- The pool is shut down. -/
  | closed
  /-- The job crashed. -/
  | worker
deriving DecidableEq

structure Pool where
  /-- How many more jobs may run at once. -/
  free : Nat
  closed : Bool
  /-- The time limit of each job, in milliseconds. -/
  timeout : Nat
deriving DecidableEq

namespace Pool

/-- A pool for `limit` jobs at once, and for one if the limit is zero. -/
def create (limit timeout : Nat) : Pool :=
  ⟨max 1 limit, false, timeout⟩

/-- What a job that finishes yields: nothing is in time for a limit of zero. -/
def inTime {α : Type} (pool : Pool) (outcome : Except PoolFault α) : Except PoolFault α :=
  if pool.timeout = 0 then .error (.timeout 0) else outcome

/-- Run a job and wait for it. -/
def run {α : Type} (pool : Pool) (job : Job α) : Except PoolFault α × Pool :=
  if pool.closed then (.error .closed, pool)
  else
    match pool.free with
    | 0 => (.error (.timeout pool.timeout), pool)
    | others + 1 =>
        match job with
        | .returns result => (pool.inTime (.ok (result pool.timeout)), pool)
        | .crashes => (pool.inTime (.error .worker), pool)
        | .stalls => (.error (.timeout pool.timeout), { pool with free := others })

/-- Refuse every later job. -/
def shutdown (pool : Pool) : Pool :=
  { pool with closed := true }

variable {α : Type} {pool : Pool}

/-- A job that never finishes keeps its permit, and no job changes anything else of a pool. -/
theorem run_snd (pool : Pool) (job : Job α) :
    (pool.run job).2 = pool ∨
      job = .stalls ∧ ∃ others, (pool.run job).2 = { pool with free := others } := by
  unfold run
  split
  · exact .inl rfl
  split
  · exact .inl rfl
  · rename_i others _
    cases job with
    | returns | crashes => exact .inl rfl
    | stalls => exact .inr ⟨rfl, others, rfl⟩

/-- What becomes of a job that never finishes does not depend on the permits. -/
theorem run_stalls_fst (free : Nat) :
    (run { pool with free } (.stalls : Job α)).1 = (pool.run .stalls).1 := by
  obtain ⟨before, closed, timeout⟩ := pool
  cases closed <;> cases free <;> cases before <;> rfl

end Pool

/-- Digits of a fraction with `count` places, without zeros at the end. -/
def fractionDigits : Nat → Nat → List Char
  | 0, _ => []
  | count + 1, n =>
      if n = 0 then []
      else Nat.digitChar (n / Nat.pow 10 count % 10) :: fractionDigits count (n % Nat.pow 10 count)

/-- A time of so many milliseconds in its largest fitting unit. -/
def durationText (milliseconds : Nat) : String :=
  if milliseconds = 0 then "0ns"
  else if milliseconds < 1000 then s!"{milliseconds}ms"
  else
    match fractionDigits 3 (milliseconds % 1000) with
    | [] => s!"{milliseconds / 1000}s"
    | digits => s!"{milliseconds / 1000}.{String.ofList digits}s"

def PoolFault.message : PoolFault → String
  | .timeout limit => s!"timed out after {durationText limit}"
  | .closed => "worker pool is shut down"
  | .worker => "worker failed"

end FormFlow
