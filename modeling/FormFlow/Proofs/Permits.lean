import FormFlow.Sandbox.Pool
import Mathlib.Logic.Relation

/-!
# Permits

The books of a pool say which jobs hold a permit and which have been started. A job takes a permit
when it is started and holds it, whatever becomes of its caller, until it returns or crashes. So at
every moment the permits that are free and those that are held are as many as there were in the
beginning, and between two calls they are held by the jobs that never finish.
-/

namespace FormFlow

open Relation

variable {α : Type}

def Job.neverFinishes : Job α → Bool
  | .stalls => true
  | .returns _ | .crashes => false

/-- Jobs that finish are in time, unless the limit is zero. -/
theorem Pool.inTime_eq {pool : Pool} (htime : 0 < pool.timeout) (outcome : Except PoolFault α) :
    pool.inTime outcome = outcome :=
  if_neg (Nat.ne_of_gt htime)

/-- A pool with its books. -/
structure Ledger (α : Type) where
  pool : Pool
  /-- The jobs that hold a permit, the last one first. -/
  holders : List (Job α)
  /-- The jobs that have been started, the last one first. -/
  started : List (Job α)

/-- How far a call has come. -/
inductive Progress (α : Type) where
  /-- It waits for a permit. -/
  | waiting
  /-- Its job is running. -/
  | running
  /-- The caller has been told the outcome. -/
  | told (outcome : Except PoolFault α)

namespace Ledger

/-- One thing that happens during a call. The time limit passes only where nothing else can happen:
jobs that return or crash do so in time, and no other call runs meanwhile. -/
inductive Step : Job α → Ledger α × Progress α → Ledger α × Progress α → Prop
  /-- A pool that is shut down refuses the job. -/
  | refused {job : Job α} {ledger : Ledger α} (hclosed : ledger.pool.closed = true) :
      Step job (ledger, .waiting) (ledger, .told (.error .closed))
  /-- The job takes a permit and is started. -/
  | started {job : Job α} {pool : Pool} {holders started : List (Job α)} {others : Nat}
      (haccepting : pool.closed = false) (hroom : pool.free = others + 1) :
      Step job (⟨pool, holders, started⟩, .waiting)
        (⟨{ pool with free := others }, job :: holders, job :: started⟩, .running)
  /-- The job returns and gives its permit back. -/
  | returned {result : Nat → α} {pool : Pool} {holders started : List (Job α)} :
      Step (.returns result) (⟨pool, .returns result :: holders, started⟩, .running)
        (⟨{ pool with free := pool.free + 1 }, holders, started⟩, .told (.ok (result pool.timeout)))
  /-- The job crashes, and its permit is given back as it is unwound. -/
  | crashed {pool : Pool} {holders started : List (Job α)} :
      Step .crashes (⟨pool, .crashes :: holders, started⟩, .running)
        (⟨{ pool with free := pool.free + 1 }, holders, started⟩, .told (.error .worker))
  /-- The time limit passes while nobody gives a permit back. -/
  | kept {job : Job α} {ledger : Ledger α} (haccepting : ledger.pool.closed = false)
      (hfull : ledger.pool.free = 0)
      (hbusy : ∀ holder ∈ ledger.holders, holder.neverFinishes = true) :
      Step job (ledger, .waiting) (ledger, .told (.error (.timeout ledger.pool.timeout)))
  /-- The time limit passes while the job runs. The job goes on with its permit. -/
  | abandoned {ledger : Ledger α} :
      Step .stalls (ledger, .running) (ledger, .told (.error (.timeout ledger.pool.timeout)))

/-- What can be at some moment of a call. -/
def Leads (ledger : Ledger α) (job : Job α) (moment : Ledger α × Progress α) : Prop :=
  ReflTransGen (Step job) (ledger, .waiting) moment

/-- How the call for a job ends. -/
def settle (ledger : Ledger α) (job : Job α) : Except PoolFault α × Ledger α :=
  if ledger.pool.closed then (.error .closed, ledger)
  else
    match ledger.pool.free with
    | 0 => (.error (.timeout ledger.pool.timeout), ledger)
    | others + 1 =>
        let started := job :: ledger.started
        match job with
        | .returns result => (.ok (result ledger.pool.timeout), { ledger with started })
        | .crashes => (.error .worker, { ledger with started })
        | .stalls =>
            (.error (.timeout ledger.pool.timeout),
              ⟨{ ledger.pool with free := others }, .stalls :: ledger.holders, started⟩)

/-- As many permits as this are free or held. -/
def permits (ledger : Ledger α) : Nat :=
  ledger.pool.free + ledger.holders.length

variable {ledger after : Ledger α} {job : Job α} {outcome : Except PoolFault α}
  {moment next : Ledger α × Progress α}

theorem Step.permits_eq (step : Step job moment next) : next.1.permits = moment.1.permits := by
  cases step with
  | refused | kept | abandoned => rfl
  | started haccepting hroom =>
      simp only [permits, hroom, List.length_cons]
      omega
  | returned | crashed =>
      simp only [permits, List.length_cons]
      omega

/-- No permit is lost and none is made at any moment of a call. -/
theorem Leads.permits_eq (leads : ledger.Leads job moment) : moment.1.permits = ledger.permits := by
  induction leads with
  | refl => rfl
  | tail _ step ih => exact step.permits_eq.trans ih

/-- Nothing happens any more when the caller has been told. -/
theorem eq_of_told (course : ReflTransGen (Step job) (ledger, .told outcome) moment) :
    moment = (ledger, .told outcome) := by
  induction course with
  | refl => rfl
  | tail _ step ih =>
      subst ih
      cases step

/-- What a call leaves in the books: nothing, or that its job was started, with a permit that it
still holds if it never finishes. -/
theorem settle_cases (ledger : Ledger α) (job : Job α) :
    (ledger.settle job).2 = ledger ∨
      job.neverFinishes = false ∧
        (ledger.settle job).2 = { ledger with started := job :: ledger.started } ∨
      job.neverFinishes = true ∧ ∃ others, (ledger.settle job).2 =
        ⟨{ ledger.pool with free := others }, job :: ledger.holders, job :: ledger.started⟩ := by
  unfold settle
  split
  · exact .inl rfl
  split
  · exact .inl rfl
  · rename_i others _
    cases job with
    | returns | crashes => exact .inr (.inl ⟨rfl, rfl⟩)
    | stalls => exact .inr (.inr ⟨rfl, others, rfl⟩)

/-- A call cannot end otherwise than it is settled. -/
theorem settle_eq_of_leads (leads : ledger.Leads job (after, .told outcome)) :
    ledger.settle job = (outcome, after) := by
  -- A call takes one step, or two if its job is started.
  rcases leads.cases_head with hsame | ⟨_, hfirst, rest⟩
  · cases hsame
  cases hfirst with
  | refused hclosed =>
      cases eq_of_told rest
      simp [settle, hclosed]
  | kept haccepting hfull hbusy =>
      cases eq_of_told rest
      simp [settle, haccepting, hfull]
  | @started _ pool holders started others haccepting hroom =>
      obtain ⟨free, closed, timeout⟩ := pool
      obtain rfl : closed = false := haccepting
      obtain rfl : free = others + 1 := hroom
      rcases rest.cases_head with hsame | ⟨_, hsecond, rest⟩
      · cases hsame
      cases hsecond with
      | returned | crashed | abandoned =>
          cases eq_of_told rest
          rfl

/-- Every call is settled, if no permit is held by a job that finishes. -/
theorem leads_settle (hbusy : ∀ holder ∈ ledger.holders, holder.neverFinishes = true)
    (job : Job α) : ledger.Leads job ((ledger.settle job).2, .told (ledger.settle job).1) := by
  obtain ⟨⟨free, closed, timeout⟩, holders, started⟩ := ledger
  cases closed with
  | true => exact .single (.refused rfl)
  | false =>
      cases free with
      | zero => exact .single (.kept rfl rfl hbusy)
      | succ others =>
          have hstart : Step job (⟨⟨others + 1, false, timeout⟩, holders, started⟩, .waiting) _ :=
            .started rfl rfl
          cases job with
          | returns result => exact .head hstart (.single .returned)
          | crashes => exact .head hstart (.single .crashed)
          | stalls => exact .head hstart (.single .abandoned)

/-- In a pool that takes no job the books do not change. -/
theorem Leads.eq_of_refused (leads : ledger.Leads job moment)
    (hrefused : ledger.pool.closed = true ∨ ledger.pool.free = 0) : moment.1 = ledger := by
  rcases leads.cases_head with rfl | ⟨_, hfirst, rest⟩
  · rfl
  cases hfirst with
  | refused | kept => rw [eq_of_told rest]
  | started haccepting hroom =>
      rcases hrefused with hclosed | hfull
      · exact absurd (haccepting.symm.trans hclosed) (by decide)
      · exact absurd (hroom.symm.trans hfull) (Nat.succ_ne_zero _)

/-- The pool tells its caller how the call is settled. -/
theorem run_eq_settle (htime : 0 < ledger.pool.timeout) (job : Job α) :
    ledger.pool.run job = ((ledger.settle job).1, (ledger.settle job).2.pool) := by
  obtain ⟨⟨free, closed, timeout⟩, holders, started⟩ := ledger
  cases closed with
  | true => rfl
  | false =>
      cases free with
      | zero => rfl
      | succ others =>
          cases job with
          | returns | crashes => simp [Pool.run, settle, Pool.inTime_eq htime]
          | stalls => rfl

end Ledger

/-! ## Calls one after another -/

/-- What can be asked of a pool. -/
inductive PoolCall (α : Type) where
  | run (job : Job α)
  | shutdown

/-- The pool after a call. -/
def Pool.after (pool : Pool) : PoolCall α → Pool
  | .run job => (pool.run job).2
  | .shutdown => pool.shutdown

/-- A pool takes jobs, and a permit is free. -/
def Pool.HasRoom (pool : Pool) : Prop :=
  pool.closed = false ∧ 0 < pool.free

namespace Pool

variable {pool : Pool} {job : Job α}

theorem run_of_closed (hclosed : pool.closed = true) : pool.run job = (.error .closed, pool) := by
  simp [run, hclosed]

theorem run_of_full (haccepting : pool.closed = false) (hfull : pool.free = 0) :
    pool.run job = (.error (.timeout pool.timeout), pool) := by
  simp [run, haccepting, hfull]

/-- A job that finishes, in the way given, runs if there is room and leaves the permits as they
were. -/
theorem run_of_finishes (htime : 0 < pool.timeout) {outcome : Except PoolFault α}
    (hfinishes : job = .crashes ∧ outcome = .error .worker ∨
      ∃ result, job = .returns result ∧ outcome = .ok (result pool.timeout)) :
    ((pool.run job).1 = outcome ↔ pool.HasRoom) ∧ (pool.run job).2 = pool := by
  obtain ⟨free, closed, timeout⟩ := pool
  rcases hfinishes with ⟨rfl, rfl⟩ | ⟨result, rfl, rfl⟩ <;> cases closed <;> cases free <;>
    simp [run, HasRoom, inTime_eq htime]

end Pool

namespace Ledger

/-- The books of a new pool. -/
def opened (limit timeout : Nat) : Ledger α :=
  ⟨.create limit timeout, [], []⟩

def shutdown (ledger : Ledger α) : Ledger α :=
  { ledger with pool := ledger.pool.shutdown }

/-- Calls one after another lead to these books. -/
inductive Serves : Ledger α → List (PoolCall α) → Ledger α → Prop
  | nil (ledger : Ledger α) : Serves ledger [] ledger
  | run {ledger between last : Ledger α} {job : Job α} {outcome : Except PoolFault α}
      {calls : List (PoolCall α)} (hcall : ledger.Leads job (between, .told outcome))
      (rest : Serves between calls last) : Serves ledger (.run job :: calls) last
  | shutdown {ledger last : Ledger α} {calls : List (PoolCall α)}
      (rest : Serves ledger.shutdown calls last) : Serves ledger (.shutdown :: calls) last

/-- The books after a call. -/
def after (ledger : Ledger α) : PoolCall α → Ledger α
  | .run job => (ledger.settle job).2
  | .shutdown => ledger.shutdown

/-- All permits are accounted for, and they are held by the jobs that never finish. -/
structure Balanced (limit timeout : Nat) (ledger : Ledger α) : Prop where
  permits : ledger.permits = max 1 limit
  holders : ledger.holders = ledger.started.filter Job.neverFinishes
  time : ledger.pool.timeout = timeout

section Balanced

variable {limit timeout : Nat} {ledger last : Ledger α} {calls : List (PoolCall α)}

theorem balanced_opened (limit timeout : Nat) :
    (opened limit timeout : Ledger α).Balanced limit timeout :=
  ⟨rfl, rfl, rfl⟩

theorem Balanced.busy (balanced : ledger.Balanced limit timeout) :
    ∀ holder ∈ ledger.holders, holder.neverFinishes = true := by
  intro holder hmem
  rw [balanced.holders] at hmem
  exact (List.mem_filter.mp hmem).2

/-- The permits that are not free are held by the jobs that were started and never finish. -/
theorem Balanced.free_add_countP (balanced : ledger.Balanced limit timeout) :
    ledger.pool.free + ledger.started.countP Job.neverFinishes = max 1 limit := by
  rw [List.countP_eq_length_filter, ← balanced.holders]
  exact balanced.permits

/-- A call ends in one way. -/
theorem Balanced.leads_told_iff (balanced : ledger.Balanced limit timeout) {job : Job α}
    {outcome : Except PoolFault α} :
    ledger.Leads job (last, .told outcome) ↔
      outcome = (ledger.settle job).1 ∧ last = (ledger.settle job).2 := by
  constructor
  · intro leads
    rw [settle_eq_of_leads leads]
    exact ⟨rfl, rfl⟩
  · rintro ⟨rfl, rfl⟩
    exact leads_settle balanced.busy job

theorem Balanced.settle (balanced : ledger.Balanced limit timeout) (job : Job α) :
    (ledger.settle job).2.Balanced limit timeout := by
  have hpermits := (leads_settle balanced.busy job).permits_eq.trans balanced.permits
  rcases ledger.settle_cases job with hsame | ⟨hfinishes, hsame⟩ | ⟨hnever, _, hsame⟩
  · rw [hsame]
    exact balanced
  · rw [hsame] at hpermits ⊢
    refine ⟨hpermits, ?_, balanced.time⟩
    rw [List.filter_cons_of_neg (by simp [hfinishes])]
    exact balanced.holders
  · rw [hsame] at hpermits ⊢
    refine ⟨hpermits, ?_, balanced.time⟩
    rw [List.filter_cons_of_pos hnever]
    exact congrArg (job :: ·) balanced.holders

theorem Balanced.after (balanced : ledger.Balanced limit timeout) (call : PoolCall α) :
    (ledger.after call).Balanced limit timeout := by
  cases call with
  | run job => exact balanced.settle job
  | shutdown => exact ⟨balanced.permits, balanced.holders, balanced.time⟩

theorem Balanced.foldl_after (balanced : ledger.Balanced limit timeout)
    (calls : List (PoolCall α)) :
    (calls.foldl Ledger.after ledger).Balanced limit timeout := by
  induction calls generalizing ledger with
  | nil => exact balanced
  | cons call rest ih => exact ih (balanced.after call)

/-- Calls lead to the books that follow from how each of them is settled, and to no others. -/
theorem Balanced.serves_iff (balanced : ledger.Balanced limit timeout) :
    ledger.Serves calls last ↔ calls.foldl Ledger.after ledger = last := by
  constructor
  · intro serves
    induction serves with
    | nil => rfl
    | @run ledger between last job outcome rest hcall _ ih =>
        have hsettled := settle_eq_of_leads hcall
        have hnext : ledger.after (.run job) = between := congrArg Prod.snd hsettled
        rw [List.foldl_cons, hnext]
        exact ih (hnext ▸ balanced.after (.run job))
    | shutdown _ ih => exact ih (balanced.after .shutdown)
  · rintro rfl
    induction calls generalizing ledger with
    | nil => exact .nil _
    | cons call rest ih =>
        -- In balanced books no call waits for a permit that is still to be given back.
        have hlater := ih (balanced.after call)
        cases call with
        | run job => exact .run (leads_settle balanced.busy job) hlater
        | shutdown => exact .shutdown hlater

theorem Balanced.foldl_after_pool (balanced : ledger.Balanced limit timeout)
    (hpositive : 0 < timeout) (calls : List (PoolCall α)) :
    (calls.foldl Ledger.after ledger).pool = calls.foldl Pool.after ledger.pool := by
  induction calls generalizing ledger with
  | nil => rfl
  | cons call rest ih =>
      have hhere : (ledger.after call).pool = ledger.pool.after call := by
        cases call with
        | run job =>
            have htime : 0 < ledger.pool.timeout := balanced.time ▸ hpositive
            exact (congrArg Prod.snd (run_eq_settle htime job)).symm
        | shutdown => rfl
      rw [List.foldl_cons, List.foldl_cons, ih (balanced.after call), hhere]

end Balanced

/-- A pool is shut down by a shutdown and by nothing else. -/
theorem foldl_after_closed_iff (ledger : Ledger α) (calls : List (PoolCall α)) :
    (calls.foldl after ledger).pool.closed = true ↔
      ledger.pool.closed = true ∨ .shutdown ∈ calls := by
  induction calls generalizing ledger with
  | nil => simp
  | cons call rest ih =>
      rw [List.foldl_cons, ih]
      cases call with
      | run job =>
          have hsame : (ledger.settle job).2.pool.closed = ledger.pool.closed := by
            rcases ledger.settle_cases job with h | ⟨-, h⟩ | ⟨-, _, h⟩ <;> rw [h]
          simp [after, hsame]
      | shutdown => simp [after, shutdown, Pool.shutdown]

end Ledger

/-- No permit of a pool is lost, and none is given out twice. Take a pool for so many jobs at once
with a time limit that is not zero, and any calls one after another: jobs that return, that crash or
that never finish, and shutdowns. They lead to one state of the pool and its books, and the pool is
the one that is computed.

- As many permits are free as there were, less one for each job that was started and never finishes.
- Whatever the next job is, the call for it ends in one way, which is the one computed, and at every
  moment until then the permits that are free and those that are held are all there are.
- A job that returns yields its result, and one that crashes yields that it crashed, exactly if the
  pool takes jobs and a permit is free. Both leave the permits as they were.
- With no permit free, the call times out, and after a shutdown it is refused. Neither ever starts
  the job. -/
theorem permits_are_never_lost (limit timeout : Nat) (hpositive : 0 < timeout)
    (calls : List (PoolCall α)) :
    ∃ ledger : Ledger α,
      (∀ last, (Ledger.opened limit timeout).Serves calls last ↔ last = ledger) ∧
      ledger.pool = calls.foldl Pool.after (.create limit timeout) ∧
      ledger.pool.free + ledger.started.countP Job.neverFinishes = max 1 limit ∧
      (ledger.pool.closed = true ↔ .shutdown ∈ calls) ∧
      (∀ job, (∃ outcome later, ledger.pool.run job = (outcome, later.pool) ∧
          ∀ told last, ledger.Leads job (last, .told told) ↔ told = outcome ∧ last = later) ∧
        ∀ moment, ledger.Leads job moment → moment.1.permits = max 1 limit) ∧
      (∀ result : Nat → α, ((ledger.pool.run (.returns result)).1 = .ok (result timeout) ↔
          ledger.pool.HasRoom) ∧
        (ledger.pool.run (.returns result)).2 = ledger.pool) ∧
      (((ledger.pool.run (.crashes : Job α)).1 = .error .worker ↔ ledger.pool.HasRoom) ∧
        (ledger.pool.run (.crashes : Job α)).2 = ledger.pool) ∧
      (ledger.pool.closed = false → ledger.pool.free = 0 → ∀ job,
        ledger.pool.run job = (.error (.timeout timeout), ledger.pool) ∧
          ∀ moment, ledger.Leads job moment → moment.1 = ledger) ∧
      (.shutdown ∈ calls → ∀ job,
        ledger.pool.run job = (.error .closed, ledger.pool) ∧
          ∀ moment, ledger.Leads job moment → moment.1 = ledger) := by
  have hopened : (Ledger.opened limit timeout : Ledger α).Balanced limit timeout :=
    Ledger.balanced_opened limit timeout
  have hserves : ∀ last, (Ledger.opened limit timeout).Serves calls last ↔
      last = calls.foldl Ledger.after (.opened limit timeout) :=
    fun _ => hopened.serves_iff.trans eq_comm
  have hpool := hopened.foldl_after_pool hpositive calls
  have hclosed := Ledger.foldl_after_closed_iff (.opened limit timeout) calls
  rw [or_iff_right (by simp [Ledger.opened, Pool.create])] at hclosed
  have balanced := hopened.foldl_after calls
  generalize calls.foldl Ledger.after (.opened limit timeout) = ledger at *
  have htime : 0 < ledger.pool.timeout := balanced.time ▸ hpositive
  refine ⟨ledger, hserves, hpool, balanced.free_add_countP, hclosed, fun job => ⟨?_, ?_⟩,
    fun result => ?_, ?_, fun haccepting hfull job => ⟨?_, ?_⟩, fun hshut job => ⟨?_, ?_⟩⟩
  · exact ⟨_, _, Ledger.run_eq_settle htime job, fun _ _ => balanced.leads_told_iff⟩
  · exact fun moment leads => leads.permits_eq.trans balanced.permits
  · exact Pool.run_of_finishes htime (.inr ⟨result, rfl, by rw [balanced.time]⟩)
  · exact Pool.run_of_finishes htime (.inl ⟨rfl, rfl⟩)
  · rw [Pool.run_of_full haccepting hfull, balanced.time]
  · exact fun moment leads => leads.eq_of_refused (.inr hfull)
  · exact Pool.run_of_closed (hclosed.mpr hshut)
  · exact fun moment leads => leads.eq_of_refused (.inl (hclosed.mpr hshut))

/-- In a pool for two jobs at once, two jobs that never finish keep both permits, and a job that
would return times out. -/
theorem permits_are_never_lost_two :
    ∃ ledger : Ledger Nat,
      (Ledger.opened 2 50).Serves
        [.run (.returns (· + 1)), .run .stalls, .run .crashes, .run .stalls] ledger ∧
      ledger.pool = ⟨0, false, 50⟩ ∧ ledger.started.countP Job.neverFinishes = 2 ∧
      ledger.pool.run (.returns (· + 1)) = (.error (.timeout 50), ledger.pool) := by
  obtain ⟨ledger, hserves, hpool, hbalance, -, -, -, -, hfull, -⟩ :=
    permits_are_never_lost 2 50 (by decide)
      [.run (.returns (· + 1)), .run .stalls, .run .crashes, .run (.stalls : Job Nat)]
  have hpool : ledger.pool = ⟨0, false, 50⟩ := hpool
  rw [hpool] at hbalance hfull
  exact ⟨ledger, (hserves ledger).mpr rfl, hpool, (Nat.zero_add _).symm.trans hbalance,
    hpool ▸ (hfull rfl rfl _).1⟩

end FormFlow
