import Mathlib.Logic.Function.Basic
import StrategyLab.Lib.Machine
import StrategyLab.Runtime.ScheduledJobs

/-! Scheduled automation: `run_due` as database steps taken by any number of runners. -/

namespace StrategyLab.Automation

open ScheduledJobRepository (due)

/-- The states of a run. -/
inductive ScheduledRunStatus where
  | pending
  | running
  | succeeded
  | failed
  | blocked
  | skipped
  deriving DecidableEq, Repr

/-- A stored run of a job. -/
structure ScheduledRun where
  runId : String
  jobId : String
  status : ScheduledRunStatus
  attempt : Nat
  startedAt : String
  completedAt : Option String
  deriving DecidableEq

/-- The name of a run. -/
def runIdOf (jobId now : String) : String := s!"scheduled-run:{jobId}:{now}"

/-- The stored runs. -/
abbrev ScheduledRunTable := Table ScheduledRun.runId

/-- `INSERT` of a run: refused when its name or its job and start are taken. -/
def insertRun (runs : ScheduledRunTable) (run : ScheduledRun) : Option ScheduledRunTable :=
  if runs.rows.any fun old => old.jobId = run.jobId && old.startedAt = run.startedAt then none
  else runs.insert? run

/-- How many runs a job has. -/
def countRuns (runs : ScheduledRunTable) (jobId : String) : Nat :=
  runs.rows.countP fun run => run.jobId = jobId

/-- How the execution of a job ends. -/
inductive Outcome where
  | succeeded
  | failed
  | blocked
  deriving DecidableEq, Repr

/-- The state that a run is completed with. -/
def Outcome.status : Outcome → ScheduledRunStatus
  | succeeded => .succeeded
  | failed => .failed
  | blocked => .blocked

/-- How far a call of `run_due` has come. -/
inductive Stage where
  /-- The jobs are still to be claimed; without any the call has returned. -/
  | waiting (now : String) (jobs : List ScheduledJob)
  /-- The runs of a job have been counted, and its run is still to be inserted. -/
  | counted (now : String) (job : ScheduledJob) (attempt : Nat) (rest : List ScheduledJob)
  /-- The run has been inserted, and the job is being executed. -/
  | executing (now : String) (run : ScheduledRun) (rest : List ScheduledJob)
  /-- The job has been executed, and the run is still to be completed. -/
  | executed (now : String) (run : ScheduledRun) (outcome : Outcome) (rest : List ScheduledJob)

/-- The shared database, the runners on connections of their own, and the jobs whose action has been
executed with success, once for each time. -/
structure AutomationState where
  jobs : ScheduledJobTable
  runs : ScheduledRunTable
  runners : Nat → Stage
  succeeded : List String

/-- One step of a runner. -/
inductive AutomationStep where
  | select (runner : Nat) (now : String)
  | count (runner : Nat)
  | insert (runner : Nat)
  | execute (runner : Nat) (outcome : Outcome)
  | complete (runner : Nat)

/-- Record how far a runner has come. -/
def AutomationState.advance (state : AutomationState) (runner : Nat) (stage : Stage) :
    AutomationState :=
  { state with runners := Function.update state.runners runner stage }

/-- The `UPDATE` of a job that is done with. -/
def disable (jobs : ScheduledJobTable) (jobId completedAt : String) : ScheduledJobTable :=
  jobs.update (·.jobId = jobId)
    (fun job => { job with enabled := false, updatedAt := completedAt }) fun _ => rfl

/-- The `UPDATE` of a run that is completed. -/
def completeRow (runs : ScheduledRunTable) (runId : String) (status : ScheduledRunStatus)
    (completedAt : String) : ScheduledRunTable :=
  runs.update (·.runId = runId)
    (fun run => { run with status, completedAt := some completedAt }) fun _ => rfl

/-- `complete_run`, one transaction; `none` where the job has to be read and is gone. -/
def completeRun (state : AutomationState) (run : ScheduledRun) (outcome : Outcome)
    (completedAt : String) : Option AutomationState :=
  let completed := { state with
    runs := completeRow state.runs run.runId outcome.status completedAt }
  let disabled := { completed with jobs := disable state.jobs run.jobId completedAt }
  if outcome = Outcome.succeeded ∨ outcome = .blocked then some disabled
  else (state.jobs.find? run.jobId).map fun job =>
    if job.maxAttempts ≤ run.attempt then disabled else completed

/-- Take one step; a step whose runner is not ready for it does nothing. -/
def AutomationState.step (state : AutomationState) : AutomationStep → Unit × AutomationState
  | .select runner now =>
    match state.runners runner with
    | .waiting _ [] =>
      match due state.jobs now with
      | .ok jobs => ((), state.advance runner (.waiting now jobs))
      | .error _ => ((), state)
    | _ => ((), state)
  | .count runner =>
    match state.runners runner with
    | .waiting now (job :: rest) =>
      let attempt := countRuns state.runs job.jobId + 1
      if job.maxAttempts < attempt then ((), state.advance runner (.waiting now rest))
      else ((), state.advance runner (.counted now job attempt rest))
    | _ => ((), state)
  | .insert runner =>
    match state.runners runner with
    | .counted now job attempt rest =>
      let run : ScheduledRun :=
        ⟨runIdOf job.jobId now, job.jobId, .running, attempt, now, none⟩
      match insertRun state.runs run with
      | some runs => ((), { state with runs }.advance runner (.executing now run rest))
      | none => ((), state.advance runner (.waiting now rest))
    | _ => ((), state)
  | .execute runner outcome =>
    match state.runners runner with
    | .executing now run rest =>
      let succeeded :=
        if outcome = Outcome.succeeded then run.jobId :: state.succeeded else state.succeeded
      ((), { state with succeeded }.advance runner (.executed now run outcome rest))
    | _ => ((), state)
  | .complete runner =>
    match state.runners runner with
    | .executed now run outcome rest =>
      match completeRun state run outcome now with
      | some completed => ((), completed.advance runner (.waiting now rest))
      | none => ((), state.advance runner (.waiting now []))
    | _ => ((), state)

/-- The interleavings of the steps as a machine. -/
def automationMachine : Machine AutomationState AutomationStep Unit := ⟨AutomationState.step⟩

/-- Some jobs that have never run. -/
def AutomationState.initial (jobs : ScheduledJobTable) : AutomationState :=
  ⟨jobs, Table.empty, fun _ => .waiting "" [], []⟩

/-- The job that a stage has a run of which is not completed. -/
def Stage.claims? : Stage → Option String
  | waiting _ _ => none
  | counted _ _ _ _ => none
  | executing _ run _ => some run.jobId
  | executed _ run _ _ => some run.jobId

/-- A runner is executing a job. -/
def Executing (state : AutomationState) (runner : Nat) (jobId : String) : Prop :=
  (state.runners runner).claims? = some jobId

/-- Every job has at most as many runs as it may, is executed with success at most once, and by at
most one runner at a time. -/
structure SucceedsOnce (state : AutomationState) : Prop where
  bounded : ∀ job ∈ state.jobs.rows, countRuns state.runs job.jobId ≤ job.maxAttempts
  once : ∀ jobId, state.succeeded.count jobId ≤ 1
  alone : ∀ jobId first second, Executing state first jobId → Executing state second jobId →
    first = second

/-- A job may be claimed: it has fewer runs than it may, nobody is executing it, and it has not been
executed with success. -/
structure Claimable (state : AutomationState) (jobId : String) : Prop where
  fewer : ∀ job ∈ state.jobs.rows, job.jobId = jobId → countRuns state.runs jobId < job.maxAttempts
  free : ∀ runner, ¬Executing state runner jobId
  never : jobId ∉ state.succeeded

/-- A run is inserted only for a job that may be claimed. -/
def ClaimsClaimable (state : AutomationState) : AutomationStep → Prop
  | .insert runner => ∀ now job attempt rest,
    state.runners runner = .counted now job attempt rest →
    (insertRun state.runs ⟨runIdOf job.jobId now, job.jobId, .running, attempt, now, none⟩).isSome →
    Claimable state job.jobId
  | _ => True

section Safety

variable {state next : AutomationState} {runner : Nat} {stage : Stage}

/-- The runner that comes further is at its new stage. -/
@[simp] theorem runners_advance_self (state : AutomationState) (runner : Nat) (stage : Stage) :
    (state.advance runner stage).runners runner = stage :=
  Function.update_self ..

/-- The others are where they were. -/
theorem runners_advance_of_ne {other : Nat} (apart : other ≠ runner) (state : AutomationState)
    (stage : Stage) : (state.advance runner stage).runners other = state.runners other :=
  Function.update_of_ne apart ..

/-- What holds between the steps: besides what is promised, a job that is being executed has not
been executed with success. -/
structure Orderly (state : AutomationState) : Prop extends SucceedsOnce state where
  fresh : ∀ runner now run rest, state.runners runner = .executing now run rest →
    run.jobId ∉ state.succeeded

/-- The jobs and the numbers of their runs are as before, whatever else was written. -/
structure Keeps (state next : AutomationState) : Prop where
  jobs : ∀ job ∈ next.jobs.rows, ∃ old ∈ state.jobs.rows, old.jobId = job.jobId ∧
    old.maxAttempts = job.maxAttempts
  counts : ∀ jobId, countRuns next.runs jobId = countRuns state.runs jobId
  succeeded : next.succeeded = state.succeeded
  runners : next.runners = state.runners

/-- Doing nothing keeps everything. -/
theorem Keeps.refl (state : AutomationState) : Keeps state state :=
  ⟨fun job member => ⟨job, member, rfl, rfl⟩, fun _ => rfl, rfl, rfl⟩

/-- Disabling a job changes neither its name nor its limit. -/
theorem mem_disable {jobs : ScheduledJobTable} {jobId completedAt : String} {job : ScheduledJob}
    (member : job ∈ (disable jobs jobId completedAt).rows) :
    ∃ old ∈ jobs.rows, old.jobId = job.jobId ∧ old.maxAttempts = job.maxAttempts := by
  obtain ⟨old, inside, rfl⟩ := List.mem_map.mp member
  refine ⟨old, inside, ?_⟩
  split <;> exact ⟨rfl, rfl⟩

/-- Completing a run adds none. -/
theorem countRuns_completeRow (runs : ScheduledRunTable) (runId completedAt jobId : String)
    (status : ScheduledRunStatus) :
    countRuns (completeRow runs runId status completedAt) jobId = countRuns runs jobId := by
  unfold countRuns completeRow
  rw [Table.update_rows, List.countP_map]
  congr 1
  funext run
  simp only [Function.comp_apply]
  split <;> rfl

variable {run : ScheduledRun}

/-- `complete_run` keeps the jobs and the numbers of their runs. -/
theorem keeps_completeRun {outcome : Outcome} {completedAt : String}
    (done : completeRun state run outcome completedAt = some next) : Keeps state next := by
  have counts (jobId : String) := countRuns_completeRow state.runs run.runId completedAt jobId
    outcome.status
  unfold completeRun at done
  dsimp only at done
  split at done
  · obtain rfl := Option.some.inj done
    exact ⟨fun job member => mem_disable member, counts, rfl, rfl⟩
  · obtain ⟨job, _, rfl⟩ := Option.map_eq_some_iff.mp done
    split
    · exact ⟨fun job member => mem_disable member, counts, rfl, rfl⟩
    · exact ⟨fun job member => ⟨job, member, rfl, rfl⟩, counts, rfl, rfl⟩

/-- A runner that goes on without a claim leaves everything in order. -/
theorem Orderly.release (orderly : Orderly state) (keeps : Keeps state next) (runner : Nat)
    (unclaimed : stage.claims? = none) : Orderly (next.advance runner stage) := by
  -- Who claims something now has claimed it before.
  have before (other : Nat) (jobId : String)
      (claims : Executing (next.advance runner stage) other jobId) :
      Executing state other jobId := by
    unfold Executing at claims
    by_cases same : other = runner
    · rw [same, runners_advance_self, unclaimed] at claims
      cases claims
    · rwa [runners_advance_of_ne same, keeps.runners] at claims
  constructor
  · constructor
    · intro job member
      obtain ⟨old, inside, name, limit⟩ := keeps.jobs job member
      have bound := orderly.bounded old inside
      rwa [name, limit, ← keeps.counts] at bound
    · intro jobId
      exact keeps.succeeded ▸ orderly.once jobId
    · intro jobId first second one other
      exact orderly.alone jobId first second (before first jobId one) (before second jobId other)
  · intro other now run rest executes
    by_cases same : other = runner
    · rw [same, runners_advance_self] at executes
      rw [executes] at unclaimed
      cases unclaimed
    · rw [runners_advance_of_ne same, keeps.runners] at executes
      exact keeps.succeeded ▸ orderly.fresh other now run rest executes

/-- A run that is inserted is one more of its job. -/
theorem countRuns_insertRun {runs grown : ScheduledRunTable}
    (inserted : insertRun runs run = some grown) (jobId : String) :
    countRuns grown jobId = countRuns runs jobId + if run.jobId = jobId then 1 else 0 := by
  unfold insertRun at inserted
  split at inserted
  · cases inserted
  · have rows := (Table.insert?_eq_some_iff.mp inserted).2
    rw [countRuns, rows, List.countP_append, List.countP_singleton]
    simp [countRuns]

/-- A claim of a job that may be claimed leaves everything in order. -/
theorem Orderly.claim (orderly : Orderly state) {runs : ScheduledRunTable}
    (inserted : insertRun state.runs run = some runs) (claimable : Claimable state run.jobId)
    (runner : Nat) (now : String) (rest : List ScheduledJob) :
    Orderly ({ state with runs }.advance runner (.executing now run rest)) := by
  -- A job that somebody executes now is the claimed one or one that was executed before.
  have claims (other : Nat) (jobId : String)
      (executes : Executing ({ state with runs }.advance runner (.executing now run rest))
        other jobId) :
      other = runner ∧ jobId = run.jobId ∨ other ≠ runner ∧ Executing state other jobId := by
    unfold Executing at executes
    by_cases same : other = runner
    · rw [same, runners_advance_self] at executes
      exact .inl ⟨same, (Option.some.inj executes).symm⟩
    · rw [runners_advance_of_ne same] at executes
      exact .inr ⟨same, executes⟩
  constructor
  · constructor
    · intro job member
      have counts := countRuns_insertRun inserted job.jobId
      have bound := orderly.bounded job member
      change countRuns runs job.jobId ≤ job.maxAttempts
      by_cases same : run.jobId = job.jobId
      · have fewer := claimable.fewer job member same.symm
        rw [same] at fewer
        rw [if_pos same] at counts
        omega
      · rw [if_neg same] at counts
        omega
    · exact orderly.once
    · intro jobId first second one other
      rcases claims first jobId one with ⟨rfl, here⟩ | ⟨_, before⟩
      · rcases claims second jobId other with ⟨rfl, _⟩ | ⟨_, early⟩
        · rfl
        · exact absurd (here ▸ early) (claimable.free second)
      · rcases claims second jobId other with ⟨rfl, there⟩ | ⟨_, early⟩
        · exact absurd (there ▸ before) (claimable.free first)
        · exact orderly.alone jobId first second before early
  · intro other at_ own later executes
    by_cases same : other = runner
    · rw [same, runners_advance_self] at executes
      obtain ⟨_, rfl, _⟩ := Stage.executing.inj executes
      exact claimable.never
    · rw [runners_advance_of_ne same] at executes
      exact orderly.fresh other at_ own later executes

/-- So does the execution of a job that was claimed. -/
theorem Orderly.execute (orderly : Orderly state) {now : String}
    {rest : List ScheduledJob} (here : state.runners runner = .executing now run rest)
    (outcome : Outcome) :
    Orderly ({ state with
      succeeded := if outcome = Outcome.succeeded then run.jobId :: state.succeeded
        else state.succeeded
      }.advance runner (.executed now run outcome rest)) := by
  have mine : Executing state runner run.jobId := by
    rw [Executing, here]
    rfl
  have before (other : Nat) (jobId : String)
      (executes : Executing ({ state with
        succeeded := if outcome = Outcome.succeeded then run.jobId :: state.succeeded
          else state.succeeded }.advance runner (.executed now run outcome rest)) other jobId) :
      Executing state other jobId := by
    unfold Executing at executes
    by_cases same : other = runner
    · rw [same, runners_advance_self] at executes
      rw [same, ← Option.some.inj executes]
      exact mine
    · rwa [runners_advance_of_ne same] at executes
  constructor
  · constructor
    · exact orderly.bounded
    · intro jobId
      change List.count jobId
        (if outcome = Outcome.succeeded then run.jobId :: state.succeeded else state.succeeded) ≤ 1
      split
      · -- The job has not been executed with success before.
        have never := orderly.fresh runner now run rest here
        rw [List.count_cons]
        by_cases same : run.jobId = jobId
        · rw [← same, List.count_eq_zero_of_not_mem never]
          simp
        · simpa [same] using orderly.once jobId
      · exact orderly.once jobId
    · intro jobId first second one other
      exact orderly.alone jobId first second (before first jobId one) (before second jobId other)
  · intro other at_ own later executes
    by_cases same : other = runner
    · rw [same, runners_advance_self] at executes
      cases executes
    · rw [runners_advance_of_ne same] at executes
      change own.jobId ∉
        (if outcome = Outcome.succeeded then run.jobId :: state.succeeded else state.succeeded)
      have fresh := orderly.fresh other at_ own later executes
      split
      · -- Another runner is executing another job.
        rw [List.mem_cons, not_or]
        refine ⟨fun equal => same ?_, fresh⟩
        apply orderly.alone own.jobId other runner
        · rw [Executing, executes]
          rfl
        · rwa [equal]
      · exact fresh

/-- Every step that claims only what may be claimed leaves everything in order. -/
theorem orderly_step (step : AutomationStep) (claims : ClaimsClaimable state step)
    (orderly : Orderly state) : Orderly (automationMachine.next state step) := by
  cases step with
  | select runner now =>
    simp only [Machine.next, automationMachine, AutomationState.step]
    split
    · split
      · exact orderly.release (Keeps.refl state) runner rfl
      · exact orderly
    · exact orderly
  | count runner =>
    simp only [Machine.next, automationMachine, AutomationState.step]
    split
    · split
      · exact orderly.release (Keeps.refl state) runner rfl
      · exact orderly.release (Keeps.refl state) runner rfl
    · exact orderly
  | insert runner =>
    simp only [Machine.next, automationMachine, AutomationState.step]
    split
    · rename_i now job attempt rest here
      split
      · rename_i runs inserted
        have claimable := claims now job attempt rest here (by rw [inserted]; rfl)
        exact orderly.claim inserted claimable runner now rest
      · exact orderly.release (Keeps.refl state) runner rfl
    · exact orderly
  | execute runner outcome =>
    simp only [Machine.next, automationMachine, AutomationState.step]
    split
    · rename_i now run rest here
      exact orderly.execute here outcome
    · exact orderly
  | complete runner =>
    simp only [Machine.next, automationMachine, AutomationState.step]
    split
    · split
      · rename_i completed done
        exact orderly.release (keeps_completeRun done) runner rfl
      · exact orderly.release (Keeps.refl state) runner rfl
    · exact orderly

/-- Nothing has run in the beginning. -/
theorem orderly_initial (jobs : ScheduledJobTable) : Orderly (.initial jobs) := by
  refine ⟨⟨fun job _ => Nat.zero_le _, fun jobId => Nat.zero_le _, ?_⟩, ?_⟩
  · intro jobId first second one _
    cases one
  · intro runner now run rest executes
    cases executes

/-- Where only jobs are claimed that may be, every job succeeds at most once, whatever the order of
the steps of any runners. -/
theorem succeedsOnce_of_claimable (jobs : ScheduledJobTable) (steps : List AutomationStep)
    (claims : automationMachine.Guarded ClaimsClaimable (.initial jobs) steps) :
    ∀ before, before <+: steps →
      SucceedsOnce (automationMachine.run (.initial jobs) before) := by
  rintro before ⟨after, rfl⟩
  have early := ((automationMachine.guarded_append _ _ _).mp claims).1
  have orderly := automationMachine.guarded_invariant
    (fun state step guard inv => orderly_step step guard inv) early (orderly_initial jobs)
  exact orderly.toSucceedsOnce

end Safety

/-- One runner that claims and executes a job once. -/
def soleSteps : List AutomationStep :=
  [.select 0 "2026-01-01T00:00:01Z", .count 0, .insert 0, .execute 0 .succeeded, .complete 0]

/-- The only runner has counted the runs of the job. -/
def soleCounted : AutomationState :=
  ((AutomationState.initial midnightJobs).advance 0
    (.waiting "2026-01-01T00:00:01Z" [midnightJob])).advance 0
    (.counted "2026-01-01T00:00:01Z" midnightJob 1 [])

/-- The only runner comes that far. -/
theorem run_soleCounted :
    automationMachine.run (.initial midnightJobs) (soleSteps.take 2) = soleCounted := by
  have selected : automationMachine.next (.initial midnightJobs)
      (.select 0 "2026-01-01T00:00:01Z") = (AutomationState.initial midnightJobs).advance 0
        (.waiting "2026-01-01T00:00:01Z" [midnightJob]) := by
    simp [Machine.next, automationMachine, AutomationState.step, AutomationState.initial,
      midnight_selected]
  change automationMachine.next (automationMachine.next _ _) (.count 0) = _
  rw [selected]
  rfl

/-- Nobody else is there that could claim the job. -/
theorem soleSteps_guarded :
    automationMachine.Guarded ClaimsClaimable (.initial midnightJobs) soleSteps := by
  have parts : soleSteps = soleSteps.take 2 ++ soleSteps.drop 2 := (List.take_append_drop ..).symm
  rw [parts, automationMachine.guarded_append, run_soleCounted]
  refine ⟨⟨trivial, trivial, trivial⟩, ?_, trivial, trivial, trivial⟩
  intro now job attempt rest here _
  rw [soleCounted, runners_advance_self] at here
  obtain ⟨rfl, rfl, rfl, rfl⟩ := Stage.counted.inj here
  refine ⟨?_, ?_, List.not_mem_nil⟩
  · intro job member _
    rw [List.mem_singleton.mp member]
    decide
  · intro runner executes
    unfold Executing soleCounted at executes
    by_cases same : runner = 0
    · rw [same, runners_advance_self] at executes
      cases executes
    · rw [runners_advance_of_ne same, runners_advance_of_ne same] at executes
      cases executes

/-- With one runner the job is executed with success once. -/
theorem sole_runner_succeedsOnce :
    SucceedsOnce (automationMachine.run (.initial midnightJobs) soleSteps) :=
  succeedsOnce_of_claimable midnightJobs soleSteps soleSteps_guarded soleSteps
    (List.prefix_refl soleSteps)

/-- Two runners that count the runs before one of them inserts its own. -/
def overlappingSteps : List AutomationStep :=
  [.select 0 "2026-01-01T00:00:01Z", .count 0, .select 1 "2026-01-01T00:00:02Z", .count 1,
    .insert 0, .insert 1, .execute 0 .succeeded, .execute 1 .succeeded]

/-- Two runners execute one job with success. -/
theorem overlapping_runners_succeed_twice :
    (automationMachine.run (.initial midnightJobs) overlappingSteps).succeeded =
        ["daily", "daily"] ∧
      ¬SucceedsOnce (automationMachine.run (.initial midnightJobs) overlappingSteps) := by
  have twice : (automationMachine.run (.initial midnightJobs) overlappingSteps).succeeded =
      ["daily", "daily"] := by
    decide +kernel
  refine ⟨twice, fun safe => ?_⟩
  have once := safe.once "daily"
  rw [twice] at once
  exact absurd once (by decide)

end StrategyLab.Automation
