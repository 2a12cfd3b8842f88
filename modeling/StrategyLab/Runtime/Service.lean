import StrategyLab.Runtime.WorkerLaws

/-! The runtime service around the queue: readiness, start-up, and workers that may crash. -/

namespace StrategyLab

open DurableTaskQueue

/-- The configuration fields that readiness reads. -/
structure GaonRuntimeConfig where
  telegramEnabled : Bool := false
  telegramBotToken : Option String := none
  dryRun : Bool := true
  deriving DecidableEq, Repr

/-- What the state store reports about its database. -/
structure RuntimeDatabaseStatus where
  path : String
  schemaVersion : Int
  ready : Bool
  deriving DecidableEq, Repr

/-- One named readiness check. -/
structure HealthCheckResult where
  name : String
  ready : Bool
  message : String
  deriving DecidableEq, Repr

/-- The checks of a configuration and, when there is one, of the state store. -/
def readiness (config : GaonRuntimeConfig) (store : Option RuntimeDatabaseStatus) :
    List HealthCheckResult :=
  let database := match store with
    | some status => [⟨"database", status.ready, s!"schema_version={status.schemaVersion}"⟩]
    | none => []
  let token := (config.telegramBotToken.getD "") ≠ ""
  [⟨"config", true, "configuration loaded"⟩] ++ database ++
    [⟨"telegram", (config.telegramEnabled && token) || config.dryRun, "telegram gate checked"⟩]

namespace GaonRuntimeService

/-- The literal cut-off that start-up hands to `recover_stale`. -/
def recoveryCutoff : String := "2026-07-17T00:00:00Z"

/-- Start-up recovers the queue once every readiness check has passed. -/
def start (config : GaonRuntimeConfig) (store : RuntimeDatabaseStatus) (queue : RuntimeQueue) :
    Except String (List HealthCheckResult) × RuntimeQueue :=
  let checks := readiness config (some store)
  if !checks.all (·.ready) then (.error "runtime service readiness failed", queue)
  else (.ok checks, (recoverStale queue recoveryCutoff).2)

end GaonRuntimeService

/-- The queue together with the items each worker has started and not yet reported on. -/
structure WorkerPool where
  queue : RuntimeQueue
  /-- Pairs of a worker and an item it moved to running. -/
  holding : List (Nat × String)

/-- What can happen next: a worker's queue call, or a crash followed by a restart. -/
inductive PoolOp where
  | call (worker : Nat) (op : QueueOp)
  | crash (config : GaonRuntimeConfig) (store : RuntimeDatabaseStatus)
  deriving DecidableEq, Repr

/-- The items a worker holds after a call: a start adds one, a report gives one back. -/
def heldAfter (holding : List (Nat × String)) (worker : Nat) (op : QueueOp)
    (answer : QueueAnswer) : List (Nat × String) :=
  match op, answer with
  | .markRunning itemId _, .item _ => (worker, itemId) :: holding
  | .markSucceeded itemId _, _ => holding.erase (worker, itemId)
  | .markFailed itemId _ _ _, _ => holding.erase (worker, itemId)
  | _, _ => holding

/-- Carry out a worker's call, or lose every worker and start the service again. -/
def WorkerPool.step (pool : WorkerPool) : PoolOp → Option QueueAnswer × WorkerPool
  | .call worker op =>
    let (answer, queue) := DurableTaskQueue.call pool.queue op
    (some answer, ⟨queue, heldAfter pool.holding worker op answer⟩)
  | .crash config store =>
    (none, ⟨(GaonRuntimeService.start config store pool.queue).2, []⟩)

/-- The workers and their queue as a machine. -/
def poolMachine : Machine WorkerPool PoolOp (Option QueueAnswer) := ⟨WorkerPool.step⟩

/-- A service that has just been installed: an empty queue and no work in hand. -/
def WorkerPool.initial : WorkerPool := ⟨Table.empty, []⟩

/-- A worker reports only on items it moved to running itself and still holds. -/
def ReportsOwn (pool : WorkerPool) : PoolOp → Prop
  | .call worker (.markSucceeded itemId _) => (worker, itemId) ∈ pool.holding
  | .call worker (.markFailed itemId _ _ _) => (worker, itemId) ∈ pool.holding
  | _ => True

instance (pool : WorkerPool) : DecidablePred (ReportsOwn pool)
  | .call worker (.markSucceeded itemId _) =>
    inferInstanceAs (Decidable ((worker, itemId) ∈ pool.holding))
  | .call worker (.markFailed itemId _ _ _) =>
    inferInstanceAs (Decidable ((worker, itemId) ∈ pool.holding))
  | .call _ (.enqueue ..) | .call _ (.leaseNext ..) | .call _ (.markRunning ..)
  | .call _ (.markCancelled ..) | .call _ (.recoverStale _) | .crash .. => isTrue trivial

/-- The queue operations behind one event of the pool. -/
def PoolOp.queueOps : PoolOp → List QueueOp
  | .call _ op => [op]
  | .crash config store =>
    if (readiness config (some store)).all (·.ready) then
      [.recoverStale GaonRuntimeService.recoveryCutoff]
    else []

/-- An event leaves the queue alone or carries out one of its queue operations. -/
theorem pool_step_queue (pool : WorkerPool) (op : PoolOp) :
    (poolMachine.next pool op).queue = pool.queue ∨
      ∃ call ∈ op.queueOps,
        (poolMachine.next pool op).queue = queueMachine.next pool.queue call := by
  cases op with
  | call worker op => exact Or.inr ⟨op, List.mem_singleton_self op, rfl⟩
  | crash config store =>
    simp only [Machine.next, poolMachine, WorkerPool.step, GaonRuntimeService.start,
      PoolOp.queueOps]
    -- Start-up touches the queue only when every readiness check passes.
    cases (readiness config (some store)).all (·.ready) with
    | false => exact Or.inl rfl
    | true => exact Or.inr ⟨_, List.mem_singleton_self _, rfl⟩

end StrategyLab
