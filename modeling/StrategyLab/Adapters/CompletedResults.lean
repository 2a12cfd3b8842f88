import StrategyLab.Adapters.Backtest

/-! When completed results stay completed: a later call may store another result under their id. -/

namespace StrategyLab.Adapters

open BacktestExecutionService

namespace SQLiteBacktestRepository

/-- A completed result is stored under an id. -/
def Completed (repository : SQLiteBacktestRepository) (resultId : String) : Prop :=
  ∃ result, repository.getResult resultId = .ok result ∧ result.status = .completed

/-- Every result that is completed in one repository is completed in another one. -/
def KeepsCompleted (earlier later : SQLiteBacktestRepository) : Prop :=
  ∀ resultId, earlier.Completed resultId → later.Completed resultId

/-- A result that is read is a row of the table. -/
@[simp] theorem getResult_eq_ok {repository : SQLiteBacktestRepository} {resultId : String}
    {result : BacktestResult} :
    repository.getResult resultId = .ok result ↔ repository.results.find? resultId = some result := by
  unfold getResult
  cases repository.results.find? resultId <;> simp

/-- The results decide what is completed. -/
theorem completed_congr {earlier later : SQLiteBacktestRepository}
    (same : later.results = earlier.results) (resultId : String) :
    later.Completed resultId ↔ earlier.Completed resultId := by
  simp only [Completed, getResult_eq_ok, same]

/-- A result is completed under its id exactly if its status says so; others stay as they are. -/
theorem completed_addResult (repository : SQLiteBacktestRepository) (result : BacktestResult)
    (resultId : String) :
    (repository.addResult result).Completed resultId ↔
      if resultId = result.resultId then result.status = .completed
      else repository.Completed resultId := by
  simp only [Completed, getResult_eq_ok, addResult, Table.find?_replace]
  split <;> simp

/-- A result that is stored takes a completed one away exactly if it is not completed itself. -/
theorem keepsCompleted_addResult {earlier later : SQLiteBacktestRepository}
    (same : later.results = earlier.results) (result : BacktestResult) :
    KeepsCompleted earlier (later.addResult result) ↔
      (earlier.Completed result.resultId → result.status = .completed) := by
  simp only [KeepsCompleted, completed_addResult, completed_congr same]
  constructor
  · intro keeps completed
    simpa using keeps result.resultId completed
  · intro status resultId completed
    split
    · rename_i own
      exact status (own ▸ completed)
    · exact completed

/-- A request changes no result. -/
theorem addRequest_eq (digest : BacktestMaterial → String) (repository : SQLiteBacktestRepository)
    (request : BacktestRequest) :
    (repository.Taken digest request ∧ repository.addRequest digest request = (false, repository)) ∨
    (¬repository.Taken digest request ∧ ∃ later, later.results = repository.results ∧
      repository.addRequest digest request = (true, later)) := by
  unfold addRequest
  by_cases taken : repository.Taken digest request
  · exact .inl ⟨taken, if_pos taken⟩
  · exact .inr ⟨taken, { repository with requests := repository.requests.replace request }, rfl,
      if_neg taken⟩

end SQLiteBacktestRepository

open SQLiteBacktestRepository

variable {ε : Type} (digest : BacktestMaterial → String)

/-- An attempt that keeps what is completed, whether it returns or raises. -/
def Keeps {α : Type} (earlier : SQLiteBacktestRepository)
    (attempt : EStateM ε SQLiteBacktestRepository α) (repository : SQLiteBacktestRepository) :
    Prop :=
  Attempt.Ends attempt (fun _ => KeepsCompleted earlier) (fun _ => KeepsCompleted earlier)
    repository

section

variable {earlier repository : SQLiteBacktestRepository} {call : BacktestCall ε}

section

variable (same : repository.results = earlier.results)

include same

/-- Going on after a known answer keeps what is completed if it does so for every answer. -/
theorem keeps_answer_bind {α β : Type}
    {known : Except ε α} {rest : α → EStateM ε SQLiteBacktestRepository β} :
    Keeps earlier (Attempt.answer known >>= rest) repository ↔
      ∀ answer, known = .ok answer → Keeps earlier (rest answer) repository := by
  have kept : KeepsCompleted earlier repository :=
    fun resultId completed => (completed_congr same resultId).mpr completed
  rw [Keeps, Attempt.ends_bind, Attempt.ends_answer]
  constructor
  · intro both answer told
    exact both.1 answer told
  · intro told
    exact ⟨told, fun _ _ => kept⟩

/-- Storing a result at last keeps what is completed unless it takes a completed one away. -/
theorem keeps_store (result : BacktestResult) :
    Keeps (ε := ε) earlier (do
      modify (·.addResult result)
      return result) repository ↔
        (earlier.Completed result.resultId → result.status = .completed) :=
  keepsCompleted_addResult same result

/-- A rejection keeps what is completed unless it is stored under the id of a completed result. -/
theorem keeps_reject (reasons : List String) :
    Keeps earlier (reject digest call reasons) repository ↔
      (call.record .rejected = .ok () → ¬earlier.Completed (call.request.resultId digest)) := by
  rw [reject, keeps_answer_bind same]
  constructor
  · intro kept recorded completed
    have status := (keeps_store same _).mp (kept () recorded) completed
    cases status
  · intro spared _ recorded
    exact (keeps_store same _).mpr fun completed => absurd completed (spared recorded)

/-- What the adapter answers keeps what is completed unless it takes a completed result away. -/
theorem keeps_execute :
    Keeps earlier (execute call) repository ↔
      (call.record .started = .ok () → ∀ result, call.runBacktest = .ok result →
        result.status ≠ .completed → call.record .failed = .ok () →
          ¬earlier.Completed result.resultId) := by
  simp only [execute, keeps_answer_bind same, keeps_store same]
  constructor
  · intro kept started result answered unfinished failed completed
    have recorded : call.record (if result.status = .completed then .completed else .failed) =
        .ok () := by rw [if_neg unfinished, failed]
    exact unfinished (kept () started result answered () recorded completed)
  · intro spared _ started result answered _ recorded completed
    by_contra unfinished
    rw [if_neg unfinished] at recorded
    exact spared started result answered unfinished recorded completed

end

end

/-- A call that stores no failure, rejection or timeout under the id of a completed result. -/
structure SparesCompleted (repository : SQLiteBacktestRepository) (call : BacktestCall ε) :
    Prop where
  duplicate : repository.Taken digest call.request → call.record .rejected = .ok () →
    ¬repository.Completed (call.request.resultId digest)
  refused : ¬repository.Taken digest call.request → call.record .requested = .ok () →
    ∀ reasons, call.validateRequest = .ok (false, reasons) → call.record .rejected = .ok () →
      ¬repository.Completed (call.request.resultId digest)
  unfinished : ¬repository.Taken digest call.request → call.record .requested = .ok () →
    ∀ reasons, call.validateRequest = .ok (true, reasons) → call.record .started = .ok () →
      ∀ result, call.runBacktest = .ok result → result.status ≠ .completed →
        call.record .failed = .ok () → ¬repository.Completed result.resultId

/-- A call keeps what is completed exactly if it spares it. -/
theorem keepsCompleted_next (repository : SQLiteBacktestRepository) (call : BacktestCall ε) :
    KeepsCompleted repository ((machine digest).next repository call) ↔
      SparesCompleted digest repository call := by
  have whole : KeepsCompleted repository ((machine digest).next repository call) ↔
      Keeps repository (run digest call) repository := by
    simp only [Machine.next, machine, Keeps, Attempt.Ends]
    cases (run digest call).run repository <;> rfl
  rw [whole, run, Keeps, Attempt.ends_bind, Attempt.ends_modifyGet]
  change Keeps repository _ _ ↔ _
  obtain ⟨taken, added⟩ | ⟨free, later, same, added⟩ := repository.addRequest_eq digest call.request
  · -- A duplicate is only rejected.
    rw [added]
    rw [if_neg (by simp), keeps_reject digest rfl]
    constructor
    · intro spared
      exact ⟨fun _ => spared, fun free => absurd taken free, fun free => absurd taken free⟩
    · intro spares
      exact spares.duplicate taken
  · rw [added]
    rw [if_pos rfl, runStored, keeps_answer_bind same]
    simp only [keeps_answer_bind same]
    constructor
    · intro kept
      refine ⟨fun taken => absurd taken free, ?_, ?_⟩
      · intro _ requested reasons refused
        have rest := kept () requested (false, reasons) refused
        exact (keeps_reject digest same reasons).mp rest
      · intro _ requested reasons valid
        have rest := kept () requested (true, reasons) valid
        exact (keeps_execute same).mp rest
    · intro spares _ requested answer told
      obtain ⟨valid, reasons⟩ := answer
      cases valid with
      | true => exact (keeps_execute same).mpr (spares.unfinished free requested reasons told)
      | false =>
        exact (keeps_reject digest same reasons).mpr (spares.refused free requested reasons told)

/-- Completed results stay completed in exactly the runs of which every call spares them. -/
theorem completed_kept_iff (repository : SQLiteBacktestRepository)
    (calls : List (BacktestCall ε)) :
    (∀ before middle after, calls = before ++ middle ++ after →
      ∀ resultId, ((machine digest).run repository before).Completed resultId →
        ((machine digest).run repository (before ++ middle)).Completed resultId) ↔
      (machine digest).Guarded (SparesCompleted digest) repository calls :=
  (machine digest).forall_related_iff_guarded
    (fun _ _ completed => completed)
    (fun _ _ _ first second resultId completed => second resultId (first resultId completed))
    (keepsCompleted_next digest) repository calls

/-- A request for a backtest of one month. -/
def monthRequest (requestId : String) : BacktestRequest :=
  ⟨requestId, ⟨"turtle_v5", "v1"⟩, ⟨"krx_daily", "fixture"⟩, ⟨"2026-01-01", "2026-02-01"⟩, [],
    "operator", "2026-07-18T00:00:00Z", "v1-fixture"⟩

/-- The fingerprint of that backtest. -/
def monthDigest (_ : BacktestMaterial) : String := "81c4f83da3301c74cae4149d"

/-- What an adapter answers that completes the backtest. -/
def monthResult (requestId : String) : BacktestResult :=
  { failedResult monthDigest (monthRequest requestId) .completed [] "2026-07-18T00:00:00Z" 7 with
    metrics := { totalReturn := some (1234 / 10000), tradeCount := some 12 } }

/-- A call that asks for the backtest under an id. -/
def monthCall (requestId : String) : BacktestCall String :=
  ⟨monthRequest requestId, ⟨30, 1024, "2026-07-18T00:00:00Z"⟩, .ok (true, []),
    .ok (monthResult requestId), fun _ => .ok ()⟩

/-- A second request for the same backtest takes the completed result of the first one away. -/
theorem month_lost : ¬∀ before middle after, [monthCall "first", monthCall "second"] =
      before ++ middle ++ after →
    ∀ resultId, ((machine monthDigest).run empty before).Completed resultId →
      ((machine monthDigest).run empty (before ++ middle)).Completed resultId := by
  intro kept
  have completed : ((machine monthDigest).run empty [monthCall "first"]).Completed
      "backtest-result:81c4f83da3301c74cae4149d" :=
    ⟨monthResult "first", by decide +kernel, rfl⟩
  obtain ⟨result, found, status⟩ := kept [monthCall "first"] [monthCall "second"] [] rfl _ completed
  have rejected : (((machine monthDigest).run empty
      [monthCall "first", monthCall "second"]).results.find?
        "backtest-result:81c4f83da3301c74cae4149d").map (·.status) = some .rejected := by
    decide +kernel
  rw [List.singleton_append, getResult_eq_ok] at found
  rw [found, Option.map_some, status] at rejected
  cases rejected

end StrategyLab.Adapters
