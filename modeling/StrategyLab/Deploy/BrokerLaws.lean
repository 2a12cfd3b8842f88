import StrategyLab.Deploy.SessionProtocol

/-! What the parts of a deployment leave behind: workers, observations, and the verdict fields. -/

namespace StrategyLab

/-- The observation finds a commit that runs in healthy services, in fresh ones if asked for. -/
structure Observation.Confirms (seen : Observation) (sha : String) (fresh : Bool) : Prop where
  head : seen.head = sha
  services : ∀ unit ∈ units, ∃ item, seen.services.lookup unit = some item ∧
    item.state = "active" ∧ 0 < item.pid ∧ item.codeDirectoryMatches = true ∧
    (fresh = true → ∃ before old, seen.before = some before ∧ before.lookup unit = some old ∧
      item.pid ≠ old.pid)
  schema : seen.preparedSchema = some seen.schemaVersion
  quiet : fresh = true → seen.recentErrorCount = 0
  healthy : seen.healthy = true

namespace Session

variable {host : Host} {session after : Session}

/-- The fields of a result that decide about its deployment. -/
def verdict (result : List (String × Json)) : Bool × Bool × Bool :=
  (succeeded result, rolledBack result, needsManual result)

/-- Fields that say nothing about the verdict of a deployment. -/
structure Silent (fields : List (String × Json)) : Prop where
  status : fields.lookup "status" = none
  rollback : fields.lookup "rollback_succeeded" = none
  manual : fields.lookup "manual_recovery_required" = none

/-- Fields that say nothing about the verdict leave it as it is. -/
theorem Silent.verdict_update {fields : List (String × Json)} (silent : Silent fields)
    (result : List (String × Json)) : verdict (Json.update result fields) = verdict result := by
  simp only [verdict, succeeded, rolledBack, needsManual, Json.isText, Json.isTrue,
    Json.lookup_update, silent.status, silent.rollback, silent.manual, Option.none_or]

/-- Two groups of fields that say nothing about the verdict say nothing together. -/
theorem Silent.update {old new : List (String × Json)} (first : Silent old) (second : Silent new) :
    Silent (Json.update old new) := by
  refine ⟨?_, ?_, ?_⟩
  · rw [Json.lookup_update, first.status, second.status, Option.none_or]
  · rw [Json.lookup_update, first.rollback, second.rollback, Option.none_or]
  · rw [Json.lookup_update, first.manual, second.manual, Option.none_or]

/-- No answer of the service control says anything about the verdict. -/
theorem silent_answer (answer : ControlAnswer) : Silent answer.fields := by
  cases answer with
  | operation name => exact ⟨rfl, rfl, rfl⟩
  | inspection database => exact ⟨rfl, rfl, rfl⟩
  | backup database runId => exact Silent.update ⟨rfl, rfl, rfl⟩ ⟨rfl, rfl, rfl⟩
  | status report => exact ⟨rfl, rfl, rfl⟩

/-- A service that is as expected is found so in the observation. -/
theorem exists_of_serviceObserved {before : Option (List (String × ServiceItem))} {fresh : Bool}
    {services : List (String × ServiceItem)} {unit : String}
    (found : (services.lookup unit).any (serviceObserved before fresh unit) = true) :
    ∃ item, services.lookup unit = some item ∧ item.state = "active" ∧ 0 < item.pid ∧
      item.codeDirectoryMatches = true ∧ (fresh = true → ∃ listed old, before = some listed ∧
        listed.lookup unit = some old ∧ item.pid ≠ old.pid) := by
  obtain ⟨item, listed, observed⟩ := (Option.any_eq_true _ _).mp found
  simp only [serviceObserved, Bool.and_eq_true, Bool.or_eq_true, decide_eq_true_eq,
    Bool.not_eq_true'] at observed
  obtain ⟨⟨⟨active, running⟩, placed⟩, another⟩ := observed
  refine ⟨item, listed, active, running, placed, fun asked => ?_⟩
  rcases another with unasked | other
  · exact absurd (unasked.symm.trans asked) (by decide)
  · obtain ⟨old, former, differs⟩ := (Option.any_eq_true _ _).mp other
    obtain ⟨services, prepared, found⟩ := Option.bind_eq_some_iff.mp former
    exact ⟨services, old, prepared, found, of_decide_eq_true differs⟩

/-- An observation that passes is noted and confirms what was expected; no other one is noted. -/
theorem ends_observe {expected : Option String} {fresh : Bool} :
    Attempt.Ends (observe host expected fresh)
      (fun fields after => Silent fields ∧ ∃ seen sha dispatched, expected = some sha ∧
        seen.Confirms sha fresh ∧ after = { session with
          dispatched := dispatched, observed := session.observed ++ [seen] })
      (fun _ after => ∃ dispatched, after = { session with dispatched := dispatched }) session := by
  have untouched : ∃ dispatched, session = { session with dispatched := dispatched } := ⟨_, rfl⟩
  have asked (args : List String) :
      ∃ dispatched, session.log args = { session with dispatched := dispatched } := ⟨_, rfl⟩
  have inspected (args rest : List String) :
      ∃ dispatched, (session.log args).log rest = { session with dispatched := dispatched } :=
    ⟨_, rfl⟩
  unfold observe
  simp only [Attempt.ends_bind, Attempt.ends_answer, Attempt.ends_get, Attempt.ends_modify,
    Attempt.ends_pure, ends_require, ends_dispatch]
  refine ⟨?_, fun _ _ => untouched⟩
  -- Each question in turn: a failure leaves what has been asked so far in the log.
  intro head read
  refine ⟨fun same => ⟨?_, fun _ _ => asked _⟩, fun _ => untouched⟩
  intro answer known
  refine ⟨?_, fun _ _ => asked _⟩
  intro report reported
  refine ⟨fun services => ⟨?_, fun _ _ => inspected _ _⟩, fun _ => asked _⟩
  intro database found
  refine ⟨?_, fun _ _ => inspected _ _⟩
  intro version versioned
  refine ⟨fun agrees => ⟨?_, fun _ _ => inspected _ _⟩, fun _ => inspected _ _⟩
  intro healthy lived
  refine ⟨fun alive => ?_, fun _ => inspected _ _⟩
  -- All checks have passed, so the note says what they have compared.
  simp only [decide_eq_true_eq, List.all_eq_true, Bool.and_eq_true, Bool.or_eq_true,
    Bool.not_eq_true'] at same services agrees
  refine ⟨(silent_answer (.status report)).update ⟨rfl, rfl, rfl⟩, _, head, _, same.symm, ?_, rfl⟩
  refine ⟨rfl, fun unit listed => exists_of_serviceObserved (services unit listed),
    agrees.1.symm, fun asked => ?_, alive⟩
  rcases agrees.2 with unasked | quiet
  · exact absurd (unasked.symm.trans asked) (by decide)
  · exact quiet

/-- What serving a worker leaves as it was, and that the session stays sound. -/
structure Served (session after : Session) : Prop where
  sound : Sound after
  recovering : after.recovering = session.recovering
  observed : after.observed = session.observed

/-- A session that is sound has been served nothing yet. -/
theorem Served.refl (sound : Sound session) : Served session session :=
  ⟨sound, rfl, rfl⟩

/-- A worker may be served in parts. -/
theorem Served.trans {between : Session} (first : Served session between)
    (second : Served between after) : Served session after :=
  ⟨second.sound, second.recovering.trans first.recovering, second.observed.trans first.observed⟩

/-- Handling a message serves a worker. -/
theorem Handled.served (handled : Handled session after) : Served session after := by
  refine ⟨handled.sound, ?_, ?_⟩
  · rw [handled.frame]
  · rw [handled.frame]

section

variable (sound : Sound session)

include sound

/-- The log of what root did does not matter for the soundness of a session. -/
theorem Sound.noted (dispatched : List Dispatch) (observed : List Observation) :
    Sound { session with dispatched := dispatched, observed := observed } :=
  ⟨sound.current, sound.checkpoint, sound.recorded⟩

/-- Further dispatches change nothing that counts. -/
theorem Served.dispatched (dispatched : List Dispatch) :
    Served session { session with dispatched := dispatched } :=
  ⟨sound.noted dispatched _, rfl, rfl⟩

/-- A reply serves a worker whether the message is answered, refused or interrupted. -/
theorem ends_reply {message : Json} :
    Attempt.Ends (reply message host) (fun _ after => Served session after)
      (fun _ after => Served session after) session := by
  simp only [reply, Attempt.ends_tryCatch, Attempt.ends_bind]
  refine (ends_request sound).imp (fun answer after answered => answered.1.served) ?_
  intro raised after untaken
  cases raised with
  | exception message => exact untaken.1.served
  | interrupt => exact untaken.1.served

/-- A whole conversation serves a worker, however far it gets. -/
theorem ends_converse {messages : List (Json × Host)} :
    Attempt.Ends (converse messages) (fun _ after => Served session after)
      (fun _ after => Served session after) session := by
  -- The session moves along with every message, so it stays general.
  induction messages generalizing session with
  | nil => exact Served.refl sound
  | cons exchange rest ih =>
    obtain ⟨message, host⟩ := exchange
    simp only [converse, Attempt.ends_bind]
    refine (ends_reply sound).imp ?_ fun _ _ served => served
    intro _ between first
    exact (ih first.sound).imp (fun _ _ second => first.trans second)
      fun _ _ second => first.trans second

/-- A worker is served whether or not it hands in a report. -/
theorem ends_worker {run : WorkerRun} :
    Attempt.Ends (worker run) (fun _ after => Served session after)
      (fun _ after => Served session after) session := by
  simp only [worker, Attempt.ends_bind]
  refine (ends_converse sound).imp ?_ fun _ _ served => served
  intro _ after served
  simp only [Attempt.ends_bind, Attempt.ends_answer]
  refine ⟨?_, fun _ _ => served⟩
  rintro ⟨report, exitCode⟩ -
  -- Reading the report changes nothing any more.
  cases report with
  | obj fields =>
    simp only [Attempt.ends_ite, Attempt.ends_throw, Attempt.ends_pure]
    exact ⟨fun _ => served, fun _ => served⟩
  | _ => exact served

end

/-- How the first attempt of a deployment ends. -/
inductive Attempted (result : List (String × Json)) (after : Session) : Prop
  | success (seen : Observation) (reported : succeeded result = true)
      (confirms : seen.Confirms after.target true) (noted : after.observed = [seen])
  | rollback (seen : Observation) (sha : String) (failed : succeeded result = false)
      (reported : rolledBack result = true) (previous : after.previous = some sha)
      (confirms : seen.Confirms sha false) (noted : after.observed = [seen])
  | failure (failed : succeeded result = false) (kept : rolledBack result = false)
      (noted : after.observed = [])

variable {outside : Surroundings}

/-- The first attempt always ends, and counts as what root has observed. -/
theorem ends_attemptDeploy (sound : Sound session) (unobserved : session.observed = []) :
    Attempt.Ends (attemptDeploy outside)
      (fun result after => Sound after ∧ after.recovering = session.recovering ∧
        Attempted result after)
      (fun _ _ => False) session := by
  have unknown (after : Session) (served : Served session after) :
      Sound after ∧ after.recovering = session.recovering ∧
        Attempted unknownResult after :=
    ⟨served.sound, served.recovering,
      .failure (by decide) (by decide) (served.observed.trans unobserved)⟩
  simp only [attemptDeploy, Attempt.ends_bind, Attempt.ends_caught]
  refine (ends_worker sound).imp ?_ fun _ after served => unknown after served
  intro result after served
  simp only [Attempt.ends_get, Attempt.ends_ite, Attempt.ends_bind, ends_require]
  refine ⟨fun reported => ⟨fun _ => ?_, fun _ => unknown after served⟩,
    fun failed => ⟨fun reported => ?_, fun kept => ?_⟩⟩
  · -- A success that is reported counts once root has observed the target in fresh services.
    refine ends_observe.imp ?_ ?_
    · rintro fields _ ⟨silent, seen, sha, dispatched, target, confirms, rfl⟩
      obtain rfl : after.target = sha := Option.some.inj target
      have same : succeeded (Json.update result fields) = succeeded result :=
        congrArg (·.1) (silent.verdict_update result)
      exact ⟨served.sound.noted dispatched _, served.recovering,
        .success seen (same.trans reported) confirms (by rw [served.observed, unobserved]; rfl)⟩
    · rintro _ _ ⟨dispatched, rfl⟩
      exact unknown _ (served.trans (Served.dispatched served.sound dispatched))
  · -- A rollback that is reported counts once root has observed the checkpoint.
    refine ends_observe.imp ?_ ?_
    · rintro fields _ ⟨silent, seen, sha, dispatched, previous, confirms, rfl⟩
      have failure : succeeded (Json.update result fields) = succeeded result :=
        congrArg (·.1) (silent.verdict_update result)
      have rollback : rolledBack (Json.update result fields) = rolledBack result :=
        congrArg (·.2.1) (silent.verdict_update result)
      exact ⟨served.sound.noted dispatched _, served.recovering,
        .rollback seen sha (failure.trans (eq_false_of_ne_true failed)) (rollback.trans reported)
          previous confirms (by rw [served.observed, unobserved]; rfl)⟩
    · rintro _ _ ⟨dispatched, rfl⟩
      exact unknown _ (served.trans (Served.dispatched served.sound dispatched))
  · exact ⟨served.sound, served.recovering, .failure (eq_false_of_ne_true failed)
      (eq_false_of_ne_true kept) (served.observed.trans unobserved)⟩

/-- The worker of a recovery hands in a report, in a session that it leaves behind. -/
def RecoveryReports (outside : Surroundings) (session : Session)
    (report : List (String × Json)) (reached : Session) : Prop :=
  (worker outside.recoverer).run { session with recovering := true } = .ok report reached

/-- After the worker of a recovery, root observes the checkpoint. -/
def RecoveryObserved (outside : Surroundings) (reached : Session) : Prop :=
  ∃ seen after, (observe outside.recovered reached.previous false).run reached = .ok seen after

/-- A recovery that is given up: both services are stopped once more, and the result says so. -/
structure Abandoned (result final : List (String × Json)) (after : Session) : Prop where
  verdict : Session.verdict final = (succeeded result, false, true)
  stopped : ∃ earlier, after.dispatched.map (·.args) = earlier ++ [["stop-web"], ["stop-runtime"]]
  noted : after.observed = []

/-- How the recovery of a deployment ends. -/
inductive Recovered (outside : Surroundings) (result : List (String × Json)) (session : Session)
    (final : List (String × Json)) (after : Session) : Prop
  | unreported (silent : ∀ report reached, ¬RecoveryReports outside session report reached)
      (abandoned : Abandoned result final after)
  | refused (report : List (String × Json)) (reached : Session)
      (reports : RecoveryReports outside session report reached)
      (unverified : ¬(rolledBack (Json.update result report) = true ∧
        RecoveryObserved outside reached))
      (abandoned : Abandoned (Json.update result report) final after)
  | verified (report : List (String × Json)) (reached : Session)
      (reports : RecoveryReports outside session report reached)
      (kept : rolledBack (Json.update result report) = true)
      (observed : RecoveryObserved outside reached)
      (same : verdict final = verdict (Json.update result report))
      (seen : Observation) (sha : String) (previous : after.previous = some sha)
      (confirms : seen.Confirms sha false) (noted : after.observed = [seen])

variable {result : List (String × Json)}

/-- Giving a recovery up always ends, with both services stopped once more. -/
theorem ends_giveUp (served : Served { session with recovering := true } after)
    (unobserved : session.observed = []) :
    Attempt.Ends (giveUp outside result)
      (fun final last => Sound last ∧ last.recovering = true ∧ Abandoned result final last)
      (fun _ _ => False) after := by
  have verdict : verdict (Json.update result [("rollback_succeeded", .bool false),
      ("manual_recovery_required", .bool true), ("api_healthy", .bool false),
      ("running_sha", .null)]) = (succeeded result, false, true) := by
    simp only [Session.verdict, succeeded, rolledBack, needsManual, Json.isText, Json.isTrue,
      Json.lookup_update]
    rfl
  have ended : Abandoned result _ ((after.log ["stop-web"]).log ["stop-runtime"]) :=
    ⟨verdict, ⟨after.dispatched.map (·.args), by simp [Session.log]⟩,
      served.observed.trans unobserved⟩
  simp only [giveUp, Attempt.ends_bind, Attempt.ends_caught, ends_dispatch, Attempt.ends_pure]
  have last := (served.sound.log ["stop-web"]).log ["stop-runtime"]
  exact ⟨fun _ _ => ⟨fun _ _ => ⟨last, served.recovering, ended⟩,
      fun _ _ => ⟨last, served.recovering, ended⟩⟩,
    fun _ _ => ⟨fun _ _ => ⟨last, served.recovering, ended⟩,
      fun _ _ => ⟨last, served.recovering, ended⟩⟩⟩

/-- A recovery always ends: it is verified by root, or it is given up. -/
theorem ends_recover (sound : Sound session) (unobserved : session.observed = []) :
    Attempt.Ends (recover outside result)
      (fun final after => Sound after ∧ after.recovering = true ∧
        Recovered outside result session final after)
      (fun _ _ => False) session := by
  have recovering : Sound { session with recovering := true } :=
    ⟨sound.current, sound.checkpoint, sound.recorded⟩
  simp only [recover, Attempt.ends_bind, Attempt.ends_modify, Attempt.ends_caught]
  refine (ends_worker recovering).ran.imp ?_ ?_
  · -- The worker has reported: root goes on to observe the checkpoint if a rollback is claimed.
    rintro report reached ⟨reports, served⟩
    simp only [Attempt.ends_bind, Attempt.ends_caught, Attempt.ends_get, ends_require]
    refine ⟨fun kept => ?_, fun failed => ?_⟩
    · refine ends_observe.ran.imp ?_ ?_
      · rintro fields _ ⟨observed, silent, seen, sha, dispatched, previous, confirms, rfl⟩
        exact ⟨served.sound.noted dispatched _, served.recovering,
          .verified report reached reports kept ⟨fields, _, observed⟩ (silent.verdict_update _) seen
            sha previous confirms (by rw [served.observed, unobserved]; rfl)⟩
      · rintro raised _ ⟨refused, dispatched, rfl⟩
        refine (ends_giveUp (served.trans (Served.dispatched served.sound dispatched))
          unobserved).imp ?_ fun _ _ never => never
        rintro final after ⟨last, still, abandoned⟩
        refine ⟨last, still, .refused report reached reports ?_ abandoned⟩
        rintro ⟨-, seen, other, observed⟩
        exact absurd (refused.symm.trans observed) (by simp)
    · refine (ends_giveUp served unobserved).imp ?_ fun _ _ never => never
      rintro final after ⟨last, still, abandoned⟩
      refine ⟨last, still, .refused report reached reports ?_ abandoned⟩
      rintro ⟨kept, -⟩
      exact absurd (failed.symm.trans kept) (by decide)
  · -- The worker has not reported, and the recovery is given up at once.
    rintro raised reached ⟨silent, served⟩
    refine (ends_giveUp served unobserved).imp ?_ fun _ _ never => never
    rintro final after ⟨last, still, abandoned⟩
    refine ⟨last, still, .unreported (fun report other reports => ?_) abandoned⟩
    exact absurd (silent.symm.trans reports) (by simp)

end Session

end StrategyLab
