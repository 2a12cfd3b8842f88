import StrategyLab.Deploy.BrokerLaws

/-! Truthful outcomes: when what a deployment returns is what root has observed of it. -/

namespace StrategyLab

namespace Session

variable {session after : Session}

/-- Only an interrupt gets past a default. -/
theorem ends_orElse {α : Type} {attempt : EStateM Raised Session α} {default : α}
    {returns : α → Session → Prop}
    (ends : Attempt.Ends attempt returns (fun _ => returns default) session) :
    Attempt.Ends (orElse attempt default) returns (fun _ _ => True) session := by
  simp only [orElse, Attempt.ends_tryCatch]
  refine ends.imp (fun _ _ returned => returned) ?_
  intro raised after defaulted
  cases raised with
  | exception message => exact defaulted
  | interrupt => trivial

/-- What completing a result may change. -/
structure Finished (result : List (String × Json)) (session : Session)
    (final : List (String × Json)) (after : Session) : Prop where
  verdict : Session.verdict final = Session.verdict result
  frame : after = { session with
    active := after.active, reports := after.reports, dispatched := after.dispatched }
  asked : ∃ entries, after.dispatched = session.dispatched ++ entries ∧
    ∀ entry ∈ entries, ∀ operation ∈ operations.map (·.1), entry.args.head? ≠ some operation

/-- A question about the services is noted, and its answer says nothing about the verdict. -/
theorem ends_left_services {host : Host} {since : String} :
    Attempt.Ends (orElse (do return (← dispatch host ["status", since]).fields)
        [("services", .obj (units.map fun unit => (unit, .obj [("state", .str "unknown")])))])
      (fun fields after => Silent fields ∧ after = session.log ["status", since])
      (fun _ _ => True) session := by
  apply ends_orElse
  simp only [Attempt.ends_bind, ends_dispatch, Attempt.ends_pure]
  exact ⟨fun answer _ => ⟨silent_answer answer, trivial⟩,
    fun _ _ => ⟨⟨rfl, rfl, rfl⟩, trivial⟩⟩

/-- A question about the database is noted. -/
theorem ends_left_version {host : Host} :
    Attempt.Ends (orElse (do return .int (← Attempt.answer
        (← dispatch host ["inspect"]).schemaVersion)) Json.null)
      (fun _ after => after = session.log ["inspect"]) (fun _ _ => True) session := by
  apply ends_orElse
  simp only [Attempt.ends_bind, Attempt.ends_answer, ends_dispatch, Attempt.ends_pure]
  exact ⟨fun _ _ => ⟨fun _ _ => trivial, fun _ _ => trivial⟩, fun _ _ => trivial⟩

variable {outside : Surroundings} {result : List (String × Json)}

/-- Describing what is left only asks questions, and does not touch the journal. -/
theorem ends_describe :
    Attempt.Ends (describe outside result)
      (fun final after => Finished result session final after ∧ after.active = session.active)
      (fun _ _ => True) session := by
  simp only [describe, Attempt.ends_bind, Attempt.ends_get]
  refine ends_left_services.imp ?_ fun _ _ done => done
  rintro services _ ⟨silent, rfl⟩
  simp only [Attempt.ends_bind]
  refine ends_left_version.imp ?_ fun _ _ done => done
  rintro version _ rfl
  simp only [Attempt.ends_pure]
  -- Neither group of fields touches the verdict, and neither question is an operation.
  have same : verdict (Json.update (Json.update result services)
      [("db_schema_version", version)]) = verdict result :=
    (Silent.verdict_update ⟨rfl, rfl, rfl⟩ _).trans (silent.verdict_update result)
  refine ⟨⟨same, rfl, [_, _], List.append_assoc _ _ _, fun entry member => ?_⟩, rfl⟩
  intro operation listed named
  simp only [List.mem_cons, List.not_mem_nil, or_false] at member
  rcases member with rfl | rfl
  · obtain rfl : "status" = operation := Option.some.inj named
    simp [mem_operations] at listed
  · obtain rfl : "inspect" = operation := Option.some.inj named
    simp [mem_operations] at listed

/-- A result that is returned has decided about the journal. -/
theorem ends_conclude :
    Attempt.Ends (conclude outside result)
      (fun final after => Finished result session final after ∧
        after.active = if needsManual final then session.active else none)
      (fun _ _ => True) session := by
  simp only [conclude, Attempt.ends_bind, Attempt.ends_get, Attempt.ends_answer]
  refine ⟨?_, fun _ _ => trivial⟩
  intro numbers _
  have silent : Silent [("finished_at", .str outside.finishedAt),
      ("target_sha", .str session.target), ("run_id", .str session.runId),
      ("pr_numbers", .list (numbers.map .int)), ("db_restored", .bool false),
      ("deployment_identity", .str "strategylab"),
      ("authorization", .str "GitHub main + merged PR + approved CI run")] := ⟨rfl, rfl, rfl⟩
  have started : verdict (if (result.lookup "started_at").isSome then result
      else Json.update result [("started_at", .str session.startedAt)]) = verdict result := by
    split
    · rfl
    · exact Silent.verdict_update ⟨rfl, rfl, rfl⟩ result
  have same := (silent.verdict_update _).trans started
  refine ends_save.imp ?_ fun _ _ _ => trivial
  rintro _ _ rfl
  -- From here on the flag alone decides what becomes of the journal.
  simp only [Attempt.ends_ite, Attempt.ends_bind, Attempt.ends_answer, Attempt.ends_modify,
    Attempt.ends_pure]
  have unasked : ∃ entries, session.dispatched = session.dispatched ++ entries ∧
      ∀ entry ∈ entries, ∀ operation ∈ operations.map (·.1), entry.args.head? ≠ some operation :=
    ⟨[], (List.append_nil _).symm, fun _ member => by cases member⟩
  refine ⟨fun removed => ⟨fun _ _ => ⟨⟨same, rfl, unasked⟩, ?_⟩, fun _ _ => trivial⟩,
    fun kept => ⟨⟨same, rfl, unasked⟩, ?_⟩⟩
  · rw [if_neg (by simpa using removed)]
  · rw [if_pos (by simpa using kept)]

/-- A result may be completed in parts. -/
theorem Finished.trans {result second final : List (String × Json)} {between : Session}
    (first : Finished result session second between) (next : Finished second between final after) :
    Finished result session final after := by
  obtain ⟨asked, grown, questions⟩ := first.asked
  obtain ⟨others, further, more⟩ := next.asked
  refine ⟨next.verdict.trans first.verdict, ?_, asked ++ others, ?_, ?_⟩
  · rw [next.frame, first.frame]
  · rw [further, grown, List.append_assoc]
  · intro entry member
    rcases List.mem_append.mp member with earlier | later
    · exact questions entry earlier
    · exact more entry later

/-- How a deployment goes on from the verdict on it. -/
theorem ends_finish :
    Attempt.Ends (do
        let result ← (if !succeeded result && !rolledBack result
          then describe outside result else pure result)
        conclude outside result)
      (fun final after => Finished result session final after ∧
        after.active = if needsManual final then session.active else none)
      (fun _ _ => True) session := by
  simp only [Attempt.ends_bind, Attempt.ends_ite, Attempt.ends_pure]
  refine ⟨fun _ => ?_, fun _ => ends_conclude⟩
  refine ends_describe.imp ?_ fun _ _ done => done
  rintro second between ⟨described, same⟩
  refine ends_conclude.imp ?_ fun _ _ done => done
  rintro final after ⟨concluded, journal⟩
  exact ⟨described.trans concluded, same ▸ journal⟩

/-- Root has observed that the target runs in services that were started afresh. -/
def TargetObserved (session : Session) : Prop :=
  ∃ seen ∈ session.observed, seen.Confirms session.target true

/-- Root has observed that the services run the checkpoint. -/
def CheckpointObserved (session : Session) : Prop :=
  ∃ sha, session.previous = some sha ∧ ∃ seen ∈ session.observed, seen.Confirms sha false

/-- A result is truthful about the session that returned it. -/
structure Truthful (result : List (String × Json)) (after : Session) : Prop where
  /-- A success is one that root has observed. -/
  success : succeeded result = true → TargetObserved after
  /-- Stopped services without a verified outcome are stopped once more, and need a hand. -/
  stopped : after.stopped = true → ¬(succeeded result = true ∧ TargetObserved after) →
    ¬(rolledBack result = true ∧ CheckpointObserved after) →
    needsManual result = true ∧ ∃ earlier rest, after.dispatched.map (·.args) =
        earlier ++ [["stop-web"], ["stop-runtime"]] ++ rest ∧
      ∀ args ∈ rest, ∀ operation ∈ operations.map (·.1), args.head? ≠ some operation
  /-- The journal stays on the disk exactly where a recovery by hand is needed. -/
  journal : after.active = if needsManual result then after.written.getLast? else none
  /-- A recovery that root has verified needs no hand and leaves later deployments alone. -/
  recovered : after.recovering = true → CheckpointObserved after → needsManual result = false ∧
    ∀ runId, after.reports.lookup runId = none →
      acceptRun after.active after.reports runId = .ok ()

/-- The report of a recovery, laid over the first result, claims no success, and asks for no hand
where it claims a rollback that root goes on to observe. -/
def CleanReport (outside : Surroundings) (result report : List (String × Json))
    (reached : Session) : Prop :=
  succeeded (Json.update result report) = false ∧
    (rolledBack (Json.update result report) = true → RecoveryObserved outside reached →
      needsManual (Json.update result report) = false)

/-- If a deployment comes to a recovery, its worker hands in no report but a clean one. -/
def RecoversCleanly (outside : Surroundings) (start : Session) : Prop :=
  ∀ result opened, (attemptDeploy outside).run start = .ok result opened →
    opened.stopped = true → succeeded result = false → rolledBack result = false →
    ∀ report reached, RecoveryReports outside opened report reached →
      CleanReport outside result report reached

/-- A deployment that returns went through its first attempt, and through a recovery if needed. -/
theorem execute_cases (returned : (execute outside).run session = .ok result after) :
    ∃ first opened, (attemptDeploy outside).run session = .ok first opened ∧
      ∃ second reached, (Finished second reached result after ∧
          after.active = if needsManual result then reached.active else none) ∧
        (if opened.stopped && !succeeded first && !rolledBack first
          then (recover outside first).run opened = .ok second reached
          else second = first ∧ reached = opened) := by
  obtain ⟨first, opened, attempted, returned⟩ := Attempt.run_bind_eq_ok.mp returned
  obtain ⟨_, _, got, returned⟩ := Attempt.run_bind_eq_ok.mp returned
  cases got
  obtain ⟨second, reached, recovered, returned⟩ := Attempt.run_bind_eq_ok.mp returned
  refine ⟨first, opened, attempted, second, reached, ends_finish.of_ok returned, ?_⟩
  split at recovered
  · rename_i needed
    rw [if_pos needed]
    exact recovered
  · rename_i needed
    rw [if_neg needed]
    cases recovered
    exact ⟨rfl, rfl⟩

/-- Root has observed as much after a result is completed as before. -/
theorem Finished.observed {result final : List (String × Json)}
    (finished : Finished result session final after) :
    (TargetObserved after ↔ TargetObserved session) ∧
      (CheckpointObserved after ↔ CheckpointObserved session) := by
  rw [finished.frame]
  exact ⟨Iff.rfl, Iff.rfl⟩

/-- Without an unfinished deployment a run that was not reported is admitted. -/
theorem acceptRun_of_removed {active : Option Journal}
    {reports : List (String × List (String × Json))} {runId : String} (removed : active = none)
    (unreported : reports.lookup runId = none) : acceptRun active reports runId = .ok () := by
  rw [acceptRun, removed, unreported]
  rfl

/-- A result is truthful if its verdict was, before it was completed. -/
theorem truthful_of_finished {result final : List (String × Json)} (sound : Sound session)
    (finished : Finished result session final after)
    (journal : after.active = if needsManual final then session.active else none)
    (success : succeeded result = true → TargetObserved session)
    (stopped : session.stopped = true → ¬(succeeded result = true ∧ TargetObserved session) →
      ¬(rolledBack result = true ∧ CheckpointObserved session) →
      needsManual result = true ∧ ∃ earlier, session.dispatched.map (·.args) =
        earlier ++ [["stop-web"], ["stop-runtime"]])
    (recovered : session.recovering = true → CheckpointObserved session →
      needsManual result = false) : Truthful final after := by
  have sameSuccess : succeeded final = succeeded result := congrArg (·.1) finished.verdict
  have sameRollback : rolledBack final = rolledBack result := congrArg (·.2.1) finished.verdict
  have sameManual : needsManual final = needsManual result := congrArg (·.2.2) finished.verdict
  obtain ⟨target, checkpoint⟩ := finished.observed
  refine ⟨?_, ?_, ?_, ?_⟩
  · rw [sameSuccess, target]
    exact success
  · have same : after.stopped = session.stopped := by rw [finished.frame]
    rw [same, sameSuccess, sameRollback, sameManual, target, checkpoint]
    intro was unsuccessful unrolled
    obtain ⟨manual, earlier, stops⟩ := stopped was unsuccessful unrolled
    obtain ⟨entries, grown, questions⟩ := finished.asked
    refine ⟨manual, earlier, entries.map (·.args), ?_, ?_⟩
    · rw [grown, List.map_append, stops]
    · intro args member
      obtain ⟨entry, listed, rfl⟩ := List.mem_map.mp member
      exact questions entry listed
  · have same : after.written = session.written := by rw [finished.frame]
    rw [journal, same, sound.current]
  · have same : after.recovering = session.recovering := by rw [finished.frame]
    rw [same, checkpoint]
    intro was verified
    have unneeded : needsManual final = false := sameManual.trans (recovered was verified)
    refine ⟨unneeded, fun runId unreported => acceptRun_of_removed ?_ unreported⟩
    rw [journal, unneeded]
    rfl

/-- The result of a recovery counts as its report does, laid over the first result. -/
theorem RecoveryReports.same {report other : List (String × Json)}
    {reached elsewhere : Session} (first : RecoveryReports outside session report reached)
    (second : RecoveryReports outside session other elsewhere) :
    report = other ∧ reached = elsewhere := by
  have both := first.symm.trans second
  cases both
  exact ⟨rfl, rfl⟩

/-- Where root has observed the checkpoint, it has not observed the target. -/
theorem not_targetObserved (sound : Sound session) {seen : Observation} {sha : String}
    (previous : session.previous = some sha) (confirms : seen.Confirms sha false)
    (noted : session.observed = [seen]) : ¬TargetObserved session := by
  rintro ⟨other, listed, target⟩
  rw [noted] at listed
  obtain rfl := List.mem_singleton.mp listed
  exact (sound.checkpoint sha previous).2 (confirms.head.symm.trans target.head)

/-- A deployment that comes to no recovery is truthful. -/
theorem truthful_of_attempted {result final : List (String × Json)} (sound : Sound session)
    (calm : session.recovering = false) (attempted : Attempted result session)
    (settled : (session.stopped && !succeeded result && !rolledBack result) = false)
    (finished : Finished result session final after)
    (journal : after.active = if needsManual final then session.active else none) :
    Truthful final after := by
  have unrecovered : session.recovering = true → CheckpointObserved session →
      needsManual result = false :=
    fun recovering => absurd (calm.symm.trans recovering) (by decide)
  -- An outcome that root has observed is verified, and without one nothing was stopped.
  cases attempted with
  | success seen reported confirms noted =>
    have target : TargetObserved session :=
      ⟨seen, noted ▸ List.mem_singleton_self seen, confirms⟩
    exact truthful_of_finished sound finished journal (fun _ => target)
      (fun _ unverified => absurd ⟨reported, target⟩ unverified) unrecovered
  | rollback seen sha failed reported previous confirms noted =>
    have checkpoint : CheckpointObserved session :=
      ⟨sha, previous, seen, noted ▸ List.mem_singleton_self seen, confirms⟩
    exact truthful_of_finished sound finished journal
      (fun reports => absurd (failed.symm.trans reports) (by decide))
      (fun _ _ unverified => absurd ⟨reported, checkpoint⟩ unverified) unrecovered
  | failure failed kept noted =>
    -- Nothing was stopped, or there would have been a recovery.
    have running : session.stopped = false := by simpa [failed, kept] using settled
    exact truthful_of_finished sound finished journal
      (fun reports => absurd (failed.symm.trans reports) (by decide))
      (fun stopped => absurd (running.symm.trans stopped) (by decide)) unrecovered

/-- A recovery that was given up is truthful if its result claims no success. -/
theorem Abandoned.truthful {result second final : List (String × Json)} (sound : Sound session)
    (abandoned : Abandoned result second session) (failed : succeeded result = false)
    (finished : Finished second session final after)
    (journal : after.active = if needsManual final then session.active else none) :
    Truthful final after := by
  have unsuccessful : succeeded second = false := (congrArg (·.1) abandoned.verdict).trans failed
  refine truthful_of_finished sound finished journal
    (fun reports => absurd (unsuccessful.symm.trans reports) (by decide))
    (fun _ _ _ => ⟨congrArg (·.2.2) abandoned.verdict, abandoned.stopped⟩) ?_
  rintro - ⟨sha, -, seen, listed, -⟩
  rw [abandoned.noted] at listed
  cases listed

/-- A deployment that comes to a recovery is truthful exactly if the recovery reports cleanly. -/
theorem truthful_iff_of_recovered {opened : Session}
    {first second final : List (String × Json)} (sound : Sound session)
    (recovering : session.recovering = true) (failed : succeeded first = false)
    (recovered : Recovered outside first opened second session)
    (finished : Finished second session final after)
    (journal : after.active = if needsManual final then session.active else none) :
    Truthful final after ↔ ∀ report reached, RecoveryReports outside opened report reached →
      CleanReport outside first report reached := by
  have sameSuccess : succeeded final = succeeded second := congrArg (·.1) finished.verdict
  have sameManual : needsManual final = needsManual second := congrArg (·.2.2) finished.verdict
  have still : after.recovering = session.recovering := by rw [finished.frame]
  obtain ⟨target, checkpoint⟩ := finished.observed
  cases recovered with
  | unreported silent abandoned =>
    -- No report, so no report that is not clean; the services were stopped once more.
    exact ⟨fun _ report reached reports => absurd reports (silent report reached),
      fun _ => abandoned.truthful sound failed finished journal⟩
  | refused report reached reports unverified abandoned =>
    -- Nothing was observed, so a success that is claimed is not truthful.
    constructor
    · intro truthful other elsewhere otherwise
      obtain ⟨rfl, rfl⟩ := reports.same otherwise
      refine ⟨?_, fun kept observed => absurd ⟨kept, observed⟩ unverified⟩
      by_contra claimed
      have success : succeeded final = true := by
        rw [sameSuccess]
        exact (congrArg (·.1) abandoned.verdict).trans (eq_true_of_ne_false claimed)
      obtain ⟨seen, listed, -⟩ := target.mp (truthful.success success)
      rw [abandoned.noted] at listed
      cases listed
    · intro clean
      exact abandoned.truthful sound (clean report reached reports).1 finished journal
  | verified report reached reports kept observed same seen sha previous confirms noted =>
    -- The checkpoint was observed, and the checkpoint is not the target.
    have verified : CheckpointObserved session :=
      ⟨sha, previous, seen, noted ▸ List.mem_singleton_self seen, confirms⟩
    constructor
    · intro truthful other elsewhere otherwise
      obtain ⟨rfl, rfl⟩ := reports.same otherwise
      refine ⟨?_, fun _ _ => ?_⟩
      · by_contra claimed
        have success : succeeded final = true := by
          rw [sameSuccess]
          exact (congrArg (·.1) same).trans (eq_true_of_ne_false claimed)
        exact not_targetObserved sound previous confirms noted
          (target.mp (truthful.success success))
      · have unneeded := (truthful.recovered (still.trans recovering) (checkpoint.mpr verified)).1
        rw [sameManual] at unneeded
        exact (congrArg (·.2.2) same).symm.trans unneeded
    · intro clean
      obtain ⟨unclaimed, unneeded⟩ := clean report reached reports
      have unsuccessful : succeeded second = false := (congrArg (·.1) same).trans unclaimed
      have rolled : rolledBack second = true := (congrArg (·.2.1) same).trans kept
      exact truthful_of_finished sound finished journal
        (fun success => absurd (unsuccessful.symm.trans success) (by decide))
        (fun _ _ unverified => absurd ⟨rolled, verified⟩ unverified)
        (fun _ _ => (congrArg (·.2.2) same).trans (unneeded kept observed))

/-- The outcome of a deployment is truthful exactly if its recovery, if any, reports cleanly. -/
theorem truthful_iff (outside : Surroundings) (target runId prs : String) (since : Nat)
    (startedAt : String) (reports : List (String × List (String × Json)))
    (result : List (String × Json)) (after : Session)
    (returned : (execute outside).run (init target runId prs since startedAt reports) =
      .ok result after) :
    Truthful result after ↔
      RecoversCleanly outside (init target runId prs since startedAt reports) := by
  have start := underway_init target runId prs since startedAt reports
  obtain ⟨first, opened, attempted, second, reached, ⟨finished, journal⟩, recovered⟩ :=
    execute_cases returned
  obtain ⟨sound, calm, ended⟩ := (ends_attemptDeploy start.sound rfl).of_ok attempted
  split at recovered
  · -- The services were stopped and nothing was verified: the recovery decides.
    rename_i needed
    simp only [Bool.and_eq_true, Bool.not_eq_true'] at needed
    obtain ⟨⟨stopped, failed⟩, kept⟩ := needed
    have unobserved : opened.observed = [] := by
      cases ended with
      | success seen reported => exact absurd (failed.symm.trans reported) (by decide)
      | rollback seen sha _ reported => exact absurd (kept.symm.trans reported) (by decide)
      | failure _ _ noted => exact noted
    obtain ⟨later, recovering, ending⟩ := (ends_recover sound unobserved).of_ok recovered
    rw [truthful_iff_of_recovered later recovering failed ending finished journal]
    constructor
    · intro clean other elsewhere same _ _ _
      cases attempted.symm.trans same
      exact clean
    · intro clean
      exact clean first opened attempted stopped failed kept
  · -- No recovery: there is nothing that could report badly, and the outcome is truthful.
    rename_i settled
    obtain ⟨rfl, rfl⟩ := recovered
    refine ⟨fun _ other elsewhere same stopped failed kept => ?_, fun _ => ?_⟩
    · cases attempted.symm.trans same
      simp [stopped, failed, kept] at settled
    · exact truthful_of_attempted sound calm ended (eq_false_of_ne_true settled) finished journal

/-- The commit that runs before a deployment. -/
def formerSha : String := "aaaaaaaaaaaaaaaaaaaaaaaaaaaaaaaaaaaaaaaa"

/-- The commit that is deployed. -/
def targetSha : String := "bbbbbbbbbbbbbbbbbbbbbbbbbbbbbbbbbbbbbbbb"

/-- What the repository's API answers about an approved run of the target. -/
def approvedRun (endpoint : String) : Except Raised Json :=
  if endpoint = "actions/runs/123/attempts/1" then
    .ok (.obj [("id", .int 123), ("run_attempt", .int 1), ("head_sha", .str targetSha),
      ("head_branch", .str "main"), ("path", .str ".github/workflows/gaon-production.yml"),
      ("event", .str "push"), ("status", .str "in_progress")])
  else if endpoint = "actions/runs/123/attempts/1/jobs" then
    .ok (.obj [("jobs", .list [
      .obj [("name", .str "Verify exact production SHA"), ("head_sha", .str targetSha),
        ("conclusion", .str "success")],
      .obj [("name", .str "Approved Gaon deployment (disabled until configured)"),
        ("head_sha", .str targetSha), ("status", .str "in_progress")]])])
  else if endpoint = "git/ref/heads/main" then
    .ok (.obj [("object", .obj [("sha", .str targetSha)])])
  else .ok (.list [.obj [("number", .int 257), ("merged_at", .str "2026-10-22T00:00:00Z"),
    ("merge_commit_sha", .str targetSha), ("base", .obj [("ref", .str "main"),
      ("repo", .obj [("full_name", .str "Choi0211/StrategyLab-v2")])])]])

/-- A host on which the former commit runs in healthy services. -/
def formerHost : Host where
  githubJson := approvedRun
  head := .ok formerSha
  systemctl := fun _ _ => .ok ()
  showUnit := fun _ => .ok ⟨"active", 7, true, "1"⟩
  recentErrors := .ok 0
  now := 100
  database := .ok (some 48, "ok")
  copyDatabase := fun _ => .ok ()
  loopback := .ok (some (200, .obj [("status", .str "ok")]))
  saving := .synced

/-- A message to a host on which the former commit runs. -/
def ask (operation : String) (args : List String) : Json × Host :=
  (.obj [("operation", .str operation), ("args", .list (args.map .str))], formerHost)

/-- A deployment whose worker stops the services and ends in some way, and is then rolled back. -/
def rolledBackBy (ending : Except Raised (Json × Int)) : Surroundings where
  deployer :=
    { messages := [ask "prepare" [formerSha, "48"], ask "stop-web" [], ask "stop-runtime" []]
      ending := ending }
  deployed := formerHost
  recoverer :=
    { messages := [ask "stop-web" [], ask "stop-runtime" [], ask "start-runtime" [],
        ask "start-web" []]
      ending := .ok (.obj [("status", .str "failed"), ("rollback_attempted", .bool true),
        ("rollback_succeeded", .bool true), ("running_sha", .str formerSha),
        ("api_healthy", .bool true)], 1) }
  recovered := formerHost
  abandoned := formerHost
  left := formerHost
  finishedAt := "2026-10-22T00:10:00+00:00"
  reporting := .synced
  removal := .ok ()

/-- A session that has started. -/
def startedSession : Session := init targetSha "123-1" "257" 100 "2026-10-22T00:00:00+00:00" []

/-- The worker crashes: what the deployment returns is truthful if the recovery reports cleanly. -/
theorem truthful_after_crash :
    ∃ result after, (execute (rolledBackBy (.error .interrupt))).run startedSession =
        .ok result after ∧
      (Truthful result after ↔
        RecoversCleanly (rolledBackBy (.error .interrupt)) startedSession) := by
  have returns : Attempt.returnsWith (execute (rolledBackBy (.error .interrupt))) startedSession
      (fun _ _ => true) = true := by
    decide +kernel
  obtain ⟨result, after, returned, -⟩ := Attempt.exists_of_returnsWith returns
  exact ⟨result, after, returned, truthful_iff _ targetSha "123-1" "257" 100
    "2026-10-22T00:00:00+00:00" [] result after returned⟩

/-- The report of a worker whose own rollback has failed. -/
def failedRollback : Json :=
  .obj [("status", .str "failed"), ("rollback_attempted", .bool true),
    ("rollback_succeeded", .bool false), ("manual_recovery_required", .bool true)]

/-- What is seen of the two services before the deployment and after its recovery. -/
def formerServices : List (String × ServiceItem) :=
  units.map fun unit => (unit, ⟨"active", 7, true, "1"⟩)

/-- What root observes after the recovery. -/
def formerObserved : Observation :=
  ⟨formerSha, formerServices, 0, 48, true, some formerServices, some 48⟩

/-- The observation confirms the former commit. -/
theorem formerObserved_confirms : formerObserved.Confirms formerSha false := by
  refine ⟨rfl, fun unit listed => ?_, rfl, fun fresh => absurd fresh (by decide), rfl⟩
  simp only [units, List.mem_cons, List.not_mem_nil, or_false] at listed
  rcases listed with rfl | rfl
  · exact ⟨_, rfl, rfl, by decide, rfl, fun fresh => absurd fresh (by decide)⟩
  · exact ⟨_, rfl, rfl, by decide, rfl, fun fresh => absurd fresh (by decide)⟩

/-- After a failed rollback of the worker, one that root has verified still asks for a hand. -/
theorem verified_rollback_needs_manual :
    ∃ result after, (execute (rolledBackBy (.ok (failedRollback, 1)))).run startedSession =
        .ok result after ∧ ¬Truthful result after := by
  have returns : Attempt.returnsWith (execute (rolledBackBy (.ok (failedRollback, 1))))
      startedSession (fun result after => needsManual result && after.recovering &&
        after.previous = some formerSha && after.observed = [formerObserved]) = true := by
    decide +kernel
  obtain ⟨result, after, returned, ends⟩ := Attempt.exists_of_returnsWith returns
  simp only [Bool.and_eq_true, decide_eq_true_eq] at ends
  obtain ⟨⟨⟨manual, recovering⟩, previous⟩, observed⟩ := ends
  refine ⟨result, after, returned, fun truthful => ?_⟩
  have verified : CheckpointObserved after :=
    ⟨formerSha, previous, formerObserved, observed ▸ List.mem_singleton_self _,
      formerObserved_confirms⟩
  exact absurd (manual.symm.trans (truthful.recovered recovering verified).1) (by decide)

end Session

end StrategyLab
