import StrategyLab.Deploy.DeploymentBroker
import StrategyLab.Lib.Machine
import Mathlib.Data.List.Induction

/-! The protocol of a session: a worker changes services only from a recorded checkpoint. -/

namespace StrategyLab

namespace Session

variable {host : Host} {session after : Session}

/-- A requirement that holds is passed over, and another one is raised. -/
theorem ends_require {returns : Unit → Session → Prop} {raises : Raised → Session → Prop}
    {check : Bool} {message : String} :
    Attempt.Ends (require check message) returns raises session ↔
      (check = true → returns () session) ∧
        (check = false → raises (.exception message) session) := by
  cases check <;> simp [require, ensure, Raise.ensure, Attempt.answer]

/-- A file that is saved is written, and one that is not may be written all the same. -/
theorem ends_save {saving : Saving} {written : Session → Session} :
    Attempt.Ends (save saving written) (fun _ after => after = written session)
      (fun _ after => after = session ∨ after = written session) session := by
  cases saving with
  | failed raised => exact Or.inl rfl
  | unsynced raised => exact Or.inr rfl
  | synced => rfl

variable {args : List String}

/-- A dispatch is in the log whether or not it is carried out. -/
theorem ends_dispatch {returns : ControlAnswer → Session → Prop} {raises : Raised → Session → Prop}
    :
    Attempt.Ends (dispatch host args) returns raises session ↔
      (∀ answer, host.dispatch args = .ok answer → returns answer (session.log args)) ∧
        ∀ raised, host.dispatch args = .error raised → raises raised (session.log args) := by
  simp only [dispatch, Attempt.ends_bind, Attempt.ends_modify, Attempt.ends_answer]

/-- What has to hold of a checkpoint when it is taken. -/
structure Checkpoint (host : Host) (session : Session) (sha schema : String) : Prop where
  other : sha ≠ session.target
  first : session.prepared = false
  calm : session.recovering = false
  named : isSha sha = true
  head : host.head = .ok sha
  schema : ∃ inspection, host.inspectDatabase = .ok inspection ∧
    Py.intOfText schema = some inspection.schemaVersion
  authorized : authorize host.githubJson session.target session.prs session.runId = .ok ()

/-- The checkpoint of a session is a commit other than the target, and stops are recorded. -/
structure Sound (session : Session) : Prop where
  current : session.active = session.written.getLast?
  checkpoint : ∀ sha, session.previous = some sha → isSha sha = true ∧ sha ≠ session.target
  recorded : session.stopped = true → session.prepared = true ∧
    session.active = some (session.journal (session.previous.getD "") true)

/-- A dispatch that a worker may cause. -/
def Allowed (session : Session) (entry : Dispatch) : Prop :=
  ∀ operation ∈ operations.map (·.1), entry.args.head? = some operation →
    session.prepared = true ∧ entry.args = [operation] ∧ (isStop operation = true →
      entry.journal = some (session.journal (session.previous.getD "") true))

/-- What handling a message may change. -/
structure Handled (session after : Session) : Prop where
  frame : after = { session with
    previous := after.previous, stopped := after.stopped, before := after.before,
    schemaVersion := after.schemaVersion, active := after.active, written := after.written,
    dispatched := after.dispatched }
  grown : ∃ entries, after.dispatched = session.dispatched ++ entries ∧
    ∀ entry ∈ entries, Allowed session entry
  sound : Sound after

/-- Nothing has changed yet. -/
theorem Handled.refl (sound : Sound session) : Handled session session :=
  ⟨rfl, ⟨[], by simp⟩, sound⟩

/-- The log does not matter for the soundness of a session. -/
theorem Sound.log (sound : Sound session) (args : List String) : Sound (session.log args) :=
  ⟨sound.current, sound.checkpoint, sound.recorded⟩

/-- A further dispatch that is allowed. -/
theorem Handled.log (handled : Handled session after)
    (allowed : Allowed session ⟨args, after.active, after.previous⟩) :
    Handled session (after.log args) := by
  obtain ⟨entries, grown, each⟩ := handled.grown
  -- The new dispatch comes last, and everything else is as it was.
  refine ⟨?_, ⟨entries ++ [⟨args, after.active, after.previous⟩], ?_, ?_⟩, handled.sound.log args⟩
  · exact congrArg (fun session : Session => session.log args) handled.frame
  · simp only [Session.log, grown, List.append_assoc]
  · intro entry member
    rcases List.mem_append.mp member with earlier | last
    · exact each entry earlier
    · exact List.mem_singleton.mp last ▸ allowed

/-- A question is no operation on a service. -/
theorem Allowed.of_question {entry : Dispatch}
    (question : ∀ operation ∈ operations.map (·.1), entry.args.head? ≠ some operation) :
    Allowed session entry :=
  fun operation listed named => absurd named (question operation listed)

/-- Inspecting the database and asking for the status are questions. -/
theorem allowed_question {name : String} {rest : List String} {journal : Option Journal}
    {previous : Option String} (asked : name = "inspect" ∨ name = "status") :
    Allowed session ⟨name :: rest, journal, previous⟩ := by
  refine Allowed.of_question fun operation listed named => ?_
  obtain rfl : name = operation := Option.some.inj named
  rcases asked with rfl | rfl <;> simp [mem_operations] at listed

/-- Before a service is stopped, what is not in the log may be rewritten. -/
theorem Handled.rewrite (handled : Handled session after) (running : after.stopped = false)
    {previous : Option String} {before : Option (List (String × ServiceItem))}
    {schemaVersion : Option Int} {active : Option Journal} {written : List Journal}
    (current : active = written.getLast?)
    (named : ∀ sha, previous = some sha → isSha sha = true ∧ sha ≠ session.target) :
    Handled session { after with
      previous := previous, before := before, schemaVersion := schemaVersion, active := active,
      written := written } := by
  have same : after.target = session.target := by rw [handled.frame]
  refine ⟨?_, handled.grown, ⟨current, fun sha taken => same ▸ named sha taken, fun stopped => ?_⟩⟩
  · exact congrArg (fun kept : Session => { kept with
      previous := previous, before := before, schemaVersion := schemaVersion, active := active,
      written := written }) handled.frame
  · exact absurd (running.symm.trans stopped) (by decide)

/-- What handling a message may change without taking a checkpoint. -/
def Untaken (session after : Session) : Prop :=
  Handled session after ∧ after.previous = session.previous

/-- Two arguments are a pair. -/
theorem eq_of_pairOf {message first second : String}
    (pair : pairOf args message = .ok (first, second)) : args = [first, second] := by
  unfold pairOf at pair
  split at pair
  · obtain ⟨rfl, rfl⟩ := Prod.mk.inj (Except.ok.inj pair)
    rfl
  · cases pair

/-- A successful `prepare` takes a checkpoint that is as it should be; a failed one takes none. -/
theorem ends_prepare (sound : Sound session) :
    Attempt.Ends (prepare host args)
      (fun _ after => Handled session after ∧ ∃ sha schema, args = [sha, schema] ∧
        Checkpoint host session sha schema ∧ after.previous = some sha)
      (fun _ after => Untaken session after) session := by
  -- The log grows by two questions, whatever comes of them.
  have refused : Untaken session session := ⟨.refl sound, rfl⟩
  have inspecting : Handled session (session.log ["inspect"]) :=
    refused.1.log (allowed_question (Or.inl rfl))
  have inspection : Untaken session (session.log ["inspect"]) := ⟨inspecting, rfl⟩
  have asking : Handled session
      ((session.log ["inspect"]).log ["status", Nat.repr session.since]) :=
    inspecting.log (allowed_question (Or.inr rfl))
  have asked : Untaken session
      ((session.log ["inspect"]).log ["status", Nat.repr session.since]) := ⟨asking, rfl⟩
  -- Every check that fails and every call that raises leaves one of these three sessions.
  unfold prepare
  simp only [Attempt.ends_bind, Attempt.ends_get, Attempt.ends_modify, Attempt.ends_answer,
    ends_require, ends_dispatch, saveJournal]
  refine ⟨fun other => ⟨?_, fun _ _ => refused⟩, fun _ => refused⟩
  rintro ⟨sha, schema⟩ pair
  refine ⟨fun claim => ⟨?_, fun _ _ => refused⟩, fun _ => refused⟩
  intro head read
  refine ⟨fun same => ⟨?_, fun _ _ => inspection⟩, fun _ => refused⟩
  intro answer found
  refine ⟨fun version versioned => ⟨?_, fun _ _ => inspection⟩, fun _ _ => inspection⟩
  intro claimed number
  refine ⟨fun agrees => ⟨?_, fun _ _ => inspection⟩, fun _ => inspection⟩
  intro _ authorized
  refine ⟨?_, fun _ _ => asked⟩
  intro answered known
  refine ⟨?_, fun _ _ => asked⟩
  intro report reported
  -- There was no checkpoint, so nothing was stopped and the journal may be rewritten.
  obtain rfl := eq_of_pairOf pair
  simp only [List.head?_cons, ne_eq, Option.some.injEq, decide_eq_true_eq, Bool.and_eq_true,
    Bool.not_eq_true'] at other claim same agrees
  have compared : ∃ inspection, host.inspectDatabase = .ok inspection ∧
      Py.intOfText schema = some inspection.schemaVersion := by
    rw [Host.dispatch_inspect] at found
    obtain ⟨inspection, inspected, rfl⟩ := Raise.map_eq_ok.mp found
    obtain rfl : inspection.schemaVersion = version := Except.ok.inj versioned
    exact ⟨inspection, inspected, agrees ▸ intOrRaise_eq_ok.mp number⟩
  have taken : Checkpoint host session sha schema :=
    ⟨other, claim.1.1.1, claim.1.1.2, claim.1.2, same ▸ read, compared, authorized⟩
  have running : session.stopped = false := by
    by_contra stopped
    have prepared := (sound.recorded (eq_true_of_ne_false stopped)).1
    rw [taken.first] at prepared
    cases prepared
  have former : ∀ sha, session.previous = some sha → isSha sha = true ∧ sha ≠ session.target :=
    sound.checkpoint
  have current : session.active = session.written.getLast? := sound.current
  refine ⟨fun alive => ?_, fun _ => ⟨asking.rewrite running current former, rfl⟩⟩
  -- The checkpoint counts only if its journal is safe; a half-saved one is not taken.
  refine ends_save.imp ?_ ?_
  · rintro _ _ rfl
    have named (other : String) (same : some sha = some other) :
        isSha other = true ∧ other ≠ session.target := by
      obtain rfl := Option.some.inj same
      exact ⟨taken.named, taken.other⟩
    exact ⟨asking.rewrite running List.getLast?_concat.symm named, sha, schema, rfl, taken, rfl⟩
  · rintro _ _ (rfl | rfl)
    · exact ⟨asking.rewrite running current former, rfl⟩
    · exact ⟨asking.rewrite running List.getLast?_concat.symm former, rfl⟩

/-- What an operation that is permitted relies on. -/
def Permitted (session : Session) (operation : String) (args : List String) (after : Session) :
    Prop :=
  Untaken session after ∧ Allowed session ⟨operation :: args, after.active, after.previous⟩

/-- Stops are recorded before the first of them. -/
theorem ends_recordStop (sound : Sound session) (prepared : session.prepared = true)
    (running : session.stopped = false) :
    Attempt.Ends (recordStop host)
      (fun _ after => Untaken session after ∧
        after.active = some (session.journal (session.previous.getD "") true))
      (fun _ after => Untaken session after) session := by
  unfold recordStop
  simp only [Attempt.ends_bind, Attempt.ends_get, saveJournal]
  refine ends_save.imp ?_ ?_
  · rintro _ _ rfl
    exact ⟨⟨⟨rfl, ⟨[], by simp⟩, ⟨List.getLast?_concat.symm, sound.checkpoint, fun _ =>
      ⟨prepared, rfl⟩⟩⟩, rfl⟩, rfl⟩
  · rintro _ _ (rfl | rfl)
    · exact ⟨.refl sound, rfl⟩
    · exact ⟨(Handled.refl sound).rewrite running List.getLast?_concat.symm sound.checkpoint, rfl⟩

/-- Only an operation that is allowed is permitted, and permitting it takes no checkpoint. -/
theorem ends_permit {operation : String} (sound : Sound session) :
    Attempt.Ends (permit host operation args)
      (fun _ after => Permitted session operation args after)
      (fun _ after => Untaken session after) session := by
  have refused : Untaken session session := ⟨.refl sound, rfl⟩
  unfold permit
  simp only [Attempt.ends_bind, Attempt.ends_get, Attempt.ends_ite, Attempt.ends_throw,
    Attempt.ends_pure, ends_require, Bool.and_eq_true, decide_eq_true_eq, Bool.not_eq_true']
  refine ⟨fun mutation => ⟨fun checked => ⟨?_, ?_⟩, fun _ => refused⟩, fun question => ?_⟩
  · -- The first stop: the journal is written before anything is dispatched.
    obtain ⟨bare, prepared⟩ := checked
    rintro ⟨stops, running⟩
    refine (ends_recordStop sound prepared running).imp ?_ fun _ _ untaken => untaken
    rintro _ after ⟨untaken, recorded⟩
    refine ⟨untaken, fun other listed named => ?_⟩
    obtain rfl : operation = other := Option.some.inj named
    exact ⟨prepared, congrArg (operation :: ·) bare, fun _ => recorded⟩
  · -- A start, or a stop that the journal knows of already.
    obtain ⟨bare, prepared⟩ := checked
    intro further
    refine ⟨refused, fun other listed named => ?_⟩
    obtain rfl : operation = other := Option.some.inj named
    refine ⟨prepared, congrArg (operation :: ·) bare, fun stops => ?_⟩
    have stopped : session.stopped = true := by
      by_contra running
      exact further ⟨stops, eq_false_of_ne_true running⟩
    exact (sound.recorded stopped).2
  · -- Everything else is a question, and a question is always allowed.
    have asked : Permitted session operation args session := by
      refine ⟨refused, Allowed.of_question ?_⟩
      intro other listed named
      obtain rfl : operation = other := Option.some.inj named
      exact question listed
    exact ⟨fun _ => ⟨fun _ => asked, fun _ => refused⟩, fun _ =>
      ⟨fun _ => ⟨fun _ => asked, fun _ => refused⟩, fun _ =>
        ⟨fun _ => ⟨fun _ => asked, fun _ => refused⟩, fun _ =>
          ⟨fun _ => ⟨fun _ => asked, fun _ => refused⟩, fun _ => refused⟩⟩⟩⟩

/-- What a message that is answered has done: taken a checkpoint, or none. -/
def Answered (host : Host) (message : Json) (session after : Session) : Prop :=
  Handled session after ∧
    ((∃ sha schema, readMessage message = .ok ("prepare", [sha, schema]) ∧
        Checkpoint host session sha schema ∧ after.previous = some sha) ∨
      ((∀ args, readMessage message ≠ .ok ("prepare", args)) ∧ after.previous = session.previous))

/-- Every message is handled, and only a `prepare` that succeeds takes a checkpoint. -/
theorem ends_request {message : Json} (sound : Sound session) :
    Attempt.Ends (request host message) (fun _ after => Answered host message session after)
      (fun _ after => Untaken session after) session := by
  have refused : Untaken session session := ⟨.refl sound, rfl⟩
  unfold request
  simp only [Attempt.ends_bind, Attempt.ends_answer, Attempt.ends_ite]
  refine ⟨?_, fun _ _ => refused⟩
  rintro ⟨operation, args⟩ read
  refine ⟨fun preparing => ?_, fun other => ?_⟩
  · -- A checkpoint is taken by the message that asks for it.
    obtain rfl : operation = "prepare" := preparing
    refine (ends_prepare sound).imp ?_ fun _ _ untaken => untaken
    rintro _ after ⟨handled, sha, schema, rfl, taken, previous⟩
    exact ⟨handled, Or.inl ⟨sha, schema, read, taken, previous⟩⟩
  · -- Any other message keeps the checkpoint there is.
    have unprepared (others : List String) : readMessage message ≠ .ok ("prepare", others) := by
      intro prepares
      rw [read] at prepares
      exact other (Prod.mk.inj (Except.ok.inj prepares)).1
    refine (ends_permit sound).imp ?_ fun _ _ untaken => untaken
    rintro _ after ⟨untaken, allowed⟩
    simp only [Attempt.ends_ite, Attempt.ends_bind, Attempt.ends_answer, Attempt.ends_pure,
      ends_dispatch]
    have answered : Answered host message session after :=
      ⟨untaken.1, Or.inr ⟨unprepared, untaken.2⟩⟩
    have logged : Untaken session (after.log (operation :: args)) :=
      ⟨untaken.1.log allowed, untaken.2⟩
    exact ⟨fun _ => ⟨fun _ _ => answered, fun _ _ => untaken⟩,
      fun _ => ⟨fun _ _ => ⟨logged.1, Or.inr ⟨unprepared, logged.2⟩⟩, fun _ _ => logged⟩⟩

/-- What happens to a session: a message arrives, or the broker turns to recovering. -/
inductive Turn where
  | message (message : Json) (host : Host)
  | recovery

/-- Handle the turns of a session, whatever the worker sends and the host answers. -/
def conversation : Machine Session Turn (Option (Except Raised Json)) where
  step session
    | .message message host =>
      match (request host message).run session with
      | .ok answer after => (some (.ok answer), after)
      | .error raised after => (some (.error raised), after)
    | .recovery => (none, { session with recovering := true })

/-- In this turn a `prepare` with certain arguments succeeds. -/
def Prepares (session : Session) (turn : Turn) (args : List String) : Prop :=
  ∃ message host answer, turn = .message message host ∧
    readMessage message = .ok ("prepare", args) ∧
    conversation.answer session turn = some (.ok answer)

/-- In one of these turns a `prepare` with certain arguments succeeds. -/
def PreparedIn (start : Session) (turns : List Turn) (args : List String) : Prop :=
  ∃ before turn after, turns = before ++ turn :: after ∧
    Prepares (conversation.run start before) turn args

/-- What every turn of a session keeps to, after the turns before it. -/
structure Obeys (start : Session) (earlier : List Turn) (turn : Turn) : Prop where
  /-- A service is changed only after a `prepare` that succeeded, and stopped only once the
  journal on the disk says so, for the commit of that `prepare` and the target. -/
  mutations : ∃ entries, (conversation.run start (earlier ++ [turn])).dispatched =
      (conversation.run start earlier).dispatched ++ entries ∧
    ∀ entry ∈ entries, ∀ operation ∈ operations.map (·.1), entry.args.head? = some operation →
      ∃ sha schema, PreparedIn start earlier [sha, schema] ∧ (isStop operation = true →
        entry.journal = some ⟨sha, start.target, start.runId, start.prs, true⟩)
  /-- No second `prepare` succeeds. -/
  once : ∀ args, Prepares (conversation.run start earlier) turn args →
    ∀ others, ¬PreparedIn start earlier others
  /-- A `prepare` succeeds only where the run is authorized and root reads what is claimed. -/
  checked : ∀ args, Prepares (conversation.run start earlier) turn args →
    ∃ message host sha schema inspection, turn = .message message host ∧ args = [sha, schema] ∧
      authorize host.githubJson start.target start.prs start.runId = .ok () ∧
      host.head = .ok sha ∧ host.inspectDatabase = .ok inspection ∧
      Py.intOfText schema = some inspection.schemaVersion

/-- A message that is answered leaves what the answer says. -/
theorem turn_answered {message : Json} {answer : Json} (sound : Sound session)
    (answered : conversation.answer session (.message message host) = some (.ok answer)) :
    Answered host message session (conversation.next session (.message message host)) := by
  have ends := @ends_request host session message sound
  simp only [Machine.answer, Machine.next, conversation] at answered ⊢
  cases ran : (request host message).run session with
  | ok result after => exact ends.of_ok ran
  | error raised after => simp [ran] at answered

/-- A message that is refused takes no checkpoint. -/
theorem turn_refused {message : Json} {raised : Raised} (sound : Sound session)
    (refused : conversation.answer session (.message message host) = some (.error raised)) :
    Untaken session (conversation.next session (.message message host)) := by
  have ends := @ends_request host session message sound
  simp only [Machine.answer, Machine.next, conversation] at refused ⊢
  cases ran : (request host message).run session with
  | ok result after => simp [ran] at refused
  | error raised after => exact ends.of_error ran

/-- A message is answered or refused. -/
theorem turn_cases (session : Session) (host : Host) (message : Json) :
    (∃ answer, conversation.answer session (.message message host) = some (.ok answer)) ∨
      ∃ raised, conversation.answer session (.message message host) = some (.error raised) := by
  simp only [Machine.answer, conversation]
  cases (request host message).run session with
  | ok result after => exact Or.inl ⟨result, rfl⟩
  | error raised after => exact Or.inr ⟨raised, rfl⟩

/-- A session that is underway is sound and still the one that was started. -/
structure Underway (start session : Session) : Prop where
  sound : Sound session
  target : session.target = start.target
  runId : session.runId = start.runId
  prs : session.prs = start.prs

variable {start : Session}

/-- Handling a message keeps a session underway. -/
theorem Underway.handled (underway : Underway start session)
    (handled : Handled session after) : Underway start after := by
  refine ⟨handled.sound, ?_, ?_, ?_⟩
  · rw [handled.frame]
    exact underway.target
  · rw [handled.frame]
    exact underway.runId
  · rw [handled.frame]
    exact underway.prs

/-- Every turn keeps a session underway. -/
theorem Underway.turn (underway : Underway start session) (turn : Turn) :
    Underway start (conversation.next session turn) := by
  cases turn with
  | recovery =>
    exact ⟨⟨underway.sound.current, underway.sound.checkpoint, underway.sound.recorded⟩,
      underway.target, underway.runId, underway.prs⟩
  | message message host =>
    rcases turn_cases session host message with ⟨answer, answered⟩ | ⟨raised, refused⟩
    · exact underway.handled (turn_answered underway.sound answered).1
    · exact underway.handled (turn_refused underway.sound refused).1

/-- A turn in which a `prepare` succeeds takes its checkpoint. -/
theorem Prepares.taken {turn : Turn} (prepares : Prepares session turn args)
    (sound : Sound session) :
    ∃ message host sha schema, turn = .message message host ∧ args = [sha, schema] ∧
      Checkpoint host session sha schema ∧
      (conversation.next session turn).previous = some sha := by
  obtain ⟨message, host, answer, rfl, read, answered⟩ := prepares
  rcases (turn_answered sound answered).2 with ⟨sha, schema, read', taken, previous⟩ | ⟨other, -⟩
  · rw [read] at read'
    exact ⟨message, host, sha, schema, rfl, (Prod.mk.inj (Except.ok.inj read')).2, taken, previous⟩
  · exact absurd read (other args)

/-- A turn takes a checkpoint in a `prepare` that succeeds, and otherwise keeps the one there is. -/
theorem previous_turn (sound : Sound session) (turn : Turn) :
    (∃ sha schema, Prepares session turn [sha, schema] ∧
        (conversation.next session turn).previous = some sha) ∨
      (conversation.next session turn).previous = session.previous := by
  cases turn with
  | recovery => exact Or.inr rfl
  | message message host =>
    rcases turn_cases session host message with ⟨answer, answered⟩ | ⟨raised, refused⟩
    · rcases (turn_answered sound answered).2 with ⟨sha, schema, read, -, previous⟩ | ⟨-, same⟩
      · exact Or.inl ⟨sha, schema, ⟨message, host, answer, rfl, read, answered⟩, previous⟩
      · exact Or.inr same
    · exact Or.inr (turn_refused sound refused).2

/-- A prepared session takes no other checkpoint. -/
theorem previous_kept (sound : Sound session) (prepared : session.prepared = true) (turn : Turn) :
    (conversation.next session turn).previous = session.previous := by
  rcases previous_turn sound turn with ⟨sha, schema, prepares, -⟩ | same
  · obtain ⟨_, host, _, _, -, -, taken, -⟩ := prepares.taken sound
    exact absurd (taken.first.symm.trans prepared) (by decide)
  · exact same

/-- A new session is underway. -/
theorem underway_init (target runId prs : String) (since : Nat) (startedAt : String)
    (reports : List (String × List (String × Json))) :
    Underway (init target runId prs since startedAt reports)
      (init target runId prs since startedAt reports) := by
  refine ⟨⟨rfl, fun sha taken => ?_, fun stopped => ?_⟩, rfl, rfl, rfl⟩
  · cases taken
  · cases stopped

/-- A session stays underway over any turns. -/
theorem Underway.run (underway : Underway start session) (turns : List Turn) :
    Underway start (conversation.run session turns) :=
  conversation.invariant (fun _ turn before => before.turn turn) turns underway

/-- The checkpoint of a session is the one of a `prepare` that succeeded. -/
theorem preparedIn_of_previous (underway : Underway start start)
    (fresh : start.previous = none) (turns : List Turn) {sha : String}
    (previous : (conversation.run start turns).previous = some sha) :
    ∃ schema, PreparedIn start turns [sha, schema] := by
  -- The last turn that took a checkpoint is found from the end of the run.
  induction turns using List.reverseRecOn with
  | nil =>
    rw [Machine.run_nil, fresh] at previous
    cases previous
  | append_singleton turns turn ih =>
    rw [Machine.run_append] at previous
    -- Either this turn took the checkpoint, or an earlier one did.
    rcases previous_turn (underway.run turns).sound turn with ⟨sha', schema, prepares, taken⟩ | same
    · obtain rfl : sha' = sha := Option.some.inj (taken.symm.trans previous)
      exact ⟨schema, turns, turn, [], rfl, prepares⟩
    · obtain ⟨schema, before, other, after, rfl, prepares⟩ := ih (same.symm.trans previous)
      exact ⟨schema, before, other, after ++ [turn], by simp, prepares⟩

/-- A commit that is named in full is no empty text. -/
theorem prepared_of_isSha {sha : String} (named : isSha sha = true)
    (previous : session.previous = some sha) : session.prepared = true := by
  simp only [prepared, previous, Option.getD_some, ne_eq, decide_not, Bool.not_eq_true',
    decide_eq_false_iff_not]
  rintro rfl
  exact absurd named (by decide)

/-- A session that is prepared stays prepared over any turns. -/
theorem prepared_run (sound : Sound session) (prepared : session.prepared = true)
    (turns : List Turn) : (conversation.run session turns).prepared = true := by
  induction turns generalizing session with
  | nil => exact prepared
  | cons turn rest ih =>
    -- No turn takes another checkpoint, so the next session is prepared as this one is.
    have kept : (conversation.next session turn).prepared = true := by
      rw [Session.prepared, previous_kept sound prepared turn]
      exact prepared
    have next : Underway session session := ⟨sound, rfl, rfl, rfl⟩
    exact ih (next.turn turn).sound kept

/-- After a `prepare` that succeeded a session stays prepared. -/
theorem prepared_of_preparedIn (underway : Underway start start)
    {turns : List Turn} (earlier : PreparedIn start turns args) :
    (conversation.run start turns).prepared = true := by
  obtain ⟨before, turn, after, rfl, prepares⟩ := earlier
  have opened := underway.run before
  obtain ⟨message, host, sha, schema, -, -, taken, previous⟩ := prepares.taken opened.sound
  rw [Machine.run_append, Machine.run_cons]
  exact prepared_run (opened.turn turn).sound (prepared_of_isSha taken.named previous) after

/-- A session is prepared where it has a checkpoint. -/
theorem exists_of_prepared (prepared : session.prepared = true) :
    ∃ sha, session.previous = some sha := by
  cases previous : session.previous with
  | none => simp [Session.prepared, previous] at prepared
  | some sha => exact ⟨sha, rfl⟩

/-- The dispatches of a turn are those that the session allows. -/
theorem grown_turn (sound : Sound session) (turn : Turn) :
    ∃ entries, (conversation.next session turn).dispatched = session.dispatched ++ entries ∧
      ∀ entry ∈ entries, Allowed session entry := by
  cases turn with
  | recovery => exact ⟨[], (List.append_nil _).symm, fun entry member => by cases member⟩
  | message message host =>
    rcases turn_cases session host message with ⟨answer, answered⟩ | ⟨raised, refused⟩
    · exact (turn_answered sound answered).1.grown
    · exact (turn_refused sound refused).1.grown

/-- Whatever a worker sends in whatever order, every turn keeps to the protocol. -/
theorem session_protocol (target runId prs : String) (since : Nat) (startedAt : String)
    (reports : List (String × List (String × Json))) (earlier : List Turn) (turn : Turn) :
    Obeys (init target runId prs since startedAt reports) earlier turn := by
  have started := underway_init target runId prs since startedAt reports
  have underway := started.run earlier
  refine ⟨?_, fun args prepares others before => ?_, fun args prepares => ?_⟩
  · obtain ⟨entries, grown, each⟩ := grown_turn underway.sound turn
    refine ⟨entries, by rw [Machine.run_append]; exact grown, fun entry member => ?_⟩
    intro operation listed named
    -- What is allowed needs a checkpoint, and a checkpoint was taken by an earlier `prepare`.
    obtain ⟨prepared, -, recorded⟩ := each entry member operation listed named
    obtain ⟨sha, previous⟩ := exists_of_prepared prepared
    obtain ⟨schema, before⟩ := preparedIn_of_previous started rfl earlier previous
    refine ⟨sha, schema, before, fun stops => ?_⟩
    rw [recorded stops, previous, journal, underway.target, underway.runId, underway.prs]
    rfl
  · -- The earlier one left the session prepared, and no second checkpoint is taken then.
    obtain ⟨message, host, sha, schema, -, -, taken, -⟩ := prepares.taken underway.sound
    exact absurd (taken.first.symm.trans (prepared_of_preparedIn started before)) (by decide)
  · obtain ⟨message, host, sha, schema, same, pair, taken, -⟩ := prepares.taken underway.sound
    obtain ⟨inspection, inspected, version⟩ := taken.schema
    have authorized := taken.authorized
    rw [underway.target, underway.prs, underway.runId] at authorized
    exact ⟨message, host, sha, schema, inspection, same, pair, authorized, taken.head, inspected,
      version⟩

end Session
end StrategyLab
