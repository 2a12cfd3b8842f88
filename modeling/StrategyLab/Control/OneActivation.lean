import StrategyLab.Control.PasskeySessions

/-! One challenge, one activation: what a consumed challenge is worth, and who holds it. -/

namespace StrategyLab

variable {γ : Type}

/-- The call whose challenge a connection has consumed, and not yet spent. -/
def PasskeyPhase.held : PasskeyPhase γ → Option (PasskeyCall γ)
  | .verifying call _ => some call
  | .counting call _ _ => some call
  | .accepting call _ _ => some call
  | .activating call _ => some call
  | .committing _ (.accepted call _) => some call
  | .committing _ (.activated call _ _) => some call
  | _ => none

namespace PasskeyWorld

variable (world : PasskeyWorld γ)

/-- A time is not after the one that a text names. -/
def Unexpired (at_ : IsoDatetime) (expiresAt : String) : Prop :=
  ∃ expiry, world.fromIsoFormat expiresAt = .ok expiry ∧ at_.moment ≤ expiry.moment

/-- A challenge is stored for a scope, and had not expired at some time. -/
structure Stored (database : PasskeyDatabase) (scope : ChallengeScope) (at_ : IsoDatetime)
    (row : StoredChallenge) : Prop where
  found : database.challenges.find? scope.challenge = some row
  scope : row.scope = scope
  unexpired : world.Unexpired at_ row.expiresAt

/-- The audit that an activation leaves. -/
def auditOf (activation : PasskeyActivation) : StrategyActivationAudit :=
  ⟨activation.approvalId, activation.scope.actor, activation.scope.familyId,
    activation.scope.versionId, world.isoFormat activation.at_, world.isoFormat activation.at_⟩

/-- What a transaction has written, next to what was committed before it. -/
inductive Prepared (database : PasskeyDatabase) : PasskeyDatabase → PasskeyCommit γ → Prop where
  /-- A challenge is added. -/
  | stored (challenges : PasskeyChallenges) (row : StoredChallenge)
    (added : database.challenges.insert? row = some challenges) :
    Prepared database { database with challenges } .stored
  /-- An open challenge is consumed. -/
  | consumed (call : PasskeyCall γ) (pending : PendingChallenge) (at_ : IsoDatetime)
    (row : StoredChallenge) (challenges : PasskeyChallenges)
    (stored : world.Stored database call.scope at_ row) (fresh : row.consumed = false)
    (updated : ∀ challenge, challenges.find? challenge =
      if challenge = call.scope.challenge then some { row with consumed := true }
      else database.challenges.find? challenge) :
    Prepared database { database with challenges } (.consumed call pending at_)
  /-- A counter is stored. -/
  | accepted (call : PasskeyCall γ) (current : IsoDatetime) (passkeys : AdminPasskeys) :
    Prepared database { database with passkeys } (.accepted call current)
  /-- A version is activated, with its audit. -/
  | activated (call : PasskeyCall γ) (approvalId : String) (current : IsoDatetime)
    (strategies : StrategyDatabase) (strategic : call.scope.action = "activate" ∨
      call.scope.action = "rollback")
    (appended : strategies.audit.rows = database.strategies.audit.rows ++
      [world.auditOf ⟨approvalId, call.scope, current⟩]) :
    Prepared database { database with strategies } (.activated call approvalId current)

/-- A step of one connection that commits nothing. -/
structure Local (state : PasskeySessions γ) (client : Nat) (phase : PasskeyPhase γ)
    (writer : Option Nat) : Prop where
  held : ∀ call, phase.held = some call → (state.clients client).held = some call
  opened : ∀ call pending at_, phase = .consuming call pending at_ →
    ∃ row, world.Stored state.database call.scope at_ row
  prepared : ∀ database written, phase = .committing database written →
    writer = some client ∧ world.Prepared state.database database written
  others : ∀ other, other ≠ client → state.writer = some other → writer = some other

/-- All that can happen. -/
inductive Move (state : PasskeySessions γ) : PasskeySessions γ → Prop where
  /-- Nothing happens. -/
  | none : Move state state
  /-- One connection goes on by itself. -/
  | local_ (client : Nat) (phase : PasskeyPhase γ) (writer : Option Nat)
    (local_ : world.Local state client phase writer) :
    Move state ({ state with writer }.goto client phase)
  /-- One connection commits what it has written. -/
  | commit (client : Nat) (uncommitted : PasskeyDatabase) (written : PasskeyCommit γ)
    (writing : state.clients client = .committing uncommitted written) :
    Move state (state.commit client uncommitted written).2

variable {world} {state : PasskeySessions γ} {client : Nat}

/-- A connection can always give up. -/
theorem move_idle (state : PasskeySessions γ) (client : Nat) :
    world.Move state (state.goto client .idle) :=
  .local_ client .idle state.writer
    ⟨fun _ held => (by cases held), fun _ _ _ consuming => (by cases consuming),
      fun _ _ committing => (by cases committing), fun _ _ same => same⟩

/-- A connection that reads goes on with what it holds, or gives up. -/
theorem read_move {read : Except PasskeyError (PasskeyPhase γ)}
    (held : ∀ phase, read = .ok phase → ∀ call, phase.held = some call →
      (state.clients client).held = some call)
    (opened : ∀ phase, read = .ok phase → ∀ call pending at_, phase = .consuming call pending at_ →
      ∃ row, world.Stored state.database call.scope at_ row)
    (reads : ∀ phase, read = .ok phase → ∀ database written,
      phase ≠ .committing database written) :
    world.Move state (state.read client read).2 := by
  cases read with
  | error error => exact move_idle state client
  | ok phase =>
    exact .local_ client phase state.writer ⟨held phase rfl, opened phase rfl,
      fun database written same => absurd same (reads phase rfl database written),
      fun _ _ same => same⟩

/-- A connection that writes waits, gives up, or holds what it has written back. -/
theorem write_move {written : PasskeyCommit γ} {change : Except PasskeyAnswer PasskeyDatabase}
    (held : ∀ database call, (PasskeyPhase.committing database written).held = some call →
      (state.clients client).held = some call)
    (prepared : ∀ database, change = .ok database →
      world.Prepared state.database database written) :
    world.Move state (state.write client written change).2 := by
  unfold PasskeySessions.write
  cases free : state.writer with
  | some other => exact .none
  | none =>
    cases change with
    | error answer => exact move_idle state client
    | ok database =>
      refine .local_ client (.committing database written) (some client)
        ⟨held database, fun _ _ _ consuming => (by cases consuming),
          fun uncommitted other same => ?_, fun other _ locked => ?_⟩
      · cases same
        exact ⟨rfl, prepared database rfl⟩
      · rw [free] at locked
        cases locked

/-- A connection without a call begins one that holds nothing. -/
theorem begin_move {call : Except PasskeyError (PasskeyPhase γ)}
    (fresh : ∀ phase, call = .ok phase →
      (∃ pending, phase = .storing pending) ∨ ∃ call, phase = .selecting call) :
    world.Move state (state.begin_ client call).2 := by
  unfold PasskeySessions.begin_
  split
  · rename_i phase _
    refine .local_ client phase state.writer ?_
    obtain ⟨pending, rfl⟩ | ⟨call, rfl⟩ := fresh phase rfl
    · exact ⟨fun _ held => (by cases held), fun _ _ _ consuming => (by cases consuming),
        fun _ _ committing => (by cases committing), fun _ _ same => same⟩
    · exact ⟨fun _ held => (by cases held), fun _ _ _ consuming => (by cases consuming),
        fun _ _ committing => (by cases committing), fun _ _ same => same⟩
  · exact .none
  · exact .none

/-- A challenge that is selected is stored for the scope, and had not expired. -/
theorem select_eq_ok {database : PasskeyDatabase} {scope : ChallengeScope}
    {current expiry : IsoDatetime}
    (selected : database.challenges.select world.fromIsoFormat scope current = .ok expiry) :
    ∃ row, world.Stored database scope current row := by
  obtain ⟨_, _, selected⟩ := Raise.bind_eq_ok.mp selected
  split at selected
  · cases selected
  · rename_i row found
    simp only [Raise.bind_eq_ok, Raise.ensure_eq_ok, Raise.mapError_eq_ok, Raise.pure_eq_ok,
      Bool.and_eq_true, decide_eq_true_eq, PasskeyChallenges.isAfter] at selected
    obtain ⟨_, ⟨forScope, _⟩, read, parsed, late, compared, _, early, rfl⟩ := selected
    refine ⟨row, found, forScope, read, parsed, ?_⟩
    split at compared
    · cases compared
      simpa using early
    · cases compared

/-- A challenge that is consumed was open, and no other challenge changes. -/
theorem consume_eq_ok {challenges later : PasskeyChallenges} {challenge : Bytes}
    (consumed : challenges.consume challenge = .ok later) :
    ∃ row, challenges.find? challenge = some row ∧ row.consumed = false ∧
      ∀ other, later.find? other = if other = challenge then some { row with consumed := true }
        else challenges.find? other := by
  unfold PasskeyChallenges.consume at consumed
  split at consumed
  · cases consumed
  · rename_i row found
    simp only [Raise.bind_eq_ok, Raise.ensure_eq_ok, Raise.pure_eq_ok, exists_const,
      Bool.not_eq_true'] at consumed
    obtain ⟨fresh, rfl⟩ := consumed
    refine ⟨row, found, fresh, fun other => ?_⟩
    rw [Table.find?_update]
    by_cases same : other = challenge
    · subst same
      simp [found, fresh, Table.key_of_find? found]
    · rw [if_neg same]
      cases located : challenges.find? other with
      | none => rfl
      | some found => simp [Table.key_of_find? located, same]

/-- An activation appends its audit. -/
theorem transaction_audit {request : StrategyActivationRequest} {before after : StrategyDatabase}
    (done : TrustedStrategyActivation.transaction request before = .ok after) :
    after.audit.rows = before.audit.rows ++ [⟨request.approvalId, request.authenticatedActor,
      request.familyId, request.strategyVersionId, request.approvedAt, request.now⟩] := by
  unfold TrustedStrategyActivation.transaction at done
  simp only [Raise.bind_eq_ok] at done
  obtain ⟨_, _, version, _, _, _, ⟨registry, _⟩, _, inserted⟩ := done
  dsimp only at inserted
  split at inserted
  · cases inserted
  · rename_i audit grown
    cases inserted
    exact (Table.insert?_eq_some_iff.mp grown).2

/-- What an approved call activates is activated with its audit. -/
theorem activate_eq_ok {call : PasskeyCall γ} {approvalId : String} {database after : PasskeyDatabase}
    {current : IsoDatetime} (approved : call.approvalId = some approvalId)
    (done : world.activate call approvalId database current = .ok after) :
    world.Prepared database after (.activated call approvalId current) := by
  unfold activate at done
  split at done
  · cases done
  · simp only [Raise.bind_eq_ok, Raise.mapError_eq_ok, Raise.pure_eq_ok] at done
    obtain ⟨_, _, strategies, transacted, rfl⟩ := done
    exact .activated call approvalId current strategies (call.strategic (by rw [approved]; rfl))
      (transaction_audit transacted)

/-- A connection moves as long as what it is about to consume is stored. -/
theorem stepClient_move (state : PasskeySessions γ) (client : Nat) (clock : IsoDatetime)
    (opened : ∀ call pending at_, state.clients client = .consuming call pending at_ →
      ∃ row, world.Stored state.database call.scope at_ row) :
    world.Move state (world.stepClient state client clock).2 := by
  unfold stepClient
  cases phase : state.clients client with
  | idle => exact .none
  | storing pending =>
    refine write_move (fun _ _ held => by cases held) fun database stored => ?_
    simp only [PasskeyChallenges.store, Raise.bind_eq_ok, Raise.mapError_eq_ok,
      Raise.pure_eq_ok] at stored
    obtain ⟨challenges, added, rfl⟩ := stored
    split at added
    · cases added
    · rename_i inserted
      cases added
      exact .stored challenges _ inserted
  | selecting call =>
    refine read_move (fun next read _ held => ?_) (fun next read _ _ _ consuming => ?_)
      fun next read _ _ committing => ?_
    all_goals
      simp only [Raise.bind_eq_ok, Raise.pure_eq_ok] at read
      obtain ⟨expiry, selected, rfl⟩ := read
    · cases held
    · cases consuming
      exact select_eq_ok selected
    · cases committing
  | consuming call pending at_ =>
    refine write_move (fun _ _ held => by cases held) fun database spent => ?_
    simp only [Raise.bind_eq_ok, Raise.mapError_eq_ok, Raise.pure_eq_ok] at spent
    obtain ⟨challenges, consumed, rfl⟩ := spent
    obtain ⟨row, stored⟩ := opened call pending at_ phase
    obtain ⟨same, found, fresh, updated⟩ := consume_eq_ok consumed
    cases stored.found.symm.trans found
    exact .consumed call pending at_ row challenges stored fresh updated
  | verifying call pending =>
    refine read_move (fun next read _ held => ?_) (fun next read _ _ _ consuming => ?_)
      fun next read _ _ committing => ?_
    all_goals
      simp only [Raise.bind_eq_ok, Raise.pure_eq_ok] at read
      obtain ⟨verified, _, rfl⟩ := read
    · exact phase ▸ held
    · cases consuming
    · cases committing
  | counting call verified current =>
    refine read_move (fun next read _ held => ?_) (fun next read _ _ _ consuming => ?_)
      fun next read _ _ committing => ?_
    all_goals
      simp only [Raise.bind_eq_ok, Raise.pure_eq_ok] at read
      obtain ⟨_, _, rfl⟩ := read
    · exact phase ▸ held
    · cases consuming
    · cases committing
  | accepting call verified current =>
    refine write_move (fun _ _ held => phase ▸ held) fun database written => ?_
    cases written
    exact .accepted call current _
  | activating call current =>
    cases approved : call.approvalId with
    | none => simpa only [approved] using move_idle state client
    | some approvalId =>
      simp only [approved]
      exact write_move (fun _ _ held => phase ▸ held) fun database => activate_eq_ok approved
  | committing uncommitted written => exact .commit client uncommitted written phase

/-- All that happens is a move as long as what is about to be consumed is stored. -/
theorem step_move (state : PasskeySessions γ) (op : PasskeyOp γ)
    (opened : ∀ client call pending at_, state.clients client = .consuming call pending at_ →
      ∃ row, world.Stored state.database call.scope at_ row) :
    world.Move state (world.machine.next state op) := by
  cases op with
  | store client pending =>
    refine begin_move fun phase begun => ?_
    cases begun
    exact .inl ⟨pending, rfl⟩
  | finishStrategyApproval client scope credential origin requestHost now approvalId =>
    refine begin_move fun phase begun => ?_
    simp only [Raise.bind_eq_ok, Raise.pure_eq_ok] at begun
    obtain ⟨call, _, rfl⟩ := begun
    exact .inr ⟨call, rfl⟩
  | finishLogin client actor credential origin requestHost now =>
    refine begin_move fun phase begun => ?_
    simp only [Raise.bind_eq_ok, Raise.pure_eq_ok] at begun
    obtain ⟨call, _, rfl⟩ := begun
    exact .inr ⟨call, rfl⟩
  | step client clock => exact stepClient_move state client clock (opened client)
  | crash client =>
    -- A lost connection gives up its lock, and no other connection loses its own.
    refine .local_ client .idle (if state.writer = some client then none else state.writer)
      ⟨fun _ held => (by cases held), fun _ _ _ consuming => (by cases consuming),
        fun _ _ committing => (by cases committing), fun other apart locked => ?_⟩
    rw [if_neg (by simpa [locked] using apart), locked]

end PasskeyWorld

end StrategyLab
