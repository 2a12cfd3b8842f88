import StrategyLab.Control.OneActivation

/-! Every run of passkey calls: a challenge is spent once, and activates one version at most. -/

namespace StrategyLab.PasskeyWorld

variable {γ : Type} (world : PasskeyWorld γ)

/-- What was stored stays stored, and what was consumed stays consumed. -/
def Outlives (after before : PasskeyDatabase) : Prop :=
  ∀ challenge row, before.challenges.find? challenge = some row →
    ∃ later, after.challenges.find? challenge = some later ∧ later.scope = row.scope ∧
      later.expiresAt = row.expiresAt ∧ (row.consumed = true → later.consumed = true)

/-- What was consumed was stored for its scope and is consumed now, and what was activated was
consumed for it, each once. -/
structure Ledger (start database : PasskeyDatabase)
    (consumptions : List (ChallengeScope × IsoDatetime)) (activations : List PasskeyActivation) :
    Prop where
  once : (consumptions.map fun spent => spent.1.challenge).Nodup
  consumed : ∀ spent ∈ consumptions, ∃ row,
    world.Stored database spent.1 spent.2 row ∧ row.consumed = true
  distinct : (activations.map fun activation => activation.scope.challenge).Nodup
  backed : ∀ activation ∈ activations, (∃ at_, (activation.scope, at_) ∈ consumptions) ∧
    (activation.scope.action = "activate" ∨ activation.scope.action = "rollback")
  audit : database.strategies.audit.rows =
    start.strategies.audit.rows ++ activations.map world.auditOf

/-- What a holder of a challenge relies on: it was consumed, and nothing was activated with it. -/
def Unused (consumptions : List (ChallengeScope × IsoDatetime))
    (activations : List PasskeyActivation) (call : PasskeyCall γ) : Prop :=
  (∃ at_, (call.scope, at_) ∈ consumptions) ∧
    ∀ activation ∈ activations, activation.scope.challenge ≠ call.scope.challenge

/-- What holds of the connections, the challenges and the activations all the way. -/
structure Sound (start : PasskeyDatabase) (state : PasskeySessions γ) : Prop where
  writer : ∀ client database written, state.clients client = .committing database written →
    state.writer = some client ∧ world.Prepared state.database database written
  opened : ∀ client call pending at_, state.clients client = .consuming call pending at_ →
    ∃ row, world.Stored state.database call.scope at_ row
  held : ∀ client call, (state.clients client).held = some call →
    Unused state.consumptions state.activations call
  apart : ∀ left right first second, (state.clients left).held = some first →
    (state.clients right).held = some second →
      first.scope.challenge = second.scope.challenge → left = right
  ledger : world.Ledger start state.database state.consumptions state.activations

variable {world} {start : PasskeyDatabase} {state : PasskeySessions γ} {client : Nat}

/-- A database without new challenges has what it had. -/
theorem outlives_of_same {after before : PasskeyDatabase}
    (same : after.challenges = before.challenges) : Outlives after before := by
  intro challenge row found
  exact ⟨row, same ▸ found, rfl, rfl, id⟩

variable {before after : PasskeyDatabase}

/-- Whatever is committed, what was stored stays stored. -/
theorem Prepared.outlives {written : PasskeyCommit γ}
    (prepared : world.Prepared before after written) : Outlives after before := by
  cases prepared with
  | stored challenges added inserted =>
    intro challenge row found
    exact ⟨row, Table.find?_insert?_of_found inserted found, rfl, rfl, id⟩
  | consumed call pending at_ row challenges stored fresh updated =>
    intro challenge found present
    by_cases same : challenge = call.scope.challenge
    · -- The challenge that is consumed keeps its scope and its time.
      subst same
      cases stored.found.symm.trans present
      exact ⟨{ row with consumed := true }, (updated _).trans (if_pos rfl), rfl, rfl, fun _ => rfl⟩
    · exact ⟨found, by rw [updated, if_neg same, present], rfl, rfl, id⟩
  | accepted call current passkeys => exact outlives_of_same rfl
  | activated call approvalId current strategies strategic appended => exact outlives_of_same rfl

variable {row : StoredChallenge}

/-- A challenge stays stored for its scope. -/
theorem Stored.later {scope : ChallengeScope}
    {at_ : IsoDatetime} (stored : world.Stored before scope at_ row)
    (outlives : Outlives after before) :
    ∃ later, world.Stored after scope at_ later ∧ (row.consumed = true → later.consumed = true) := by
  obtain ⟨later, found, forScope, expires, consumed⟩ := outlives _ _ stored.found
  exact ⟨later, ⟨found, forScope.trans stored.scope, expires ▸ stored.unexpired⟩, consumed⟩

/-- A challenge that is not consumed yet was never spent. -/
theorem Sound.unspent (sound : world.Sound start state) {challenge : Bytes}
    (found : state.database.challenges.find? challenge = some row) (fresh : row.consumed = false) :
    ∀ spent ∈ state.consumptions, spent.1.challenge ≠ challenge := by
  intro spent member same
  obtain ⟨other, stored, consumed⟩ := sound.ledger.consumed spent member
  have located := stored.found
  rw [same, found] at located
  cases located
  simp [fresh] at consumed

/-- A connection that goes on by itself keeps everything. -/
theorem Sound.local_ (sound : world.Sound start state) {phase : PasskeyPhase γ}
    {writer : Option Nat} (moves : world.Local state client phase writer) :
    world.Sound start ({ state with writer }.goto client phase) where
  writer other database written committing := by
    simp only [PasskeySessions.goto, Function.update_apply] at committing
    split at committing
    · rename_i same
      exact same ▸ moves.prepared database written committing
    · rename_i apart
      obtain ⟨locked, prepared⟩ := sound.writer other database written committing
      exact ⟨moves.others other apart locked, prepared⟩
  opened other call pending at_ consuming := by
    simp only [PasskeySessions.goto, Function.update_apply] at consuming
    split at consuming
    · exact moves.opened call pending at_ consuming
    · exact sound.opened other call pending at_ consuming
  held other call held := by
    simp only [PasskeySessions.goto, Function.update_apply] at held
    split at held
    · exact sound.held client call (moves.held call held)
    · exact sound.held other call held
  apart left right first second heldLeft heldRight same := by
    -- What the connection holds now it held before, so nothing is held twice.
    have before : ∀ other call, (({ state with writer } : PasskeySessions γ).goto client phase
        |>.clients other).held = some call → (state.clients other).held = some call := by
      intro other call held
      simp only [PasskeySessions.goto, Function.update_apply] at held
      split at held
      · rename_i same
        exact same ▸ moves.held call held
      · exact held
    exact sound.apart left right first second (before _ _ heldLeft) (before _ _ heldRight) same
  ledger := sound.ledger

/-- While one connection commits, no other one is about to. -/
theorem Sound.alone (sound : world.Sound start state) {database other : PasskeyDatabase}
    {written also_ : PasskeyCommit γ} {second : Nat}
    (writing : state.clients client = .committing database written)
    (writes : state.clients second = .committing other also_) : second = client := by
  have locked := (sound.writer client database written writing).1
  have same := (sound.writer second other also_ writes).1
  exact Option.some.inj (same.symm.trans locked)

variable {consumptions : List (ChallengeScope × IsoDatetime)} {activations : List PasskeyActivation}

/-- A commit keeps everything if its connection holds nothing that is used, and the ledger does. -/
theorem Sound.settle (sound : world.Sound start state) {database : PasskeyDatabase}
    {written : PasskeyCommit γ} {phase : PasskeyPhase γ}
    (writing : state.clients client = .committing database written)
    (resting : ∀ uncommitted next, phase ≠ .committing uncommitted next)
    (reading : ∀ call pending at_, phase ≠ .consuming call pending at_)
    (mine : ∀ call, phase.held = some call → Unused consumptions activations call)
    (others : ∀ other call, other ≠ client → (state.clients other).held = some call →
      Unused consumptions activations call)
    (apart : ∀ other call mine, other ≠ client → (state.clients other).held = some call →
      phase.held = some mine → call.scope.challenge ≠ mine.scope.challenge)
    (ledger : world.Ledger start database consumptions activations) :
    world.Sound start (PasskeySessions.goto
      ⟨database, state.clients, none, consumptions, activations⟩ client phase) where
  writer other uncommitted next committing := by
    simp only [PasskeySessions.goto, Function.update_apply] at committing
    split at committing
    · exact absurd committing (resting uncommitted next)
    · rename_i different
      exact absurd (sound.alone writing committing) different
  opened other call pending at_ consuming := by
    simp only [PasskeySessions.goto, Function.update_apply] at consuming
    split at consuming
    · exact absurd consuming (reading call pending at_)
    · obtain ⟨row, stored⟩ := sound.opened other call pending at_ consuming
      obtain ⟨later, remains, _⟩ := stored.later (sound.writer client _ _ writing).2.outlives
      exact ⟨later, remains⟩
  held other call holds := by
    simp only [PasskeySessions.goto, Function.update_apply] at holds
    split at holds
    · exact mine call holds
    · rename_i different
      exact others other call different holds
  apart left right first second heldLeft heldRight same := by
    simp only [PasskeySessions.goto, Function.update_apply] at heldLeft heldRight
    by_cases mineLeft : left = client
    · by_cases mineRight : right = client
      · rw [mineLeft, mineRight]
      · rw [if_pos mineLeft] at heldLeft
        rw [if_neg mineRight] at heldRight
        exact absurd same.symm (apart right second first mineRight heldRight heldLeft)
    · rw [if_neg mineLeft] at heldLeft
      by_cases mineRight : right = client
      · rw [if_pos mineRight] at heldRight
        exact absurd same (apart left first second mineLeft heldLeft heldRight)
      · rw [if_neg mineRight] at heldRight
        exact sound.apart left right first second heldLeft heldRight same
  ledger := ledger

/-- Another database in which everything outlives has the same ledger. -/
theorem Ledger.later
    (ledger : world.Ledger start before consumptions activations) (outlives : Outlives after before)
    (same : after.strategies.audit.rows = before.strategies.audit.rows) :
    world.Ledger start after consumptions activations where
  once := ledger.once
  consumed spent member := by
    obtain ⟨row, stored, consumed⟩ := ledger.consumed spent member
    obtain ⟨later, remains, still⟩ := stored.later outlives
    exact ⟨later, remains, still consumed⟩
  distinct := ledger.distinct
  backed := ledger.backed
  audit := same.trans ledger.audit

/-- Consuming a challenge that is open adds it to the ledger. -/
theorem Sound.consume (sound : world.Sound start state) {after : PasskeyDatabase}
    {scope : ChallengeScope} {at_ : IsoDatetime}
    (stored : world.Stored state.database scope at_ row) (fresh : row.consumed = false)
    (outlives : Outlives after state.database)
    (found : after.challenges.find? scope.challenge = some { row with consumed := true })
    (same : after.strategies.audit.rows = state.database.strategies.audit.rows) :
    world.Ledger start after (state.consumptions ++ [(scope, at_)]) state.activations where
  once := by
    have unspent := sound.unspent stored.found fresh
    simp only [List.map_append, List.map_cons, List.map_nil]
    refine List.nodup_append.mpr ⟨sound.ledger.once, List.nodup_singleton _, ?_⟩
    intro first member second last both
    obtain ⟨spent, present, rfl⟩ := List.mem_map.mp member
    exact unspent spent present (both.trans (List.mem_singleton.mp last))
  consumed spent member := by
    obtain old | new := List.mem_append.mp member
    · exact (sound.ledger.later outlives same).consumed spent old
    · obtain rfl := List.mem_singleton.mp new
      exact ⟨_, ⟨found, stored.scope, stored.unexpired⟩, rfl⟩
  distinct := sound.ledger.distinct
  backed activation member := by
    obtain ⟨⟨at_, present⟩, strategic⟩ := sound.ledger.backed activation member
    exact ⟨⟨at_, List.mem_append_left _ present⟩, strategic⟩
  audit := same.trans sound.ledger.audit

/-- Activating a version under a challenge that is not used adds it to the ledger. -/
theorem Sound.activate (sound : world.Sound start state) {after : PasskeyDatabase}
    {call : PasskeyCall γ} {approvalId : String} {current : IsoDatetime}
    (unused : Unused state.consumptions state.activations call)
    (strategic : call.scope.action = "activate" ∨ call.scope.action = "rollback")
    (same : after.challenges = state.database.challenges)
    (appended : after.strategies.audit.rows = state.database.strategies.audit.rows ++
      [world.auditOf ⟨approvalId, call.scope, current⟩]) :
    world.Ledger start after state.consumptions
      (state.activations ++ [⟨approvalId, call.scope, current⟩]) where
  once := sound.ledger.once
  consumed spent member := by
    obtain ⟨row, stored, consumed⟩ := sound.ledger.consumed spent member
    obtain ⟨later, remains, still⟩ := stored.later (outlives_of_same same)
    exact ⟨later, remains, still consumed⟩
  distinct := by
    simp only [List.map_append, List.map_cons, List.map_nil]
    refine List.nodup_append.mpr ⟨sound.ledger.distinct, List.nodup_singleton _, ?_⟩
    intro first member second last both
    obtain ⟨activation, present, rfl⟩ := List.mem_map.mp member
    exact unused.2 activation present (both.trans (List.mem_singleton.mp last))
  backed activation member := by
    obtain old | new := List.mem_append.mp member
    · exact sound.ledger.backed activation old
    · obtain rfl := List.mem_singleton.mp new
      exact ⟨unused.1, strategic⟩
  audit := by
    rw [appended, sound.ledger.audit]
    simp

/-- Whatever a connection commits, everything is kept. -/
theorem Sound.commit (sound : world.Sound start state) {uncommitted : PasskeyDatabase}
    {written : PasskeyCommit γ} (writing : state.clients client = .committing uncommitted written) :
    world.Sound start (state.commit client uncommitted written).2 := by
  have prepared := (sound.writer client uncommitted written writing).2
  have outlives := prepared.outlives
  cases prepared with
  | stored challenges row added =>
    exact sound.settle writing (fun _ _ busy => (by cases busy)) (fun _ _ _ busy => (by cases busy))
      (fun _ holds => (by cases holds)) (fun other call _ held => sound.held other call held)
      (fun _ _ _ _ _ holds => (by cases holds)) (sound.ledger.later outlives rfl)
  | consumed call pending at_ row challenges stored fresh updated =>
    -- Whoever holds a challenge has one that is consumed, and this one was not.
    have unspent := sound.unspent stored.found fresh
    refine sound.settle writing (fun _ _ busy => (by cases busy)) (fun _ _ _ busy => (by cases busy))
      (fun holder holds => ?_) (fun other holder _ held => ?_)
      (fun other holder mine _ held holds => ?_) (sound.consume stored fresh outlives
        ((updated _).trans (if_pos rfl)) rfl)
    · cases holds
      refine ⟨⟨at_, List.mem_append_right _ List.mem_cons_self⟩, ?_⟩
      intro activation member
      obtain ⟨time, spent⟩ := (sound.ledger.backed activation member).1
      exact unspent _ spent
    · obtain ⟨⟨time, spent⟩, unused⟩ := sound.held other holder held
      exact ⟨⟨time, List.mem_append_left _ spent⟩, unused⟩
    · cases holds
      obtain ⟨time, spent⟩ := (sound.held other holder held).1
      exact unspent _ spent
  | accepted call current passkeys =>
    have holds : (state.clients client).held = some call := by rw [writing]; rfl
    have ledger := sound.ledger.later outlives rfl
    unfold PasskeySessions.commit
    dsimp only
    split
    · refine sound.settle writing (fun _ _ busy => (by cases busy)) (fun _ _ _ busy => (by cases busy))
        (fun mine same => ?_) (fun other holder _ held => sound.held other holder held)
        (fun other holder mine different held same => ?_) ledger
      · cases same
        exact sound.held client call holds
      · cases same
        exact fun both => different (sound.apart other client holder call held holds both)
    · exact sound.settle writing (fun _ _ busy => (by cases busy)) (fun _ _ _ busy => (by cases busy))
        (fun _ holds => (by cases holds)) (fun other call _ held => sound.held other call held)
        (fun _ _ _ _ _ holds => (by cases holds)) ledger
  | activated call approvalId current strategies strategic appended =>
    have holds : (state.clients client).held = some call := by rw [writing]; rfl
    refine sound.settle writing (fun _ _ busy => (by cases busy)) (fun _ _ _ busy => (by cases busy))
      (fun _ holds => (by cases holds)) (fun other holder different held => ?_)
      (fun _ _ _ _ _ holds => (by cases holds))
      (sound.activate (sound.held client call holds) strategic rfl appended)
    obtain ⟨spent, unused⟩ := sound.held other holder held
    refine ⟨spent, fun activation member same => ?_⟩
    obtain old | new := List.mem_append.mp member
    · exact unused activation old same
    · obtain rfl := List.mem_singleton.mp new
      exact different (sound.apart other client holder call held holds same.symm)

/-- Whatever happens, everything is kept. -/
theorem sound_step (op : PasskeyOp γ) (sound : world.Sound start state) :
    world.Sound start (world.machine.next state op) := by
  have moved := step_move state op sound.opened
  generalize world.machine.next state op = after at moved ⊢
  cases moved with
  | none => exact sound
  | local_ client phase writer moves => exact sound.local_ moves
  | commit client uncommitted written writing => exact sound.commit writing

variable (world)

/-- Nothing was consumed or activated before the first call. -/
theorem sound_initial (database : PasskeyDatabase) :
    world.Sound database (PasskeySessions.initial database) where
  writer _ _ _ committing := by cases committing
  opened _ _ _ _ consuming := by cases consuming
  held _ _ holds := by cases holds
  apart _ _ _ _ holds := by cases holds
  ledger := ⟨List.nodup_nil, fun _ member => (by cases member), List.nodup_nil,
    fun _ member => (by cases member), (List.append_nil _).symm⟩

/-- Whatever the connections do, every audit since the start is of an activation under a challenge of
its own, which is stored for the same actor, family and version and for a strategy action, had not
expired when it was consumed, and was consumed once. -/
theorem activated_once (database : PasskeyDatabase) (ops : List (PasskeyOp γ)) :
    let reached := world.machine.run (PasskeySessions.initial database) ops
    reached.database.strategies.audit.rows =
      database.strategies.audit.rows ++ reached.activations.map world.auditOf ∧
    (reached.activations.map fun activation => activation.scope.challenge).Nodup ∧
    (reached.consumptions.map fun spent => spent.1.challenge).Nodup ∧
    ∀ activation ∈ reached.activations,
      (activation.scope.action = "activate" ∨ activation.scope.action = "rollback") ∧
      ∃ at_ row, (activation.scope, at_) ∈ reached.consumptions ∧
        world.Stored reached.database activation.scope at_ row ∧ row.consumed = true := by
  intro reached
  have sound : world.Sound database reached :=
    world.machine.invariant (fun _ op => sound_step op) ops (world.sound_initial database)
  refine ⟨sound.ledger.audit, sound.ledger.distinct, sound.ledger.once, ?_⟩
  intro activation member
  obtain ⟨⟨at_, spent⟩, strategic⟩ := sound.ledger.backed activation member
  obtain ⟨row, stored, consumed⟩ := sound.ledger.consumed _ spent
  exact ⟨strategic, at_, row, spent, stored, consumed⟩

end StrategyLab.PasskeyWorld
