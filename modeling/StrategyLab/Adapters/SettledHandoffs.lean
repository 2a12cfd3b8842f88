import StrategyLab.Adapters.DeployOnce
import StrategyLab.Adapters.HandoffSessionLaws

/-! Which runs of several clients keep approved packages, decide once, and recover from crashes. -/

namespace StrategyLab

open StrategyHandoffRepository StrategyHandoffService

variable {digest : HandoffDigest}

namespace HandoffSessions

/-- Whatever package is approved in one state is the same in a later one. -/
def KeepsApproved (before after : HandoffSessions) : Prop :=
  ∀ id package, before.repository.packages.find? id = some package →
    package.status = .approvedForDeployment → after.repository.packages.find? id = some package

/-- What is asked of every step: approved packages stay, no package is decided on both ways, and
after a crash the same call completes, if its package is not decided on. -/
structure Kept (digest : HandoffDigest) (state : HandoffSessions) (op : HandoffOp) : Prop where
  immutable : state.KeepsApproved ((machine digest).next state op)
  single : ∀ id, ¬(DecisionRecorded ((machine digest).next state op).repository true id ∧
    DecisionRecorded ((machine digest).next state op).repository false id)
  recovers : ∀ client decision package, op = .crash client →
    (state.clients client).decision? = some decision →
    state.repository.packages.find? decision.packageId = some package →
    (∀ approved, package.status ≠ decisionStatus approved) →
      Completes digest decision ((machine digest).next state op).repository

/-- What happens in a state is clear: a decision is recorded only where the opposite one is not, and
a client is not lost between the record of its decision and the update of its package. -/
def Clear (state : HandoffSessions) : HandoffOp → Prop
  | .create _ _ _ _ => True
  | .decide _ _ => True
  | .step client => ∀ decision package, state.clients client = .recording decision package →
      ¬DecisionRecorded state.repository (!decision.approved) decision.packageId
  | .crash client => ∀ decision package, (state.clients client).decision? = some decision →
      state.repository.packages.find? decision.packageId = some package →
      (∀ approved, package.status ≠ decisionStatus approved) →
        ¬DecisionRecorded state.repository decision.approved decision.packageId

variable {state : HandoffSessions} {client : Nat}

/-- What a step of one client can do. -/
inductive ClientMove (digest : HandoffDigest) (state : HandoffSessions) (client : Nat) :
    HandoffSessions → Prop where
  /-- Nothing is committed. -/
  | quiet (phase : HandoffPhase) (unread : ∀ decision package, phase ≠ .recording decision package)
    (holding : ∀ held, phase.recorded? = some held →
      (state.clients client).recorded? = some held) :
    ClientMove digest state client (state.goto client phase)
  /-- A decision is recorded. -/
  | recorded (decision : HandoffDecision) (package decided : StrategyHandoffPackage)
    (grown : Table StrategyDeploymentApproval.approvalId)
    (at_ : state.clients client = .recording decision package)
    (inserted : state.repository.approvals.insert? (decision.approval package) = some grown)
    (outcome : Decided digest decision decided) :
    ClientMove digest state client (({ state with
      repository := { state.repository with approvals := grown } } : HandoffSessions).goto client
        (.rereading decision decided))
  /-- A package is updated. -/
  | updated (decision : HandoffDecision) (decided : StrategyHandoffPackage)
    (after : StrategyHandoffRepository) (at_ : state.clients client = .updating decision decided)
    (done : state.repository.overwrite decided = .ok after) :
    ClientMove digest state client (({ state with repository := after } : HandoffSessions).goto
      client .idle)

/-- A client that gives up commits nothing. -/
theorem move_idle (digest : HandoffDigest) (state : HandoffSessions) (client : Nat) :
    ClientMove digest state client (state.goto client .idle) :=
  .quiet .idle (fun _ _ same => by cases same) (fun _ held => by cases held)

section

variable (sound : Sound digest state)

include sound

/-- A step of a client commits nothing, records a decision, or updates a package. -/
theorem stepClient_move (client : Nat) :
    ClientMove digest state client (stepClient digest state client).2 := by
  unfold stepClient
  cases at_ : state.clients client with
  | idle =>
    have same : state.goto client .idle = state := by
      rw [HandoffSessions.goto, ← at_, Function.update_eq_self]
    have moved := move_idle digest state client
    rwa [same] at moved
  | recording decision package =>
    dsimp only
    split
    · exact move_idle digest state client
    · rename_i repository written
      simp only [write] at written
      split at written
      · rename_i grown inserted
        cases written
        have read := sound.reading client decision package at_
        have open_ : package.status ≠ .approvedForDeployment := by
          intro approved
          cases mine : decision.approved with
          | false => exact read.permitted (by rw [mine]; exact approved)
          | true =>
            -- An approved package has its approval recorded, so this one would be refused.
            obtain ⟨old, found⟩ := read.marked approved
            have missing := (Table.insert?_eq_some_iff.mp inserted).1
            simp only [HandoffDecision.approval, mine] at missing
            exact absurd (missing.symm.trans found) (by simp)
        obtain ⟨decided, changed, outcome⟩ :=
          withStatus_decision read.wellFormed read.packageId read.validated open_
        rw [changed]
        exact .recorded decision package decided grown at_ inserted outcome
      · cases written
  | rereading decision decided =>
    dsimp only
    split
    · exact move_idle digest state client
    · split
      · exact move_idle digest state client
      · exact .quiet (.updating decision decided) (fun _ _ same => by cases same)
          (fun _ held => by rw [at_]; exact held)
  | updating decision decided =>
    dsimp only
    split
    · exact move_idle digest state client
    · rename_i after done
      exact .updated decision decided after at_ done

/-- Beginning a decision keeps everything. -/
theorem Sound.decide (client : Nat) (decision : HandoffDecision) :
    Sound digest ((machine digest).next state (.decide client decision)) := by
  simp only [Machine.next, machine, step]
  split
  · split
    · exact sound
    · rename_i package started
      obtain ⟨read, permitted, validated⟩ := start_eq_ok.mp started
      obtain ⟨found, readable⟩ := find?_of_getPackage read
      refine sound.goto (fun next other same => ?_) (fun _ held => by cases held)
      cases same
      exact ⟨sound.wellFormed _ _ found, Table.key_of_find? found, validated, permitted,
        sound.marked _ _ true found, package, found⟩
  · exact sound

/-- Creation keeps everything, and every package that is stored. -/
theorem Sound.created (champions : ChampionRegistryRepository)
    (revalidations : RevalidationReports) (backtests : BacktestResults)
    (request : StrategyHandoffRequest) :
    Sound digest ((machine digest).next state
        (.create champions revalidations backtests request)) ∧
      ∀ id package, state.repository.packages.find? id = some package →
        ((machine digest).next state
          (.create champions revalidations backtests request)).repository.packages.find? id =
            some package := by
  have next : (machine digest).next state (.create champions revalidations backtests request) =
      { state with repository := (Commits.perform (write digest) state.repository
        (StrategyHandoffService.create digest champions revalidations backtests request)).2 } := by
    simp only [Machine.next, machine, step]
    split <;> simp only [*]
  rw [next]
  obtain same | ⟨package, active, _, pending, valid, readable, _, _, inserted, approvals⟩ :=
    create_step digest state.repository champions revalidations backtests request
  · simp only [same]
    exact ⟨sound, fun _ _ found => found⟩
  · exact ⟨sound.create pending ⟨valid, readable⟩ inserted approvals,
      fun _ _ found => Table.find?_insert?_of_found inserted found⟩

/-- A step of a client that is clear keeps everything. -/
theorem Sound.stepped (clear : state.Clear (.step client)) :
    Sound digest ((machine digest).next state (.step client)) := by
  have moved := stepClient_move sound client
  change Sound digest (stepClient digest state client).2
  generalize (stepClient digest state client).2 = after at moved ⊢
  cases moved with
  | quiet phase unread holding =>
    exact sound.goto (fun decision package same => absurd same (unread decision package)) holding
  | recorded decision package decided grown at_ inserted outcome =>
    exact sound.record at_ inserted (clear decision package at_) outcome
  | updated decision decided after at_ done => exact sound.update at_ done

end

/-- All that is clear keeps everything. -/
theorem sound_step (op : HandoffOp) (clear : state.Clear op) (sound : Sound digest state) :
    Sound digest ((machine digest).next state op) := by
  cases op with
  | create champions revalidations backtests request =>
    exact (sound.created champions revalidations backtests request).1
  | decide client decision => exact sound.decide client decision
  | step client => exact sound.stepped clear
  | crash client =>
    exact sound.goto (fun _ _ same => by cases same) (fun _ held => by cases held)

variable {package : StrategyHandoffPackage}

/-- No step changes a package that is approved. -/
theorem Sound.immutable (sound : Sound digest state) (op : HandoffOp) {id : String}
    (found : state.repository.packages.find? id = some package)
    (approved : package.status = .approvedForDeployment) :
    ((machine digest).next state op).repository.packages.find? id = some package := by
  cases op with
  | create champions revalidations backtests request =>
    exact (sound.created champions revalidations backtests request).2 id package found
  | decide client decision =>
    simp only [Machine.next, machine, step]
    split
    · split <;> exact found
    · exact found
  | step client =>
    have moved := stepClient_move sound client
    change (stepClient digest state client).2.repository.packages.find? id = some package
    generalize (stepClient digest state client).2 = after at moved ⊢
    cases moved with
    | quiet phase unread holding => exact found
    | recorded decision other decided grown at_ inserted outcome => exact found
    | updated decision decided after at_ done =>
      -- A client is about to update a package only while it is not decided on.
      have holding : (state.clients client).recorded? = some (decision, decided) := by
        rw [at_]
        rfl
      have named := (sound.holding client decision decided holding).decided.packageId
      refine ((overwrite_eq_ok done).2 id).trans ?_
      rw [if_neg, found]
      intro same
      rw [same, named] at found
      exact sound.open_of_holding holding found true approved
  | crash client => exact found

/-- A decision and its opposite are not both recorded. -/
theorem Sound.not_both (sound : Sound digest state) {approved : Bool} {packageId : String}
    (mine : DecisionRecorded state.repository approved packageId)
    (opposite : DecisionRecorded state.repository (!approved) packageId) : False := by
  cases approved with
  | true => exact sound.single packageId ⟨mine, opposite⟩
  | false => exact sound.single packageId ⟨opposite, mine⟩

/-- A decision that is not recorded yet is recorded by the step, whatever comes next. -/
theorem record_next {decision : HandoffDecision}
    (at_ : state.clients client = .recording decision package)
    (missing : state.repository.approvals.find? (decisionId decision.approved
      decision.packageId) = none) :
    ∃ grown, state.repository.approvals.insert? (decision.approval package) = some grown ∧
      ((machine digest).next state (.step client)).repository =
        { state.repository with approvals := grown } := by
  cases inserted : state.repository.approvals.insert? (decision.approval package) with
  | none =>
    obtain ⟨old, taken⟩ := Table.insert?_eq_none_iff.mp inserted
    exact absurd (missing.symm.trans taken) (by simp)
  | some grown =>
    refine ⟨grown, rfl, ?_⟩
    simp only [Machine.next, machine, step, stepClient, at_, write, inserted]
    split <;> rfl

/-- A step is as asked exactly if it is clear. -/
theorem kept_iff_clear (sound : Sound digest state) (op : HandoffOp) :
    Kept digest state op ↔ state.Clear op := by
  constructor
  · intro kept
    cases op with
    | create champions revalidations backtests request => trivial
    | decide client decision => trivial
    | step client =>
      intro decision package at_ opposite
      -- The opposite decision is recorded, so this one is not, and recording it makes them two.
      have missing : state.repository.approvals.find? (decisionId decision.approved
          decision.packageId) = none := by
        cases found : state.repository.approvals.find? (decisionId decision.approved
          decision.packageId) with
        | none => rfl
        | some old =>
          have mine : DecisionRecorded state.repository decision.approved decision.packageId := ⟨old, found⟩
          exact (sound.not_both mine opposite).elim
      obtain ⟨grown, inserted, next⟩ := record_next at_ missing
      have mine : DecisionRecorded { state.repository with approvals := grown } decision.approved
          decision.packageId :=
        ⟨_, (Table.find?_insert? inserted _).trans (if_pos rfl)⟩
      have also_ := recorded_insert inserted opposite
      have single := kept.single decision.packageId
      rw [next] at single
      revert mine also_
      cases decision.approved
      · exact fun no yes => single ⟨yes, no⟩
      · exact fun yes no => single ⟨yes, no⟩
    | crash client =>
      intro decision package about found undecided recorded
      obtain ⟨old, taken⟩ := recorded
      have fresh := fresh_of_completes (kept.recovers client decision package rfl about found
        undecided)
      exact absurd (fresh.symm.trans taken) (by simp)
  · intro clear
    have next := sound_step op clear sound
    refine ⟨fun id package found approved => sound.immutable op found approved, next.single,
      fun client decision package same about found undecided => ?_⟩
    subst same
    have fresh := clear decision package about found undecided
    have missing : state.repository.approvals.find? (decisionId decision.approved
        decision.packageId) = none :=
      Option.eq_none_iff_forall_ne_some.mpr fun old taken => fresh ⟨old, taken⟩
    refine completes_of_fresh found (sound.wellFormed _ package found) undecided ?_ missing
    -- The client has only read so far: whoever has recorded a decision is not clear.
    cases at_ : state.clients client with
    | idle =>
      rw [at_] at about
      cases about
    | recording other before =>
      rw [at_] at about
      cases about
      exact (sound.reading client decision before at_).validated
    | rereading other decided =>
      rw [at_] at about
      cases about
      exact absurd (sound.holding client decision decided (by rw [at_]; rfl)).recorded fresh
    | updating other decided =>
      rw [at_] at about
      cases about
      exact absurd (sound.holding client decision decided (by rw [at_]; rfl)).recorded fresh

/-- Before the first call nothing is stored. -/
theorem sound_initial (digest : HandoffDigest) : Sound digest initial where
  wellFormed _ _ found := by cases found
  marked _ _ _ found := by cases found
  reading _ _ _ at_ := by cases at_
  holding _ _ _ held := by cases held
  apart _ _ _ _ _ _ held := by cases held
  single _ both := by
    obtain ⟨⟨_, found⟩, _⟩ := both
    cases found

/-- An approved package never changes, no package has an approval and a rejection, and after a crash
the same call completes where its package is not decided on. -/
structure Settled (digest : HandoffDigest) (ops : List HandoffOp) : Prop where
  immutable : ∀ before middle after, ops = before ++ middle ++ after →
    ((machine digest).run initial before).KeepsApproved
      ((machine digest).run initial (before ++ middle))
  single : ∀ before after, ops = before ++ after → ∀ id,
    ¬(DecisionRecorded ((machine digest).run initial before).repository true id ∧
      DecisionRecorded ((machine digest).run initial before).repository false id)
  recovers : ∀ before client after decision package, ops = before ++ .crash client :: after →
    (((machine digest).run initial before).clients client).decision? = some decision →
    ((machine digest).run initial before).repository.packages.find? decision.packageId =
      some package →
    (∀ approved, package.status ≠ decisionStatus approved) →
      Completes digest decision
        ((machine digest).run initial (before ++ [.crash client])).repository

/-- A run is settled exactly if all that happens in it is clear: a decision is recorded only where
the opposite one is not, and no client is lost between its record and its update. -/
theorem settled_iff_clear (digest : HandoffDigest) (ops : List HandoffOp) :
    Settled digest ops ↔ (machine digest).Guarded Clear initial ops := by
  have steps : (∀ before op after, ops = before ++ op :: after →
      Kept digest ((machine digest).run initial before) op) ↔
        (machine digest).Guarded Clear initial ops :=
    (machine digest).forall_step_iff_guarded
      (fun state op (sound : Sound digest state) => kept_iff_clear sound op)
      (fun state op clear sound => sound_step op clear sound) ops (sound_initial digest)
  rw [← steps]
  have last : ∀ before op, (machine digest).run initial (before ++ [op]) =
      (machine digest).next ((machine digest).run initial before) op := by
    intro before op
    rw [Machine.run_append, Machine.run_cons, Machine.run_nil]
  constructor
  · intro settled before op after split
    have upTo : ops = (before ++ [op]) ++ after := by rw [split]; simp
    refine ⟨fun id package found approved => ?_, fun id => ?_,
      fun client decision package same about found undecided => ?_⟩
    · rw [← last]
      exact settled.immutable before [op] after upTo id package found approved
    · rw [← last]
      exact settled.single (before ++ [op]) after upTo id
    · subst same
      rw [← last]
      exact settled.recovers before client after decision package split about found undecided
  · intro kept
    refine ⟨fun before middle after split id package found approved => ?_,
      fun before after split id both => ?_,
      fun before client after decision package split about found undecided => ?_⟩
    · -- Every step of the middle keeps the packages that are approved.
      rw [Machine.run_append]
      have related : ((machine digest).run initial before).KeepsApproved
          ((machine digest).run ((machine digest).run initial before) middle) := by
        refine (machine digest).related_run (fun _ _ _ found _ => found)
          (fun _ _ _ first second id package found approved =>
            second id package (first id package found approved) approved)
          fun front op back part => ?_
        rw [← Machine.run_append]
        exact (kept (before ++ front) op (back ++ after) (by rw [split, part]; simp)).immutable
      exact related id package found approved
    · obtain rfl | ⟨front, op, rfl⟩ := List.eq_nil_or_concat' before
      · exact (sound_initial digest).single id both
      · rw [last] at both
        exact (kept front op after (by rw [split]; simp)).single id both
    · rw [last]
      exact (kept before _ after split).recovers client decision package rfl about found undecided

/-- The approval of the package of the first champion. -/
def firstApproval : HandoffDecision :=
  ⟨true, firstPackageId, "operator", "2026-07-17T00:00:00Z", "checked"⟩

/-- A client is lost after it recorded the approval of the first package. -/
def lostApproval : List HandoffOp :=
  let stored := (releaseMachine fakeConfig).run (.initial {}) (firstDeployment.take 3)
  [.create stored.champions stored.revalidations stored.backtests
      ⟨"handoff-1", "default", "revalidation-1", "operator", "2026-07-17T00:00:00Z"⟩,
    .decide 0 firstApproval, .step 0]

/-- The approval of a client that is lost before it updates the package can never be completed. -/
theorem lost_approval_not_settled : ¬Settled plainDigest (lostApproval ++ [.crash 0]) := by
  intro settled
  have about : (((machine plainDigest).run initial lostApproval).clients 0).decision? =
      some firstApproval := by decide +kernel
  have pending : (((machine plainDigest).run initial lostApproval).repository.packages.find?
      firstApproval.packageId).map (·.status) = some .pendingApproval := by decide +kernel
  obtain ⟨package, found, status⟩ := Option.map_eq_some_iff.mp pending
  have fresh := fresh_of_completes (settled.recovers lostApproval 0 [] firstApproval package rfl
    about found (by rw [status]; decide))
  have taken : (((machine plainDigest).run initial (lostApproval ++ [.crash 0])).repository.approvals.find?
      (decisionId firstApproval.approved firstApproval.packageId)).isSome := by decide +kernel
  rw [fresh] at taken
  cases taken

/-- An approval that nobody interrupts is carried out by the steps of its client. -/
theorem first_approval_alone :
    let state := (machine plainDigest).run initial (lostApproval.take 1)
    let done := (machine plainDigest).run state [.decide 0 firstApproval, .step 0, .step 0, .step 0]
    (done.repository.packages.find? firstPackageId).map (·.status) = some .approvedForDeployment ∧
      done.repository = (Commits.perform (write plainDigest) state.repository
        (firstApproval.call plainDigest state.repository)).2 :=
  ⟨by decide +kernel, decide_alone plainDigest rfl firstApproval⟩

end HandoffSessions

end StrategyLab
