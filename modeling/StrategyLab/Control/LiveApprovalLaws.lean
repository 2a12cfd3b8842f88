import StrategyLab.Control.LiveApproval
import StrategyLab.Control.TransitionLaws
import Mathlib.Data.List.Induction

/-! What an approval of a move to live trading guarantees, and what it leaves open. -/

namespace StrategyLab.ApprovalRegistry

variable (fromIsoFormat : String → Except String IsoDatetime) (isoFormat : IsoDatetime → String)

/-- A text names a moment that is not after the moment that another one names. -/
def Unexpired (now expiresAt : String) : Prop :=
  ∃ nowAt expires, parse fromIsoFormat now = .ok nowAt ∧
    parse fromIsoFormat expiresAt = .ok expires ∧ nowAt.moment ≤ expires.moment

/-- A ticket of a registry that allows a move to live trading. -/
structure LiveTicket (registry : ApprovalRegistry) (approvalId now : String)
    (ticket : TransitionApproval) : Prop where
  issued : registry.issued.find? approvalId = some ticket
  unspent : registry.isConsumed approvalId = false
  unexpired : Unexpired fromIsoFormat now ticket.expiresAt
  source : ticket.fromMode = .demo
  target : ticket.toMode = .live
  intended : ticket.intent = liveTransitionIntent

variable {registry : ApprovalRegistry} {ticket : TransitionApproval}

/-- A ticket passes its checks exactly when it allows a move to live trading. -/
theorem validate_eq_ok {approvalId now : String}
    :
    validate fromIsoFormat registry approvalId .demo .live liveTransitionIntent now = .ok ticket ↔
      LiveTicket fromIsoFormat registry approvalId now ticket := by
  unfold validate
  constructor
  · intro passed
    split at passed
    · cases passed
    · rename_i found issued
      simp only [Raise.bind_eq_ok, Raise.ensure_eq_ok, Raise.mapError_eq_ok, Raise.pure_eq_ok,
        exists_const, Bool.and_eq_true, decide_eq_true_eq, Bool.not_eq_true'] at passed
      obtain ⟨unspent, nowAt, began, expires, ended, unexpired, ⟨source, target⟩, intended, rfl⟩ :=
        passed
      exact ⟨issued, unspent, ⟨nowAt, expires, began, ended, unexpired⟩, source, target, intended⟩
  · intro valid
    obtain ⟨nowAt, expires, began, ended, unexpired⟩ := valid.unexpired
    simp only [valid.issued, Raise.bind_eq_ok, Raise.ensure_eq_ok, Raise.mapError_eq_ok,
      Raise.pure_eq_ok, exists_const, Bool.and_eq_true, decide_eq_true_eq, Bool.not_eq_true']
    exact ⟨valid.unspent, nowAt, began, expires, ended, unexpired,
      ⟨valid.source, valid.target⟩, valid.intended, trivial⟩

/-- What a transition shows to be approved: the id of a ticket that allows it. -/
structure Shown (registry : ApprovalRegistry) (withRegistry : Bool) (shown : Option String)
    (clock : Answer String) (approvalId now : String) (ticket : TransitionApproval) : Prop where
  registered : withRegistry = true
  id : shown = some approvalId
  named : approvalId ≠ ""
  timed : clock = .ok now
  valid : LiveTicket fromIsoFormat registry approvalId now ticket

variable {transition : ModeTransition}

/-- A transition to live trading is approved by a ticket, which is spent, or nothing changes. -/
theorem approve_cases (registry : ApprovalRegistry)
    (live : transition.target = .live) (withRegistry : Bool) (shown : Option String)
    (clock : Answer String) :
    (∃ approvalId now ticket,
      Shown fromIsoFormat registry withRegistry shown clock approvalId now ticket ∧
      approve fromIsoFormat registry transition withRegistry shown clock =
        (.ok true, { registry with consumed := approvalId :: registry.consumed })) ∨
    ((∀ approvalId now ticket,
        ¬Shown fromIsoFormat registry withRegistry shown clock approvalId now ticket) ∧
      ∃ approval, approval ≠ .ok true ∧
        approve fromIsoFormat registry transition withRegistry shown clock =
          (approval, registry)) := by
  rw [approve, if_pos live]
  cases shown with
  | none =>
    refine .inr ⟨fun _ _ _ none => ?_, .ok false, by simp, rfl⟩
    cases none.id
  | some approvalId =>
    by_cases asked : withRegistry && approvalId ≠ ""
    · simp only [liveTransitionApproved]
      rw [if_pos asked]
      simp only [Bool.and_eq_true, decide_eq_true_eq] at asked
      obtain ⟨registered, named⟩ := asked
      cases clock with
      | error raised =>
        refine .inr ⟨fun _ _ _ untimed => ?_, .error raised, by simp, rfl⟩
        cases untimed.timed
      | ok now =>
        simp only [requireLiveApproval, validateAndConsume]
        cases checked : validate fromIsoFormat registry approvalId .demo .live
          liveTransitionIntent now with
        | ok ticket =>
          exact .inl ⟨approvalId, now, ticket, ⟨registered, rfl, named, rfl,
            (validate_eq_ok fromIsoFormat).mp checked⟩, rfl⟩
        | error raised =>
          refine .inr ⟨fun id at_ ticket shown => ?_, ?_⟩
          · have same := shown.id
            have timed := shown.timed
            cases same
            cases timed
            rw [(validate_eq_ok fromIsoFormat).mpr shown.valid] at checked
            cases checked
          · cases raised with
            | approvalError reason message => exact ⟨.ok false, by simp, rfl⟩
            | valueError message => exact ⟨.error (.unexpected "ValueError"), by simp, rfl⟩
    · simp only [liveTransitionApproved]
      rw [if_neg asked]
      refine .inr ⟨fun id at_ ticket shown => asked ?_, .ok false, by simp, rfl⟩
      have same := shown.id
      cases same
      simp [shown.registered, shown.named]

/-- A ticket is issued as it was asked for, or the registry stays as it is. -/
theorem issue_cases (registry : ApprovalRegistry) (approvalId : String) (fromMode toMode : Mode)
    (intent now : String) (ttlSeconds : Int) (issuedBy : String) :
    (∃ expiresAt, issue fromIsoFormat isoFormat registry approvalId fromMode toMode intent now
      ttlSeconds issuedBy =
        (.ok ⟨approvalId, fromMode, toMode, intent, now, expiresAt, issuedBy⟩,
          ⟨registry.issued.assign
            ⟨approvalId, fromMode, toMode, intent, now, expiresAt, issuedBy⟩, registry.consumed⟩)) ∨
    ∃ raised, issue fromIsoFormat isoFormat registry approvalId fromMode toMode intent now
      ttlSeconds issuedBy = (.error raised, registry) := by
  unfold issue
  split
  · exact .inr ⟨_, rfl⟩
  · split
    · exact .inr ⟨_, rfl⟩
    · exact .inl ⟨_, rfl⟩

/-- A transition changes no ticket, and a ticket that was spent stays spent. -/
theorem approve_keeps (registry : ApprovalRegistry) (transition : ModeTransition)
    (withRegistry : Bool) (shown : Option String) (clock : Answer String) :
    (approve fromIsoFormat registry transition withRegistry shown clock).2.issued =
        registry.issued ∧
      registry.consumed ⊆
        (approve fromIsoFormat registry transition withRegistry shown clock).2.consumed := by
  by_cases live : transition.target = .live
  · obtain ⟨id, now, ticket, _, ran⟩ | ⟨_, approval, _, ran⟩ :=
      approve_cases fromIsoFormat registry live withRegistry shown clock
    · rw [ran]
      exact ⟨rfl, List.subset_cons_self id registry.consumed⟩
    · rw [ran]
      exact ⟨rfl, List.Subset.refl _⟩
  · rw [approve, if_neg live]
    exact ⟨rfl, List.Subset.refl _⟩

/-- A transition to live trading that a ticket approves. -/
def AuthorizedBy (registry : ApprovalRegistry) (approvalId : String) : ApprovalOp → Prop
  | .issue .. => False
  | .execute transition withRegistry shown clock =>
    transition.target = .live ∧ shown = some approvalId ∧
      (approve fromIsoFormat registry transition withRegistry shown clock).1 = .ok true

variable {approvalId : String}

/-- A ticket that was spent stays spent. -/
theorem next_consumed (spent : registry.isConsumed approvalId = true) (op : ApprovalOp) :
    ((machine fromIsoFormat isoFormat).next registry op).isConsumed approvalId = true := by
  cases op with
  | issue id fromMode toMode intent now ttlSeconds issuedBy =>
    obtain ⟨expiresAt, ran⟩ | ⟨raised, ran⟩ := issue_cases fromIsoFormat isoFormat registry id
      fromMode toMode intent now ttlSeconds issuedBy
    · simp only [Machine.next, machine, ran]
      exact spent
    · simp only [Machine.next, machine, ran]
      exact spent
  | execute transition withRegistry shown clock =>
    obtain ⟨_, kept⟩ := approve_keeps fromIsoFormat registry transition withRegistry shown clock
    simp only [isConsumed, List.contains_eq_mem, decide_eq_true_eq] at spent ⊢
    exact kept spent

/-- What approves a transition was not spent before, and is spent afterwards. -/
theorem spent_of_authorizedBy {op : ApprovalOp}
    (authorized : AuthorizedBy fromIsoFormat registry approvalId op) :
    registry.isConsumed approvalId = false ∧
      ((machine fromIsoFormat isoFormat).next registry op).isConsumed approvalId = true := by
  cases op with
  | issue id fromMode toMode intent now ttlSeconds issuedBy => exact authorized.elim
  | execute transition withRegistry shown clock =>
    obtain ⟨live, named, approved⟩ := authorized
    obtain ⟨id, now, ticket, valid, ran⟩ | ⟨_, approval, refused, ran⟩ :=
      approve_cases fromIsoFormat registry live withRegistry shown clock
    · have same : id = approvalId := Option.some.inj (valid.id.symm.trans named)
      subst same
      refine ⟨valid.valid.unspent, ?_⟩
      simp [Machine.next, machine, ran, isConsumed]
    · rw [ran] at approved
      exact absurd approved refused

/-- A ticket that is found after an operation was found before, unless it was just issued. -/
theorem find?_next {op : ApprovalOp}
    (found : ((machine fromIsoFormat isoFormat).next registry op).issued.find? approvalId =
      some ticket) :
    registry.issued.find? approvalId = some ticket ∨
      ∃ ttlSeconds, op = .issue approvalId ticket.fromMode ticket.toMode ticket.intent
          ticket.issuedAt ttlSeconds ticket.issuedBy ∧
        (machine fromIsoFormat isoFormat).answer registry op = .issued (.ok ticket) := by
  cases op with
  | issue id fromMode toMode intent now ttlSeconds issuedBy =>
    obtain ⟨expiresAt, ran⟩ | ⟨raised, ran⟩ := issue_cases fromIsoFormat isoFormat registry id
      fromMode toMode intent now ttlSeconds issuedBy
    · simp only [Machine.next, machine, ran, Table.find?_assign] at found
      split at found
      · rename_i same
        cases found
        subst same
        exact .inr ⟨ttlSeconds, rfl, by simp [Machine.answer, machine, ran]⟩
      · exact .inl found
    · simp only [Machine.next, machine, ran] at found
      exact .inl found
  | execute transition withRegistry shown clock =>
    obtain ⟨same, _⟩ := approve_keeps fromIsoFormat registry transition withRegistry shown clock
    simp only [Machine.next, machine, same] at found
    exact .inl found

/-- A ticket of the registry was issued in the run. -/
theorem issued_of_find? (ops : List ApprovalOp)
    (found : ((machine fromIsoFormat isoFormat).run fresh ops).issued.find? approvalId =
      some ticket) :
    ∃ ttlSeconds, (ApprovalOp.issue approvalId ticket.fromMode ticket.toMode ticket.intent
      ticket.issuedAt ttlSeconds ticket.issuedBy, ApprovalAnswer.issued (.ok ticket)) ∈
        (machine fromIsoFormat isoFormat).answers fresh ops := by
  -- The last operation either issued the ticket or left it as it was.
  induction ops using List.reverseRecOn with
  | nil => simp [fresh] at found
  | append_singleton before op ih =>
    rw [Machine.run_append, Machine.run_cons, Machine.run_nil] at found
    rw [Machine.answers_append, Machine.answers_cons, Machine.answers_nil]
    obtain earlier | ⟨ttlSeconds, asked, told⟩ := find?_next fromIsoFormat isoFormat found
    · obtain ⟨ttlSeconds, told⟩ := ih earlier
      exact ⟨ttlSeconds, List.mem_append_left _ told⟩
    · refine ⟨ttlSeconds, List.mem_append_right _ (List.mem_singleton.mpr ?_)⟩
      rw [← asked, ← told]

/-- A ticket that is spent at some point of a run is spent for the rest of it. -/
theorem run_consumed (spent : registry.isConsumed approvalId = true) (ops : List ApprovalOp) :
    ((machine fromIsoFormat isoFormat).run registry ops).isConsumed approvalId = true := by
  induction ops generalizing registry with
  | nil => exact spent
  | cons op rest ih => exact ih (next_consumed fromIsoFormat isoFormat spent op)

/-- A move to live trading spends a ticket that was issued for it, and leaves demo trading. -/
structure Earned (before : List ApprovalOp) (transition : ModeTransition) (withRegistry : Bool)
    (shown : Option String) (clock : Answer String) (ticket : TransitionApproval) : Prop where
  named : shown = some ticket.approvalId
  issued : ∃ issuedAt ttlSeconds issuedBy,
    (ApprovalOp.issue ticket.approvalId .demo .live liveTransitionIntent issuedAt ttlSeconds
      issuedBy, ApprovalAnswer.issued (.ok ticket)) ∈
        (machine fromIsoFormat isoFormat).answers fresh before
  unexpired : ∃ now, clock = .ok now ∧ Unexpired fromIsoFormat now ticket.expiresAt
  unspent : ((machine fromIsoFormat isoFormat).run fresh before).isConsumed ticket.approvalId =
    false
  spent : ((machine fromIsoFormat isoFormat).run fresh
    (before ++ [.execute transition withRegistry shown clock])).isConsumed ticket.approvalId = true
  source : transition.calls.sourceMode = .ok .demo

/-- Every ticket is spent at most once, and only on a move from demo to live trading. -/
structure SpentAsNamed (ops : List ApprovalOp) : Prop where
  once : ∀ first a middle b last approvalId, ops = first ++ a :: (middle ++ b :: last) →
    AuthorizedBy fromIsoFormat ((machine fromIsoFormat isoFormat).run fresh first) approvalId a →
    ¬AuthorizedBy fromIsoFormat
      ((machine fromIsoFormat isoFormat).run fresh (first ++ a :: middle)) approvalId b
  earned : ∀ before transition withRegistry shown clock after approval result,
    ops = before ++ .execute transition withRegistry shown clock :: after →
    (machine fromIsoFormat isoFormat).answer ((machine fromIsoFormat isoFormat).run fresh before)
      (.execute transition withRegistry shown clock) = .executed approval result →
    transition.target = .live → result.outcome = .complete →
    ∃ ticket, Earned fromIsoFormat isoFormat before transition withRegistry shown clock ticket

/-- A move to live trading for which there is a ticket, and in which all checks succeed, leaves
demo trading. -/
def LeavesDemo (registry : ApprovalRegistry) : ApprovalOp → Prop
  | .issue .. => True
  | .execute transition withRegistry shown clock =>
    transition.target = .live →
      (∃ approvalId now ticket,
        Shown fromIsoFormat registry withRegistry shown clock approvalId now ticket) →
      transition.calls.sourceMode = .ok transition.start.effectiveMode →
      transition.calls.positionsSafe = .ok true → transition.TargetVerified →
      transition.start.effectiveMode = .demo

/-- A transition answers how it was approved, and what came of it. -/
theorem answer_execute (registry : ApprovalRegistry) (transition : ModeTransition)
    (withRegistry : Bool) (shown : Option String) (clock : Answer String) :
    (machine fromIsoFormat isoFormat).answer registry
        (.execute transition withRegistry shown clock) =
      .executed (approve fromIsoFormat registry transition withRegistry shown clock).1
        (transition.execute
          (approve fromIsoFormat registry transition withRegistry shown clock).1).1 := rfl

/-- No ticket approves two transitions of a run. -/
theorem authorized_once (registry : ApprovalRegistry) (a b : ApprovalOp) (middle : List ApprovalOp)
    (first : AuthorizedBy fromIsoFormat registry approvalId a) :
    ¬AuthorizedBy fromIsoFormat
      ((machine fromIsoFormat isoFormat).run registry (a :: middle)) approvalId b := by
  intro second
  -- The first of them spent the ticket, and the second one would need it unspent.
  obtain ⟨_, spent⟩ := spent_of_authorizedBy fromIsoFormat isoFormat first
  obtain ⟨unspent, _⟩ := spent_of_authorizedBy fromIsoFormat isoFormat second
  rw [Machine.run_cons, run_consumed fromIsoFormat isoFormat spent middle] at unspent
  cases unspent

/-- A ticket that is shown for a transition of a run was issued in it, and is spent by it. -/
theorem earned_of_shown {before : List ApprovalOp}
    {withRegistry : Bool} {shown : Option String} {clock : Answer String}
    {approvalId now : String}
    (live : transition.target = .live)
    (valid : Shown fromIsoFormat ((machine fromIsoFormat isoFormat).run fresh before) withRegistry
      shown clock approvalId now ticket)
    (approved : (approve fromIsoFormat ((machine fromIsoFormat isoFormat).run fresh before)
      transition withRegistry shown clock).1 = .ok true)
    (source : transition.calls.sourceMode = .ok .demo) :
    Earned fromIsoFormat isoFormat before transition withRegistry shown clock ticket := by
  have keyed : ticket.approvalId = approvalId := Table.key_of_find? valid.valid.issued
  subst keyed
  obtain ⟨ttlSeconds, told⟩ := issued_of_find? fromIsoFormat isoFormat before valid.valid.issued
  rw [valid.valid.source, valid.valid.target, valid.valid.intended] at told
  have authorized : AuthorizedBy fromIsoFormat
      ((machine fromIsoFormat isoFormat).run fresh before) ticket.approvalId
      (.execute transition withRegistry shown clock) := ⟨live, valid.id, approved⟩
  have spent := (spent_of_authorizedBy fromIsoFormat isoFormat authorized).2
  refine ⟨valid.id, ⟨_, ttlSeconds, _, told⟩, ⟨now, valid.timed, valid.valid.unexpired⟩,
    valid.valid.unspent, ?_, source⟩
  rw [Machine.run_append]
  exact spent

/-- Tickets are spent as named in exactly the runs whose moves to live trading leave demo trading.
-/
theorem spentAsNamed_iff (ops : List ApprovalOp) :
    SpentAsNamed fromIsoFormat isoFormat ops ↔
      (machine fromIsoFormat isoFormat).Guarded (LeavesDemo fromIsoFormat) fresh ops := by
  rw [Machine.guarded_iff_split]
  constructor
  · intro sound before op after split
    cases op with
    | issue approvalId fromMode toMode intent now ttlSeconds issuedBy => trivial
    | execute transition withRegistry shown clock =>
      intro live valid source positions target
      obtain ⟨approvalId, now, ticket, valid⟩ := valid
      obtain ⟨_, _, _, _, ran⟩ | ⟨invalid, _⟩ := approve_cases fromIsoFormat
        ((machine fromIsoFormat isoFormat).run fresh before) live withRegistry shown clock
      · -- The transition is completed, so what was verified is that it left demo trading.
        have verified : transition.AllVerified (.ok true) :=
          ⟨⟨fun _ => rfl, source, positions⟩, target⟩
        obtain ⟨ticket, earned⟩ := sound.earned before transition withRegistry shown clock after
          (.ok true) (transition.execute (.ok true)).1 split
          (by rw [answer_execute, ran]) live
          ((transition.outcome_eq_complete_iff _).mpr verified)
        have same := earned.source
        rw [source] at same
        exact Except.ok.inj same
      · exact absurd valid (invalid approvalId now ticket)
  · intro guarded
    refine ⟨?_, ?_⟩
    · intro first a middle b last approvalId _ authorized
      rw [Machine.run_append]
      exact authorized_once fromIsoFormat isoFormat _ a b middle authorized
    · intro before transition withRegistry shown clock after approval result split told live finished
      obtain ⟨approvalId, now, ticket, valid, ran⟩ | ⟨_, refusal, refused, ran⟩ :=
        approve_cases fromIsoFormat ((machine fromIsoFormat isoFormat).run fresh before) live
          withRegistry shown clock
      · rw [answer_execute, ran, ApprovalAnswer.executed.injEq] at told
        obtain ⟨rfl, rfl⟩ := told
        obtain ⟨source, target⟩ := (transition.outcome_eq_complete_iff _).mp finished
        have demo := guarded before _ after split live ⟨approvalId, now, ticket, valid⟩
          source.source source.positions target
        refine ⟨ticket, earned_of_shown fromIsoFormat isoFormat live valid (by rw [ran]) ?_⟩
        rw [source.source, demo]
      · -- Without an approval no move to live trading is completed.
        rw [answer_execute, ran, ApprovalAnswer.executed.injEq] at told
        obtain ⟨rfl, rfl⟩ := told
        obtain ⟨source, _⟩ := (transition.outcome_eq_complete_iff _).mp finished
        exact absurd (source.approved live) refused

/-- Some times as texts, with the seconds since 1970. -/
def sampleTimes : List (String × Int) :=
  [("2026-09-06T00:00:00+00:00", 1788652800), ("2026-09-06T00:05:00+00:00", 1788653100),
    ("2026-09-06T00:30:00+00:00", 1788654600)]

/-- How these texts are read. -/
def readSample (ts : String) : Except String IsoDatetime :=
  match sampleTimes.find? fun known => known.1 = ts with
  | none => .error "Invalid isoformat string"
  | some known => .ok ⟨known.2 * 1000000, some 0⟩

/-- How they are written. -/
def writeSample (d : IsoDatetime) : String :=
  match sampleTimes.find? fun known => known.2 * 1000000 = d.local_ with
  | none => ""
  | some known => known.1

/-- A transition to live trading from live trading, in which all checks succeed. -/
def fromLive : ModeTransition :=
  ⟨⟨.live, .live, .running, "live", none, .idle, false, .ok, none, none⟩, .live,
    ⟨.ok .live, .ok true, .ok (), fun _ => .ok true, .ok (), .ok .live,
      .ok "2026-09-06T00:05:00Z"⟩⟩

/-- The issue of a ticket, and a transition that shows it within its half hour. -/
def spentFromLive : List ApprovalOp :=
  [.issue "approval:1" .demo .live liveTransitionIntent "2026-09-06T00:00:00Z" 1800 "owner",
    .execute fromLive true (some "approval:1") (.ok "2026-09-06T00:05:00Z")]

/-- A ticket for a move from demo to live trading is spent on one that never left live trading. -/
theorem spentFromLive_not_asNamed : ¬SpentAsNamed readSample writeSample spentFromLive := by
  intro sound
  obtain ⟨ticket, earned⟩ := sound.earned (spentFromLive.take 1) fromLive true (some "approval:1")
    (.ok "2026-09-06T00:05:00Z") [] (.ok true) (fromLive.execute (.ok true)).1 rfl
    (by
      have approved : (approve readSample
          ((machine readSample writeSample).run fresh (spentFromLive.take 1)) fromLive true
          (some "approval:1") (.ok "2026-09-06T00:05:00Z")).1 = .ok true := by
        decide +kernel
      rw [answer_execute, approved])
    rfl (by decide +kernel)
  have source := earned.source
  cases source

end StrategyLab.ApprovalRegistry
