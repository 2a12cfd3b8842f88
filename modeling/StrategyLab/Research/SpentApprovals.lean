import StrategyLab.Research.ApprovalLaws

/-! Which runs bind every approval to its payload, and let every approval that is given be spent. -/

namespace StrategyLab.Research

variable {mac : ApprovalMac}

/-- An approval of a proposal that a use of it can spend is in the store. -/
def Available (mac : ApprovalMac) (store : InMemoryApprovalStore) (use : ApprovalUse) : Prop :=
  ∃ approval ∈ store.rows, approval.proposalId = use.proposalId ∧ approval.Spendable mac use

/-- Approvals are given before they are spent, spent once, and spent if they can be; and their
digests are good for nothing else. -/
structure BoundAndSpentOnce (mac : ApprovalMac) (ops : List ApprovalOp) : Prop where
  given : ∀ before use after approval, ops = before ++ .consume use :: after →
    (InMemoryApprovalStore.machine mac).answer
      ((InMemoryApprovalStore.machine mac).run Table.empty before) (.consume use) =
        .consumed approval →
    GivenIn ((InMemoryApprovalStore.machine mac).answers Table.empty before) approval
  once : (((InMemoryApprovalStore.machine mac).answers Table.empty ops).filterMap
    consumedId).Nodup
  spent : ∀ before use after, ops = before ++ .consume use :: after →
    Available mac ((InMemoryApprovalStore.machine mac).run Table.empty before) use →
    ∃ approval, (InMemoryApprovalStore.machine mac).answer
      ((InMemoryApprovalStore.machine mac).run Table.empty before) (.consume use) =
        .consumed approval
  bound : ∀ creation digest, .add creation ∈ ops →
    signApprovalToken mac creation.payload creation.signingSecret = .ok digest →
    ∀ payload signingSecret, signApprovalToken mac payload signingSecret = .ok digest →
      payload = creation.payload

/-- What is asked in a state is clear: no part of a payload breaks the line, and if any approval of
a proposal can be spent then the first one can. -/
def Clear (mac : ApprovalMac) (store : InMemoryApprovalStore) : ApprovalOp → Prop
  | .add creation => creation.signingSecret ≠ "" →
      ∀ part ∈ creation.payload.parts, '\n' ∉ part.toList
  | .approve _ _ _ => True
  | .consume use => Available mac store use →
      ∀ first, store.first? use.proposalId = some first → first.Spendable mac use

variable {store : InMemoryApprovalStore}

/-- The first approval of a proposal is stored under its id. -/
theorem find?_of_first? {proposalId : String}
    {first : ApprovalRequest} (found : store.first? proposalId = some first) :
    store.find? first.approvalId = some first :=
  Table.find?_eq_some_iff.mpr ⟨List.mem_of_find?_eq_some found, rfl⟩

variable {history : ApprovalHistory}

/-- Every call is accounted for by its answer. -/
theorem accounted_step (op : ApprovalOp) (accounted : Accounted mac history store) :
    Accounted mac (history ++ [(op, (InMemoryApprovalStore.machine mac).answer store op)])
      ((InMemoryApprovalStore.machine mac).next store op) := by
  cases op with
  | add creation =>
    simp only [Machine.answer, Machine.next, InMemoryApprovalStore.machine]
    split
    · rename_i approval added done
      simp only [Raise.bind_eq_ok, Raise.pure_eq_ok] at done
      obtain ⟨base, created, store', grown, same⟩ := done
      cases same
      unfold InMemoryApprovalStore.add at grown
      split at grown
      · cases grown
      · rename_i inserted
        cases grown
        exact accounted.add created inserted
    · exact accounted.idle rfl
  | approve decision now signingSecret =>
    simp only [Machine.answer, Machine.next, InMemoryApprovalStore.machine]
    split
    · rename_i approval changed done
      unfold InMemoryApprovalStore.approve at done
      split at done
      · cases done
      · rename_i request found
        simp only [Raise.bind_eq_ok, Raise.pure_eq_ok] at done
        obtain ⟨approved, given, same⟩ := done
        cases same
        exact accounted.approve found given
    · exact accounted.idle rfl
  | consume use =>
    simp only [Machine.answer, Machine.next, InMemoryApprovalStore.machine]
    split
    · rename_i approval changed done
      unfold InMemoryApprovalStore.consume at done
      split at done
      · cases done
      · rename_i request found
        simp only [Raise.bind_eq_ok, Raise.pure_eq_ok] at done
        obtain ⟨consumed, spent, same⟩ := done
        cases same
        exact accounted.consume (find?_of_first? found) spent
    · exact accounted.idle rfl

/-- Every run is accounted for by its answers. -/
theorem accounted_run (mac : ApprovalMac) (ops : List ApprovalOp) :
    Accounted mac ((InMemoryApprovalStore.machine mac).answers Table.empty ops)
      ((InMemoryApprovalStore.machine mac).run Table.empty ops) := by
  refine (InMemoryApprovalStore.machine mac).answers_invariant
    (fun _ _ op accounted => accounted_step op accounted) ops ?_
  exact ⟨fun _ _ found => (by cases found), fun _ _ found => (by cases found),
    fun _ member => (by cases member), List.nodup_nil⟩

/-- A use is answered with a consumed approval exactly if the first one of the proposal can be
spent. -/
theorem consume_answer_iff {use : ApprovalUse} :
    (∃ approval, (InMemoryApprovalStore.machine mac).answer store (.consume use) =
      .consumed approval) ↔
    ∃ first, store.first? use.proposalId = some first ∧ first.Spendable mac use := by
  simp only [Machine.answer, InMemoryApprovalStore.machine, InMemoryApprovalStore.consume]
  cases found : store.first? use.proposalId with
  | none => simp
  | some first =>
    simp only [Option.some.injEq, exists_eq_left']
    constructor
    · intro answered
      obtain ⟨approval, answered⟩ := answered
      split at answered
      · rename_i consumed changed done
        obtain ⟨other, spent, _⟩ := Raise.bind_eq_ok.mp done
        exact (consume_eq_ok.mp spent).1
      · cases answered
    · intro spendable
      have spent := consume_eq_ok.mpr ⟨spendable, rfl⟩
      simp [spent, bind, Except.bind, pure, Except.pure]

/-- What a use consumes was given before. -/
theorem given_of_consumed
    {use : ApprovalUse} {approval : ApprovalRequest} (accounted : Accounted mac history store)
    (answered : (InMemoryApprovalStore.machine mac).answer store (.consume use) =
      .consumed approval) : GivenIn history approval := by
  simp only [Machine.answer, InMemoryApprovalStore.machine, InMemoryApprovalStore.consume]
    at answered
  split at answered
  · rename_i consumed changed done
    cases answered
    split at done
    · cases done
    · rename_i first found
      obtain ⟨other, spent, same⟩ := Raise.bind_eq_ok.mp done
      obtain ⟨spendable, rfl⟩ := consume_eq_ok.mp spent
      cases same
      -- The consumed approval differs from the given one in what became of it only.
      exact accounted.given _ first (find?_of_first? found) spendable.approved
  · cases answered

/-- A run binds every approval, and lets every one be spent once it is given, exactly if all that is
asked in it is clear. -/
theorem boundAndSpentOnce_iff (mac : ApprovalMac) (ops : List ApprovalOp) :
    BoundAndSpentOnce mac ops ↔
      (InMemoryApprovalStore.machine mac).Guarded (Clear mac) Table.empty ops := by
  rw [Machine.guarded_iff_split]
  constructor
  · intro holds before op after split
    cases op with
    | add creation =>
      intro secret
      have signed : signApprovalToken mac creation.payload creation.signingSecret = .ok _ :=
        signApprovalToken_eq_ok.mpr ⟨secret, rfl⟩
      exact (digest_unique_iff signed).mp (holds.bound creation _ (by simp [split]) signed)
    | approve decision now signingSecret => trivial
    | consume use =>
      intro available first found
      obtain ⟨other, located, spendable⟩ :=
        consume_answer_iff.mp (holds.spent before use after split available)
      cases found.symm.trans located
      exact spendable
  · intro clear
    refine ⟨fun before use after approval split answered => ?_, (accounted_run mac ops).once,
      fun before use after split available => ?_, fun creation digest member signed => ?_⟩
    · exact given_of_consumed (accounted_run mac before) answered
    · rw [consume_answer_iff]
      obtain ⟨approval, stored, proposal, spendable⟩ := available
      -- There is a first approval of the proposal, since there is one at all.
      cases found : ((InMemoryApprovalStore.machine mac).run Table.empty before).first?
          use.proposalId with
      | none =>
        have missing := List.find?_eq_none.mp found approval stored
        simp [proposal] at missing
      | some first =>
        exact ⟨first, rfl, clear before _ after split ⟨approval, stored, proposal, spendable⟩
          first found⟩
    · obtain ⟨before, after, split⟩ := List.append_of_mem member
      exact (digest_unique_iff signed).mpr
        (clear before _ after split (signApprovalToken_eq_ok.mp signed).1)

/-- A first approval of a proposal. -/
def firstCreation : ApprovalCreation where
  approvalId := "a1"
  proposalId := "p1"
  actor := "alice"
  chatId := "chat"
  token := "t1"
  issuedAt := "2026-01-01"
  expiresAt := "2026-01-02"
  signingSecret := "secret"
  nonce := some "n1"
  tokenUrlsafe := ""

/-- A second approval of the same proposal. -/
def secondCreation : ApprovalCreation :=
  { firstCreation with approvalId := "a2", token := "t2", nonce := some "n2" }

/-- Digests that are right for the two approvals. -/
def sampleMac : ApprovalMac where
  hexdigest _ payload :=
    if payload = "p1\na1\nalice\nchat\n2026-01-01\n2026-01-02\nn1\nt1" then
      "23dfdbc242ecbbfea9394386d2a78f38ea8a03f38a25f654f98f608203a8af7a"
    else if payload = "p1\na2\nalice\nchat\n2026-01-01\n2026-01-02\nn2\nt2" then
      "692a3a74691a142f3858df59648d04b2908048166c10bfb7b584d3a8c3e33605"
    else "-" ++ payload
  collisionFree _ payload _ payload' same := by
    -- A digest that is not listed starts with a character that no listed one has.
    have apart : ∀ (text : String) (digit : Char) (digits : List Char), digit ≠ '-' →
        ¬"-" ++ text = String.ofList (digit :: digits) := by
      intro text digit digits differs same
      have heads := congrArg (fun whole => whole.toList.head?) same
      simp only [String.toList_append, String.toList_ofList, List.head?_cons] at heads
      exact differs (Option.some.inj heads).symm
    have first := fun text => apart text '2'
      "3dfdbc242ecbbfea9394386d2a78f38ea8a03f38a25f654f98f608203a8af7a".toList (by decide)
    have second := fun text => apart text '6'
      "92a3a74691a142f3858df59648d04b2908048166c10bfb7b584d3a8c3e33605".toList (by decide)
    have differ : ("23dfdbc242ecbbfea9394386d2a78f38ea8a03f38a25f654f98f608203a8af7a" : String) ≠
      "692a3a74691a142f3858df59648d04b2908048166c10bfb7b584d3a8c3e33605" := by decide +kernel
    split_ifs at same
    · subst_vars
      rfl
    · exact absurd same differ
    · exact absurd same.symm (first _)
    · exact absurd same.symm differ
    · subst_vars
      rfl
    · exact absurd same.symm (second _)
    · exact absurd same (first _)
    · exact absurd same (second _)
    · rw [← String.toList_inj, String.toList_append, String.toList_append] at same
      exact String.toList_inj.mp (List.append_cancel_left same)

/-- The second approval is given, and a run is about to use it. -/
def secondApproved : List ApprovalOp :=
  [.add firstCreation, .add secondCreation,
    .approve ⟨"a2", "p1", "alice", "chat", "t2", true⟩ "2026-01-01" "secret"]

/-- How the run uses it. -/
def secondUse : ApprovalUse := ⟨"p1", "run", "alice", "chat", "t2", "2026-01-01", "secret"⟩

/-- An approval that is given cannot be spent while an older one of its proposal is pending. -/
theorem second_not_spent :
    ¬BoundAndSpentOnce sampleMac (secondApproved ++ [.consume secondUse]) := by
  intro holds
  have refused : (InMemoryApprovalStore.machine sampleMac).answer
      ((InMemoryApprovalStore.machine sampleMac).run Table.empty secondApproved)
      (.consume secondUse) = .raised (.permissionError "approval is not approved") := by
    decide +kernel
  have held : ∃ approval ∈ ((InMemoryApprovalStore.machine sampleMac).run Table.empty
      secondApproved).rows, approval.proposalId = "p1" ∧ approval.status = .approved ∧
      ¬approval.expiresAt < "2026-01-01" ∧ "alice" = approval.requestedActor ∧
      "chat" = approval.requestedChatId ∧
      verifyApprovalToken sampleMac approval "t2" "secret" = .ok true := by
    decide +kernel
  obtain ⟨approval, stored, proposal, approved, unexpired, actor, chat, token⟩ := held
  obtain ⟨other, spent⟩ := holds.spent secondApproved secondUse [] rfl
    ⟨approval, stored, proposal, approved, unexpired, actor, chat, token⟩
  rw [refused] at spent
  cases spent

end StrategyLab.Research
