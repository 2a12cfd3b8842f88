import StrategyLab.Lib.Lines
import StrategyLab.Research.Approval

/-! Approvals of research in every run: given before they are spent, spent once, and bound to one
payload. -/

namespace StrategyLab.Research

variable {mac : ApprovalMac}

variable {payload : ApprovalPayload} {signingSecret digest : String}

/-- Signing succeeds with any secret that is not empty. -/
theorem signApprovalToken_eq_ok :
    signApprovalToken mac payload signingSecret = .ok digest ↔
      signingSecret ≠ "" ∧
        mac.hexdigest signingSecret ("\n".intercalate payload.parts) = digest := by
  simp only [signApprovalToken, Raise.bind_eq_ok, Raise.ensure_eq_ok, Raise.pure_eq_ok]
  simp

/-- The parts of a payload make up the payload. -/
theorem ApprovalPayload.parts_inj {left right : ApprovalPayload} :
    left.parts = right.parts ↔ left = right := by
  cases left
  cases right
  simp [ApprovalPayload.parts]

/-- Any eight texts are the parts of a payload. -/
theorem exists_parts {parts : List String} (eight : parts.length = 8) :
    ∃ payload : ApprovalPayload, payload.parts = parts := by
  match parts, eight with
  | [proposalId, approvalId, actor, chatId, issuedAt, expiresAt, nonce, token], _ =>
    exact ⟨⟨proposalId, approvalId, actor, chatId, issuedAt, expiresAt, nonce, token⟩, rfl⟩

/-- Texts on lines of their own are the only ones, as many as they are, exactly if none of them has
more than one line. -/
theorem unique_lines_iff {parts : List String} (several : 2 ≤ parts.length) :
    (∀ others : List String, others.length = parts.length →
      "\n".intercalate others = "\n".intercalate parts → others = parts) ↔
      ∀ part ∈ parts, '\n' ∉ part.toList := by
  have lines : ∀ texts : List String,
      ("\n".intercalate texts).toList = ['\n'].intercalate (texts.map String.toList) := by
    intro texts
    rw [String.toList_intercalate]
    rfl
  have many : 2 ≤ (parts.map String.toList).length := by simpa using several
  have free := Lines.unique_iff_free '\n' many
  rw [List.forall_mem_map] at free
  rw [← free]
  constructor
  · intro unique others many whole
    have back : (others.map String.ofList).map String.toList = others := by
      simp [Function.comp_def]
    rw [← back, unique (others.map String.ofList) (by simpa using many) ?_]
    rw [← String.toList_inj, lines, lines, back, whole]
  · intro unique others many whole
    rw [← String.toList_inj, lines, lines] at whole
    exact List.map_injective_iff.mpr (fun _ _ same => String.toList_inj.mp same)
      (unique (others.map String.toList) (by simpa using many) whole)

/-- The digest of a payload is that of no other one exactly if none of its parts breaks the line. -/
theorem digest_unique_iff (signed : signApprovalToken mac payload signingSecret = .ok digest) :
    (∀ other secret, signApprovalToken mac other secret = .ok digest → other = payload) ↔
      ∀ part ∈ payload.parts, '\n' ∉ part.toList := by
  rw [← unique_lines_iff (by simp [ApprovalPayload.parts])]
  obtain ⟨given, rfl⟩ := signApprovalToken_eq_ok.mp signed
  constructor
  · intro unique others many whole
    obtain ⟨other, rfl⟩ := exists_parts many
    rw [unique other signingSecret (signApprovalToken_eq_ok.mpr ⟨given, by rw [whole]⟩)]
  · intro unique other secret same
    have whole := mac.collisionFree _ _ _ _ (signApprovalToken_eq_ok.mp same).2
    exact ApprovalPayload.parts_inj.mp (unique other.parts rfl whole)

/-- Payloads that differ in the token only, and have the same lines, have the same token. -/
theorem token_of_lines (payload : ApprovalPayload) {token : String}
    (same : "\n".intercalate { payload with token }.parts = "\n".intercalate payload.parts) :
    token = payload.token := by
  simp only [ApprovalPayload.parts, String.intercalate_cons_cons, String.intercalate_singleton,
    ← String.toList_inj, String.toList_append, List.append_cancel_left_eq] at same
  exact String.toList_inj.mp same

variable {creation : ApprovalCreation}

/-- A token that is right for an approval is the one it was asked for with. -/
theorem token_of_verify {base request : ApprovalRequest}
    {token signingSecret : String} (created : createApprovalRequest mac creation = .ok base)
    (kept : request.payload = base.payload) (digest : request.tokenDigest = base.tokenDigest)
    (right : verifyApprovalToken mac request token signingSecret = .ok true) :
    token = creation.token := by
  simp only [createApprovalRequest, verifyApprovalToken, Raise.bind_eq_ok, Raise.pure_eq_ok,
    signApprovalToken_eq_ok] at created right
  obtain ⟨_, ⟨_, rfl⟩, rfl⟩ := created
  obtain ⟨_, ⟨_, rfl⟩, same⟩ := right
  rw [kept, digest, decide_eq_true_eq] at same
  exact token_of_lines creation.payload (mac.collisionFree _ _ _ _ same)

/-- What an approval needs so that a use of it succeeds. -/
structure ApprovalRequest.Spendable (mac : ApprovalMac) (approval : ApprovalRequest)
    (use : ApprovalUse) : Prop where
  approved : approval.status = .approved
  unexpired : ¬approval.expiresAt < use.now
  actor : use.actor = approval.requestedActor
  chat : use.chatId = approval.requestedChatId
  token : verifyApprovalToken mac approval use.token use.signingSecret = .ok true

/-- Consuming an approval succeeds exactly if it can be spent. -/
theorem consume_eq_ok {approval consumed : ApprovalRequest} {use : ApprovalUse} :
    approval.consume mac use = .ok consumed ↔ approval.Spendable mac use ∧
      consumed = { approval with status := .consumed, consumedByRunId := some use.runId } := by
  simp only [ApprovalRequest.consume, Raise.bind_eq_ok, Raise.ensure_eq_ok, Raise.pure_eq_ok,
    exists_const, decide_eq_true_eq, Bool.and_eq_true]
  constructor
  · rintro ⟨approved, unexpired, ⟨actor, chat⟩, right, verified, rfl, rfl⟩
    exact ⟨⟨approved, unexpired, actor, chat, verified⟩, rfl⟩
  · rintro ⟨⟨approved, unexpired, actor, chat, verified⟩, rfl⟩
    exact ⟨approved, unexpired, ⟨actor, chat⟩, true, verified, rfl, rfl⟩

variable {request approved : ApprovalRequest} {decision : ApprovalDecision}

/-- An approval that is given was pending, and the decision is by its actor with its token. -/
theorem approve_eq_ok {now signingSecret : String}
    (done : request.approve mac decision now signingSecret = .ok approved) :
    approved = { request with status := .approved } ∧ request.status = .pending ∧
      decision.approved ∧ decision.actor = request.requestedActor ∧
      decision.chatId = request.requestedChatId ∧
      verifyApprovalToken mac request decision.token signingSecret = .ok true := by
  simp only [ApprovalRequest.approve, validateApproval, Raise.bind_eq_ok, Raise.ensure_eq_ok,
    Raise.pure_eq_ok, exists_const, decide_eq_true_eq, Bool.and_eq_true] at done
  obtain ⟨⟨_, ⟨actor, chat⟩, pending, _, verified, rfl, _, approved⟩, rfl⟩ := done
  exact ⟨rfl, pending, approved, actor, chat, verified⟩

/-- What happened so far, with the answers to it. -/
abbrev ApprovalHistory := List (ApprovalOp × ApprovalAnswer)

/-- The approval that a call consumed. -/
def consumedId : ApprovalOp × ApprovalAnswer → Option String
  | (_, .consumed approval) => some approval.approvalId
  | _ => none

/-- An approval was given: by the actor it was asked of, in its chat, and with its token. -/
def GivenIn (history : ApprovalHistory) (approval : ApprovalRequest) : Prop :=
  ∃ creation decision now signingSecret,
    (∃ added, (ApprovalOp.add creation, ApprovalAnswer.added added) ∈ history) ∧
    (∃ given, (ApprovalOp.approve decision now signingSecret, ApprovalAnswer.approved given) ∈
      history) ∧
    creation.approvalId = approval.approvalId ∧ decision.approvalId = approval.approvalId ∧
    decision.approved = true ∧ decision.actor = approval.requestedActor ∧
    decision.chatId = approval.requestedChatId ∧ decision.token = creation.token

/-- An approval is as it was asked for, but for what became of it. -/
def AskedIn (mac : ApprovalMac) (history : ApprovalHistory) (approval : ApprovalRequest) : Prop :=
  ∃ creation base, (ApprovalOp.add creation, ApprovalAnswer.added base) ∈ history ∧
    createApprovalRequest mac creation = .ok base ∧ approval.payload = base.payload ∧
    approval.tokenDigest = base.tokenDigest

/-- What the history and the store have in common. -/
structure Accounted (mac : ApprovalMac) (history : ApprovalHistory)
    (store : InMemoryApprovalStore) : Prop where
  asked : ∀ id approval, store.find? id = some approval → AskedIn mac history approval
  given : ∀ id approval, store.find? id = some approval → approval.status = .approved →
    GivenIn history approval
  spent : ∀ id ∈ history.filterMap consumedId,
    ∃ approval, store.find? id = some approval ∧ approval.status = .consumed
  once : (history.filterMap consumedId).Nodup

variable {approval : ApprovalRequest}

/-- What was asked for stays asked for. -/
theorem AskedIn.later {history : ApprovalHistory}
    (asked : AskedIn mac history approval) (event : ApprovalOp × ApprovalAnswer) :
    AskedIn mac (history ++ [event]) approval := by
  obtain ⟨creation, base, added, rest⟩ := asked
  exact ⟨creation, base, List.mem_append_left _ added, rest⟩

/-- What was given stays given. -/
theorem GivenIn.later {history : ApprovalHistory}
    (given : GivenIn history approval) (event : ApprovalOp × ApprovalAnswer) :
    GivenIn (history ++ [event]) approval := by
  obtain ⟨creation, decision, now, secret, ⟨added, asked⟩, ⟨done, approved⟩, rest⟩ := given
  exact ⟨creation, decision, now, secret, ⟨added, List.mem_append_left _ asked⟩,
    ⟨done, List.mem_append_left _ approved⟩, rest⟩

variable {history : ApprovalHistory} {store : InMemoryApprovalStore}

section

variable (accounted : Accounted mac history store)

include accounted

/-- A call that consumes nothing and changes nothing leaves the account as it is. -/
theorem Accounted.idle {event : ApprovalOp × ApprovalAnswer} (quiet : consumedId event = none) :
    Accounted mac (history ++ [event]) store where
  asked id approval found := (accounted.asked id approval found).later event
  given id approval found approved := (accounted.given id approval found approved).later event
  spent id member := by
    rw [List.filterMap_append, List.filterMap_cons_none quiet] at member
    exact accounted.spent id (by simpa using member)
  once := by
    rw [List.filterMap_append, List.filterMap_cons_none quiet]
    simpa using accounted.once

/-- A new approval is accounted for by the call that adds it. -/
theorem Accounted.add {base : ApprovalRequest} {added : InMemoryApprovalStore}
    (created : createApprovalRequest mac creation = .ok base)
    (inserted : store.insert? base = some added) :
    Accounted mac (history ++ [(.add creation, .added base)]) added where
  asked id approval found := by
    rw [Table.find?_insert? inserted] at found
    split at found
    · cases found
      exact ⟨creation, base, List.mem_append_right _ List.mem_cons_self, created, rfl, rfl⟩
    · exact (accounted.asked id approval found).later _
  given id approval found approved := by
    rw [Table.find?_insert? inserted] at found
    split at found
    · -- A new approval is pending.
      cases found
      simp only [createApprovalRequest, Raise.bind_eq_ok, Raise.pure_eq_ok] at created
      obtain ⟨digest, _, rfl⟩ := created
      cases approved
    · exact (accounted.given id approval found approved).later _
  spent id member := by
    rw [List.filterMap_append, List.filterMap_cons_none rfl] at member
    obtain ⟨approval, found, consumed⟩ := accounted.spent id (by simpa using member)
    exact ⟨approval, Table.find?_insert?_of_found inserted found, consumed⟩
  once := by
    rw [List.filterMap_append, List.filterMap_cons_none rfl]
    simpa using accounted.once

/-- An approval that is given is accounted for by the decision. -/
theorem Accounted.approve {now signingSecret : String}
    (found : store.find? decision.approvalId = some request)
    (done : request.approve mac decision now signingSecret = .ok approved) :
    Accounted mac (history ++ [(.approve decision now signingSecret, .approved approved)])
      (store.assign approved) := by
  obtain ⟨rfl, pending, yes, actor, chat, verified⟩ := approve_eq_ok done
  have named : request.approvalId = decision.approvalId := Table.key_of_find? found
  have asked := accounted.asked _ request found
  refine ⟨fun id approval located => ?_, fun id approval located given => ?_,
    fun id member => ?_, ?_⟩
  · rw [Table.find?_assign] at located
    split at located
    · cases located
      exact AskedIn.later asked _
    · exact (accounted.asked id approval located).later _
  · rw [Table.find?_assign] at located
    split at located
    · cases located
      obtain ⟨creation, base, added, created, same, digest⟩ := asked
      have whose : creation.approvalId = request.approvalId := by
        have token := congrArg ApprovalPayload.approvalId (congrFun same "")
        simp only [createApprovalRequest, Raise.bind_eq_ok, Raise.pure_eq_ok] at created
        obtain ⟨_, _, rfl⟩ := created
        exact token.symm
      exact ⟨creation, decision, now, signingSecret,
        ⟨base, List.mem_append_left _ added⟩,
        ⟨_, List.mem_append_right _ List.mem_cons_self⟩, whose, named.symm, yes, actor, chat,
        token_of_verify created same digest verified⟩
    · exact (accounted.given id approval located given).later _
  · rw [List.filterMap_append, List.filterMap_cons_none rfl] at member
    obtain ⟨approval, located, consumed⟩ := accounted.spent id (by simpa using member)
    refine ⟨approval, ?_, consumed⟩
    rw [Table.find?_assign, if_neg, located]
    -- What was consumed is not pending any more.
    intro same
    rw [same, show request.approvalId = decision.approvalId from named, found] at located
    cases located
    rw [pending] at consumed
    cases consumed
  · rw [List.filterMap_append, List.filterMap_cons_none rfl]
    simpa using accounted.once

/-- An approval that is consumed is accounted for by the use of it. -/
theorem Accounted.consume {use : ApprovalUse}
    {request consumed : ApprovalRequest} (found : store.find? request.approvalId = some request)
    (done : request.consume mac use = .ok consumed) :
    Accounted mac (history ++ [(.consume use, .consumed consumed)]) (store.assign consumed) := by
  obtain ⟨spendable, rfl⟩ := consume_eq_ok.mp done
  refine ⟨fun id approval located => ?_, fun id approval located given => ?_,
    fun id member => ?_, ?_⟩
  · rw [Table.find?_assign] at located
    split at located
    · cases located
      exact AskedIn.later (accounted.asked _ request found) _
    · exact (accounted.asked id approval located).later _
  · rw [Table.find?_assign] at located
    split at located
    · cases located
      cases given
    · exact (accounted.given id approval located given).later _
  · rw [List.filterMap_append, List.mem_append] at member
    rw [Table.find?_assign]
    obtain old | new := member
    · obtain ⟨approval, located, spent⟩ := accounted.spent id old
      split
      · exact ⟨_, rfl, rfl⟩
      · exact ⟨approval, located, spent⟩
    · obtain rfl := List.mem_singleton.mp new
      exact ⟨_, if_pos rfl, rfl⟩
  · rw [List.filterMap_append]
    refine List.nodup_append.mpr ⟨accounted.once, List.nodup_singleton _, ?_⟩
    -- What was consumed before is not approved now.
    intro first before second now same
    obtain rfl := List.mem_singleton.mp now
    obtain ⟨approval, located, spent⟩ := accounted.spent first before
    rw [same] at located
    cases found.symm.trans located
    rw [spendable.approved] at spent
    cases spent

end

end StrategyLab.Research
