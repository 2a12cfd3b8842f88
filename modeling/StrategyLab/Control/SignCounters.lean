import StrategyLab.Control.Passkeys
import Mathlib.Data.List.Induction
import Mathlib.Logic.Function.Basic

/-! Counters of passkeys under concurrent acceptances: when a used counter is never taken again. -/

namespace StrategyLab

/-- An assertion whose counter was checked, and is going to be stored. -/
structure PendingAcceptance where
  credentialId : Bytes
  actor : String
  counter : Nat
  deriving DecidableEq

/-- The passkeys, and the acceptances that are under way on connections of their own. -/
structure SharedPasskeys where
  passkeys : AdminPasskeys
  clients : Nat → Option PendingAcceptance

/-- A step of an acceptance: it reads the stored counter, or writes its own. -/
inductive CounterOp where
  | read (client : Nat) (actor : String) (verified : VerifiedAuthentication)
      (expectedCredentialId : Bytes)
  | write (client : Nat) (now : String)

/-- What comes of a step. -/
inductive CounterAnswer where
  | refused (raised : PasskeyError)
  | checked
  | accepted (acceptance : PendingAcceptance)
  | idle
  deriving DecidableEq

namespace SharedPasskeys

/-- No acceptance is under way. -/
def initial (passkeys : AdminPasskeys) : SharedPasskeys := ⟨passkeys, fun _ => none⟩

/-- Let a connection go on with an acceptance, or without one. -/
def setClient (state : SharedPasskeys) (client : Nat) (pending : Option PendingAcceptance) :
    SharedPasskeys :=
  { state with clients := Function.update state.clients client pending }

/-- The counter that is stored with a passkey, whoever it is registered for. -/
def stored (state : SharedPasskeys) (credentialId : Bytes) : Nat :=
  ((state.passkeys.find? credentialId).map (·.signCount)).getD 0

/-- Read the stored counter, and check the assertion against it. -/
def readCounter (state : SharedPasskeys) (actor : String) (verified : VerifiedAuthentication)
    (expectedCredentialId : Bytes) : Except PasskeyError PendingAcceptance := do
  checkAssertion verified expectedCredentialId
  checkCounter (state.passkeys.signCount expectedCredentialId actor) verified.newSignCount
  return ⟨expectedCredentialId, actor, verified.newSignCount⟩

/-- Carry out a step. A connection that reads again has given up its earlier acceptance. -/
def step (state : SharedPasskeys) : CounterOp → CounterAnswer × SharedPasskeys
  | .read client actor verified expectedCredentialId =>
    match state.readCounter actor verified expectedCredentialId with
    | .error raised => (.refused raised, state.setClient client none)
    | .ok pending => (.checked, state.setClient client (some pending))
  | .write client now =>
    match state.clients client with
    | none => (.idle, state)
    | some pending =>
      let passkeys := state.passkeys.setSignCount pending.credentialId pending.actor
        pending.counter now
      (.accepted pending, { state with passkeys }.setClient client none)

end SharedPasskeys

/-- Acceptances on any number of connections. -/
def counterMachine : Machine SharedPasskeys CounterOp CounterAnswer := ⟨SharedPasskeys.step⟩

variable {before : List CounterOp}

namespace SharedPasskeys

variable {state : SharedPasskeys} {credentialId : Bytes}

variable {actor : String}

/-- The counter of a passkey that is registered for someone is the one stored with it. -/
theorem signCount_eq_some {count : Nat} :
    state.passkeys.signCount credentialId actor = some count ↔
      ∃ row, state.passkeys.find? credentialId = some row ∧ row.actor = actor ∧
        row.signCount = count := by
  unfold AdminPasskeys.signCount
  cases state.passkeys.find? credentialId with
  | none => simp
  | some row => simp [Option.filter]

/-- A passkey is registered for an administrator. -/
def Registered (state : SharedPasskeys) (credentialId : Bytes) (actor : String) : Prop :=
  ∃ row, state.passkeys.find? credentialId = some row ∧ row.actor = actor

variable {pending : PendingAcceptance}

/-- A counter passes its checks exactly if it is for a registered passkey, and zero or above the
stored one unless that is zero. -/
theorem readCounter_eq_ok {verified : VerifiedAuthentication} {expectedCredentialId : Bytes}
    (checked : state.readCounter actor verified expectedCredentialId = .ok pending) :
    state.Registered pending.credentialId pending.actor ∧
      (state.stored pending.credentialId = 0 ∨ pending.counter = 0 ∨
        state.stored pending.credentialId < pending.counter) := by
  simp only [readCounter, Raise.bind_eq_ok, Raise.pure_eq_ok] at checked
  obtain ⟨_, _, _, counted, rfl⟩ := checked
  unfold checkCounter at counted
  split at counted
  · cases counted
  · rename_i previous found
    obtain ⟨row, located, owned, rfl⟩ := signCount_eq_some.mp found
    refine ⟨⟨row, located, owned⟩, ?_⟩
    simp only [Raise.ensure_eq_ok] at counted
    have known : state.stored expectedCredentialId = row.signCount := by
      simp [stored, located]
    rw [known]
    change row.signCount = 0 ∨ verified.newSignCount = 0 ∨ row.signCount < verified.newSignCount
    by_contra neither
    simp only [not_or, not_lt] at neither
    obtain ⟨used, shown, behind⟩ := neither
    simp [used, shown, behind] at counted

/-- A row with a counter is registered under the same id and for the same administrator. -/
theorem find?_setSignCount (passkeys : AdminPasskeys) (credentialId : Bytes) (actor : String)
    (current : Nat) (now : String) (other : Bytes) :
    (passkeys.setSignCount credentialId actor current now).find? other =
      (passkeys.find? other).map fun row =>
        if row.credentialId = credentialId ∧ row.actor = actor
        then { row with signCount := current, lastUsedAt := some now } else row := by
  simp [AdminPasskeys.setSignCount]

/-- A step changes no registration. -/
theorem registered_next (registered : state.Registered credentialId actor) (op : CounterOp) :
    (counterMachine.next state op).Registered credentialId actor := by
  cases op with
  | read client asking verified expectedCredentialId =>
    simp only [Machine.next, counterMachine, step]
    split <;> exact registered
  | write client now =>
    simp only [Machine.next, counterMachine, step]
    split
    · exact registered
    · -- The update keeps the id and the administrator of every row.
      obtain ⟨row, found, owned⟩ := registered
      simp only [Registered, setClient, find?_setSignCount, found, Option.map_some]
      split
      · exact ⟨_, rfl, owned⟩
      · exact ⟨_, rfl, owned⟩

variable {op : CounterOp}

/-- Only a write changes a stored counter, and it stores what was accepted. -/
theorem stored_next (registered : ∀ client pending, state.clients client = some pending →
      state.Registered pending.credentialId pending.actor) (credentialId : Bytes) :
    (∀ acceptance, counterMachine.answer state op = .accepted acceptance →
      acceptance.credentialId ≠ credentialId) ∧
        (counterMachine.next state op).stored credentialId = state.stored credentialId ∨
    ∃ acceptance, counterMachine.answer state op = .accepted acceptance ∧
      acceptance.credentialId = credentialId ∧
        (counterMachine.next state op).stored credentialId = acceptance.counter := by
  cases op with
  | read client asking verified expectedCredentialId =>
    simp only [Machine.next, Machine.answer, counterMachine, step]
    split <;> exact .inl ⟨by simp, rfl⟩
  | write client now =>
    simp only [Machine.next, Machine.answer, counterMachine, step]
    split
    · exact .inl ⟨by simp, rfl⟩
    · rename_i pending underway
      obtain ⟨row, found, owned⟩ := registered client pending underway
      by_cases own : pending.credentialId = credentialId
      · -- The row of the passkey is there, so the update reaches it.
        subst own
        have key := Table.key_of_find? found
        exact .inr ⟨pending, rfl, rfl, by simp [stored, setClient, find?_setSignCount, found, key,
          owned]⟩
      · refine .inl ⟨fun acceptance same => ?_, ?_⟩
        · cases same
          exact own
        · simp only [stored, setClient, find?_setSignCount]
          cases located : state.passkeys.find? credentialId with
          | none => rfl
          | some other =>
            have key := Table.key_of_find? located
            have differs : other.credentialId ≠ pending.credentialId := fun same =>
              own (same.symm.trans key)
            simp [differs]

/-- Every acceptance that is under way is for a registered passkey. -/
def PendingRegistered (state : SharedPasskeys) : Prop :=
  ∀ client pending, state.clients client = some pending →
    state.Registered pending.credentialId pending.actor

/-- A connection that a step leaves pending had it pending before, or has just checked it. -/
theorem clients_next {client : Nat}
    (underway : (counterMachine.next state op).clients client = some pending) :
    state.clients client = some pending ∨
      ∃ actor verified expectedCredentialId,
        op = .read client actor verified expectedCredentialId ∧
          state.readCounter actor verified expectedCredentialId = .ok pending := by
  cases op with
  | read reader asking verified expectedCredentialId =>
    simp only [Machine.next, counterMachine, step] at underway
    by_cases own : client = reader
    · subst own
      split at underway
      · simp [setClient] at underway
      · rename_i checked read
        simp only [setClient, Function.update_self, Option.some.injEq] at underway
        subst underway
        exact .inr ⟨asking, verified, expectedCredentialId, rfl, read⟩
    · split at underway <;>
      · simp only [setClient, Function.update_of_ne own] at underway
        exact .inl underway
  | write writer now =>
    simp only [Machine.next, counterMachine, step] at underway
    split at underway
    · exact .inl underway
    · by_cases own : client = writer
      · subst own
        simp [setClient] at underway
      · simp only [setClient, Function.update_of_ne own] at underway
        exact .inl underway

/-- Acceptances under way stay registered. -/
theorem pendingRegistered_next (registered : state.PendingRegistered)
    (op : CounterOp) : (counterMachine.next state op).PendingRegistered := by
  intro client pending underway
  obtain before | ⟨actor, verified, expectedCredentialId, _, read⟩ := clients_next underway
  · exact registered_next (registered client pending before) op
  · exact registered_next (readCounter_eq_ok read).1 op

/-- In every run acceptances under way are for registered passkeys. -/
theorem pendingRegistered_run (passkeys : AdminPasskeys) (ops : List CounterOp) :
    (counterMachine.run (initial passkeys) ops).PendingRegistered := by
  refine @Machine.invariant _ _ _ counterMachine PendingRegistered
    (fun _ op registered => pendingRegistered_next registered op) _ ops ?_
  intro client pending underway
  cases underway

/-- A counter was accepted for a passkey in a run. -/
def AcceptedIn (start : SharedPasskeys) (ops : List CounterOp) (credentialId : Bytes)
    (counter : Nat) : Prop :=
  ∃ op acceptance, (op, .accepted acceptance) ∈ counterMachine.answers start ops ∧
    acceptance.credentialId = credentialId ∧ acceptance.counter = counter

/-- What was accepted in a run was accepted before its last step or in it. -/
theorem acceptedIn_append {start : SharedPasskeys} {counter : Nat} :
    AcceptedIn start (before ++ [op]) credentialId counter ↔
      AcceptedIn start before credentialId counter ∨
        ∃ acceptance,
          counterMachine.answer (counterMachine.run start before) op = .accepted acceptance ∧
            acceptance.credentialId = credentialId ∧ acceptance.counter = counter := by
  simp only [AcceptedIn, Machine.answers_append, Machine.answers_cons, Machine.answers_nil,
    List.mem_append, List.mem_singleton, Prod.mk.injEq]
  constructor
  · intro accepted
    obtain ⟨other, acceptance, earlier | ⟨rfl, told⟩, own, counted⟩ := accepted
    · exact .inl ⟨other, acceptance, earlier, own, counted⟩
    · exact .inr ⟨acceptance, told.symm, own, counted⟩
  · intro accepted
    obtain ⟨other, acceptance, earlier, own, counted⟩ | ⟨acceptance, told, own, counted⟩ := accepted
    · exact ⟨other, acceptance, .inl earlier, own, counted⟩
    · exact ⟨op, acceptance, .inr ⟨rfl, told.symm⟩, own, counted⟩

/-- A stored counter is the one at the start, or one that was accepted since. -/
structure CountersKept (start : SharedPasskeys) (before : List CounterOp) : Prop where
  unchanged : ∀ credentialId,
    (∀ counter, ¬AcceptedIn start before credentialId counter) →
      (counterMachine.run start before).stored credentialId = start.stored credentialId
  accepted : ∀ credentialId counter, AcceptedIn start before credentialId counter →
    AcceptedIn start before credentialId ((counterMachine.run start before).stored credentialId)
  pending : ∀ client pending, (counterMachine.run start before).clients client = some pending →
    (∃ counter, AcceptedIn start before pending.credentialId counter) ∨
      start.stored pending.credentialId = 0 ∨ pending.counter = 0 ∨
        start.stored pending.credentialId < pending.counter

/-- In every run a stored counter is accounted for. -/
theorem countersKept (passkeys : AdminPasskeys) (before : List CounterOp) :
    CountersKept (initial passkeys) before := by
  induction before using List.reverseRecOn with
  | nil =>
    refine ⟨fun _ _ => rfl, fun _ _ accepted => ?_, fun _ _ underway => ?_⟩
    · obtain ⟨_, _, told, _⟩ := accepted
      cases told
    · cases underway
  | append_singleton before op ih =>
    have registered := pendingRegistered_run passkeys before
    -- What is pending after the step was pending before it, or was checked against the counter.
    have waiting : ∀ client pending,
        (counterMachine.run (initial passkeys) (before ++ [op])).clients client = some pending →
          (∃ counter, AcceptedIn (initial passkeys) before pending.credentialId counter) ∨
            (initial passkeys).stored pending.credentialId = 0 ∨ pending.counter = 0 ∨
              (initial passkeys).stored pending.credentialId < pending.counter := by
      intro client pending underway
      rw [Machine.run_append] at underway
      obtain earlier | ⟨actor, verified, expectedCredentialId, _, read⟩ := clients_next underway
      · exact ih.pending client pending earlier
      · by_cases some_ : ∃ counter,
            AcceptedIn (initial passkeys) before pending.credentialId counter
        · exact .inl some_
        · rw [not_exists] at some_
          rw [← ih.unchanged pending.credentialId some_]
          exact .inr (readCounter_eq_ok read).2
    have moved : ∀ credentialId, (counterMachine.run (initial passkeys) (before ++ [op])).stored
        credentialId = (counterMachine.next (counterMachine.run (initial passkeys) before)
          op).stored credentialId := by
      intro credentialId
      rw [Machine.run_append]
      rfl
    refine ⟨fun credentialId unaccepted => ?_, fun credentialId counter accepted => ?_,
      fun client pending underway => ?_⟩
    · simp only [acceptedIn_append, not_or] at unaccepted
      rw [moved]
      obtain ⟨_, kept⟩ | ⟨acceptance, told, own, _⟩ := stored_next registered credentialId
      · rw [kept]
        exact ih.unchanged credentialId fun counter => (unaccepted counter).1
      · exact absurd ⟨acceptance, told, own, rfl⟩ (unaccepted acceptance.counter).2
    · rw [moved, acceptedIn_append]
      rw [acceptedIn_append] at accepted
      obtain ⟨others, kept⟩ | ⟨acceptance, told, own, counted⟩ := stored_next registered
        credentialId
      · rw [kept]
        obtain earlier | ⟨acceptance, told, own, _⟩ := accepted
        · exact .inl (ih.accepted credentialId counter earlier)
        · exact absurd own (others acceptance told)
      · exact .inr ⟨acceptance, told, own, counted.symm⟩
    · obtain ⟨counter, earlier⟩ | checked := waiting client pending underway
      · exact .inl ⟨counter, acceptedIn_append.mpr (.inl earlier)⟩
      · exact .inr checked

end SharedPasskeys

/-- What counters have to guarantee: a stored one never falls, and what was accepted once is not
accepted again, nor is any smaller counter. -/
structure DetectsClones (passkeys : AdminPasskeys) (ops : List CounterOp) : Prop where
  rising : ∀ before middle after, ops = before ++ middle ++ after → ∀ credentialId,
    (counterMachine.run (.initial passkeys) before).stored credentialId ≤
      (counterMachine.run (.initial passkeys) (before ++ middle)).stored credentialId
  fresh : ∀ first a middle b last earlier later, ops = first ++ a :: (middle ++ b :: last) →
    counterMachine.answer (counterMachine.run (.initial passkeys) first) a = .accepted earlier →
    counterMachine.answer (counterMachine.run (.initial passkeys) (first ++ a :: middle)) b =
      .accepted later →
    later.credentialId = earlier.credentialId → earlier.counter ≠ 0 →
      earlier.counter < later.counter

/-- A write that finds no counter stored, or one that is smaller than its own. -/
def WritesAbove (state : SharedPasskeys) (op : CounterOp) : Prop :=
  ∀ acceptance client now, op = .write client now → state.clients client = some acceptance →
    state.stored acceptance.credentialId = 0 ∨
      state.stored acceptance.credentialId < acceptance.counter

namespace SharedPasskeys

variable {acceptance : PendingAcceptance}

variable {op : CounterOp}

/-- Only a write accepts, and it accepts what is pending. -/
theorem answer_eq_accepted {state : SharedPasskeys}
    :
    counterMachine.answer state op = .accepted acceptance ↔
      ∃ client now, op = .write client now ∧ state.clients client = some acceptance := by
  cases op with
  | read client actor verified expectedCredentialId =>
    simp only [Machine.answer, counterMachine, step]
    split <;> simp
  | write client now =>
    simp only [Machine.answer, counterMachine, step]
    split
    · rename_i idle
      simp [idle]
    · rename_i pending underway
      simp [underway]

/-- A write above the stored counter does not let any counter fall. -/
theorem stored_le_next {passkeys : AdminPasskeys}
    (above : WritesAbove (counterMachine.run (initial passkeys) before) op)
    (credentialId : Bytes) :
    (counterMachine.run (initial passkeys) before).stored credentialId ≤
      (counterMachine.next (counterMachine.run (initial passkeys) before) op).stored
        credentialId := by
  obtain ⟨_, kept⟩ | ⟨acceptance, told, own, counted⟩ :=
    stored_next (pendingRegistered_run passkeys before) credentialId
  · rw [kept]
  · obtain ⟨client, now, written, underway⟩ := answer_eq_accepted.mp told
    have allowed := above acceptance client now written underway
    rw [own] at allowed
    omega

/-- After an acceptance its counter is stored. -/
theorem stored_of_accepted {passkeys : AdminPasskeys}
    (told : counterMachine.answer (counterMachine.run (initial passkeys) before) op =
      .accepted acceptance) :
    (counterMachine.next (counterMachine.run (initial passkeys) before) op).stored
      acceptance.credentialId = acceptance.counter := by
  obtain ⟨others, _⟩ | ⟨other, same, _, counted⟩ :=
    stored_next (pendingRegistered_run passkeys before) acceptance.credentialId
  · exact absurd rfl (others acceptance told)
  · rw [told] at same
    cases same
    exact counted

end SharedPasskeys

open SharedPasskeys

/-- Counters detect clones in exactly the runs in which every write finds no counter stored, or a
smaller one than its own. -/
theorem detectsClones_iff (passkeys : AdminPasskeys) (ops : List CounterOp) :
    DetectsClones passkeys ops ↔
      counterMachine.Guarded WritesAbove (.initial passkeys) ops := by
  rw [Machine.guarded_iff_split]
  constructor
  · intro detects before op after split acceptance client now written underway
    by_contra refused
    simp only [not_or, not_lt] at refused
    obtain ⟨used, behind⟩ := refused
    have told : counterMachine.answer (counterMachine.run (.initial passkeys) before) op =
        .accepted acceptance := answer_eq_accepted.mpr ⟨client, now, written, underway⟩
    have stored := stored_of_accepted told
    -- The counter may not fall, so the write repeats the one that is stored.
    have rising := detects.rising before [op] after (by rw [split]; simp) acceptance.credentialId
    rw [Machine.run_append] at rising
    change _ ≤ (counterMachine.next _ op).stored _ at rising
    rw [stored] at rising
    have same : (counterMachine.run (.initial passkeys) before).stored acceptance.credentialId =
        acceptance.counter := by omega
    have kept := countersKept passkeys before
    by_cases some_ : ∃ counter,
        AcceptedIn (.initial passkeys) before acceptance.credentialId counter
    · -- That counter was accepted before, and is now accepted once more.
      obtain ⟨counter, accepted⟩ := some_
      obtain ⟨a, earlier, answered, own, counted⟩ :=
        kept.accepted acceptance.credentialId counter accepted
      obtain ⟨first, middle, parts, first_told⟩ :=
        (counterMachine.mem_answers_iff _ _ _ _).mp answered
      have fresh := detects.fresh first a middle op after earlier acceptance
        (by rw [split, parts]; simp) first_told.symm (by rw [← parts]; exact told) own.symm
        (by omega)
      omega
    · -- Nothing was accepted before, so the check had found this very counter.
      obtain some' | unused := kept.pending client acceptance underway
      · exact some_ some'
      · rw [not_exists] at some_
        have start := kept.unchanged acceptance.credentialId some_
        omega
  · intro guarded
    have rising : ∀ before middle after, ops = before ++ middle ++ after → ∀ credentialId,
        (counterMachine.run (.initial passkeys) before).stored credentialId ≤
          (counterMachine.run (.initial passkeys) (before ++ middle)).stored credentialId := by
      intro before middle after split credentialId
      induction middle using List.reverseRecOn generalizing after with
      | nil => simp
      | append_singleton middle op ih =>
        have earlier := ih ([op] ++ after) (by rw [split]; simp)
        have above := guarded (before ++ middle) op after (by rw [split]; simp)
        have last := stored_le_next above credentialId
        rw [← List.append_assoc, Machine.run_append _ _ (before ++ middle)]
        exact earlier.trans last
    refine ⟨rising, fun first a middle b last earlier later split firstTold lastTold own used => ?_⟩
    -- The counter that was accepted first is stored, and none has fallen since.
    have stored := stored_of_accepted firstTold
    have kept := rising (first ++ [a]) middle (b :: last) (by rw [split]; simp)
      earlier.credentialId
    rw [Machine.run_append] at kept
    change (counterMachine.next _ a).stored _ ≤ _ at kept
    rw [stored, List.append_assoc, List.singleton_append] at kept
    obtain ⟨client, now, written, underway⟩ := answer_eq_accepted.mp lastTold
    have above := guarded (first ++ a :: middle) b last (by rw [split]; simp) later client now
      written underway
    rw [own] at above
    omega

/-- One passkey that has not been used yet. -/
def ownerPasskey : AdminPasskeys :=
  ⟨[⟨[105, 100], "owner", [112], 0, "2026-07-18T00:00:00+00:00", none⟩], by decide⟩

/-- An assertion of that passkey with a counter, accepted without interruption. -/
def acceptOwner (counter : Nat) : List CounterOp :=
  [.read 0 "owner" ⟨[105, 100], counter, true⟩ [105, 100], .write 0 "2026-07-18T00:00:01+00:00"]

/-- A zero after a used counter takes the stored counter back, and lets it be used again. -/
theorem zero_forgets_counter :
    ¬DetectsClones ownerPasskey (acceptOwner 5 ++ acceptOwner 0 ++ acceptOwner 5) := by
  intro detects
  have rising := detects.rising (acceptOwner 5) (acceptOwner 0) (acceptOwner 5) rfl [105, 100]
  revert rising
  decide

end StrategyLab
