import StrategyLab.Knowledge.ResearchMission
import StrategyLab.Lib.Machine

/-! What a message says of the scope of a mission, and what becomes of the scope over messages. -/

namespace StrategyLab

/-- What is read off a message. -/
structure ScopeSignals where
  krMarketWide : Bool
  exchanges : List String
  explicitSymbols : List String
  target : Option Int
  continuation : Bool
  improveReturn : Bool
  improveSafety : Bool
  baselineComparison : Option String
  strategyFamily : Option String
  /-- The message asks for research, with a family or an objective, and is no question about it. -/
  verbAndFamily : Bool
  namesKorea : Bool

/-- A mission with what it is known by. -/
structure IdentifiedMission where
  missionId : String
  createdAt : String
  originatingRequest : String
  mission : ResearchMission

/-- A message: its text, what is read off it, when it came, and the name of a mission it makes. -/
structure ScopeMessage where
  text : String
  signals : ScopeSignals
  now : String
  freshId : String

namespace ScopeSignals

/-- Whether a message asks for research at all. -/
def researchIntent (signals : ScopeSignals) : Bool :=
  signals.krMarketWide || decide (2 ≤ signals.explicitSymbols.length) || signals.target.isSome ||
    signals.continuation || signals.verbAndFamily

/-- Whether a message says which symbols a mission is about. -/
def DeclaresScope (signals : ScopeSignals) : Prop :=
  signals.krMarketWide ∨ 2 ≤ signals.explicitSymbols.length ∨
    signals.explicitSymbols.length = 1 ∧ ¬signals.continuation

/-- The scope after a message, with the symbols and exchanges it leaves. -/
def declaredScope (signals : ScopeSignals) (existing : Option ResearchMission) :
    MissionUniverseScope × List String × List String :=
  let kept := (existing.map (·.exchanges)).getD defaultKrExchanges
  if signals.krMarketWide then (.marketWide, [], signals.exchanges)
  else if 2 ≤ signals.explicitSymbols.length then
    (.selectedSymbols, signals.explicitSymbols, kept)
  else if signals.explicitSymbols.length = 1 ∧ !signals.continuation then
    (.singleSymbol, signals.explicitSymbols, kept)
  else match existing with
    | some existing => (existing.universeScope, existing.symbols, existing.exchanges)
    | none => (.singleSymbol, signals.explicitSymbols, defaultKrExchanges)

/-- What a message says of a mission's scope. -/
def scopeUpdate (signals : ScopeSignals) (existing : Option ResearchMission) (now : String) :
    ResearchMission.ScopeUpdate :=
  let scope := signals.declaredScope existing
  { market :=
      if signals.krMarketWide || existing.any (·.market = "KR") || signals.namesKorea then "KR"
      else (existing.map (·.market)).getD "KR"
    universeScope := scope.1
    symbols := scope.2.1
    exchanges := scope.2.2
    strategyFamily := signals.strategyFamily
    improveReturn := signals.improveReturn
    improveSafety := signals.improveSafety
    baselineComparison := signals.baselineComparison
    target := signals.target
    resumes := signals.krMarketWide || decide (2 ≤ signals.explicitSymbols.length) ||
      signals.continuation
    now }

end ScopeSignals

/-- The mission after a message: a new one, the same one updated, or none. -/
def extractOrUpdateMission (message : ScopeMessage) (existing : Option IdentifiedMission) :
    Option IdentifiedMission :=
  match existing with
  | none =>
    if !message.signals.researchIntent then none
    else some
      { missionId := message.freshId
        createdAt := message.now
        originatingRequest := message.text
        mission := ResearchMission.create (message.signals.scopeUpdate none message.now) }
  | some existing => some
      { existing with
        mission := existing.mission.updated
          (message.signals.scopeUpdate (some existing.mission) message.now) }

/-- Missions over messages. -/
def scopeMachine : Machine (Option IdentifiedMission) ScopeMessage Unit where
  step existing message := ((), extractOrUpdateMission message existing)

/-- Whether the symbols of a mission are as many as its scope says. -/
def ResearchMission.ScopeCoherent (mission : ResearchMission) : Prop :=
  match mission.universeScope with
  | .marketWide => mission.symbols = []
  | .selectedSymbols => 2 ≤ mission.symbols.length
  | .singleSymbol => mission.symbols.length ≤ 1

instance (mission : ResearchMission) : Decidable mission.ScopeCoherent := by
  unfold ResearchMission.ScopeCoherent
  split <;> infer_instance

/-- What a message leaves of a mission: its name, candidates and past, and its scope and symbols
unless the message says which ones. -/
structure KeepsMission (message : ScopeMessage) (before after : IdentifiedMission) : Prop where
  missionId : after.missionId = before.missionId
  createdAt : after.createdAt = before.createdAt
  candidates : after.mission.candidates = before.mission.candidates
  ready : after.mission.promotionReadyCandidates = before.mission.promotionReadyCandidates
  explored : after.mission.exploredSymbols = before.mission.exploredSymbols
  scope : ¬message.signals.DeclaresScope →
    after.mission.universeScope = before.mission.universeScope ∧
      after.mission.symbols = before.mission.symbols

/-- Whether a message does not widen a mission with symbols to the whole market. -/
def WidensNoSymbols (existing : Option IdentifiedMission) (message : ScopeMessage) : Prop :=
  message.signals.krMarketWide → ∀ known, existing = some known → known.mission.symbols = []

/-- A scope that a message leaves is the one that was there, unless it says another. -/
theorem declaredScope_of_not_declares {signals : ScopeSignals}
    (silent : ¬signals.DeclaresScope) (existing : ResearchMission) :
    signals.declaredScope (some existing) =
      (existing.universeScope, existing.symbols, existing.exchanges) := by
  simp only [ScopeSignals.DeclaresScope, not_or, not_and, not_not] at silent
  obtain ⟨wide, many, one⟩ := silent
  have single : ¬(signals.explicitSymbols.length = 1 ∧ (!signals.continuation) = true) := by
    rintro ⟨length, going⟩
    rw [one length] at going
    cases going
  rw [ScopeSignals.declaredScope, if_neg wide, if_neg many, if_neg single]

/-- A message leaves what a mission is known by. -/
theorem keepsMission_of_update (message : ScopeMessage) (before : IdentifiedMission) :
    ∃ after, extractOrUpdateMission message (some before) = some after ∧
      KeepsMission message before after := by
  refine ⟨_, rfl, rfl, rfl, rfl, rfl, rfl, fun silent => ?_⟩
  have same := declaredScope_of_not_declares silent before.mission
  have symbols : (message.signals.scopeUpdate (some before.mission) message.now).symbols =
      before.mission.symbols := by
    rw [ScopeSignals.scopeUpdate, same]
  refine ⟨?_, ?_⟩
  · simp only [ResearchMission.updated, ScopeSignals.scopeUpdate, same]
  · simp only [ResearchMission.updated, symbols]
    split
    · rfl
    · rfl

/-- A new mission is coherent. -/
theorem scopeCoherent_create (signals : ScopeSignals) (now : String) :
    (ResearchMission.create (signals.scopeUpdate none now)).ScopeCoherent := by
  have scope : (ResearchMission.create (signals.scopeUpdate none now)).universeScope =
      (signals.declaredScope none).1 := rfl
  have symbols : (ResearchMission.create (signals.scopeUpdate none now)).symbols =
      (signals.declaredScope none).2.1 := rfl
  rw [ResearchMission.ScopeCoherent, scope, symbols]
  by_cases wide : signals.krMarketWide
  · simp [ScopeSignals.declaredScope, wide]
  by_cases many : 2 ≤ signals.explicitSymbols.length
  · simp [ScopeSignals.declaredScope, wide, many]
  · -- Without a scope a new mission is about the one symbol that is named, if there is one.
    have single : signals.declaredScope none =
        (.singleSymbol, signals.explicitSymbols, defaultKrExchanges) := by
      rw [ScopeSignals.declaredScope, if_neg wide, if_neg many]
      split <;> rfl
    rw [single]
    exact Nat.le_of_lt_succ (not_le.mp many)

/-- A message leaves a coherent mission exactly if it does not widen one with symbols. -/
theorem scopeCoherent_updated_iff (signals : ScopeSignals) (now : String)
    {existing : ResearchMission} (coherent : existing.ScopeCoherent) :
    (existing.updated (signals.scopeUpdate (some existing) now)).ScopeCoherent ↔
      (signals.krMarketWide → existing.symbols = []) := by
  have scope : (existing.updated (signals.scopeUpdate (some existing) now)).universeScope =
      (signals.declaredScope (some existing)).1 := rfl
  have symbols : (existing.updated (signals.scopeUpdate (some existing) now)).symbols =
      if (signals.declaredScope (some existing)).2.1 = [] then existing.symbols
      else (signals.declaredScope (some existing)).2.1 := rfl
  rw [ResearchMission.ScopeCoherent, scope, symbols]
  by_cases wide : signals.krMarketWide
  · simp [ScopeSignals.declaredScope, wide]
  by_cases many : 2 ≤ signals.explicitSymbols.length
  · -- A selection names its symbols, so the old ones are not fallen back on.
    have filled : signals.explicitSymbols ≠ [] := by
      rintro empty
      rw [empty] at many
      cases many
    simp [ScopeSignals.declaredScope, wide, many, filled]
  by_cases one : signals.explicitSymbols.length = 1 ∧ (!signals.continuation) = true
  · have filled : signals.explicitSymbols ≠ [] := by
      rintro empty
      rw [empty] at one
      cases one.1
    simp [ScopeSignals.declaredScope, wide, one, filled]
  · have same : signals.declaredScope (some existing) =
        (existing.universeScope, existing.symbols, existing.exchanges) := by
      rw [ScopeSignals.declaredScope, if_neg wide, if_neg many, if_neg one]
    have kept : (if existing.symbols = [] then existing.symbols else existing.symbols) =
        existing.symbols := by
      split <;> rfl
    rw [same]
    simp only [kept]
    exact iff_of_true coherent fun market => absurd market wide

/-- A state of the run whose mission, if there is one, is coherent. -/
def CoherentState (state : Option IdentifiedMission) : Prop :=
  ∀ known, state = some known → known.mission.ScopeCoherent

/-- A message leaves a coherent state exactly if it does not widen a mission with symbols. -/
theorem coherentState_next_iff {state : Option IdentifiedMission} (coherent : CoherentState state)
    (message : ScopeMessage) :
    CoherentState (scopeMachine.next state message) ↔ WidensNoSymbols state message := by
  cases state with
  | none =>
    refine iff_of_true ?_ fun _ _ absent => by cases absent
    intro known made
    have built : extractOrUpdateMission message none = some known := made
    simp only [extractOrUpdateMission] at built
    split at built
    · cases built
    · rw [← Option.some.inj built]
      exact scopeCoherent_create _ _
  | some existing =>
    have step := scopeCoherent_updated_iff message.signals message.now (coherent existing rfl)
    constructor
    · intro after wide known same
      rw [← Option.some.inj same]
      exact step.mp (after _ rfl) wide
    · intro narrow known same
      rw [← Option.some.inj same]
      exact step.mpr fun wide => narrow wide existing rfl

/-- Over any messages, a mission keeps its name, candidates and past, and its scope and symbols
change only when a message says so; and in every mission that is reached the symbols are as many as
the scope says, exactly if no message widens a mission that has symbols to the whole market. -/
theorem scope_coherent_iff (messages : List ScopeMessage) :
    (∀ before message after, messages = before ++ message :: after →
      ∀ existing, scopeMachine.run none before = some existing →
        ∃ next, scopeMachine.run none (before ++ [message]) = some next ∧
          KeepsMission message existing next) ∧
    ((∀ before after, messages = before ++ after →
        CoherentState (scopeMachine.run none before)) ↔
      scopeMachine.Guarded WidensNoSymbols none messages) := by
  constructor
  · rintro before message after rfl existing reached
    obtain ⟨next, updated, kept⟩ := keepsMission_of_update message existing
    refine ⟨next, ?_, kept⟩
    rw [Machine.run_append, reached]
    exact updated
  · have kept : ∀ state message, CoherentState state →
        (CoherentState (scopeMachine.next state message) ↔ WidensNoSymbols state message) :=
      fun _ message coherent => coherentState_next_iff coherent message
    exact scopeMachine.forall_run_iff_guarded kept messages fun _ absent => by cases absent

/-- A message that names symbols. -/
def symbolsMessage (symbols : List String) : ScopeMessage :=
  { text := "", now := "", freshId := "mission"
    signals :=
      { krMarketWide := false, exchanges := [], explicitSymbols := symbols, target := none
        continuation := false, improveReturn := false, improveSafety := false
        baselineComparison := none, strategyFamily := none, verbAndFamily := false
        namesKorea := false } }

/-- A message that asks for the whole market. -/
def marketMessage : ScopeMessage :=
  { symbolsMessage [] with
    signals := { (symbolsMessage []).signals with
      krMarketWide := true, exchanges := defaultKrExchanges } }

/-- A mission on two symbols that is widened to the whole market keeps both. -/
theorem widened_mission_incoherent :
    (scopeMachine.run none [symbolsMessage ["005930", "000660"], marketMessage]).map
        (fun known => (known.mission.universeScope, known.mission.symbols)) =
      some (.marketWide, ["005930", "000660"]) ∧
    ¬CoherentState (scopeMachine.run none [symbolsMessage ["005930", "000660"], marketMessage]) :=
  ⟨by decide, fun coherent => absurd (coherent _ rfl) (by decide)⟩

end StrategyLab
