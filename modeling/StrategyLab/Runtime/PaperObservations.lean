import StrategyLab.Lib.Json
import StrategyLab.Lib.Python
import StrategyLab.Lib.Machine
import Mathlib.Data.List.Nodup

/-! The ledger of observations that an external engine reports, and its aggregate of a family. -/

namespace StrategyLab.PaperObservation

/-- How floats behave, and how values are read as floats and shown as texts; `read` is `none` where
the built-in `float` raises. -/
structure Numerics (F : Type) where
  str : Json → String
  casing : Py.Casing
  read : Json → Option F
  ofRat : ℚ → F
  isNan : F → Bool
  isFinite : F → Bool
  neg : F → F
  abs : F → F
  sub : F → F → F
  mul : F → F → F
  div : F → F → F
  less : F → F → Bool
  sum : List F → F

/-- What `insert` raises. -/
inductive ObservationError where
  | missingRequired (fields : List String)
  | notFloat
  deriving DecidableEq, Repr

/-- A row of the ledger, without its id, which is its position. -/
structure ObservationRow (F : Type) where
  familyId : String
  strategyVersionId : String
  specFingerprint : String
  direction : String
  symbol : String
  signalAt : String
  entryAt : Option String
  exitAt : Option String
  entryPrice : Option F
  exitPrice : Option F
  qty : Option F
  pnl : Option F
  pnlPct : Option F
  fees : Option F
  status : String
  reason : Option String
  reportedAt : String
  createdAt : String

/-- The fields that every observation has. -/
def requiredFields : List String :=
  ["family_id", "strategy_version_id", "spec_fingerprint", "direction", "symbol", "signal_at",
    "status"]

/-- A call of `insert`: the fields of the observation, and when it is made. -/
structure Report where
  observation : List (String × Json)
  createdAt : String

section Reading

variable {F : Type} (numerics : Numerics F)

/-- A text that may be missing. -/
def optStr : Option Json → Option String
  | none => none
  | some .null => none
  | some value => some (value.textOf numerics.str)

/-- A float that may be missing; one that is no number is stored as nothing. -/
def optFloat : Option Json → Except ObservationError (Option F)
  | none => .ok none
  | some .null => .ok none
  | some value =>
    match numerics.read value with
    | none => .error .notFloat
    | some float => .ok (if numerics.isNan float then none else some float)

/-- Whether a field is missing, nothing, or the empty text. -/
def isMissing : Option Json → Bool
  | none => true
  | some .null => true
  | some (.str text) => text = ""
  | some _ => false

/-- The row that a report is stored as. -/
def readRow (report : Report) : Except ObservationError (ObservationRow F) := do
  let get (field : String) := report.observation.lookup field
  let missing := requiredFields.filter fun field => isMissing (get field)
  if missing ≠ [] then .error (.missingRequired missing)
  let required (field : String) := (optStr numerics (get field)).getD ""
  let reportedAt := (optStr numerics (get "reported_at")).getD ""
  let entryPrice ← optFloat numerics (get "entry_price")
  let exitPrice ← optFloat numerics (get "exit_price")
  let qty ← optFloat numerics (get "qty")
  let pnl ← optFloat numerics (get "pnl")
  let pnlPct ← optFloat numerics (get "pnl_pct")
  let fees ← optFloat numerics (get "fees")
  return {
    familyId := required "family_id"
    strategyVersionId := required "strategy_version_id"
    specFingerprint := required "spec_fingerprint"
    direction := required "direction"
    symbol := required "symbol"
    signalAt := required "signal_at"
    entryAt := optStr numerics (get "entry_at")
    exitAt := optStr numerics (get "exit_at")
    entryPrice, exitPrice, qty, pnl, pnlPct, fees
    status := required "status"
    reason := optStr numerics (get "reason")
    reportedAt := if reportedAt = "" then report.createdAt else reportedAt
    createdAt := report.createdAt }

end Reading

/-- What the unique index sees of a row; a row without one of the two times is never the same as
another. -/
def ObservationRow.identity {F : Type} (row : ObservationRow F) :
    Option (String × String × String × String × String) := do
  let entryAt ← row.entryAt
  let exitAt ← row.exitAt
  return (row.familyId, row.symbol, row.status, entryAt, exitAt)

/-- The table with its unique index. -/
structure ObservationTable (F : Type) where
  rows : List (ObservationRow F)
  unique : (rows.filterMap ObservationRow.identity).Nodup

/-- What the aggregate finds about a closed row. -/
inductive FillCheck where
  | inconsistent
  | unverified
  | consistent
  deriving DecidableEq, Repr

/-- What `aggregate_for_family` returns; `statusCounts` is the count of each status. -/
structure FamilyAggregate (F : Type) where
  familyId : String
  closedTradeCount : Nat
  winCount : Nat
  lossCount : Nat
  winRate : Option F
  profitFactor : Option F
  meanPnl : Option F
  meanPnlPct : Option F
  totalPnl : F
  statusCounts : String → Nat
  excludedPricePnlMismatchCount : Nat
  unverifiedFillPriceCount : Nat
  promotionEvidenceReady : Bool

namespace ObservationTable

variable {F : Type} (numerics : Numerics F) (table : ObservationTable F)

/-- There is no row yet. -/
def empty : ObservationTable F := ⟨[], List.nodup_nil⟩

/-- The position of the row that a new one is the same as. -/
def existing (row : ObservationRow F) : Option Nat :=
  table.rows.findIdx? fun old => row.identity.isSome && decide (old.identity = row.identity)

/-- A row that is the same as none can come last. -/
theorem nodup_identity {row : ObservationRow F} (fresh : table.existing row = none) :
    ((table.rows ++ [row]).filterMap ObservationRow.identity).Nodup := by
  rw [List.filterMap_append]
  have other := List.findIdx?_eq_none_iff.mp fresh
  refine List.nodup_append.mpr ⟨table.unique, ?_, ?_⟩
  · cases same : row.identity <;> simp [same]
  · intro first before second new same
    subst same
    obtain ⟨old, member, identity⟩ := List.mem_filterMap.mp before
    have own : row.identity = some first := by
      cases found : row.identity with
      | none => simp [found] at new
      | some key => simpa [found, eq_comm] using new
    have apart := other old member
    simp [own, identity] at apart

/-- Store a report, unless there is a row that is the same; the answer is the id of the row. -/
def insert (report : Report) : Except ObservationError Nat × ObservationTable F :=
  match readRow numerics report with
  | .error raised => (.error raised, table)
  | .ok row =>
    match found : table.existing row with
    | some position => (.ok (position + 1), table)
    | none => (.ok (table.rows.length + 1), ⟨table.rows ++ [row], table.nodup_identity found⟩)

end ObservationTable

section Aggregating

variable {F : Type} (numerics : Numerics F)

/-- Whether a number is not above zero. -/
def notPositive (value : F) : Bool := !numerics.less (numerics.ofRat 0) value

/-- Compare the pnl of a row with the one that its prices imply. -/
def fillCheck (row : ObservationRow F) (pnl : F) : FillCheck :=
  if !numerics.isFinite pnl then .inconsistent
  else
    match row.entryPrice, row.exitPrice, row.qty with
    | some entry, some exit, some qty =>
      if numerics.casing.upper row.direction ∈ ["LONG", "SHORT"] then
        let qty := numerics.abs qty
        if !(numerics.isFinite entry && numerics.isFinite exit && numerics.isFinite qty) ||
            notPositive numerics entry || notPositive numerics exit || notPositive numerics qty then
          .inconsistent
        else
          let sign := numerics.ofRat (if row.direction = "LONG" then 1 else -1)
          let implied := numerics.mul (numerics.mul (numerics.sub exit entry) qty) sign
          let share := numerics.mul (numerics.mul (numerics.ofRat (2 / 100)) entry) qty
          let one := numerics.ofRat 1
          let tolerance := if numerics.less one share then share else one
          if numerics.less tolerance (numerics.abs (numerics.sub pnl implied)) then .inconsistent
          else .consistent
      else .unverified
    | _, _, _ => .unverified

/-- What the check finds about a row, if its pnl is known. -/
def ObservationRow.check (row : ObservationRow F) : Option FillCheck :=
  row.pnl.map (fillCheck numerics row)

/-- Whether a row counts as a closed trade. -/
def ObservationRow.Counts (row : ObservationRow F) : Prop :=
  row.status = "closed" ∧ ∃ check, row.check numerics = some check ∧ check ≠ .inconsistent

instance (row : ObservationRow F) : Decidable (row.Counts numerics) :=
  decidable_of_iff (row.status = "closed" ∧ (row.check numerics).any (· ≠ .inconsistent))
    (by simp [ObservationRow.Counts, Option.any_eq_true])

/-- The closed rows of a family whose pnl is known. -/
def ObservationTable.closedRows (table : ObservationTable F) (familyId : String) :
    List (ObservationRow F) :=
  table.rows.filter fun row =>
    row.familyId = familyId && row.status = "closed" && row.pnl.isSome

/-- The rows of a family that count. -/
def ObservationTable.eligible (table : ObservationTable F) (familyId : String) :
    List (ObservationRow F) :=
  (table.closedRows familyId).filter fun row => row.Counts numerics

/-- The mean of numbers, if there are any. -/
def meanOf (values : List F) : Option F :=
  if values = [] then none
  else some (numerics.div (numerics.sum values) (numerics.ofRat values.length))

/-- What the ledger says about a family. -/
def ObservationTable.aggregateForFamily (table : ObservationTable F)
    (familyId : String) : FamilyAggregate F :=
  let closed := table.closedRows familyId
  let eligible := table.eligible numerics familyId
  let zero := numerics.ofRat 0
  let pnls := eligible.filterMap ObservationRow.pnl
  let pnlPcts := (eligible.filterMap ObservationRow.pnlPct).filter numerics.isFinite
  let wins := pnls.filter fun pnl => numerics.less zero pnl
  let losses := pnls.filter fun pnl => numerics.less pnl zero
  let grossProfit := numerics.sum wins
  let grossLoss := numerics.neg (numerics.sum losses)
  { familyId
    closedTradeCount := pnls.length
    winCount := wins.length
    lossCount := losses.length
    winRate := if pnls = [] then none
      else some (numerics.div (numerics.ofRat wins.length) (numerics.ofRat pnls.length))
    profitFactor := if numerics.less zero grossLoss then
      some (numerics.div grossProfit grossLoss) else none
    meanPnl := meanOf numerics pnls
    meanPnlPct := meanOf numerics pnlPcts
    totalPnl := if pnls = [] then zero else numerics.sum pnls
    statusCounts status := table.rows.countP fun row =>
      row.familyId = familyId && row.status = status
    excludedPricePnlMismatchCount :=
      closed.countP fun row => row.check numerics = some .inconsistent
    unverifiedFillPriceCount := closed.countP fun row => row.check numerics = some .unverified
    promotionEvidenceReady := false }

end Aggregating

/-- The ledger as a machine. -/
def observationMachine {F : Type} (numerics : Numerics F) :
    Machine (ObservationTable F) Report (Except ObservationError Nat) :=
  ⟨fun table report => table.insert numerics report⟩

end StrategyLab.PaperObservation
