import StrategyLab.Lib.Averages
import StrategyLab.Lib.Python
import StrategyLab.Lib.Raise
import Mathlib.Algebra.Order.Floor.Ring

/-! Technical indicators: figures that are computed from the bars of a market, in exact arithmetic.
Where there is not enough history an indicator has no value. -/

namespace StrategyLab.TechnicalIndicators

open Average (smoothed)

variable {K : Type} [Field K] [LinearOrder K]

/-- Refuse amounts of which one is negative. -/
def requirePositive (values : List K) : Except String Unit :=
  Raise.ensure (values.all (0 ≤ ·)) "nonfinite or negative input"

/-- Refuse a period without a bar. -/
def requirePeriod (period : Int) : Except String Unit := Raise.ensure (1 ≤ period) "period"

/-- Refuse columns of different lengths. -/
def requireLengths (lengths : List Nat) : Except String Unit :=
  Raise.ensure (lengths.all (· = lengths.headD 0)) "length mismatch"

/-- The mean of the last values. -/
def sma (values : List K) (period : Int) : Except String (Option K) := do
  requirePeriod period
  return if period ≤ values.length then some ((Py.lastSlice period values).sum / period) else none

/-- The mean of the first values, moved towards each further one. -/
def ema (values : List K) (period : Int) : Except String (Option K) := do
  requirePeriod period
  let first := (values.take period.toNat).sum / period
  let alpha : K := 2 / (period + 1)
  return if values.length < period then none
    else some ((values.drop period.toNat).foldl (fun value item => value + alpha * (item - value))
      first)

/-- The differences of each value from the one before it. -/
def changes (values : List K) : List K := List.zipWith (· - ·) values.tail values

/-- The relative strength of gains and losses. -/
def rsi (close : List K) (period : Int) : Except String (Option K) := do
  requirePeriod period
  let gains := smoothed period.toNat ((changes close).map fun change => max change 0)
  let losses := smoothed period.toNat ((changes close).map fun change => max (-change) 0)
  return if close.length < period + 1 then none
    else if losses = 0 then some (if 0 < gains then 100 else 50)
    else some (100 - 100 / (1 + gains / losses))

/-- The true range of each bar but the first, whose close is there before it. -/
def trueRanges (high low close : List K) : List K :=
  List.zipWith (fun bar previous => max (bar.1 - bar.2) (max |bar.1 - previous| |bar.2 - previous|))
    (high.tail.zip low.tail) close

/-- The smoothed true range. -/
def atr (high low close : List K) (period : Int) : Except String (Option K) := do
  requireLengths [high.length, low.length, close.length]
  Raise.ensure ((high.zip (low.zip close)).all fun bar => bar.2.1 ≤ bar.1 && bar.2.1 ≤ bar.2.2 &&
    bar.2.2 ≤ bar.1) "invalid OHLC"
  requirePeriod period
  return if close.length < period + 1 then none
    else some (smoothed period.toNat (trueRanges high low close))

/-- A mean with a band around it. -/
structure Bands (K : Type) where
  lower : K
  middle : K
  upper : K
  deriving DecidableEq

/-- The mean of the last closes, with a number of standard deviations around it. -/
def bollinger (sqrt : K → K) (close : List K) (period : Int) (deviations : K) :
    Except String (Option (Bands K)) := do
  Raise.ensure (2 ≤ period && 0 < deviations) "parameters"
  let window := Py.lastSlice period close
  let mean := window.sum / period
  let std := sqrt ((window.map fun value => (value - mean) ^ 2).sum / period)
  return if close.length < period then none
    else some ⟨mean - deviations * std, mean, mean + deviations * std⟩

/-- The rate of change over a period, in percent. -/
def roc (close : List K) (period : Int) : Except String (Option K) := do
  requirePeriod period
  let window := Py.lastSlice (period + 1) close
  return if close.length ≤ period then none
    else match window.head?, window.getLast? with
      | some first, some last => if first = 0 then none else some ((last / first - 1) * 100)
      | _, _ => none

/-- Where the last close lies between the lowest low and the highest high, in percent. -/
def stochastic (high low close : List K) (period : Int) : Except String (Option K) := do
  requireLengths [high.length, low.length, close.length]
  requirePeriod period
  return if close.length < period then none
    else match (Py.lastSlice period high).max?, (Py.lastSlice period low).min?, close.getLast? with
      | some top, some bottom, some last =>
        some (if top = bottom then 50 else 100 * (last - bottom) / (top - bottom))
      | _, _, _ => none

/-- The volume that came with rises, less the volume that came with falls. -/
def obv (close volume : List K) : Except String (Option K) := do
  requirePositive volume
  requireLengths [close.length, volume.length]
  return if close = [] then none
    else some (List.zipWith (fun change amount =>
      if 0 < change then amount else if change < 0 then -amount else 0)
        (changes close) volume.tail).sum

/-- The mean price of some bars, weighted with their volume. -/
def weightedPrice (high low close volume : List K) : Option K :=
  if volume.sum = 0 then none
  else some ((List.zipWith (fun bar amount => (bar.1 + bar.2.1 + bar.2.2) / 3 * amount)
    (high.zip (low.zip close)) volume).sum / volume.sum)

/-- The mean price weighted with the volume, of the last bars or of all. -/
def vwap (high low close volume : List K) (period : Option Int) : Except String (Option K) := do
  requirePositive volume
  requireLengths [high.length, low.length, close.length, volume.length]
  match period with
  | none => return weightedPrice high low close volume
  | some period =>
    requirePeriod period
    return if close.length < period then none
      else weightedPrice (Py.lastSlice period high) (Py.lastSlice period low)
        (Py.lastSlice period close) (Py.lastSlice period volume)

/-- The difference of two averages, and what is left of it above its own average. -/
structure Convergence (K : Type) where
  macd : K
  signal : K
  histogram : K
  deriving DecidableEq

/-- The difference of the averages of some closes. -/
def averageDifference (close : List K) (fast slow : Int) : Except String K := do
  match ← ema close fast, ← ema close slow with
  | some quick, some late => return quick - late
  | _, _ => .error "unsupported operand type(s) for -"

/-- The convergence of a fast and a slow average. -/
def macd (close : List K) (fast slow signal : Int) : Except String (Option (Convergence K)) := do
  Raise.ensure (0 < fast && fast < slow && 1 ≤ signal) "parameters"
  if close.length < slow + signal - 1 then return none
  let line ← (List.range' slow.toNat (close.length + 1 - slow.toNat)).mapM fun i =>
    averageDifference (close.take i) fast slow
  match line.getLast?, ← ema line signal with
  | some last, some average => return some ⟨last, average, last - average⟩
  | _, _ => .error "unsupported operand type(s) for -"

/-- How far a bar went up or down from the one before it, on the side that it went further to. -/
def movements (high low : List K) : List (K × K) :=
  List.zipWith (fun up down =>
    (if down < up ∧ 0 < up then up else 0, if up < down ∧ 0 < down then down else 0))
      (changes high) ((changes low).map (-·))

/-- How much the movements up and down differ, in percent. -/
def directionalIndex (plus minus : K) : K :=
  if plus + minus = 0 then 0 else 100 * |plus - minus| / (plus + minus)

/-- The index of smoothed movements, before each further movement and behind the last. -/
def directionalIndices (period : Nat) (plus minus : K) : List (K × K) → List K
  | [] => [directionalIndex plus minus]
  | movement :: rest =>
    directionalIndex plus minus :: directionalIndices period (plus - plus / period + movement.1)
      (minus - minus / period + movement.2) rest

/-- The smoothed difference of the movements; the smoothed range has no part in it. -/
def adx (high low close : List K) (period : Int) : Except String (Option K) := do
  requireLengths [high.length, low.length, close.length]
  requirePeriod period
  let first := (movements high low).take period.toNat
  let rest := (movements high low).drop period.toNat
  return if close.length < 2 * period then none
    else some (smoothed period.toNat (directionalIndices period.toNat (first.map (·.1)).sum
      (first.map (·.2)).sum rest))

/-- The volume at some prices. -/
structure Level (K : Type) where
  low : K
  high : K
  volume : K
  deriving DecidableEq

/-- The volume by price, and the price of most of it. -/
structure Profile (K : Type) where
  poc : K
  bins : List (Level K)
  deriving DecidableEq

/-- The bin of a price. -/
def binOf [FloorRing K] (bins : Nat) (low width price : K) : Nat :=
  min (bins - 1) ⌊(price - low) / width⌋.toNat

/-- The first of the bins with most volume. -/
def largestBin (totals : List K) : Nat :=
  (List.range totals.length).foldl
    (fun best i => if totals.getD best 0 < totals.getD i 0 then i else best) 0

/-- The histogram of the volume at the closes. -/
def volumeProfile [FloorRing K] (close volume : List K) (bins : Int) :
    Except String (Option (Profile K)) := do
  requirePositive volume
  requireLengths [close.length, volume.length]
  Raise.ensure (2 ≤ bins && bins ≤ 200) "bins"
  match close.min?, close.max? with
  | some low, some high =>
    if volume.sum = 0 then return none
    if low = high then return some ⟨low, [⟨low, high, volume.sum⟩]⟩
    let width := (high - low) / bins
    let totals := (close.zip volume).foldl (fun totals bar =>
      totals.modify (binOf bins.toNat low width bar.1) (· + bar.2))
        (List.replicate bins.toNat 0)
    let levels := totals.zipIdx.map fun total =>
      ⟨low + total.2 * width, low + (total.2 + 1) * width, total.1⟩
    let poc := levels.getD (largestBin totals) ⟨low, high, 0⟩
    return some ⟨(poc.low + poc.high) / 2, levels⟩
  | _, _ => return none

/-- What the volume of the last bar is, against the bars before it. -/
structure VolumeContext (K : Type) where
  volume : K
  meanPriorVolume : K
  relativeVolume : Option K
  signedVolumeProxy : K
  obv : Option K
  vwapWindow : Option K
  notionalProxy : K
  deriving DecidableEq

/-- The volume of the last bar in its context. -/
def volumeAnalysis (high low close volume : List K) (period : Int) :
    Except String (Option (VolumeContext K)) := do
  requirePositive volume
  requireLengths [high.length, low.length, close.length, volume.length]
  Raise.ensure (2 ≤ period) "period"
  if close.length < period + 1 then return none
  Raise.ensure ((high.zip (low.zip close)).all fun bar => bar.2.1 ≤ bar.1 && bar.2.1 ≤ bar.2.2 &&
    bar.2.2 ≤ bar.1) "invalid OHLC"
  let baseline := (Py.lastSlice (period + 1) volume).dropLast.sum / period
  let last := volume.getLastD 0
  let price := close.getLastD 0
  let prior := close.dropLast.getLastD 0
  return some
    { volume := last
      meanPriorVolume := baseline
      relativeVolume := if 0 < baseline then some (last / baseline) else none
      signedVolumeProxy := if prior < price then last else if price < prior then -last else 0
      obv := ← obv close volume
      vwapWindow := ← vwap high low close volume (some period)
      notionalProxy := price * last }

/-- A bar as it is read; a price that is no finite number is none. -/
structure FeatureBar (K : Type) where
  symbol : String
  timestamp : String
  high : Option K
  low : Option K
  close : Option K
  volume : Option K

/-- The finite numbers of a bar. -/
structure OhlcvRow (K : Type) where
  high : K
  low : K
  close : K
  volume : K

/-- The numbers of a bar, if all are finite. -/
def FeatureBar.row (bar : FeatureBar K) : Except String (OhlcvRow K) :=
  match bar.high, bar.low, bar.close, bar.volume with
  | some high, some low, some close, some volume => .ok ⟨high, low, close, volume⟩
  | _, _, _, _ => .error "nonfinite bar"

/-- Whether the close lies within the range of the bar, and nothing is negative. -/
def OhlcvRow.isValid (row : OhlcvRow K) : Bool :=
  row.low ≤ row.close && row.close ≤ row.high && 0 ≤ row.low && 0 ≤ row.volume

/-- The features of some bars. -/
structure Features (K : Type) where
  sma20 : Option K
  ema20 : Option K
  rsi14 : Option K
  macd : Option (Convergence K)
  adx14 : Option K
  atr14 : Option K
  bollinger20 : Option (Bands K)
  roc12 : Option K
  stochastic14 : Option K
  obv : Option K
  vwap20 : Option K
  volume : Option (VolumeContext K)
  volumeProfile : Option (Profile K)

/-- The names of the features that have no value. -/
def Features.missing (features : Features K) : List String :=
  [("sma20", features.sma20.isNone), ("ema20", features.ema20.isNone),
    ("rsi14", features.rsi14.isNone), ("macd", features.macd.isNone),
    ("adx14", features.adx14.isNone), ("atr14", features.atr14.isNone),
    ("bollinger20", features.bollinger20.isNone), ("roc12", features.roc12.isNone),
    ("stochastic14", features.stochastic14.isNone), ("obv", features.obv.isNone),
    ("vwap20", features.vwap20.isNone), ("volume", features.volume.isNone),
    ("volume_profile", features.volumeProfile.isNone)].filterMap fun feature =>
      if feature.2 then some feature.1 else none

/-- The features of a symbol. -/
structure FeatureReport (K : Type) where
  symbol : String
  market : String
  timeframe : String
  barCount : Nat
  features : Features K
  missing : List String

/-- The features of columns. -/
def featuresOf [FloorRing K] (sqrt : K → K) (h l c v : List K) : Except String (Features K) := do
  return {
    sma20 := ← sma c 20
    ema20 := ← ema c 20
    rsi14 := ← rsi c 14
    macd := ← macd c 12 26 9
    adx14 := ← adx h l c 14
    atr14 := ← atr h l c 14
    bollinger20 := ← bollinger sqrt c 20 2
    roc12 := ← roc c 12
    stochastic14 := ← stochastic h l c 14
    obv := ← obv c v
    vwap20 := ← vwap h l c v (some 20)
    volume := ← volumeAnalysis h l c v 20
    volumeProfile := ← volumeProfile (Py.lastSlice 100 c) (Py.lastSlice 100 v) 12 }

/-- The features of bars of one symbol in the order of time. -/
def extractFeatures [FloorRing K] (sqrt : K → K) (bars : List (FeatureBar K))
    (market timeframe : String) : Except String (FeatureReport K) := do
  Raise.ensure (market ∈ ["KR_STOCK", "US_STOCK", "BINANCE"]) "unsupported market"
  Raise.ensure (timeframe ≠ "") "timeframe required"
  Raise.ensure (bars ≠ []) "empty bars"
  Raise.ensure (bars.length ≤ 100000) "too many bars"
  let symbol : String := (bars.map (·.symbol)).headD ""
  Raise.ensure (symbol ≠ "" && bars.all (·.symbol = symbol)) "mixed symbols"
  let times : List String := bars.map (·.timestamp)
  Raise.ensure (decide times.Nodup && decide (times.Pairwise (· ≤ ·)))
    "unsorted or duplicate timestamps"
  let rows ← bars.mapM FeatureBar.row
  Raise.ensure (rows.all (·.isValid)) "invalid OHLCV"
  let features ← featuresOf sqrt (rows.map (·.high)) (rows.map (·.low)) (rows.map (·.close))
    (rows.map (·.volume))
  return ⟨symbol, market, timeframe, bars.length, features, features.missing⟩

end StrategyLab.TechnicalIndicators
