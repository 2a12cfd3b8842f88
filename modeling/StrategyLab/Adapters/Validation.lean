import Mathlib.Data.String.Basic
import StrategyLab.Lib.Decimal

/-! The checks on references and timestamps that the adapters share, and what they raise. -/

namespace StrategyLab

/-- What an adapter service or its repository can raise. -/
inductive ServiceError where
  | valueError (message : String)
  | keyError (key : String)
  | integrityError (message : String)
  deriving DecidableEq, Repr

/-- A character that the pattern `\d` matches: a digit zero or one of its nine successors. -/
def isDecimal (c : Char) : Bool :=
  Py.decimalZeros.any fun base => base ≤ c.toNat && c.toNat < base + 10

/-- Skip exactly `count` decimal digits. -/
def skipDigits : Nat → List Char → Option (List Char)
  | 0, text => some text
  | count + 1, c :: text => if isDecimal c then skipDigits count text else none
  | _ + 1, [] => none

/-- Skip one given character. -/
def skipChar (expected : Char) : List Char → Option (List Char)
  | c :: text => if c = expected then some text else none
  | [] => none

/-- Skip a decimal point with at least one digit behind it, when there is a point. -/
def skipFraction : List Char → Option (List Char)
  | '.' :: text => (skipDigits 1 text).map fun rest => rest.dropWhile isDecimal
  | text => some text

/-- The pattern `ISO_UTC`: date, `T`, time, an optional fraction and `Z`. -/
def isoUtc (value : String) : Bool :=
  (do
    let text ← skipDigits 4 value.toList >>= skipChar '-'
    let text ← skipDigits 2 text >>= skipChar '-'
    let text ← skipDigits 2 text >>= skipChar 'T'
    let text ← skipDigits 2 text >>= skipChar ':'
    let text ← skipDigits 2 text >>= skipChar ':'
    let text ← skipDigits 2 text >>= skipFraction
    skipChar 'Z' text) = some []

/-- An ASCII letter or digit. -/
def isAlphanumeric (c : Char) : Bool :=
  ('A' ≤ c && c ≤ 'Z') || ('a' ≤ c && c ≤ 'z') || ('0' ≤ c && c ≤ '9')

/-- The patterns `SAFE_REF` and `REF_PATTERN`: at most 128 characters of a reference. -/
def safeRef (value : String) : Bool :=
  match value.toList with
  | [] => false
  | first :: rest =>
    isAlphanumeric first && rest.length ≤ 127 &&
      rest.all fun c => isAlphanumeric c || c ∈ ['_', '.', ':', '-']

/-- A parameter key: a letter and at most 63 letters, digits and underscores. -/
def safeKey (value : String) : Bool :=
  match value.toList with
  | [] => false
  | first :: rest =>
    isAlphanumeric first && !('0' ≤ first && first ≤ '9') && rest.length ≤ 63 &&
      rest.all fun c => isAlphanumeric c || c = '_'

/-- Raise a `ValueError` with the message unless the check holds. -/
def require (check : Bool) (message : String) : Except ServiceError Unit :=
  if check then .ok () else .error (.valueError message)

/-- Require a timestamp in ISO 8601 UTC format. -/
def validateUtc (value : String) : Except ServiceError Unit :=
  require (isoUtc value) "timestamp must use ISO 8601 UTC format"

example : isoUtc "2026-07-17T00:00:00.5Z" = true := by decide

example : safeRef "champion-version:default:1" = true := by decide

/-- A check that passes is not raised. -/
@[simp] theorem require_eq_ok {check : Bool} {message : String} {done : Unit} :
    require check message = .ok done ↔ check = true := by
  simp [require]

end StrategyLab
