import Mathlib.Algebra.Order.Field.Rat
import Mathlib.Data.Rat.Floor
import Mathlib.Data.List.Basic
import Mathlib.Data.List.Infix
import Mathlib.Data.List.TakeWhile
import Mathlib.Tactic.FieldSimp

/-! Python's scalar values, tail slices and decimal rounding, with exact rationals for floats. -/

namespace Py

/-- A scalar value. -/
inductive Value where
  | str (value : String)
  | int (value : Int)
  | float (value : ℚ)
  | bool (value : Bool)
  deriving DecidableEq

/-- How a text is read as a number; `none` stands for a `ValueError`. -/
structure Numerals where
  int : String → Option Int
  float : String → Option ℚ

namespace Value

/-- The built-in `int`: floats are truncated towards zero. -/
def toInt (numerals : Numerals) : Value → Option Int
  | str value => numerals.int value
  | int value => some value
  | float value => some (if 0 ≤ value then value.floor else value.ceil)
  | bool value => some (if value then 1 else 0)

/-- The built-in `float`. -/
def toFloat (numerals : Numerals) : Value → Option ℚ
  | str value => numerals.float value
  | int value => some value
  | float value => some value
  | bool value => some (if value then 1 else 0)

/-- The built-in `bool`: everything but zero and the empty text is true. -/
def truthy : Value → Bool
  | str value => value ≠ ""
  | int value => value ≠ 0
  | float value => value ≠ 0
  | bool value => value

/-- Whether the value is a `bool`, which numbers are not. -/
def isBool : Value → Bool
  | bool _ => true
  | _ => false

end Value

/-- A character that `strip` removes. -/
def isSpace (c : Char) : Bool :=
  c.toNat ∈ [0x20, 0x85, 0xA0, 0x1680, 0x2028, 0x2029, 0x202F, 0x205F, 0x3000] ||
    (0x09 ≤ c.toNat && c.toNat ≤ 0x0D) || (0x1C ≤ c.toNat && c.toNat ≤ 0x1F) ||
    (0x2000 ≤ c.toNat && c.toNat ≤ 0x200A)

/-- A text of which `strip` leaves nothing. -/
def isBlank (text : String) : Bool := text.toList.all isSpace

/-- The method `strip`. -/
def strip (text : String) : String :=
  .ofList ((text.toList.dropWhile isSpace).reverse.dropWhile isSpace).reverse

variable {text : String}

/-- `strip` leaves nothing of a text exactly if it is blank. -/
theorem strip_eq_empty_iff : strip text = "" ↔ isBlank text := by
  have kept : ∀ (c : Char) (chars : List Char), c ∈ chars → ¬isSpace c →
      c ∈ chars.dropWhile isSpace := by
    intro c chars member solid
    rw [← List.takeWhile_append_dropWhile (p := isSpace) (l := chars)] at member
    rcases List.mem_append.mp member with front | back
    · exact absurd (List.mem_takeWhile_imp front) solid
    · exact back
  rw [isBlank, List.all_eq_true]
  constructor
  · -- A character that is no space would survive both cuts.
    intro empty c member
    by_contra solid
    have inside : c ∈ (strip text).toList := by
      rw [strip, String.toList_ofList, List.mem_reverse]
      exact kept c _ (List.mem_reverse.mpr (kept c _ member solid)) solid
    rw [empty] at inside
    cases inside
  · intro blank
    have front : text.toList.dropWhile isSpace = [] := by
      rw [List.dropWhile_eq_nil_iff]
      exact blank
    rw [strip, front]
    rfl

/-- What `strip` leaves of a text is not blank, if it leaves anything. -/
theorem strip_strip_ne_empty (filled : strip text ≠ "") :
    strip (strip text) ≠ "" := by
  intro empty
  rw [strip_eq_empty_iff, isBlank, List.all_eq_true] at empty
  have none : ((text.toList.dropWhile isSpace).reverse.dropWhile isSpace).reverse = [] := by
    have spaces : ∀ c ∈ (text.toList.dropWhile isSpace).reverse.dropWhile isSpace,
        isSpace c := by
      intro c member
      exact empty c (by rw [strip, String.toList_ofList, List.mem_reverse]; exact member)
    rw [List.reverse_eq_nil_iff]
    by_contra filled
    have head := List.head_dropWhile_not isSpace filled
    rw [spaces _ (List.head_mem filled)] at head
    cases head
  exact filled (by rw [strip, none])

/-- A text without spaces is left alone by `strip`. -/
theorem strip_eq_self (solid : ∀ c ∈ text.toList, ¬isSpace c) :
    strip text = text := by
  have kept : ∀ chars : List Char, (∀ c ∈ chars, ¬isSpace c) → chars.dropWhile isSpace = chars := by
    intro chars solid
    cases chars with
    | nil => rfl
    | cons c chars => exact List.dropWhile_cons_of_neg (solid c List.mem_cons_self)
  have back : ∀ c ∈ text.toList.reverse, ¬isSpace c := by
    intro c member
    exact solid c (List.mem_reverse.mp member)
  rw [strip, kept _ solid, kept _ back, List.reverse_reverse, String.ofList_toList]

/-- How texts are written in capitals: letter by letter as far as they are in ASCII. -/
structure Casing where
  upper : String → String
  upper_upper : ∀ text, upper (upper text) = upper text
  upper_ascii : ∀ text, (∀ c ∈ text.toList, c.toNat < 128) →
    upper text = .ofList (text.toList.map Char.toUpper)

/-- The method `startswith` of a text. -/
def startswith (text start : String) : Bool := start.toList.isPrefixOf text.toList

/-- A text goes on starting as it does when something is put behind it. -/
theorem startswith_append {text start : String} (starts : startswith text start) (more : String) :
    startswith (text ++ more) start := by
  rw [startswith, String.toList_append, List.isPrefixOf_iff_prefix]
  exact (List.isPrefixOf_iff_prefix.mp starts).trans (List.prefix_append _ _)

/-- Put new letters in place of all old ones, from the left; the first letters may be taken up. -/
def replaceChars (old new : List Char) : Nat → List Char → List Char
  | _, [] => []
  | taken + 1, _ :: rest => replaceChars old new taken rest
  | 0, c :: rest =>
    if old.isPrefixOf (c :: rest) then new ++ replaceChars old new (old.length - 1) rest
    else c :: replaceChars old new 0 rest

/-- The method `replace` of a text, for an old part that is not empty. -/
def replace (text old new : String) : String :=
  String.ofList (replaceChars old.toList new.toList 0 text.toList)

example : replace "2026-09-06T00:05:00Z" "Z" "+00:00" = "2026-09-06T00:05:00+00:00" := by
  decide +kernel

/-- The operator `in` between texts. -/
def contains (text part : String) : Bool := decide (part.toList <:+: text.toList)

variable {α β : Type*}

/-- The slice `items[-count:]`: a negative count skips from the front, and zero keeps everything. -/
def lastSlice (count : Int) (items : List α) : List α :=
  if 0 < count then items.drop (items.length - count.toNat) else items.drop (-count).toNat

/-- A tail slice only sees the last items, however many there are before them. -/
theorem lastSlice_suffix {count : Int} {short long : List α} (suffix : short <:+ long)
    (positive : 0 < count) (enough : count ≤ short.length) :
    lastSlice count short = lastSlice count long := by
  obtain ⟨front, rfl⟩ := suffix
  have skipped : (front ++ short).length - count.toNat =
      front.length + (short.length - count.toNat) := by
    rw [List.length_append]
    omega
  rw [lastSlice, lastSlice, if_pos positive, if_pos positive, skipped,
    List.drop_length_add_append]

/-- Round to the nearest integer, and to the even one of two. -/
def roundHalfEven (x : ℚ) : Int :=
  let part := x - x.floor
  if part < 1 / 2 then x.floor
  else if 1 / 2 < part then x.floor + 1
  else if x.floor % 2 = 0 then x.floor
  else x.floor + 1

/-- The built-in `round` with a number of decimal digits. -/
def round (digits : Nat) (x : ℚ) : ℚ := roundHalfEven (x * 10 ^ digits) / 10 ^ digits

/-- A number written with a fixed count of decimals, and with its sign if that is asked for. -/
def fixed (digits : Nat) (signed : Bool) (x : ℚ) : String :=
  let scaled := (roundHalfEven (|x| * 10 ^ digits)).toNat
  let decimals := toString (scaled % 10 ^ digits)
  (if x < 0 then "-" else if signed then "+" else "") ++ toString (scaled / 10 ^ digits) ++ "." ++
    String.ofList (List.replicate (digits - decimals.length) '0') ++ decimals

example : fixed 4 true (1 / 20) = "+0.0500" ∧ fixed 2 false (-3 / 2) = "-1.50" := by
  decide +kernel

/-- An integer is rounded to itself. -/
@[simp] theorem roundHalfEven_intCast (n : Int) : roundHalfEven n = n := by
  simp [roundHalfEven, Rat.floor_intCast]

/-- Rounding what is already rounded changes nothing. -/
@[simp] theorem round_round (digits : Nat) (x : ℚ) :
    round digits (round digits x) = round digits x := by
  have scale : (10 : ℚ) ^ digits ≠ 0 := by positivity
  unfold round
  rw [div_mul_cancel₀ _ scale, roundHalfEven_intCast]

/-- A number with at most some decimal digits. -/
def HasDigits (digits : Nat) (x : ℚ) : Prop := ∃ n : Int, x = n / 10 ^ digits

/-- What is rounded has the digits it was rounded to. -/
theorem hasDigits_round (digits : Nat) (x : ℚ) : HasDigits digits (round digits x) :=
  ⟨roundHalfEven (x * 10 ^ digits), rfl⟩

variable {digits : Nat}

/-- A number that has the digits is not changed by rounding to them. -/
theorem HasDigits.round_eq {x : ℚ} (has : HasDigits digits x) :
    round digits x = x := by
  obtain ⟨n, rfl⟩ := has
  have scale : (10 : ℚ) ^ digits ≠ 0 := by positivity
  rw [round, div_mul_cancel₀ _ scale, roundHalfEven_intCast]

/-- Sums keep the digits. -/
theorem HasDigits.add {x y : ℚ} (left : HasDigits digits x)
    (right : HasDigits digits y) : HasDigits digits (x + y) := by
  obtain ⟨n, rfl⟩ := left
  obtain ⟨m, rfl⟩ := right
  exact ⟨n + m, by push_cast; rw [add_div]⟩

/-- Opposites keep the digits. -/
theorem HasDigits.neg {x : ℚ} (has : HasDigits digits x) :
    HasDigits digits (-x) := by
  obtain ⟨n, rfl⟩ := has
  exact ⟨-n, by push_cast; rw [neg_div]⟩

/-- Integer multiples keep the digits. -/
theorem HasDigits.mul_int {x : ℚ} (has : HasDigits digits x) (k : Int) :
    HasDigits digits (x * k) := by
  obtain ⟨n, rfl⟩ := has
  exact ⟨n * k, by push_cast; rw [div_mul_eq_mul_div]⟩

/-- Sums of a list keep the digits. -/
theorem HasDigits.sum {amounts : List ℚ}
    (has : ∀ amount ∈ amounts, HasDigits digits amount) : HasDigits digits amounts.sum := by
  induction amounts with
  | nil => exact ⟨0, by simp⟩
  | cons amount rest ih =>
    rw [List.sum_cons]
    exact (has amount List.mem_cons_self).add
      (ih fun other member => has other (List.mem_cons_of_mem _ member))

end Py
