import Mathlib.Algebra.Order.Field.Rat

/-! JSON values as a reader gets them back, with exact rationals for the finite floats. -/

/-- A JSON value; `nan` and `infinity` stand for the floats that are no number or infinite. -/
inductive Json where
  | null
  | bool (value : Bool)
  | int (value : Int)
  | float (value : ℚ)
  | nan
  | infinity (negative : Bool)
  | str (value : String)
  | list (items : List Json)
  | obj (fields : List (String × Json))

namespace Json

/-- The value under a key of an object. -/
def get? : Json → String → Option Json
  | obj fields, key => fields.lookup key
  | _, _ => none

/-- The keys of an object. -/
def keys : Json → List String
  | obj fields => fields.map (·.1)
  | _ => []

/-- Whether the value is an object. -/
def isObject : Json → Bool
  | obj _ => true
  | _ => false

/-- The text, if the value is one. -/
def text? : Json → Option String
  | str value => some value
  | _ => none

/-- The built-in `str`, which leaves a text as it is. -/
def textOf (str : Json → String) : Json → String
  | .str text => text
  | other => str other

/-- Whether a condition takes the value for true. -/
def truthy : Json → Bool
  | null => false
  | bool value => value
  | int value => value ≠ 0
  | float value => value ≠ 0
  | nan => true
  | infinity _ => true
  | str value => value ≠ ""
  | list items => !items.isEmpty
  | obj fields => !fields.isEmpty

/-- The value under a key when it is there and true, and a default otherwise. -/
def getOr (value : Json) (key : String) (default : Json) : Json :=
  match value.get? key with
  | some field => if field.truthy then field else default
  | none => default

/-- The number that the value is equal to, if it is one; a `bool` equals zero or one. -/
def number? : Json → Option ℚ
  | bool value => some (if value then 1 else 0)
  | int value => some value
  | float value => some value
  | _ => none

/-- Lay new fields over the old ones. -/
def update (old new : List (String × Json)) : List (String × Json) :=
  new ++ old.filter fun field => (new.lookup field.1).isNone

/-- Whether there is a field under a key that a condition takes for true. -/
def isTrue (fields : List (String × Json)) (key : String) : Bool :=
  (fields.lookup key).any truthy

/-- Whether the field under a key is a certain text. -/
def isText (fields : List (String × Json)) (key text : String) : Bool :=
  (fields.lookup key).bind text? = some text

/-- The smallest integer that is rounded out of the range of a double. -/
def floatLimit : Int := 2 ^ 1024 - 2 ^ 970

mutual

/-- The built-in `==`: numbers by their value, and objects in any order of their fields. -/
def same : Json → Json → Bool
  | null, null => true
  | str left, str right => left = right
  | infinity left, infinity right => left = right
  | list left, list right => sameItems left right
  | obj left, obj right => left.length = right.length && sameFields left right
  | left, right =>
    match left.number?, right.number? with
    | some first, some second => first = second
    | _, _ => false

/-- Two lists are equal item by item. -/
def sameItems : List Json → List Json → Bool
  | [], [] => true
  | left :: lefts, right :: rights => same left right && sameItems lefts rights
  | _, _ => false

/-- Every field of the one object is equal to the field of its key in the other. -/
def sameFields : List (String × Json) → List (String × Json) → Bool
  | [], _ => true
  | (key, value) :: rest, others =>
    (match others.lookup key with
      | some other => same value other
      | none => false) && sameFields rest others

end

/-- The number, if the value is one that a double can hold; a `bool` is none. -/
def finite? : Json → Option ℚ
  | int value => if |value| < floatLimit then some value else none
  | float value => some value
  | _ => none

@[simp] theorem get?_obj_nil (key : String) : (obj []).get? key = none := rfl

/-- The first field of an object is found under its own key and hides nothing else. -/
@[simp] theorem get?_obj_cons (name : String) (value : Json) (fields : List (String × Json))
    (key : String) :
    (obj ((name, value) :: fields)).get? key =
      if key = name then some value else (obj fields).get? key := by
  simp only [get?, List.lookup_cons]
  split
  · rename_i same
    rw [if_pos (by simpa using same)]
  · rename_i differs
    rw [if_neg (by simpa using differs)]

/-- A new field hides the old one of its key, and the others are as before. -/
theorem lookup_update (old new : List (String × Json)) (key : String) :
    (update old new).lookup key = (new.lookup key).or (old.lookup key) := by
  -- The fields that are dropped are not the ones that a key without a new field is looked up in.
  have kept (missing : new.lookup key = none) :
      (old.filter fun field => (new.lookup field.1).isNone).lookup key = old.lookup key := by
    induction old with
    | nil => rfl
    | cons field rest ih =>
      by_cases same : key = field.1
      · subst same
        rw [List.filter_cons_of_pos (by rw [missing]; rfl), List.lookup_cons, List.lookup_cons]
        simp only [beq_self_eq_true]
      · have other : (key == field.1) = false := beq_eq_false_iff_ne.mpr same
        have skipped (fields : List (String × Json)) :
            (field :: fields).lookup key = fields.lookup key := by
          rw [List.lookup_cons, other]
        rw [skipped, List.filter_cons]
        split
        · rw [skipped, ih]
        · exact ih
  rw [update, List.lookup_append]
  cases found : new.lookup key with
  | none => simp [kept found]
  | some value => rfl

/-- An object, or the empty one in place of an empty one, is that object. -/
theorem obj_or_empty (fields : List (String × Json)) :
    (if (obj fields).truthy then obj fields else obj []) = obj fields := by
  cases fields with
  | nil => rfl
  | cons field rest => rfl

end Json
