import MovePlan.Numeric.Written

/-!
# JSON values

Numbers written without a point or an exponent are integers of any size; all others are floating
point. The fields of an object keep the order in which their keys first came, and no key occurs
twice: a later value takes the place of an earlier one.
-/

namespace MovePlan

/-- A JSON value. -/
inductive Json where
  | null
  | bool (value : Bool)
  | int (value : Int)
  | float (value : Numeric.Binary64)
  | str (value : String)
  | arr (items : List Json)
  | obj (fields : List (String × Json))
  deriving Inhabited

namespace Json

/-- The fields of an object. -/
abbrev Fields := List (String × Json)

/-- Sets a field: in place if the key is there, else at the end. -/
def setField (key : String) (value : Json) : Fields → Fields
  | [] => [(key, value)]
  | (k, v) :: rest => if k = key then (k, value) :: rest else (k, v) :: setField key value rest

/-- The fields in order of their keys' first coming, each with the last value given to it. -/
def ofFields (fields : Fields) : Fields :=
  fields.foldl (fun acc f => setField f.1 f.2 acc) []

/-- The value of a field. -/
def field? (key : String) : Fields → Option Json
  | [] => none
  | (k, v) :: rest => if k = key then some v else field? key rest

/-- The value of a field of an object; none for other values. -/
def get? (key : String) : Json → Option Json
  | obj fields => field? key fields
  | _ => none

/-- The value of a field of an object, and null where there is none. -/
def get (key : String) (j : Json) : Json := (j.get? key).getD null

/-- A field that is set has its new value. -/
@[simp] theorem field?_setField_self (key : String) (value : Json) (fields : Fields) :
    field? key (setField key value fields) = some value := by
  induction fields with
  | nil => simp [setField, field?]
  | cons f rest ih =>
    obtain ⟨k, v⟩ := f
    by_cases h : k = key <;> simp [setField, field?, h, ih]

/-- Setting a field leaves the others alone. -/
theorem field?_setField_of_ne {key other : String} (h : other ≠ key) (value : Json)
    (fields : Fields) : field? other (setField key value fields) = field? other fields := by
  induction fields with
  | nil => simp [setField, field?, h.symm]
  | cons f rest ih =>
    obtain ⟨k, v⟩ := f
    by_cases hk : k = key
    · subst hk; simp [setField, field?, h.symm]
    · simp [setField, field?, hk, ih]

/-! ## Views -/

def text? : Json → Option String
  | str s => some s
  | _ => none

def items? : Json → Option (List Json)
  | arr xs => some xs
  | _ => none

def fields? : Json → Option Fields
  | obj fs => some fs
  | _ => none

def int? : Json → Option Int
  | int n => some n
  | _ => none

def isObject : Json → Bool
  | obj _ => true
  | _ => false

def isNull : Json → Bool
  | null => true
  | _ => false

/-- Whether a value counts as given: neither null, false, zero nor empty. -/
def given : Json → Bool
  | null => false
  | bool b => b
  | int n => n != 0
  | float x => !x.isZero
  | str s => s != ""
  | arr xs => !xs.isEmpty
  | obj fs => !fs.isEmpty

/-- The first value if it counts as given, else the second. -/
def orElse (j other : Json) : Json := if j.given then j else other

/-- The word for the kind of a value in messages. -/
def kindWord : Json → String
  | null => "NoneType"
  | bool _ => "bool"
  | int _ => "int"
  | float _ => "float"
  | str _ => "str"
  | arr _ => "list"
  | obj _ => "dict"

/-- The members of a value that is gone through: the items of an array, the characters of a text,
the keys of an object. Other values have none. -/
def members? : Json → Option (List Json)
  | arr xs => some xs
  | str s => some (s.toList.map fun c => str (String.singleton c))
  | obj fs => some (fs.map fun f => str f.1)
  | _ => none

/-! ## Making values -/

def ofOption {α : Type} (f : α → Json) : Option α → Json
  | none => null
  | some a => f a

def nat (n : Nat) : Json := int n

def texts (xs : List String) : Json := arr (xs.map str)

end Json

end MovePlan
