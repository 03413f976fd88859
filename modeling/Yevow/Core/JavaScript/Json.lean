import Yevow.Core.JavaScript.Value

/-!
# JSON values

What `JSON.parse` gives, read the way programs read messages of unknown shape: a field under
the first of several names that is present, and a number converted from whatever is there.
-/

namespace JavaScript

/-- A parsed value, or the `undefined` that reading an absent field gives. -/
inductive Json
  | undefined
  | null
  | boolean (b : Bool)
  | number (n : Number)
  | string (s : String)
  | array (items : List Json)
  | object (fields : List (String × Json))

namespace Json

/-- The own fields of an object; where a name occurs twice, the first counts. -/
abbrev Fields : Type := List (String × Json)

/-- A field that is absent. -/
def isUndefined : Json → Bool
  | undefined => true
  | _ => false

/-- `record[key]`. -/
def field (fields : Fields) (key : String) : Json := (fields.lookup key).getD undefined

/-- `a ?? b`. -/
def orElse (a b : Json) : Json :=
  match a with
  | undefined => b
  | null => b
  | value => value

/-- The first field present under some names. -/
def readField (fields : Fields) (keys : List String) : Json :=
  ((keys.map (field fields)).find? fun value => !value.isUndefined).getD undefined

/-- `items[index]`. -/
def item (items : List Json) (index : ℕ) : Json := (items[index]?).getD undefined

mutual

/-- `Number(String(item))`, as it is read where the item is the only one of a list. -/
def itemNumber (js : Runtime) : Json → Number
  | undefined => .finite 0
  | null => .finite 0
  | boolean _ => .nan
  | number n => n
  | string s => js.toNumber s
  | array items => listNumber js items
  | object _ => .nan

/-- The number of a list's text, where two items have a comma between them. -/
def listNumber (js : Runtime) : List Json → Number
  | [] => .finite 0
  | [item] => itemNumber js item
  | _ :: _ :: _ => .nan

end

/-- `Number(value)` of a value that converts. -/
def toNumber (js : Runtime) : Json → Number
  | undefined => .nan
  | null => .finite 0
  | boolean b => .finite (if b then 1 else 0)
  | number n => n
  | string s => js.toNumber s
  | array items => listNumber js items
  | object _ => .nan

mutual

/-- Neither the value nor an item in it is an object with a `toString` of its own, which is no
function: `Number` and `String` throw on such an object. -/
def converts : Json → Bool
  | array items => itemsConvert items
  | object fields => (fields.lookup "toString").isNone
  | _ => true

/-- Every item of a list converts. -/
def itemsConvert : List Json → Bool
  | [] => true
  | item :: items => converts item && itemsConvert items

end

/-- The value, where `Number` and `String` take it. -/
def converted (value : Json) : Except String Json :=
  if value.converts then .ok value else .error "Cannot convert object to primitive value"

theorem converted_eq_ok {value value' : Json} :
    value.converted = .ok value' ↔ value.converts = true ∧ value' = value := by
  unfold converted
  split_ifs with h <;> simp [h, eq_comm]

/-- A text that is not empty. -/
def stringifyOrNull : Json → Option String
  | string s => if s = "" then none else some s
  | _ => none

/-- The trimmed text in capitals. -/
def normalizeString : Json → Option String
  | string s => some (trim s).toUpper
  | _ => none

end Json

end JavaScript
