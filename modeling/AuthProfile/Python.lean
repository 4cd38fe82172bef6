import AuthProfile.Json

set_option autoImplicit false

-- Values as Python's json.loads makes them. A float is told from the others by its repr.
inductive Value where
  | none
  | bool (value : Bool)
  | int (value : Int)
  | float (repr : String)
  | str (text : String)
  | list (items : List Value)
  | dict (fields : List (String × Value))

namespace Value

def typeName : Value → String
  | .none => "NoneType"
  | .bool _ => "bool"
  | .int _ => "int"
  | .float _ => "float"
  | .str _ => "str"
  | .list _ => "list"
  | .dict _ => "dict"

def truthy : Value → Bool
  | .none => false
  | .bool value => value
  | .int value => value ≠ 0
  | .float repr => repr ≠ "0.0" && repr ≠ "-0.0"
  | .str text => text ≠ ""
  | .list items => !items.isEmpty
  | .dict fields => !fields.isEmpty

-- A repeated key keeps its last value.
def get (name : String) : Value → Option Value
  | .dict fields => (fields.reverse.find? fun field => field.1 = name).map Prod.snd
  | _ => .none

def isDict : Value → Bool
  | .dict _ => true
  | _ => false

section Repr

-- Which characters print as themselves is a matter of the Unicode tables.
variable (printable : Char → Bool)

def hexDigits : Nat → Nat → List Char
  | 0, _ => []
  | width + 1, n => Json.hexDigit (n / 16 ^ width % 16) :: hexDigits width n

def reprChar (quote c : Char) : List Char :=
  if c = quote ∨ c = '\\' then ['\\', c]
  else if c = '\t' then ['\\', 't']
  else if c = '\n' then ['\\', 'n']
  else if c = '\r' then ['\\', 'r']
  else if c.toNat < 32 ∨ c.toNat = 127 then '\\' :: 'x' :: hexDigits 2 c.toNat
  else if c.toNat < 127 ∨ printable c = true then [c]
  else if c.toNat < 256 then '\\' :: 'x' :: hexDigits 2 c.toNat
  else if c.toNat < 65536 then '\\' :: 'u' :: hexDigits 4 c.toNat
  else '\\' :: 'U' :: hexDigits 8 c.toNat

-- Single quotes, unless the text holds one and no double quote.
def reprText (text : String) : List Char :=
  let quote := if '\x27' ∈ text.toList ∧ '"' ∉ text.toList then '"' else '\x27'
  quote :: text.toList.flatMap (reprChar printable quote) ++ [quote]

mutual
def repr : Value → List Char
  | .none => "None".toList
  | .bool true => "True".toList
  | .bool false => "False".toList
  | .int value => Json.integer value
  | .float repr => repr.toList
  | .str text => reprText printable text
  | .list [] => ['[', ']']
  | .list (first :: rest) => '[' :: repr first ++ reprItems rest
  | .dict [] => ['{', '}']
  | .dict ((name, first) :: rest) => '{' :: reprText printable name ++ ':' :: ' ' :: repr first ++ reprFields rest
def reprItems : List Value → List Char
  | [] => [']']
  | item :: rest => ',' :: ' ' :: repr item ++ reprItems rest
def reprFields : List (String × Value) → List Char
  | [] => ['}']
  | (name, value) :: rest => ',' :: ' ' :: reprText printable name ++ ':' :: ' ' :: repr value ++ reprFields rest
end

def toStr : Value → String
  | .str text => text
  | value => String.ofList (repr printable value)

-- str(value or "")
def toStrOr : Option Value → String
  | some value => if value.truthy then value.toStr printable else ""
  | _ => ""

theorem to_str_or_text (text : String) : toStrOr printable (some (.str text)) = text := by
  by_cases empty : text = ""
  · simp [toStrOr, truthy, empty]
  · simp [toStrOr, truthy, empty, toStr]

end Repr

-- A value of Python's json module, seen as the value json.loads reads it back as.
mutual
def ofJson : Json → Value
  | .null => .none
  | .bool value => .bool value
  | .num value => .int value
  | .str text => .str text
  | .arr items => .list (ofItems items)
  | .obj fields => .dict (ofFields fields)
def ofItems : List Json → List Value
  | [] => []
  | item :: rest => ofJson item :: ofItems rest
def ofFields : List (String × Json) → List (String × Value)
  | [] => []
  | (name, value) :: rest => (name, ofJson value) :: ofFields rest
end

theorem of_fields_map (fields : List (String × Json)) :
    ofFields fields = fields.map fun field => (field.1, ofJson field.2) := by
  induction fields with
  | nil => rfl
  | cons field rest ih =>
      obtain ⟨name, value⟩ := field
      rw [ofFields, ih, List.map_cons]

theorem get_of_json (name : String) (value : Json) : (ofJson value).get name = (value.get name).map ofJson := by
  cases value with
  | obj fields =>
      simp only [ofJson, get, Json.get, of_fields_map, ← List.map_reverse, List.find?_map, Option.map_map]
      rfl
  | null => rfl
  | bool value => rfl
  | num value => rfl
  | str text => rfl
  | arr items => rfl

end Value
