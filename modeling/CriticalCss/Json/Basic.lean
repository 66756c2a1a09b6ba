import CriticalCss.Decimal.Shortest
import CriticalCss.Text.Quoted
/-! JSON values. Members of an object keep the order in which their names first appeared, a name
that comes again replaces the value, and whole numbers are kept apart from numbers written with a
point or an exponent.
-/

namespace CriticalCss

/-- A JSON value. -/
inductive Json where
  | null
  | bool (value : Bool)
  | int (value : Int)
  | float (value : Decimal.Binary)
  | str (value : String)
  /-- A text that held halves of surrogate pairs, which are no characters and are replaced. -/
  | torn (value : String)
  | arr (items : List Json)
  | obj (members : List (String × Json))
  deriving Inhabited

namespace Json

/-- Sets a member: in place if the name is known, at the end otherwise. -/
def setMember (members : List (String × Json)) (name : String) (value : Json)
    : List (String × Json) :=
  match members with
  | [] => [(name, value)]
  | (known, old) :: rest =>
    if known = name then (known, value) :: rest else (known, old) :: setMember rest name value

/-- The member of an object with the given name. -/
def get? (json : Json) (name : String) : Option Json :=
  match json with
  | .obj members => members.lookup name
  | _ => none

/-- The text of a string value. -/
def str? : Json → Option String
  | .str value => some value
  | _ => none

/-- The value of a whole number. -/
def int? : Json → Option Int
  | .int value => some value
  | _ => none

/-- The items of an array. -/
def arr? : Json → Option (List Json)
  | .arr items => some items
  | _ => none

/-- A list of strings as an array. -/
def strings (values : List String) : Json :=
  .arr (values.map .str)

/-- A string, or null for none. -/
def ofString? : Option String → Json
  | some value => .str value
  | none => .null

/-- A whole number, or null for none. -/
def ofInt? : Option Int → Json
  | some value => .int value
  | none => .null

mutual
/-- The value as messages show it: words with a capital, texts in quotes. -/
def shown : Json → String
  | .null => "None"
  | .bool value => if value then "True" else "False"
  | .int value => toString value
  | .float value => value.text
  | .str value => Text.quoted value
  | .torn value => Text.quoted value
  | .arr items => "[" ++ ", ".intercalate (shownItems items) ++ "]"
  | .obj members => "\x7b" ++ ", ".intercalate (shownMembers members) ++ "\x7d"

def shownItems : List Json → List String
  | [] => []
  | item :: rest => shown item :: shownItems rest

def shownMembers : List (String × Json) → List String
  | [] => []
  | (name, value) :: rest => (Text.quoted name ++ ": " ++ shown value) :: shownMembers rest
end

/-- The word messages use for the type of the value. -/
def typeWord : Json → String
  | .null => "NoneType"
  | .bool _ => "bool"
  | .int _ => "int"
  | .float _ => "float"
  | .str _ | .torn _ => "str"
  | .arr _ => "list"
  | .obj _ => "dict"

/-- Values that count as false: null, false, zero and whatever is empty. -/
def isTruthy : Json → Bool
  | .null => false
  | .bool value => value
  | .int value => value != 0
  | .float (.finite _ mantissa _) => mantissa != 0
  | .float _ => true
  | .str value => !value.isEmpty
  | .torn value => !value.isEmpty
  | .arr items => !items.isEmpty
  | .obj members => !members.isEmpty

mutual
/-- Can the value be sent? JSON has no words for numbers that are not finite, and bytes have none
for half of a surrogate pair. -/
def isSendable : Json → Bool
  | .float (.finite ..) => true
  | .float _ | .torn _ => false
  | .arr items => areSendable items
  | .obj members => membersAreSendable members
  | _ => true

def areSendable : List Json → Bool
  | [] => true
  | item :: rest => isSendable item && areSendable rest

def membersAreSendable : List (String × Json) → Bool
  | [] => true
  | (_, value) :: rest => isSendable value && membersAreSendable rest
end

end Json

end CriticalCss
