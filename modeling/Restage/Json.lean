/-!
# JSON values

A number keeps the characters it was written with, so that `1`, `1.0` and `1e0` stay three
different tokens. A text is absent when one of its escapes stands for half of a surrogate pair:
such a text can be skipped but not read. The members of an object keep their order, and a name
may occur more than once.
-/

namespace Restage

/-- A JSON value as it was written. -/
inductive Json where
  | null
  | bool (value : Bool)
  | number (lexeme : String)
  | text (value : Option String)
  | array (items : List Json)
  | object (members : List (Option String × Json))
  deriving Inhabited

namespace Json

def ofString (value : String) : Json := .text (some value)

def ofNat (value : Nat) : Json := .number (toString value)

def ofInt (value : Int) : Json := .number (toString value)

/-- An object with the given names. -/
def ofMembers (members : List (String × Json)) : Json :=
  .object (members.map fun (name, value) => (some name, value))

/-- The values an object holds under a name, in their order. -/
def valuesOf (name : String) : Json → List Json
  | .object members =>
      members.filterMap fun (key, value) => if key = some name then some value else none
  | _ => []

/-- The value an object holds under a name: the last one, where the name is repeated. -/
def member? (name : String) (json : Json) : Option Json := (json.valuesOf name).getLast?

end Json

end Restage
