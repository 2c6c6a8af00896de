import Restage.Json.Token

/-!
# Reading JSON

A value is assembled from its tokens with a stack of the arrays and objects that are still open,
so the depth of a text is bounded by its length alone.
-/

namespace Restage.Json

/-- An array or object that is still open, with what it holds so far in reverse. -/
inductive Frame where
  | array (items : List Json)
  | object (members : List (Option String × Json))
  | member (members : List (Option String × Json)) (name : Option String)

/-- What may come next. -/
inductive Expect where
  | value
  | valueOrClose
  | name
  | nameOrClose
  | colon
  | commaOrClose
  | finish (value : Json)

/-- The reader between two tokens. -/
structure Reader where
  expect : Expect
  stack : List Frame

namespace Reader

def start : Reader := ⟨.value, []⟩

/-- Puts a finished value where the innermost open frame wants it. -/
def put (stack : List Frame) (value : Json) : Reader :=
  match stack with
  | [] => ⟨.finish value, []⟩
  | .array items :: rest => ⟨.commaOrClose, .array (value :: items) :: rest⟩
  | .member members name :: rest => ⟨.commaOrClose, .object ((name, value) :: members) :: rest⟩
  | .object members :: rest => ⟨.commaOrClose, .object ((none, value) :: members) :: rest⟩

/-- The first token of a value. -/
def beginValue? (stack : List Frame) : Token → Option Reader
  | .openBracket => some ⟨.valueOrClose, .array [] :: stack⟩
  | .openBrace => some ⟨.nameOrClose, .object [] :: stack⟩
  | .text value => some (put stack (.text value))
  | .scalar value => some (put stack value)
  | _ => none

/-- The name of a member. -/
def beginMember? (stack : List Frame) : Token → Option Reader
  | .text name =>
      match stack with
      | .object members :: rest => some ⟨.colon, .member members name :: rest⟩
      | _ => none
  | _ => none

/-- A closing mark that fits the innermost open frame. -/
def close? (stack : List Frame) : Token → Option Reader
  | .closeBracket =>
      match stack with
      | .array items :: rest => some (put rest (.array items.reverse))
      | _ => none
  | .closeBrace =>
      match stack with
      | .object members :: rest => some (put rest (.object members.reverse))
      | _ => none
  | _ => none

/-- What follows a comma: another item or another member. -/
def afterComma? (stack : List Frame) : Option Reader :=
  match stack with
  | .array _ :: _ => some ⟨.value, stack⟩
  | .object _ :: _ => some ⟨.name, stack⟩
  | _ => none

/-- Takes one token. -/
def step (reader : Reader) (token : Token) : Option Reader :=
  match reader.expect with
  | .value => beginValue? reader.stack token
  | .valueOrClose =>
      match token with
      | .closeBracket => close? reader.stack token
      | _ => beginValue? reader.stack token
  | .name => beginMember? reader.stack token
  | .nameOrClose =>
      match token with
      | .closeBrace => close? reader.stack token
      | _ => beginMember? reader.stack token
  | .colon =>
      match token with
      | .colon => some ⟨.value, reader.stack⟩
      | _ => none
  | .commaOrClose =>
      match token with
      | .comma => afterComma? reader.stack
      | _ => close? reader.stack token
  | .finish _ => none

/-- Takes tokens from the first on. -/
def run (reader : Reader) : List Token → Option Reader
  | [] => some reader
  | token :: rest =>
      match reader.step token with
      | some next => run next rest
      | none => none

/-- The value, once it is complete. -/
def value? (reader : Reader) : Option Json :=
  match reader.expect with
  | .finish value => some value
  | _ => none

end Reader

/-- The value that a row of tokens is. -/
def ofTokens? (tokens : List Token) : Option Json :=
  (Reader.start.run tokens).bind Reader.value?

/-- Reads a text that holds one value and nothing else. -/
def parse? (text : String) : Option Json := (tokens? text.toList).bind ofTokens?

end Restage.Json
