import Restage.Json
import Restage.Text.Hex

/-!
# JSON tokens

The lexer is a machine that takes one character at a time; `Lexer.step` has no result where the
characters so far begin no JSON text. Numbers and words are collected first and checked against
the grammar when they end. `Json.tokens?` runs the machine over a whole text.
-/

namespace Restage.Json

/-- A mark of punctuation, or a value without parts. -/
inductive Token where
  | openBracket
  | closeBracket
  | openBrace
  | closeBrace
  | colon
  | comma
  | text (value : Option String)
  | scalar (value : Json)
  deriving Inhabited

/-! ## Numbers and words -/

/-- Drops a run of digits, none when there is no digit to drop. -/
def dropDigits? (cs : List Char) : Option (List Char) :=
  if (cs.takeWhile Char.isDigit).isEmpty then none else some (cs.dropWhile Char.isDigit)

/-- Drops an exponent, where one stands. -/
def dropExponent? : List Char → Option (List Char)
  | 'e' :: '+' :: rest | 'e' :: '-' :: rest | 'E' :: '+' :: rest | 'E' :: '-' :: rest =>
      dropDigits? rest
  | 'e' :: rest | 'E' :: rest => dropDigits? rest
  | rest => some rest

/-- Drops a fraction, where one stands. -/
def dropFraction? : List Char → Option (List Char)
  | '.' :: rest => dropDigits? rest
  | rest => some rest

/-- Drops a whole number: a lone zero, or digits that begin with another one. -/
def dropWhole? : List Char → Option (List Char)
  | '0' :: rest => some rest
  | rest => dropDigits? rest

/-- Whether the characters are one number of the grammar. -/
def isNumber (cs : List Char) : Bool :=
  let unsigned := match cs with
    | '-' :: rest => rest
    | rest => rest
  ((dropWhole? unsigned).bind dropFraction?).bind dropExponent? == some []

/-- The value of a word. -/
def ofWord? (word : String) : Option Json :=
  if word = "null" then some .null
  else if word = "true" then some (.bool true)
  else if word = "false" then some (.bool false)
  else none

/-! ## The machine -/

/-- What the lexer is in the middle of. Characters read so far stand in reverse; a text that
cannot be read any more has lost them. `high` is the first half of a surrogate pair. -/
inductive Lexer.Mode where
  | between
  | text (read : Option (List Char)) (high : Option Nat)
  | escape (read : Option (List Char)) (high : Option Nat)
  | unicode (read : Option (List Char)) (high : Option Nat) (count value : Nat)
  | number (read : List Char)
  | word (read : List Char)

/-- The lexer between two characters, with the finished tokens in reverse. -/
structure Lexer where
  mode : Lexer.Mode
  done : List Token

namespace Lexer

def start : Lexer := ⟨.between, []⟩

def isBlank (c : Char) : Bool := c == ' ' || c == '\n' || c == '\t' || c == '\r'

def isNumberPart (c : Char) : Bool :=
  c.isDigit || c == '-' || c == '+' || c == '.' || c == 'e' || c == 'E'

/-- The character a one-letter escape stands for. -/
def ofEscape? (c : Char) : Option Char :=
  if c == Char.ofNat 34 || c == '\\' || c == '/' then some c
  else if c == 'b' then some (Char.ofNat 8)
  else if c == 'f' then some (Char.ofNat 12)
  else if c == 'n' then some '\n'
  else if c == 'r' then some '\r'
  else if c == 't' then some '\t'
  else none

/-- One more character of a text. Half of a pair that was waiting stays alone. -/
def pushChar (read : Option (List Char)) (high : Option Nat) (c : Char) : Mode :=
  match high with
  | none => .text (read.map (c :: ·)) none
  | some _ => .text none none

/-- One more UTF-16 unit of a text, as a numeric escape gives it. -/
def pushUnit (read : Option (List Char)) (high : Option Nat) (unit : Nat) : Mode :=
  let isLow := 0xDC00 ≤ unit ∧ unit ≤ 0xDFFF
  let isHigh := 0xD800 ≤ unit ∧ unit ≤ 0xDBFF
  match high with
  | some first =>
      if isLow then
        .text (read.map (Char.ofNat (0x10000 + (first - 0xD800) * 0x400 + (unit - 0xDC00)) :: ·))
          none
      else .text none none
  | none =>
      if isHigh then .text read (some unit)
      else if isLow then .text none none
      else .text (read.map (Char.ofNat unit :: ·)) none

/-- The token a text ends as. -/
def closeText (read : Option (List Char)) (high : Option Nat) : Token :=
  match high with
  | none => .text (read.map fun cs => String.ofList cs.reverse)
  | some _ => .text none

/-- A character outside of any token. -/
def begin? (done : List Token) (c : Char) : Option Lexer :=
  if isBlank c then some ⟨.between, done⟩
  else if c == '[' then some ⟨.between, .openBracket :: done⟩
  else if c == ']' then some ⟨.between, .closeBracket :: done⟩
  else if c == '{' then some ⟨.between, .openBrace :: done⟩
  else if c == '}' then some ⟨.between, .closeBrace :: done⟩
  else if c == ':' then some ⟨.between, .colon :: done⟩
  else if c == ',' then some ⟨.between, .comma :: done⟩
  else if c == Char.ofNat 34 then some ⟨.text (some []) none, done⟩
  else if c.isDigit || c == '-' then some ⟨.number [c], done⟩
  else if c.isLower then some ⟨.word [c], done⟩
  else none

/-- Ends a number or a word, if the lexer is inside one. -/
def settle? (lexer : Lexer) : Option Lexer :=
  match lexer.mode with
  | .between => some lexer
  | .number read =>
      if isNumber read.reverse then
        some ⟨.between, .scalar (.number (String.ofList read.reverse)) :: lexer.done⟩
      else none
  | .word read =>
      (ofWord? (String.ofList read.reverse)).map fun value =>
        ⟨.between, .scalar value :: lexer.done⟩
  | _ => none

/-- Takes one character. -/
def step (lexer : Lexer) (c : Char) : Option Lexer :=
  match lexer.mode with
  | .between => begin? lexer.done c
  | .number read =>
      if isNumberPart c then some ⟨.number (c :: read), lexer.done⟩
      else lexer.settle?.bind fun settled => begin? settled.done c
  | .word read =>
      if c.isLower then some ⟨.word (c :: read), lexer.done⟩
      else lexer.settle?.bind fun settled => begin? settled.done c
  | .text read high =>
      if c == Char.ofNat 34 then some ⟨.between, closeText read high :: lexer.done⟩
      else if c == '\\' then some ⟨.escape read high, lexer.done⟩
      else if c.toNat < 32 then none
      else some ⟨pushChar read high c, lexer.done⟩
  | .escape read high =>
      if c == 'u' then some ⟨.unicode read high 0 0, lexer.done⟩
      else (ofEscape? c).map fun meant => ⟨pushChar read high meant, lexer.done⟩
  | .unicode read high count value =>
      (Text.Hex.value? c).map fun digit =>
        if count = 3 then ⟨pushUnit read high (value * 16 + digit), lexer.done⟩
        else ⟨.unicode read high (count + 1) (value * 16 + digit), lexer.done⟩

/-- Takes characters from the first on. -/
def run (lexer : Lexer) : List Char → Option Lexer
  | [] => some lexer
  | c :: rest =>
      match lexer.step c with
      | some next => run next rest
      | none => none

end Lexer

/-- The tokens of a text, in their order. -/
def tokens? (text : List Char) : Option (List Token) :=
  ((Lexer.start.run text).bind Lexer.settle?).map fun lexer => lexer.done.reverse

end Restage.Json
