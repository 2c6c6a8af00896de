import Restage.LogFilter.Pattern
import Restage.Text.Blank
import Restage.Text.Unseen

/-!
# Log filters

The log level of a configuration is a filter: directives with commas between them. A directive
names a level, a target, or a target and its level, and may narrow the target to a span and to
values of its fields, as in `target[span{field=value}]=level`. Only whether a filter can be
understood is decided here.
-/

namespace Restage.LogFilter

/-- Whether a text is a level: a name in any case, a number up to five, or nothing. -/
def isLevel (text : List Char) : Bool :=
  text.isEmpty
    || ["trace", "debug", "info", "warn", "error", "off"].contains
      (String.ofList (text.map Char.toLower))
    || isSmall (match text with
      | '+' :: digits => digits
      | digits => digits)
where
  /-- A number up to five, zeros before it included. -/
  isSmall (digits : List Char) : Bool :=
    !digits.isEmpty && digits.all Char.isDigit
      && (match digits.dropWhile (· == '0') with
        | [] => true
        | [digit] => digit.toNat ≤ 53
        | _ => false)

/-- Characters beyond ASCII that show without being part of a word, as inclusive ranges. -/
def symbolRanges : List (Nat × Nat) :=
  [(0x80, 0xA9), (0xAB, 0xB1), (0xB4, 0xB4), (0xB6, 0xB8), (0xBB, 0xBB), (0xBF, 0xBF),
    (0xD7, 0xD7), (0xF7, 0xF7), (0x2010, 0x206F), (0x20A0, 0x20CF), (0x2190, 0x245F),
    (0x2500, 0x2775), (0x2794, 0x2BFF), (0x3001, 0x3004), (0x3008, 0x3020), (0xFF01, 0xFF0F),
    (0xFF1A, 0xFF20), (0xFF3B, 0xFF40), (0xFF5B, 0xFF65), (0x1F000, 0x1F0FF),
    (0x1F300, 0x1FBEF)]

/-- Whether a character is a letter or a number of any script. -/
def isWordChar (c : Char) : Bool :=
  c.isAlphanum
    || (0x80 ≤ c.toNat && !Text.isUnseen c && !Text.isBlankChar c
      && !symbolRanges.any fun (low, high) => low ≤ c.toNat && c.toNat ≤ high)

/-- Whether a value needs no pattern: a truth value or a number. -/
def isPlainValue (text : List Char) : Bool :=
  ["true", "false", "inf", "infinity", "nan"].contains (String.ofList (text.map Char.toLower))
    || isNumber (match text with
      | '+' :: rest | '-' :: rest => rest
      | rest => rest)
where
  /-- Digits with at most one point. -/
  isNumber (text : List Char) : Bool :=
    text.any Char.isDigit && text.all (fun c => c.isDigit || c == '.') && text.count '.' ≤ 1

/-- Whether a text narrows a field: its name, and a value behind an equals sign. -/
def isField (text : List Char) : Bool :=
  match text.dropWhile (· != '=') with
  | _ :: value =>
      let value := value.takeWhile (· != '=')
      isPlainValue value || Pattern.isWellFormed value
  | [] => !text.isEmpty

/-- Where a directive is being read. A part that is compared when it ends keeps its beginning. -/
inductive Place where
  | start
  | levelOrTarget
  | span
  | field (from' : Nat)
  | fields
  | target
  | level (from' : Nat)
  | broken
  deriving DecidableEq

/-- One character of a directive, which stands at an index of the directive without the blanks
around it. Parts are taken from the whole directive, so that blanks before it move them. -/
def step (whole : List Char) (place : Place) (c : Char) (index : Nat) : Place :=
  match place with
  | .start =>
      if c == '[' then .span
      else if c == '-' || c == ':' || c == '_' || isWordChar c then .levelOrTarget
      else .broken
  | .levelOrTarget =>
      if c == '=' then .level (index + 1) else if c == '[' then .span else .levelOrTarget
  | .span =>
      if c == ']' then .target else if c == '{' then .field (index + 1) else .span
  | .field from' =>
      if c == '}' then
        if isField ((whole.drop from').take (index - from')) then .fields else .broken
      else .field from'
  | .fields => if c == ']' then .target else .broken
  | .target => if c == '=' then .level (index + 1) else .broken
  | .level from' => .level from'
  | .broken => .broken

/-- Whether a directive is complete where it ends. -/
def isComplete (whole : List Char) : Place → Bool
  | .levelOrTarget | .target => true
  | .level from' => isLevel (whole.drop from')
  | _ => false

/-- Whether a text is a directive. -/
def isDirective (whole : List Char) : Bool :=
  let inner :=
    ((whole.dropWhile Text.isBlankChar).reverse.dropWhile Text.isBlankChar).reverse
  isComplete whole (inner.zipIdx.foldl (fun place (c, index) => step whole place c index) .start)

/-- The parts of a text between its commas. -/
def parts : List Char → List (List Char)
  | [] => [[]]
  | c :: rest =>
      if c == ',' then [] :: parts rest
      else
        match parts rest with
        | part :: more => (c :: part) :: more
        | [] => [[c]]

/-- Whether a filter can be understood: every part that is not empty is a directive. -/
def isUnderstood (text : String) : Bool :=
  (parts text.toList).all fun part => part.isEmpty || isDirective part

end Restage.LogFilter
