/-!
# Patterns in log filters

The value a field is compared with may be a pattern. `Pattern.isWellFormed` tells whether its
groups, classes, escapes and repetitions are in order; what it matches is not needed here.
-/

namespace Restage.LogFilter.Pattern

/-- Where a pattern is being read. -/
inductive Place where
  | plain
  | escape
  | groupStart
  | groupFlag
  | classStart
  | classStartNegated
  | classBody
  | classEscape
  | broken
  deriving DecidableEq

/-- How far a pattern is read: the place, the groups and classes that are open, and whether
something stands before that a repetition could repeat. -/
structure Reading where
  place : Place := .plain
  groups : Nat := 0
  classes : Nat := 0
  operand : Bool := false

/-- Letters that mean something behind a backslash. -/
def isEscapeLetter (c : Char) : Bool := "dDsSwWAznrtfvaxuUpP".toList.contains c

/-- One character outside of classes. -/
def plainStep (reading : Reading) (c : Char) : Reading :=
  if c == '\\' then { reading with place := .escape }
  else if c == '[' then { reading with place := .classStart, classes := 1 }
  else if c == '(' then
    { reading with place := .groupStart, groups := reading.groups + 1, operand := false }
  else if c == ')' then
    if reading.groups == 0 then { reading with place := .broken }
    else { reading with place := .plain, groups := reading.groups - 1, operand := true }
  else if c == '|' then { reading with place := .plain, operand := false }
  else if c == '*' || c == '+' || c == '?' then
    if reading.operand then { reading with place := .plain } else { reading with place := .broken }
  else if c == '{' then { reading with place := .broken }
  else { reading with place := .plain, operand := true }

/-- One character inside a class. -/
def classStep (reading : Reading) (c : Char) : Reading :=
  if c == '\\' then { reading with place := .classEscape }
  else if c == '[' then { reading with place := .classStart, classes := reading.classes + 1 }
  else if c == ']' then
    if reading.classes ≤ 1 then { reading with place := .plain, classes := 0, operand := true }
    else { reading with place := .classBody, classes := reading.classes - 1 }
  else { reading with place := .classBody }

/-- One character. -/
def step (reading : Reading) (c : Char) : Reading :=
  match reading.place with
  | .plain => plainStep reading c
  | .escape =>
      if c.isAlphanum && !isEscapeLetter c then { reading with place := .broken }
      else { reading with place := .plain, operand := true }
  | .groupStart => if c == '?' then { reading with place := .groupFlag } else plainStep reading c
  | .groupFlag =>
      if ":P<imsUuxR-".toList.contains c then { reading with place := .plain }
      else { reading with place := .broken }
  | .classStart =>
      if c == '^' then { reading with place := .classStartNegated }
      else if c == ']' then { reading with place := .classBody }
      else classStep reading c
  | .classStartNegated =>
      if c == ']' then { reading with place := .classBody } else classStep reading c
  | .classBody => classStep reading c
  | .classEscape =>
      if c.isAlphanum && !isEscapeLetter c then { reading with place := .broken }
      else { reading with place := .classBody }
  | .broken => reading

/-- Whether a text is a pattern. -/
def isWellFormed (text : List Char) : Bool :=
  let reading := text.foldl step {}
  reading.place == .plain && reading.groups == 0

end Restage.LogFilter.Pattern
