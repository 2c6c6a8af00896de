/-!
# Paths

A path is kept as it was spelled. Two spellings name the same place when their components agree:
repeated slashes, a slash at the end and inner `.` components do not count, while `..` stays a
component of its own. Nothing is resolved against a disk here.
-/

namespace Restage

/-- One step of a path. `here` occurs only as the first step of a relative path. -/
inductive Component where
  | root
  | here
  | up
  | name (text : List Char)
  deriving DecidableEq, Repr

/-- A path in one of its spellings. -/
structure Path where
  text : String
  deriving DecidableEq, Repr, Inhabited

namespace Path

/-- The parts of a text between its slashes, empty ones included. -/
def splitSlashes : List Char → List (List Char)
  | [] => [[]]
  | c :: rest =>
      if c = '/' then [] :: splitSlashes rest
      else
        match splitSlashes rest with
        | part :: parts => (c :: part) :: parts
        | [] => [[c]]

/-- The step a part between slashes stands for, if any. -/
def ofPart? (part : List Char) : Option Component :=
  if part = [] ∨ part = ['.'] then none
  else if part = ['.', '.'] then some .up
  else some (.name part)

/-- The first step of a spelling: the root, or the directory a relative path starts in when it
says so. -/
def leading (text : List Char) : List Component :=
  if text.head? = some '/' then [.root]
  else if (splitSlashes text).head? = some ['.'] then [.here]
  else []

/-- The steps of a spelling. -/
def componentsOf (text : List Char) : List Component :=
  leading text ++ (splitSlashes text).filterMap ofPart?

def components (path : Path) : List Component := componentsOf path.text.toList

/-- Whether two spellings name the same place. -/
def Agree (left right : Path) : Prop := left.components = right.components

instance (left right : Path) : Decidable (left.Agree right) := inferInstanceAs (Decidable (_ = _))

/-- A further path below this one. An absolute path replaces it, and an empty one leaves a slash
at its end. -/
def join (base : Path) (more : String) : Path :=
  if more.toList.head? = some '/' then ⟨more⟩
  else
    match base.text.toList.getLast? with
    | none => ⟨more⟩
    | some '/' => ⟨base.text ++ more⟩
    | some _ => ⟨base.text ++ "/" ++ more⟩

/-- The name a path ends in; none when it ends in the root, in `.` or in `..`. -/
def fileName? (path : Path) : Option String :=
  match path.components.getLast? with
  | some (.name text) => some (String.ofList text)
  | _ => none

instance : ToString Path := ⟨Path.text⟩

end Path

end Restage
