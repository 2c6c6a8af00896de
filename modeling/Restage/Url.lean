import Restage.Url.Host

/-!
# Addresses

`Url.check` tells whether a text is an absolute address, and what is wrong with it otherwise. Only
the scheme, the host and the port can be wrong: paths, queries and user names are taken as they
come.
-/

namespace Restage.Url

/-- How an address is read on behind its scheme. -/
inductive SchemeKind where
  | file
  | special
  | other
  deriving DecidableEq

/-- The kind of a scheme, which is spelled in lower case. -/
def SchemeKind.of (scheme : String) : SchemeKind :=
  if scheme = "file" then .file
  else if ["http", "https", "ws", "wss", "ftp"].contains scheme then .special
  else .other

def SchemeKind.IsSpecial (kind : SchemeKind) : Prop := kind ≠ .other

instance (kind : SchemeKind) : Decidable kind.IsSpecial := inferInstanceAs (Decidable (_ ≠ _))

/-- The characters that count: none of the controls and blanks around the text, and no tab or line
break inside it. -/
def significant (text : List Char) : List Char :=
  let trimmed := ((text.dropWhile isEdge).reverse.dropWhile isEdge).reverse
  trimmed.filter fun c => !(c == '\t' || c == '\n' || c == '\r')
where
  /-- A control or a blank. -/
  isEdge (c : Char) : Bool := c.toNat ≤ 0x20

/-- Splits off the scheme. -/
def splitScheme? (text : List Char) : Option (String × List Char) :=
  let scheme := text.takeWhile isSchemePart
  match text.head?, text.drop scheme.length with
  | some first, ':' :: rest =>
      if first.isAlpha then some (String.ofList (scheme.map Char.toLower), rest) else none
  | _, _ => none
where
  /-- A character of a scheme. -/
  isSchemePart (c : Char) : Bool := c.isAlphanum || c == '+' || c == '-' || c == '.'

/-- Whether a character ends the part of an address that names the host. -/
def endsAuthority (kind : SchemeKind) (c : Char) : Bool :=
  c == '/' || c == '?' || c == '#' || (kind.IsSpecial && c == '\\')

/-- What precedes the last `@`, if there is one, and what follows it. -/
def splitUser (authority : List Char) : Option (List Char) × List Char :=
  let reversed := authority.reverse
  let host := (reversed.takeWhile (· != '@')).reverse
  match reversed.dropWhile (· != '@') with
  | [] => (none, host)
  | _ :: user => (some user.reverse, host)

/-- The host's characters: up to the first colon that stands in no brackets. -/
def hostPart (bracketed : Bool) : List Char → List Char
  | [] => []
  | c :: rest =>
      if c == ':' && !bracketed then []
      else c :: hostPart (if c == '[' then true else if c == ']' then false else bracketed) rest

/-- The test of what follows the colon behind a host. -/
def checkPort (value : Nat) : List Char → Except UrlFault Unit
  | [] => .ok ()
  | c :: rest =>
      if c.isDigit then
        let value := value * 10 + (c.toNat - 48)
        if 65535 < value then .error .badPort else checkPort value rest
      else if c == '\\' then .ok ()
      else .error .badPort

/-- Whether a user part leaves any trace in the address: a name or a password. -/
def namesUser (user : List Char) : Bool := !(user.isEmpty || user == [':'])

/-- The test of an address behind its double slash. -/
def checkAuthority (kind : SchemeKind) (text : List Char) : Except UrlFault Unit :=
  let authority := text.takeWhile fun c => !endsAuthority kind c
  let rest := text.drop authority.length
  let (user, hostAndPort) := splitUser authority
  let host := hostPart false hostAndPort
  let port := hostAndPort.drop host.length
  if user == some [] && hostAndPort.isEmpty && !rest.isEmpty then .error .emptyHost
  else if host.isEmpty then
    if kind.IsSpecial ∨ !port.isEmpty ∨ (user.map namesUser).getD false then .error .emptyHost
    else .ok ()
  else
    match if kind.IsSpecial then checkSpecialHost host else checkOpaqueHost host with
    | .error fault => .error fault
    | .ok () => checkPort 0 (port.drop 1)

/-- Whether a file's host is a drive letter instead. -/
def isDrive (host : List Char) : Bool :=
  match host with
  | [letter, mark] => letter.isAlpha && (mark == ':' || mark == '|')
  | _ => false

/-- The test of a file's address behind its scheme. -/
def checkFile (text : List Char) : Except UrlFault Unit :=
  match text with
  | a :: b :: rest =>
      if isSlash a && isSlash b then
        let host := rest.takeWhile fun c => !endsAuthority .file c
        if host.isEmpty || isDrive host then .ok () else checkSpecialHost host
      else .ok ()
  | _ => .ok ()
where
  /-- A slash in either direction. -/
  isSlash (c : Char) : Bool := c == '/' || c == '\\'

/-- The test of an address. -/
def check (text : String) : Except UrlFault Unit :=
  match splitScheme? (significant text.toList) with
  | none => .error .noScheme
  | some (scheme, rest) =>
      match SchemeKind.of scheme with
      | .file => checkFile rest
      | .special =>
          checkAuthority .special (rest.dropWhile fun c => c == '/' || c == '\\')
      | .other =>
          match rest with
          | '/' :: '/' :: rest => checkAuthority .other rest
          | _ => .ok ()

end Restage.Url
