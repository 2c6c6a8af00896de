import Restage.Text.Blank
import Restage.Text.Hex
import Restage.Text.Unseen
import Restage.Url.Fault

/-!
# Hosts of addresses

A host in brackets is an IPv6 address. Under a special scheme any other host is a domain name,
which is folded to lower-case ASCII first, and an IPv4 address when its last label is a number.
Under any other scheme it is opaque and only kept free of a few characters.
-/

namespace Restage.Url

/-! ## IPv6 -/

/-- A run of decimal digits up to 255 without leading zeros, and what follows it. -/
def octet? (cs : List Char) : Option (List Char) :=
  let digits := cs.takeWhile Char.isDigit
  let value := digits.foldl (fun (sum : Nat) c => sum * 10 + (c.toNat - 48)) 0
  if digits.isEmpty || 255 < value || (digits.head? == some '0' && 1 < digits.length) then none
  else some (cs.dropWhile Char.isDigit)

/-- Whether the characters are `count` octets with points between them. -/
def isDotted : Nat → List Char → Bool
  | 0, _ => false
  | 1, cs => octet? cs == some []
  | count + 1, cs =>
      match octet? cs with
      | some ('.' :: rest) => isDotted count rest
      | _ => false

/-- Whether the characters end an IPv6 address of which `pieces` are read. `shortened` tells
whether a double colon stood already, and `fuel` bounds the pieces that may follow. -/
def isIpv6Tail (fuel pieces : Nat) (shortened : Bool) (cs : List Char) : Bool :=
  match fuel, cs with
  | 0, _ => false
  | _, [] => pieces == 8 || shortened
  | fuel + 1, ':' :: rest =>
      pieces < 8 && !shortened && isIpv6Tail fuel (pieces + 1) true rest
  | fuel + 1, cs =>
      let digits := (cs.take 4).takeWhile fun c => (Text.Hex.value? c).isSome
      match cs.drop digits.length with
      | [] => pieces < 8 && (pieces == 7 || shortened)
      | '.' :: _ =>
          !digits.isEmpty && pieces < 7 && isDotted 4 cs && (pieces == 6 || shortened)
      | [':'] => false
      | ':' :: rest => pieces < 8 && isIpv6Tail fuel (pieces + 1) shortened rest
      | _ => false

/-- Whether the characters between brackets are an IPv6 address. -/
def isIpv6 (cs : List Char) : Bool :=
  match cs with
  | ':' :: ':' :: rest => isIpv6Tail (cs.length + 1) 1 true rest
  | ':' :: _ => false
  | [] | [_] => false
  | _ => isIpv6Tail (cs.length + 1) 0 false cs

/-- The test of a host that begins with a bracket. -/
def checkBracketed (host : List Char) : Except UrlFault Unit :=
  if host.getLast? = some ']' ∧ isIpv6 (host.drop 1).dropLast then .ok () else .error .badIpv6

/-! ## IPv4 -/

/-- The parts of a name between its points. -/
def labels : List Char → List (List Char)
  | [] => [[]]
  | c :: rest =>
      if c = '.' then [] :: labels rest
      else
        match labels rest with
        | label :: more => (c :: label) :: more
        | [] => [[c]]

/-- The digits of a number and their base: a leading `0x` or `0` makes it sixteen or eight. -/
def numeral (cs : List Char) : Nat × List Char :=
  match cs with
  | '0' :: 'x' :: digits | '0' :: 'X' :: digits => (16, digits)
  | '0' :: c :: digits => (8, c :: digits)
  | digits => (10, digits)

/-- The value of a label that is a number. -/
def number? (label : List Char) : Option Nat :=
  if label.isEmpty then none
  else
    let (base, digits) := numeral label
    digits.foldlM (fun sum c => (Text.Hex.value? c).bind fun digit =>
      if digit < base then some (sum * base + digit) else none) 0

/-- The labels of a name without the empty one behind a point at its end. -/
def properLabels (name : List Char) : List (List Char) :=
  let all := labels name
  if 1 < all.length ∧ all.getLast? = some [] then all.dropLast else all

/-- Whether the last label says that the name is meant as an IPv4 address. -/
def endsInNumber (name : List Char) : Bool :=
  match (properLabels name).getLast? with
  | some label => !label.isEmpty && (label.all Char.isDigit || (number? label).isSome)
  | none => false

/-- Whether a name is an IPv4 address: up to four numbers, of which the last fills what the
others leave of 32 bits. -/
def isIpv4 (name : List Char) : Bool :=
  let parts := properLabels name
  match parts.mapM number? with
  | some numbers =>
      numbers.length ≤ 4 && numbers.dropLast.all (· ≤ 255)
        && (match numbers.getLast? with
          | some last => last < Nat.pow 256 (5 - numbers.length)
          | none => false)
  | none => false

/-! ## Domain names -/

/-- Characters no domain name may hold, whatever they were written as. -/
def isForbiddenInDomain (c : Char) : Bool :=
  c.toNat ≤ 0x20 || c.toNat == 0x7F || "#/:<>?@[\\]^|%".toList.contains c

/-- Characters that a domain name drops: soft hyphens, joiners of words and selectors. -/
def isDroppedInDomain (c : Char) : Bool :=
  c.toNat == 0xAD || c.toNat == 0x200B || c.toNat == 0x2060 || c.toNat == 0xFEFF
    || (0xFE00 ≤ c.toNat && c.toNat ≤ 0xFE0F)

/-- The form a character takes in a domain name: full stops become points, wide forms plain ones,
and ASCII letters lower-case. -/
def foldInDomain (c : Char) : Char :=
  if c.toNat == 0x3002 || c.toNat == 0xFF61 then '.'
  else if 0xFF01 ≤ c.toNat && c.toNat ≤ 0xFF5E then (Char.ofNat (c.toNat - 0xFEE0)).toLower
  else if Text.isBlankChar c then ' '
  else c.toLower

/-- The value of a digit of an encoded label. -/
def labelDigit? (c : Char) : Option Nat :=
  if c.isDigit then some (c.toNat - 22)
  else if 97 ≤ c.toNat && c.toNat ≤ 122 then some (c.toNat - 97)
  else none

/-- The bias after an insertion. -/
def adapt (delta count : Nat) (first : Bool) : Nat :=
  let scaled := if first then delta / 700 else delta / 2
  shrink 32 0 (scaled + scaled / count)
where
  /-- Divides while the step is large, at most `fuel` times. -/
  shrink (fuel k delta : Nat) : Nat :=
    match fuel with
    | 0 => k
    | fuel + 1 => if 455 < delta then shrink fuel (k + 36) (delta / 35) else k + 36 * delta / (delta + 38)

/-- Whether a code beyond ASCII is that of a character that may stand in a label. -/
def isLabelCode (code : Nat) : Bool :=
  code ≤ 0x10FFFF && !(0xD800 ≤ code && code ≤ 0xDFFF)
    && (!Text.isUnseen (Char.ofNat code) || (0x300 ≤ code && code ≤ 0x36F))

/-- Reads the insertions of an encoded label: whether each is complete and lands on a character
beyond ASCII. `weight` and `step` are those of the insertion that is being read. -/
def insertions (fuel : Nat) (count code index bias old weight k : Nat) (first : Bool) :
    List Char → Bool
  | [] => k == 36
  | c :: rest =>
      match fuel, labelDigit? c with
      | 0, _ | _, none => false
      | fuel + 1, some digit =>
          let index := index + digit * weight
          let threshold := if k ≤ bias then 1 else if bias + 26 ≤ k then 26 else k - bias
          if 0xFFFFFFFF < index then false
          else if digit < threshold then
            let code := code + index / (count + 1)
            if isLabelCode code then
              insertions fuel (count + 1) code (index % (count + 1) + 1)
                (adapt (index - old) (count + 1) first) (index % (count + 1) + 1) 1 36 false rest
            else false
          else
            insertions fuel count code index bias old (weight * (36 - threshold)) (k + 36) first
              rest

/-- Whether a label behind the marker of encoded labels decodes to more than ASCII. -/
def isEncodedLabel (label : List Char) : Bool :=
  let plain := (label.reverse.dropWhile (· != '-')).drop 1
  let encoded := (label.reverse.takeWhile (· != '-')).reverse
  !encoded.isEmpty && insertions (label.length + 1) plain.length 128 0 72 0 1 36 true encoded

/-- Whether a folded label may stand in a domain name. -/
def isLabel (label : List Char) : Bool :=
  match List.isPrefixOf? ['x', 'n', '-', '-'] label with
  | some encoded => isEncodedLabel encoded
  | none =>
      label.all fun c => c.toNat < 0x80 || isLabelCode c.toNat

/-- A domain name in its folded form, none when it cannot be one. -/
def domain? (host : List Char) : Option (List Char) :=
  let folded := (host.filter fun c => !isDroppedInDomain c).map foldInDomain
  if folded.any isForbiddenInDomain then none
  else if (labels folded).all isLabel then some folded
  else none

/-! ## Percent signs -/

/-- The bytes of a text in which a percent sign and two digits stand for one byte. -/
def percentDecoded : List UInt8 → List UInt8
  | p :: high :: low :: rest =>
      match Text.Hex.value? (Char.ofNat high.toNat), Text.Hex.value? (Char.ofNat low.toNat) with
      | some high', some low' =>
          if p = 37 then (high' * 16 + low').toUInt8 :: percentDecoded rest
          else p :: percentDecoded (high :: low :: rest)
      | _, _ => p :: percentDecoded (high :: low :: rest)
  | rest => rest

/-- The characters behind the percent signs, none when the bytes are no UTF-8. -/
def unescaped? (host : List Char) : Option (List Char) :=
  let bytes := percentDecoded (String.ofList host).toUTF8.toList
  (String.fromUTF8? ⟨bytes.toArray⟩).map String.toList

/-! ## Hosts -/

/-- The test of a host under a special scheme. -/
def checkSpecialHost (host : List Char) : Except UrlFault Unit :=
  if host.head? = some '[' then checkBracketed host
  else
    match (unescaped? host).bind domain? with
    | none => .error .badDomain
    | some name =>
        if name.isEmpty then .error .emptyHost
        else if endsInNumber name && !isIpv4 name then .error .badIpv4
        else .ok ()

/-- Characters that no opaque host may hold. -/
def isForbiddenInOpaque (c : Char) : Bool :=
  c.toNat == 0 || "\t\n\r #/:<>?@[\\]^|".toList.contains c

/-- The test of a host under any other scheme. -/
def checkOpaqueHost (host : List Char) : Except UrlFault Unit :=
  if host.head? = some '[' then checkBracketed host
  else if host.any isForbiddenInOpaque then .error .badOpaqueHost
  else .ok ()

end Restage.Url
