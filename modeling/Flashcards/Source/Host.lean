import Flashcards.Text.Numeral
import Flashcards.Text.Quoted

/-!
# Hosts

The part of an address that says where to ask: a name or a number, with the service asked for after a colon, and with someone who asks
before an at sign. A number of version 6 or later stands between square brackets, so that its colons are told from the one before the
service.

A name is taken as it stands, except for characters that look like the end of a host. What has brackets is read by the grammar of
numbers (`Host.isVersion4`, `Host.isVersion6`, `Host.isLaterVersion`).
-/

namespace Flashcards

open Text

/-- What is wrong with a host. -/
inductive HostFault where
  /-- One square bracket of two is missing, or what stands beside them begins with no colon. -/
  | misplacedBracket
  /-- What should be a number is none. -/
  | notANumber (given : Text)
  /-- A number of version 4 stands where only later ones do. -/
  | version4
  /-- What begins like a number of a later version than 6 is none. -/
  | badLaterVersion
  /-- A character would be read as the end of the host. -/
  | deceptive (host : Text)
  deriving DecidableEq, Repr

/-- The words for what is wrong with a host. -/
def HostFault.message : HostFault → Text
  | .misplacedBracket => "Invalid IPv6 URL"
  | .notANumber given => quoted given ++ " does not appear to be an IPv4 or IPv6 address"
  | .version4 => "An IPv4 address cannot be in brackets"
  | .badLaterVersion => "IPvFuture address is invalid"
  | .deceptive host => "netloc '" ++ host ++ "' contains invalid characters under NFKC normalization"

namespace Host

/-- A number below 256 in decimal, without zeros that it does not need. -/
def isOctet (t : Text) : Bool :=
  nonEmpty t && t.length ≤ 3 && t.all isDigit && (t = ['0'] || t.head? ≠ some '0') && decimalValue t ≤ 255

/-- Whether a text is a number of version 4: four octets with points between them. -/
def isVersion4 (t : Text) : Bool := (splitOn '.' t).length = 4 && (splitOn '.' t).all isOctet

/-- One group of a number of version 6: up to four hexadecimal digits. -/
def isGroup (t : Text) : Bool := nonEmpty t && t.length ≤ 4 && t.all isHexDigit

/-- The parts between the colons of a text, where a number of version 4 at the end counts as two groups; nothing where such a number is
expected and is none. -/
def parts? (t : Text) : Option (List Text) :=
  let parts := splitOn ':' t
  match parts.getLast? with
  | some last =>
    if last.contains '.' then if isVersion4 last then some (parts.dropLast ++ [['0'], ['0']]) else none
    else some parts
  | none => none

/-- The number of groups on one side of a gap, where one empty part alone stands for none; nothing where there is another part. -/
def groupsBeside? (parts : List Text) : Option Nat :=
  if parts = [[]] then some 0 else if parts.all isGroup then some parts.length else none

/-- Whether parts between colons make eight groups, where one gap, an empty part within, may stand for one group or more. -/
def areGroups (parts : List Text) : Bool :=
  match (parts.drop 1).findIdx? List.isEmpty with
  | some i =>
    if i + 2 < parts.length then
      match groupsBeside? (parts.take (i + 1)), groupsBeside? (parts.drop (i + 2)) with
      | some before, some after => before + after ≤ 7
      | _, _ => false
    else false
  | none => parts.length = 8 && parts.all isGroup

/-- Whether a text is a number of version 6, perhaps with a zone after a percent sign. -/
def isVersion6 (t : Text) : Bool :=
  match breakOn '%' t with
  | none => (parts? t).any areGroups
  | some (number, zone) => nonEmpty zone && !zone.contains '%' && (parts? number).any areGroups

/-- Whether a text is a number of a later version: the version in hexadecimal after a `v`, a point, and something. -/
def isLaterVersion (t : Text) : Bool :=
  match t with
  | 'v' :: rest =>
    match rest.takeWhile isHexDigit, rest.dropWhile isHexDigit with
    | _ :: _, '.' :: number => nonEmpty number
    | _, _ => false
  | _ => false

/-- What is wrong with what should be a number of version 6 or later, if anything is. -/
def numberFault? (t : Text) : Option HostFault :=
  if t.head? = some 'v' then if isLaterVersion t then none else some .badLaterVersion
  else if isVersion4 t then some .version4
  else if isVersion6 t then none
  else some (.notANumber t)

/-- What is wrong with a host that has brackets, if anything is. Brackets in the name of the one who asks do not count as those of a
number, but the host has to be one all the same. -/
def bracketFault? (host : Text) : Option HostFault :=
  let place := (host.reverse.takeWhile (· != '@')).reverse
  match breakOn '[' place with
  | none => numberFault? (cut ':' place).1
  | some (before, rest) =>
    let (number, after) := cut ']' rest
    if nonEmpty before || (nonEmpty after && after.head? ≠ some ':') then some .misplacedBracket else numberFault? number

/-- The characters of other scripts that look like one that ends a host or a part of it, when they are written in their usual
form. -/
def deceptive : List Nat :=
  [0x2047, 0x2048, 0x2049, 0x2100, 0x2101, 0x2105, 0x2106, 0x2A74, 0xFE13, 0xFE16, 0xFE55, 0xFE56, 0xFE5F, 0xFE6B, 0xFF03, 0xFF0F,
   0xFF1A, 0xFF1F, 0xFF20]

/-- What is wrong with a host, if anything is. -/
def fault? (host : Text) : Option HostFault :=
  let unfit := if host.contains '[' && host.contains ']' then bracketFault? host else none
  if host.contains '[' != host.contains ']' then some .misplacedBracket
  else if unfit.isSome then unfit
  else if host.any fun c => deceptive.contains c.toNat then some (.deceptive host)
  else none

end Host

end Flashcards
