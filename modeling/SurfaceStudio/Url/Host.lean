import SurfaceStudio.Powers
import SurfaceStudio.Text.Parts
import SurfaceStudio.Url.Domain.Basic
import SurfaceStudio.Url.Escape

/-!
# Hosts

The host of a URL is a domain, an address of four numbers or an address of eight pieces.  A host
whose last part is a number has to be an address.

  • `Host.parse` — the host of a text between the slashes,
  • `Host.text` — how a host is written,
  • `ipv4?`, `ipv6?` — the two kinds of addresses.
-/

namespace SurfaceStudio

/-! ## §1. Types. -/

/-- Why a text is no URL. -/
inductive UrlFault where
  | emptyHost
  | badDomain
  | badPort
  | badIpv4
  | badIpv6
  | badHostCharacter
  | noScheme
deriving DecidableEq, Repr

def UrlFault.message : UrlFault → String
  | .emptyHost => "empty host"
  | .badDomain => "invalid international domain name"
  | .badPort => "invalid port number"
  | .badIpv4 => "invalid IPv4 address"
  | .badIpv6 => "invalid IPv6 address"
  | .badHostCharacter => "invalid domain character"
  | .noScheme => "relative URL without a base"

namespace Url

inductive Host where
  | domain (name : String)
  | ipv4 (address : Nat)
  | ipv6 (pieces : List Nat)
deriving DecidableEq, Repr

/-! ## §2. Addresses of four numbers. -/

/-- The value of digits in a base. -/
def digitsIn? (base : Nat) (digits : List Char) : Option Nat :=
  digits.foldlM (fun value c => do
    let d ← hexValue? c
    if d < base then some (value * base + d) else none) 0

/-- A part of an address: hexadecimal behind `0x`, octal behind `0`, and decimal otherwise. -/
def ipv4Number? : List Char → Option Nat
  | [] => none
  | '0' :: 'x' :: digits | '0' :: 'X' :: digits => digitsIn? 16 digits
  | ['0'] => some 0
  | '0' :: digits => digitsIn? 8 digits
  | digits => digitsIn? 10 digits

/-- Without an empty part at the end. -/
def withoutEmptyEnd (parts : List (List Char)) : List (List Char) :=
  if parts.getLast? = some [] then parts.dropLast else parts

/-- The last part is a number, so that the host has to be an address. -/
def endsInNumber (name : List Char) : Bool :=
  let parts := Text.splitAt '.' name
  if parts.length = 1 ∧ parts.getLast? = some [] then false
  else match (withoutEmptyEnd parts).getLast? with
    | some part => (!part.isEmpty && part.all Char.isDigit) || (ipv4Number? part).isSome
    | none => false

/-- The address that numbers make: the last of them fills what the others leave. -/
def ipv4Address? (numbers : List Nat) : Option Nat :=
  match numbers.reverse with
  | [] => none
  | last :: others =>
    if 4 < numbers.length ∨ twoPow (8 * (4 - others.length)) ≤ last ∨ others.any (255 < ·) then none
    else
      some (others.reverse.zipIdx.foldl (fun total (n, i) => total + n * twoPow (8 * (3 - i))) last)

/-- **An address of four numbers.** -/
def ipv4? (name : List Char) : Option Nat :=
  let parts := withoutEmptyEnd (Text.splitAt '.' name)
  if 4 < parts.length then none else (parts.mapM ipv4Number?).bind ipv4Address?

/-! ## §3. Addresses of eight pieces. -/

/-- One part of the four numbers at the end of an address of pieces. -/
def plainByte? (digits : List Char) : Option Nat :=
  match digits with
  | [] => none
  | '0' :: _ :: _ => none
  | digits =>
    if digits.all Char.isDigit then
      (digitsIn? 10 digits).bind fun n => if n < 256 then some n else none
    else none

/-- The two pieces that four numbers make. -/
def embedded? (text : List Char) : Option (List Nat) :=
  match (Text.splitAt '.' text).mapM plainByte? with
  | some [a, b, c, d] => some [256 * a + b, 256 * c + d]
  | _ => none

/-- A piece: one to four digits. -/
def piece? (digits : List Char) : Option Nat :=
  if digits.isEmpty ∨ 4 < digits.length then none else digitsIn? 16 digits

/-- Pieces between colons; the last may be four numbers if `embed` allows it. -/
def pieces? (embed : Bool) : List (List Char) → Option (List Nat)
  | [] => some []
  | [last] =>
    if last.contains '.' then (if embed then embedded? last else none)
    else (piece? last).map ([·])
  | part :: parts => do return (← piece? part) :: (← pieces? embed parts)

/-- The pieces of a text between colons; an empty text has none. -/
def side? (embed : Bool) (text : List Char) : Option (List Nat) :=
  if text.isEmpty then some [] else pieces? embed (Text.splitAt ':' text)

/-- What stands before and behind the first two colons in a row. -/
def splitAtGap : List Char → Option (List Char × List Char)
  | ':' :: ':' :: rest => some ([], rest)
  | c :: rest => (splitAtGap rest).map fun (before, behind) => (c :: before, behind)
  | [] => none

/-- **An address of eight pieces**; two colons in a row stand for the pieces that are left out, of
which there is at least one. -/
def ipv6? (text : List Char) : Option (List Nat) :=
  match splitAtGap text with
  | none => do
    let pieces ← side? true text
    if pieces.length = 8 then some pieces else none
  | some (before, behind) => do
    let first ← side? false before
    let last ← side? true behind
    if first.length + last.length < 8 then
      some (first ++ List.replicate (8 - first.length - last.length) 0 ++ last)
    else none

/-! ## §4. Forbidden characters. -/

/-- May not stand in a host. -/
def isForbiddenInHost (c : Char) : Bool :=
  ['\x00', '\t', '\n', '\r', ' ', '#', '/', ':', '<', '>', '?', '@', '[', '\\', ']', '^',
    '|'].contains c

/-! ## §5. Hosts. -/

namespace Host

/-- An address between square brackets. -/
def parseBracketed (text : List Char) : Except UrlFault Host :=
  if text.getLast? = some ']' then
    match ipv6? text.dropLast with
    | some pieces => .ok (.ipv6 pieces)
    | none => .error .badIpv6
  else .error .badIpv6

/-- A domain, or an address if it ends in a number. -/
def parseDomain (text : List Char) : Except UrlFault Host :=
  match (String.fromUTF8? ⟨(unescape text).toArray⟩).bind fun name => Domain.ascii? name.toList with
  | none => .error .badDomain
  | some [] => .error .emptyHost
  | some name =>
    if endsInNumber name then
      match ipv4? name with
      | some address => .ok (.ipv4 address)
      | none => .error .badIpv4
    else .ok (.domain (String.ofList name))

/-- **The host of a text** where the scheme is a special one. -/
def parse (text : List Char) : Except UrlFault Host :=
  match text with
  | [] => .error .emptyHost
  | '[' :: inside => parseBracketed inside
  | _ => parseDomain text

/-- The host of a text where the scheme is none of the special ones. -/
def parsePlain (text : List Char) : Except UrlFault Host :=
  match text with
  | '[' :: inside => parseBracketed inside
  | _ =>
    if text.any isForbiddenInHost then .error .badHostCharacter
    else .ok (.domain (String.ofList (escape isControlEscaped text)))

/-! ## §6. Writing. -/

/-- The four numbers of an address. -/
def ipv4Text (address : Nat) : String :=
  String.intercalate "."
    ([24, 16, 8, 0].map fun place => Nat.repr (address / twoPow place % 256))

/-- A piece in hexadecimal. -/
def pieceText (piece : Nat) : String := String.ofList (Nat.toDigits 16 piece)

/-- How many zeros stand at the front. -/
def zerosAhead (pieces : List Nat) : Nat := (pieces.takeWhile (· == 0)).length

/-- Where the longest run of zeros begins and how long it is; of two equally long the first. -/
def longestGap (pieces : List Nat) : Nat × Nat :=
  (List.range pieces.length).foldl (fun best i =>
    let length := zerosAhead (pieces.drop i)
    if best.2 < length then (i, length) else best) (0, 0)

/-- The eight pieces of an address, the longest run of zeros left out if it is longer than one. -/
def ipv6Text (pieces : List Nat) : String :=
  let (start, length) := longestGap pieces
  let join (pieces : List Nat) := String.intercalate ":" (pieces.map pieceText)
  if length ≤ 1 then join pieces
  else join (pieces.take start) ++ "::" ++ join (pieces.drop (start + length))

/-- **How a host is written.** -/
def text : Host → String
  | .domain name => name
  | .ipv4 address => ipv4Text address
  | .ipv6 pieces => "[" ++ ipv6Text pieces ++ "]"

end Host

end Url

end SurfaceStudio
