import Docket.Url.Domain
import Docket.Url.Percent
/-!
Hosts of URLs: a domain in ASCII, an address of version 4 or 6, or the name that a scheme without
rules of its own leaves as it is. A domain whose last label is a number is an address.
-/

namespace Docket

inductive UrlError
  | relative
  | emptyHost
  | invalidPort
  | invalidIpv4
  | invalidIpv6
  | invalidDomain
  | invalidHostCharacter
  deriving DecidableEq

def UrlError.message : UrlError → String
  | .relative => "relative URL without a base"
  | .emptyHost => "empty host"
  | .invalidPort => "invalid port number"
  | .invalidIpv4 => "invalid IPv4 address"
  | .invalidIpv6 => "invalid IPv6 address"
  | .invalidDomain => "invalid international domain name"
  | .invalidHostCharacter => "invalid domain character"

namespace Url

inductive Host
  | domain (name : String)
  | ipv4 (address : Nat)
  | ipv6 (groups : List Nat)
  deriving DecidableEq

namespace Host

open Domain (labels)

def isForbidden (c : Char) : Bool :=
  c ∈ [Char.ofNat 0, '\t', '\n', '\r', ' ', '#', '/', ':', '<', '>', '?', '@', '[', '\\', ']', '^',
    '|']

def isForbiddenInDomain (c : Char) : Bool :=
  isForbidden c || c.toNat < 32 || c = '%' || c.toNat = 127

def readPart? (cs : List Char) : Option Nat :=
  let (base, ds) := match cs with
    | '0' :: 'x' :: ds => (16, ds)
    | '0' :: 'X' :: ds => (16, ds)
    | '0' :: d :: ds => (8, d :: ds)
    | ds => (10, ds)
  let values := ds.map hexValue?
  if cs = [] ∨ values.any (fun v => v.all (base ≤ ·)) then none
  else some (values.foldl (fun n v => base * n + v.getD 0) 0)

def lastLabel (cs : List Char) : List Char :=
  match (labels cs).reverse with
  | [] :: l :: _ => l
  | l :: _ => l
  | [] => []

def endsInNumber (cs : List Char) : Bool :=
  let l := lastLabel cs
  (!l.isEmpty && l.all Char.isDigit) || (readPart? l).isSome

/-- Up to four parts, of which the last fills the bytes that the others leave. -/
def readIpv4? (cs : List Char) : Option Nat :=
  let parts := labels cs
  let parts := if parts.getLast? = some [] then parts.dropLast else parts
  if 4 < parts.length then none
  else
    (parts.mapM readPart?).bind fun ns =>
      let bytes := ns.dropLast
      let last := ns.getLast?.getD 0
      if bytes.all (· ≤ 255) && last < Nat.pow 256 (4 - bytes.length) then
        some (bytes.foldl (fun n b => 256 * n + b) 0 * Nat.pow 256 (4 - bytes.length) + last)
      else none

def isHex (c : Char) : Bool := (hexValue? c).isSome

def readGroup? (cs : List Char) : Option Nat :=
  if 1 ≤ cs.length && cs.length ≤ 4 && cs.all isHex then
    some (cs.foldl (fun n c => 16 * n + (hexValue? c).getD 0) 0)
  else none

def readByte? (cs : List Char) : Option Nat :=
  let n := cs.foldl (fun n c => 10 * n + (c.toNat - 48)) 0
  let plain := cs = ['0'] || cs.head? ≠ some '0'
  if !cs.isEmpty && cs.all Char.isDigit && plain && n ≤ 255 then some n else none

def readDotted? (cs : List Char) : Option (List Nat) :=
  match (labels cs).map readByte? with
  | [some a, some b, some c, some d] => some [256 * a + b, 256 * c + d]
  | _ => none

def readGroups? (final : Bool) (cs : List Char) : Option (List Nat) :=
  if cs = [] then some []
  else
    let pieces := cs.splitOn ':'
    let last := pieces.getLast?.getD []
    if final && last.contains '.' then
      (pieces.dropLast.mapM readGroup?).bind fun gs => (readDotted? last).map (gs ++ ·)
    else pieces.mapM readGroup?

def splitGap : List Char → Option (List Char × List Char)
  | ':' :: ':' :: rest => some ([], rest)
  | c :: rest => (splitGap rest).map fun (a, b) => (c :: a, b)
  | [] => none

def readIpv6? (cs : List Char) : Option (List Nat) :=
  match splitGap cs with
  | none => (readGroups? true cs).bind fun gs => if gs.length = 8 then some gs else none
  | some (before, after) =>
    (readGroups? false before).bind fun gs =>
      (readGroups? true after).bind fun hs =>
        let n := gs.length + hs.length
        if n ≤ 7 then some (gs ++ List.replicate (8 - n) 0 ++ hs) else none

def domainToAscii? (cs : List Char) : Option (List Char) :=
  (Domain.toAscii? cs).filter fun d => !d.any isForbiddenInDomain

def unbracket : List Char → Option (Except UrlError (List Char))
  | '[' :: rest =>
    if rest.getLast? = some ']' then some (.ok rest.dropLast) else some (.error .invalidIpv6)
  | _ => none

def readBracketed (cs : List Char) : Option (Except UrlError Host) :=
  (unbracket cs).map fun inner =>
    inner.bind fun a => match readIpv6? a with
      | some gs => .ok (.ipv6 gs)
      | none => .error .invalidIpv6

def readDomain (cs : List Char) : Except UrlError Host :=
  match readBracketed cs with
  | some r => r
  | none =>
    match (decode? cs).bind domainToAscii? with
    | none => .error .invalidDomain
    | some [] => .error .emptyHost
    | some d =>
      if endsInNumber d then
        match readIpv4? d with
        | some a => .ok (.ipv4 a)
        | none => .error .invalidIpv4
      else .ok (.domain (String.ofList d))

/-- The host of any other scheme; nothing is lowered. -/
def readOpaque (cs : List Char) : Except UrlError Host :=
  match readBracketed cs with
  | some r => r
  | none =>
    if cs.any isForbidden then .error .invalidHostCharacter
    else .ok (.domain (String.ofList (encode isControl cs)))

def zeroRun (gs : List Nat) : Nat := (gs.takeWhile (· == 0)).length

def longestZeros (gs : List Nat) : Nat :=
  let n := ((List.range gs.length).map fun i => zeroRun (gs.drop i)).foldl max 0
  if 2 ≤ n then n else 0

def lowerHex (n : Nat) : List Char := Nat.toDigits 16 n

def joinGroups (gs : List Nat) : List Char := List.intercalate [':'] (gs.map lowerHex)

/-- Groups in lower-case hexadecimal, the first longest run of zeros as `::`. -/
def writeGroups (gs : List Nat) : List Char :=
  match longestZeros gs with
  | 0 => joinGroups gs
  | n =>
    let i := ((List.range gs.length).find? fun i => zeroRun (gs.drop i) == n).getD 0
    joinGroups (gs.take i) ++ [':', ':'] ++ joinGroups (gs.drop (i + n))

def writeIpv4 (a : Nat) : List Char :=
  List.intercalate ['.'] ([a / 16777216, a / 65536 % 256, a / 256 % 256, a % 256].map
    (Nat.toDigits 10))

def write : Host → String
  | .domain name => name
  | .ipv4 a => String.ofList (writeIpv4 a)
  | .ipv6 gs => String.ofList ('[' :: writeGroups gs ++ [']'])

end Host

end Url

end Docket
