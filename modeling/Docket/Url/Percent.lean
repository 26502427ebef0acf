/-!
Percent-encoding. A character of the set in use is written as the bytes of its UTF-8 form, each as
a percent sign and two upper-case hexadecimal digits; characters outside ASCII always are.
-/

namespace Docket.Url

def isControl (c : Char) : Bool := c.toNat < 32 || 127 ≤ c.toNat

def inFragmentSet (c : Char) : Bool := isControl c || c ∈ [' ', '"', '<', '>', Char.ofNat 0x60]

def inQuerySet (c : Char) : Bool := isControl c || c ∈ [' ', '"', '#', '<', '>']

def inSpecialQuerySet (c : Char) : Bool := inQuerySet c || c = '\''

def inPathSet (c : Char) : Bool :=
  inFragmentSet c || c ∈ ['#', '?', Char.ofNat 0x7B, Char.ofNat 0x7D]

def inUserinfoSet (c : Char) : Bool :=
  inPathSet c || c ∈ ['/', ':', ';', '=', '@', '[', '\\', ']', '^', '|']

def upperHex (n : Nat) : Char := if n < 10 then Char.ofNat (48 + n) else Char.ofNat (55 + n)

def encodeByte (b : UInt8) : List Char := ['%', upperHex (b.toNat / 16), upperHex (b.toNat % 16)]

def encodeChar (inSet : Char → Bool) (c : Char) : List Char :=
  if inSet c then (String.utf8EncodeChar c).flatMap encodeByte else [c]

def encode (inSet : Char → Bool) (cs : List Char) : List Char := cs.flatMap (encodeChar inSet)

def hexValue? (c : Char) : Option Nat :=
  if c.isDigit then some (c.toNat - 48)
  else if 'a' ≤ c ∧ c ≤ 'f' then some (c.toNat - 87)
  else if 'A' ≤ c ∧ c ≤ 'F' then some (c.toNat - 55)
  else none

def decodeBytes : List Char → List UInt8
  | [] => []
  | '%' :: a :: b :: rest =>
    match hexValue? a, hexValue? b with
    | some x, some y => UInt8.ofNat (16 * x + y) :: decodeBytes rest
    | _, _ => 0x25 :: decodeBytes (a :: b :: rest)
  | c :: rest => String.utf8EncodeChar c ++ decodeBytes rest

def decode? (cs : List Char) : Option (List Char) :=
  (String.fromUTF8? (decodeBytes cs).toByteArray).map String.toList

end Docket.Url
