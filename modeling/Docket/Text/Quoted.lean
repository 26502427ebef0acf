/-!
Quoted text. Quotes, backslashes and characters below U+0020 are escaped, everything else stands
for itself. The same literal is a string in JSON and a string value in a GraphQL document.
-/

namespace Docket.Text

def hexDigit (n : Nat) : Char :=
  if n < 10 then Char.ofNat (48 + n) else Char.ofNat (87 + n)

def escape (c : Char) : List Char :=
  if c = '"' then ['\\', '"']
  else if c = '\\' then ['\\', '\\']
  else if c = '\n' then ['\\', 'n']
  else if c = '\r' then ['\\', 'r']
  else if c = '\t' then ['\\', 't']
  else if c.toNat = 8 then ['\\', 'b']
  else if c.toNat = 12 then ['\\', 'f']
  else if c.toNat < 32 then ['\\', 'u', '0', '0', hexDigit (c.toNat / 16), hexDigit (c.toNat % 16)]
  else [c]

def quotedChars (cs : List Char) : List Char := '"' :: (cs.flatMap escape ++ ['"'])

def quoted (s : String) : String := String.ofList (quotedChars s.toList)

end Docket.Text
