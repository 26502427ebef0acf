import Docket.Json.Outline
import Docket.Json.Token
/-!
Reading JSON text. Tokens are assembled on a stack of open arrays and objects into an outline.
`Outline.readFirst?` gives the first outline of a text and the tokens after it, `Outline.read?`
insists that nothing follows; a value has no more than 127 arrays and objects inside each other.
-/

namespace Docket.Json

/-- An open array or object with what it holds so far, in reverse. -/
inductive Frame
  | array (items : List Outline)
  | object (members : List (Option String × Outline)) (key : Option String)

inductive Expected
  | value
  | firstItem
  | firstKey (members : List (Option String × Outline))
  | key (members : List (Option String × Outline))
  | colon (members : List (Option String × Outline)) (key : Option String)
  | more

def maxDepth : Nat := 127

def bareOutline? (cs : List Char) : Option Outline :=
  if cs = ['n', 'u', 'l', 'l'] then some .null
  else if cs = ['t', 'r', 'u', 'e'] then some (.bool true)
  else if cs = ['f', 'a', 'l', 's', 'e'] then some (.bool false)
  else (Number.readLiteral? cs).map fun l => .number l.toNumber?

def Frame.add (o : Outline) : Frame → Frame
  | .array items => .array (o :: items)
  | .object members key => .object ((key, o) :: members) key

/-- Assembles one outline; `[]` on the stack with a finished outline ends the work. -/
def assemble : List Frame → Expected → List Token → Option (Outline × List Token)
  | _, _, [] => none
  | stack, expected, t :: rest =>
    let finished (o : Outline) (stack : List Frame) : Option (Outline × List Token) :=
      match stack with
      | [] => some (o, rest)
      | f :: below => assemble (f.add o :: below) .more rest
    let value : Option (Outline × List Token) :=
      match t with
      | .openBracket => assemble (.array [] :: stack) .firstItem rest
      | .openBrace => assemble stack (.firstKey []) rest
      | .string s => finished (.string s) stack
      | .bare cs => (bareOutline? cs).bind fun o => finished o stack
      | _ => none
    match expected, t, stack with
    | .value, _, _ => value
    | .firstItem, .closeBracket, .array _ :: below => finished (.array []) below
    | .firstItem, _, _ => value
    | .firstKey _, .closeBrace, _ => finished (.object []) stack
    | .firstKey members, .string k, _ => assemble stack (.colon members k) rest
    | .key members, .string k, _ => assemble stack (.colon members k) rest
    | .colon members k, .colon, _ => assemble (.object members k :: stack) .value rest
    | .more, .comma, .array _ :: _ => assemble stack .value rest
    | .more, .comma, .object members _ :: below => assemble below (.key members) rest
    | .more, .closeBracket, .array items :: below => finished (.array items.reverse) below
    | .more, .closeBrace, .object members _ :: below => finished (.object members.reverse) below
    | _, _, _ => none

def Outline.readFirst? (s : String) : Option (Outline × List Token) :=
  assemble [] .value (Token.read s.toList)

def Outline.read? (s : String) : Option Outline :=
  (readFirst? s).bind fun (o, rest) => if rest = [] then some o else none

def read? (s : String) : Option Json := (Outline.read? s).bind (Outline.toJson? maxDepth)

end Docket.Json
