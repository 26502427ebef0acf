import Docket.Text.Canonical
import Docket.Text.Direction
import Docket.Text.Joining
import Docket.Text.Mark
import Docket.Url.Domain.Mapping
import Docket.Url.Punycode
/-!
Labels, the pieces of a domain between dots. A label beyond ASCII is written as `xn--` and its
Punycode; reading undoes this, and asks that the label is one that reading a domain leaves alone.
A label starts with no mark and uses joiners only where they show, and if the domain has text that
runs from right to left, each label runs one way throughout.
-/

namespace Docket.Url.Domain

open Text (Direction Joining)

def labels (cs : List Char) : List (List Char) := cs.splitOn '.'

def joinLabels (ls : List (List Char)) : List Char := List.intercalate ['.'] ls

def isAscii (cs : List Char) : Bool := cs.all (·.toNat < 128)

/-- The longest Punycode that is read, and the longest label beyond ASCII. -/
def longestCode : Nat := 2000

def longestLabel : Nat := 1000

def openCode? (code : List Char) : Option (List Char) :=
  if code = [] ∨ code.getLast? = some '-' ∨ longestCode < code.length ∨ !isAscii code then none
  else
    (Punycode.decode? code).filter fun l => l.all isPlain && Text.Canonical.compose l == l

def open? : List Char → Option (List Char)
  | 'x' :: 'n' :: '-' :: '-' :: code => openCode? code
  | l => some l

def close (l : List Char) : List Char :=
  if isAscii l then l else ['x', 'n', '-', '-'] ++ Punycode.encode l

/-! ### Joiners -/

def joinsNext (ways : List Joining) : List Char → Bool
  | [] => false
  | c :: rest =>
    match Text.joining? c with
    | some .transparent => joinsNext ways rest
    | some j => j ∈ ways
    | none => false

def followsVirama (before : List Char) : Bool :=
  before.head?.any fun c => Text.Canonical.rank c.toNat = Text.Canonical.virama

/-- Whether a joiner may stand after the characters `before`, in reverse, and before `after`. -/
def admitsJoiner (c : Char) (before after : List Char) : Bool :=
  followsVirama before ||
    (c.toNat = 0x200C && joinsNext [.left, .both] before && joinsNext [.right, .both] after)

def isJoiner (c : Char) : Bool := c.toNat = 0x200C || c.toNat = 0x200D

def joinersFit (before : List Char) : List Char → Bool
  | [] => true
  | c :: rest =>
    (!isJoiner c || admitsJoiner c before rest) && joinersFit (c :: before) rest

def isSound (l : List Char) : Bool :=
  isAscii l ||
    (l.length ≤ longestLabel && !l.head?.any Text.isMark && joinersFit [] l)

/-! ### Directions -/

def runsLeft (c : Char) : Bool :=
  0x590 ≤ c.toNat && Text.direction c ∈ [Direction.rightToLeft, .arabicLetter, .arabicNumber]

def core (ds : List Direction) : List Direction := (ds.reverse.dropWhile (· = .mark)).reverse

def shared : List Direction :=
  [.europeanNumber, .europeanSeparator, .commonSeparator, .terminator, .neutral, .boundary, .mark]

def isOneWay (l : List Char) : Bool :=
  let ds := l.map Text.direction
  match ds with
  | [] => true
  | .leftToRight :: rest =>
    rest.all (fun d => d = .leftToRight || d ∈ shared) &&
      (core ds).getLast?.all (· ∈ [Direction.leftToRight, .europeanNumber])
  | first :: rest =>
    first ∈ [Direction.rightToLeft, .arabicLetter] &&
      rest.all (fun d =>
        d ∈ [Direction.rightToLeft, .arabicLetter, .arabicNumber] || d ∈ shared) &&
      (core ds).getLast?.all
        (· ∈ [Direction.rightToLeft, .arabicLetter, .europeanNumber, .arabicNumber]) &&
      !(ds.contains .europeanNumber && ds.contains .arabicNumber)

def directionsFit (ls : List (List Char)) : Bool :=
  !(ls.any fun l => l.any runsLeft) || ls.all isOneWay

end Docket.Url.Domain
