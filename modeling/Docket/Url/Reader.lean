import Docket.Url.Basic
/-!
Reading absolute URLs. White space and controls at both ends and tabs and line breaks anywhere are
dropped; the fragment and the query are split off first, then the scheme decides how the rest is
read. Dot segments are resolved, but a step up never leaves a drive letter.
-/

namespace Docket.Url

def splitAt (mark : Char) (cs : List Char) : List Char × Option (List Char) :=
  let before := cs.takeWhile (· ≠ mark)
  match cs.dropWhile (· ≠ mark) with
  | [] => (before, none)
  | _ :: after => (before, some after)

def isBreak (c : Char) : Bool := c = '\t' || c = '\n' || c = '\r'

def dropBreaks (cs : List Char) : List Char := cs.filter (!isBreak ·)

def isSchemeChar (c : Char) : Bool := c.isAlphanum || c = '+' || c = '-' || c = '.'

def readScheme? (cs : List Char) : Option (String × List Char) :=
  let inScheme (c : Char) : Bool := isSchemeChar c || isBreak c
  match dropBreaks (cs.takeWhile inScheme), cs.dropWhile inScheme with
  | c :: s, ':' :: rest =>
    if c.isAlpha then some (String.ofList ((c :: s).map Char.toLower), rest) else none
  | _, _ => none

def isSlash (special : Bool) (c : Char) : Bool := c = '/' || (special && c = '\\')

def splitSlashes (special : Bool) (cs : List Char) : List (List Char) :=
  cs.splitOnP (isSlash special)

def lowerLetters (cs : List Char) : List Char := cs.map Char.toLower

def isSingleDot (s : List Char) : Bool :=
  lowerLetters s ∈ [['.'], ['%', '2', 'e']]

def isDoubleDot (s : List Char) : Bool :=
  lowerLetters s ∈
    [['.', '.'], ['.', '%', '2', 'e'], ['%', '2', 'e', '.'], ['%', '2', 'e', '%', '2', 'e']]

def isDriveLetter : List Char → Bool
  | [c, m] => c.isAlpha && (m = ':' || m = '|')
  | _ => false

def opensWithDrive : List Char → Bool
  | c :: m :: rest => isDriveLetter [c, m] && (rest = [] || rest.head? = some '\\')
  | _ => false

def pop : List String → List String
  | [] => []
  | s :: rest => if opensWithDrive s.toList then s :: rest else rest

def encodeSegment (cs : List Char) : String := String.ofList (encode inPathSet cs)

/-- The segments read so far, in reverse, and whether a drive letter was taken as the root of a
file path, which then has no host. -/
structure Walk where
  done : List String
  drive : Bool

def partedDrive? (cs : List Char) : Option (List Char × List Char) :=
  match cs.dropWhile isBreak with
  | [] => none
  | c :: cs =>
    match cs.dropWhile isBreak with
    | m :: b :: rest =>
      if c.isAlpha && m = ':' && isBreak b && !(dropBreaks rest).isEmpty then
        some ([c, m], dropBreaks rest)
      else none
    | _ => none

/-- Enters the first segment of a file path. A drive letter is written with a colon; one that a
break parts from more text is a segment of its own. -/
def enterRoot (w : Walk) (cs : List Char) : Walk :=
  match partedDrive? cs with
  | some (drive, rest) => { w with done := [encodeSegment rest, String.ofList drive] }
  | none =>
    let s := dropBreaks cs
    if isDriveLetter s then ⟨[String.ofList (s.take 1 ++ [':'])], true⟩
    else { w with done := [encodeSegment s] }

def Walk.enter (file : Bool) (w : Walk) (cs : List Char) : Walk :=
  if file && w.done.isEmpty then enterRoot w cs
  else { w with done := encodeSegment (dropBreaks cs) :: w.done }

/-- Resolves dot segments; where the last segment is one, an empty segment takes its place. -/
def resolve (file : Bool) : Walk → List (List Char) → Walk
  | w, [] => w
  | w, cs :: rest =>
    let close (done : List String) : Walk :=
      { w with done := if rest.isEmpty then "" :: done else done }
    if isDoubleDot (dropBreaks cs) then resolve file (close (pop w.done)) rest
    else if isSingleDot (dropBreaks cs) then resolve file (close w.done) rest
    else resolve file (w.enter file cs) rest

def walk (file : Bool) (segments : List (List Char)) : Walk := resolve file ⟨[], false⟩ segments

def dropSlash (special : Bool) : List Char → List Char
  | c :: rest => if isSlash special c then rest else c :: rest
  | [] => []

def readPath (special : Bool) (cs : List Char) : Path :=
  .segments (walk false (splitSlashes special (dropSlash special cs))).done.reverse

def dropEmpty : List String → List String
  | "" :: s :: rest => dropEmpty (s :: rest)
  | names => names

def walkFile (cs : List Char) : Walk := walk true (splitSlashes true cs)

def Walk.filePath (w : Walk) : Path := .segments (dropEmpty w.done.reverse)

def splitPort : Bool → List Char → List Char × Option (List Char)
  | _, [] => ([], none)
  | inside, c :: rest =>
    if c = ':' && !inside then ([], some rest)
    else
      let inside := if c = '[' then true else if c = ']' then false else inside
      let (host, port) := splitPort inside rest
      (c :: host, port)

def readPort (scheme : String) (cs : List Char) : Except UrlError (Option Nat) :=
  let n := cs.foldl (fun n c => 10 * n + (c.toNat - 48)) 0
  if !cs.all Char.isDigit || 65535 < n then .error .invalidPort
  else if cs.isEmpty || defaultPort? scheme = some n then .ok none
  else .ok (some n)

def splitUserinfo (cs : List Char) : Option (List Char × List Char) :=
  let host := (cs.reverse.takeWhile (· ≠ '@')).reverse
  if host.length = cs.length then none
  else some (cs.take (cs.length - host.length - 1), host)

def readHost (scheme : String) (cs : List Char) : Except UrlError (Option Host) :=
  if isSpecial scheme then
    if cs.isEmpty then .error .emptyHost else (Host.readDomain cs).map some
  else if cs.isEmpty then .ok none
  else (Host.readOpaque cs).map some

def readPortAndRest (scheme : String) (cs : List Char) :
    Except UrlError (Option Nat × List Char) := do
  let port ← readPort scheme (cs.takeWhile (· ≠ '\\'))
  .ok (port, cs.dropWhile (· ≠ '\\'))

/-- Reads an authority and what is left of its text; `more` tells whether anything of the URL
follows it. -/
def readAuthority (scheme : String) (more : Bool) (cs : List Char) :
    Except UrlError (Authority × List Char) := do
  let (userinfo, rest) := (splitUserinfo cs).getD ([], cs)
  if (splitUserinfo cs).isSome && userinfo.isEmpty && rest.isEmpty && more then .error .emptyHost
  let (host, port) := splitPort false rest
  let host ← readHost scheme host
  if host = none ∧ port.isSome then .error .emptyHost
  let (port, rest) ← readPortAndRest scheme (port.getD [])
  let (username, password) := splitAt ':' userinfo
  let username := String.ofList (encode inUserinfoSet username)
  let password := String.ofList (encode inUserinfoSet (password.getD []))
  if host = none ∧ (username ≠ "" ∨ password ≠ "") then .error .emptyHost
  .ok (⟨username, password, host, port⟩, rest)

def readSpecial (scheme : String) (more : Bool) (cs : List Char) :
    Except UrlError (Option Authority × Path) := do
  let cs := cs.dropWhile (isSlash true)
  let rest := cs.dropWhile (!isSlash true ·)
  let (authority, _) ←
    readAuthority scheme (more || !rest.isEmpty) (cs.takeWhile (!isSlash true ·))
  .ok (some authority, readPath true rest)

/-- The host of a file URL and its path. A drive letter in place of the host is part of the path;
without a host the slash before the path counts as an empty segment. -/
def readFileHost (cs : List Char) : Except UrlError (Option Host × Walk) :=
  let host := dropBreaks (cs.takeWhile (!isSlash true ·))
  let rest := cs.dropWhile (!isSlash true ·)
  if isDriveLetter host then .ok (none, walkFile cs)
  else if host.isEmpty then .ok (none, walkFile rest)
  else (Host.readDomain host).map fun h =>
    if h = .domain "localhost" then (none, walkFile rest)
    else (some h, walkFile (dropSlash true rest))

def afterSlash? (cs : List Char) : Option (List Char) :=
  match cs.dropWhile isBreak with
  | c :: rest => if isSlash true c then some rest else none
  | [] => none

def readFile (cs : List Char) : Except UrlError (Option Authority × Path) := do
  let (host, w) ← match afterSlash? cs, (afterSlash? cs).bind afterSlash? with
    | _, some rest => readFileHost rest
    | some rest, none => .ok (none, walkFile rest)
    | none, none => .ok (none, walkFile cs)
  .ok (some ⟨"", "", if w.drive then none else host, none⟩, w.filePath)

def readOther (scheme : String) (more : Bool) : List Char →
    Except UrlError (Option Authority × Path)
  | '/' :: '/' :: cs => do
    let (authority, left) ←
      readAuthority scheme (more || cs.any (· = '/')) (cs.takeWhile (· ≠ '/'))
    let rest := left ++ cs.dropWhile (· ≠ '/')
    .ok (some authority, if rest.isEmpty then .segments [] else readPath false rest)
  | '/' :: cs => .ok (none, readPath false ('/' :: cs))
  | cs => .ok (none, .opaquePath (String.ofList (encode isControl cs)))

def trimControls (cs : List Char) : List Char :=
  let low (c : Char) : Bool := c.toNat ≤ 32
  (cs.dropWhile low).reverse.dropWhile low |>.reverse

def readChars (cs : List Char) : Except UrlError Url :=
  match readScheme? (trimControls cs) with
  | none => .error .relative
  | some (scheme, rest) => do
    let (rest, fragment) := splitAt '#' rest
    let (rest, query) := splitAt '?' rest
    let more := fragment.isSome || query.isSome
    let (authority, path) ←
      if scheme = "file" then readFile rest
      else if isSpecial scheme then readSpecial scheme more (dropBreaks rest)
      else readOther scheme more (dropBreaks rest)
    let querySet := if isSpecial scheme then inSpecialQuerySet else inQuerySet
    let written (set : Char → Bool) (text : List Char) : String :=
      String.ofList (encode set (dropBreaks text))
    .ok {
      scheme, authority, path
      query := query.map (written querySet)
      fragment := fragment.map (written inFragmentSet) }

def read (s : String) : Except UrlError Url := readChars s.toList

end Docket.Url
