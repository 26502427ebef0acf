import Docket.Entries
import Docket.Settings.Layer
import Docket.Text.Blank
/-!
Settings files: one `key = value` to a line, the value a text in single or double quotes, a number
or a truth value. Comments start with `#`. A line in square brackets opens a table, which holds no
settings; the settings stand before the first one.
-/

namespace Docket.Settings

def isSpace (c : Char) : Bool := c = ' ' || c = '\t'

def skipSpace (cs : List Char) : List Char := cs.dropWhile isSpace

def isLineEnd (cs : List Char) : Bool :=
  match skipSpace cs with
  | [] => true
  | c :: _ => c = '#' || c = '\r'

def escaped? : Char → Option Char
  | 'b' => some '\x08'
  | 't' => some '\t'
  | 'n' => some '\n'
  | 'f' => some '\x0c'
  | 'r' => some '\r'
  | '"' => some '"'
  | '\\' => some '\\'
  | _ => none

def readQuoted? : List Char → Option (List Char × List Char)
  | [] => none
  | '"' :: rest => some ([], rest)
  | '\\' :: c :: rest =>
    (escaped? c).bind fun e => (readQuoted? rest).map fun (text, rest) => (e :: text, rest)
  | c :: rest => (readQuoted? rest).map fun (text, rest) => (c :: text, rest)

def isWordChar (c : Char) : Bool := !isSpace c && c ≠ '#' && c ≠ '\r'

/-- Underscores between digits only make a number easier to read. -/
def readBare? (cs : List Char) : Option Json :=
  if cs = ['t', 'r', 'u', 'e'] then some (.bool true)
  else if cs = ['f', 'a', 'l', 's', 'e'] then some (.bool false)
  else (Json.Number.read? (cs.filter (· ≠ '_'))).map .number

def readValue? : List Char → Option (Json × List Char)
  | '"' :: rest => (readQuoted? rest).map fun (text, rest) => (.string (String.ofList text), rest)
  | '\'' :: rest =>
    match rest.dropWhile (· ≠ '\'') with
    | _ :: after => some (.string (String.ofList (rest.takeWhile (· ≠ '\''))), after)
    | [] => none
  | cs => (readBare? (cs.takeWhile isWordChar)).map fun v => (v, cs.dropWhile isWordChar)

def isKeyChar (c : Char) : Bool := c.isAlphanum || c = '_' || c = '-'

def readPair? (cs : List Char) : Option (String × Json) := do
  let key := cs.takeWhile isKeyChar
  if key.isEmpty then none
  match skipSpace (cs.dropWhile isKeyChar) with
  | '=' :: rest =>
    let (value, rest) ← readValue? (skipSpace rest)
    if isLineEnd rest then some (String.ofList key, value) else none
  | _ => none

def readLines (l : Layer) : List (List Char) → Option Layer
  | [] => some l
  | line :: rest =>
    let cs := skipSpace line
    if isLineEnd cs then readLines l rest
    else if cs.head? = some '[' then some l
    else do
      let (key, value) ← readPair? cs
      if (Entries.get? key l).isSome then none
      readLines (Entries.put key value l) rest

def ofFile? (text : String) : Option Layer := readLines [] (text.toList.splitOn '\n')

end Docket.Settings
