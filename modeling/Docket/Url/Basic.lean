import Docket.Url.Host
/-!
URLs in normal form, and their text. A URL without rules for its path keeps it as one opaque text;
any other path is a list of segments, each written after a slash.
-/

namespace Docket

namespace Url

structure Authority where
  username : String
  password : String
  host : Option Host
  port : Option Nat
  deriving DecidableEq

inductive Path
  | opaquePath (text : String)
  | segments (names : List String)
  deriving DecidableEq

def Path.write : Path → String
  | .opaquePath text => text
  | .segments names => String.join (names.map ("/" ++ ·))

end Url

structure Url where
  scheme : String
  authority : Option Url.Authority
  path : Url.Path
  query : Option String
  fragment : Option String
  deriving DecidableEq

namespace Url

def defaultPort? (scheme : String) : Option Nat :=
  if scheme = "http" ∨ scheme = "ws" then some 80
  else if scheme = "https" ∨ scheme = "wss" then some 443
  else if scheme = "ftp" then some 21
  else none

def isSpecial (scheme : String) : Bool := scheme = "file" || (defaultPort? scheme).isSome

def host? (u : Url) : Option Host := u.authority.bind (·.host)

def writePort : Option Nat → String
  | some p => ":" ++ toString p
  | none => ""

def Authority.writeHost (a : Authority) : String :=
  ((a.host.map Host.write).getD "") ++ writePort a.port

def Authority.writeUserinfo (a : Authority) : String :=
  if a.username = "" ∧ a.password = "" then ""
  else a.username ++ (if a.password = "" then "" else ":" ++ a.password) ++ "@"

def Authority.write (a : Authority) : String := "//" ++ a.writeUserinfo ++ a.writeHost

/-- The path, kept from looking like an authority where there is none. -/
def writePath (u : Url) : String :=
  let p := u.path.write
  match u.authority, u.path with
  | none, .segments ("" :: _ :: _) => "/." ++ p
  | _, _ => p

def write (u : Url) : String :=
  u.scheme ++ ":" ++ ((u.authority.map Authority.write).getD "") ++ u.writePath ++
    ((u.query.map ("?" ++ ·)).getD "") ++ ((u.fragment.map ("#" ++ ·)).getD "")

/-- Scheme, host and port; `null` for a scheme without rules for them. -/
def origin (u : Url) : String :=
  match defaultPort? u.scheme, u.authority with
  | some _, some a => u.scheme ++ "://" ++ a.writeHost
  | _, _ => "null"

end Url

end Docket
