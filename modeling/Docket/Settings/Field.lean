import Docket.Settings.Layer
/-!
The fields of the settings, and their names in files, in the environment and on the command line.
-/

namespace Docket.Settings

inductive Field
  | token
  | username
  | enterpriseUrl
  | organizations
  | pageSize
  | maxPagesPerScope
  deriving DecidableEq

namespace Field

def all : List Field :=
  [.token, .username, .enterpriseUrl, .organizations, .pageSize, .maxPagesPerScope]

def words : Field → List String
  | .token => ["token"]
  | .username => ["username"]
  | .enterpriseUrl => ["enterprise", "url"]
  | .organizations => ["organizations"]
  | .pageSize => ["page", "size"]
  | .maxPagesPerScope => ["max", "pages", "per", "scope"]

def key (f : Field) : String := String.intercalate "_" f.words

def flag (f : Field) : String := String.intercalate "-" f.words

def letter? : Field → Option Char
  | .token => some 't'
  | .username => some 'u'
  | .enterpriseUrl => some 'e'
  | .organizations => some 'o'
  | .pageSize => none
  | .maxPagesPerScope => none

def isNumber : Field → Bool
  | .pageSize => true
  | .maxPagesPerScope => true
  | _ => false

end Field

end Docket.Settings
