import Docket.Failure
import Docket.Text.Blank
/-!
Who is asked about and who asks: logins that can stand in a search filter, and access tokens. All
are read without the white space around them.
-/

namespace Docket

/-- Characters that can stand as one term of a search: some, no white space and no quotes. -/
def isTerm (cs : List Char) : Bool := !cs.isEmpty && cs.all fun c => !Text.isWhite c && c != '"'

structure Username where
  text : String
  isTerm_text : isTerm text.toList = true
  deriving DecidableEq

structure Organization where
  text : String
  isTerm_text : isTerm text.toList = true
  deriving DecidableEq

structure Token where
  text : String
  text_ne : text ≠ ""
  deriving DecidableEq

namespace Username

def read (s : String) : Except Failure Username :=
  let name := Text.trim s
  if name = "" then .error .missingUsername
  else if h : isTerm name.toList = true then .ok ⟨name, h⟩
  else .error (.invalidName .username name)

end Username

namespace Organization

def read (s : String) : Except Failure Organization :=
  let name := Text.trim s
  if h : isTerm name.toList = true then .ok ⟨name, h⟩
  else .error (.invalidName .organization name)

end Organization

namespace Token

def read (s : String) : Except Failure Token :=
  let text := Text.trim s
  if h : text = "" then .error .missingToken else .ok ⟨text, h⟩

end Token

end Docket
