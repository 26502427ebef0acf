import Docket.Url.Reader
/-!
Changes to a URL that has a host. A new path is read as if it stood in the text of the URL; a
relative path is read on from the directory of the path that is there.
-/

namespace Docket.Url

/-- Whether the path is one opaque text, below which nothing lies. -/
def isOpaque (u : Url) : Bool :=
  match u.path with
  | .opaquePath _ => true
  | .segments _ => false

def readPathText (scheme : String) (cs : List Char) : Path :=
  if scheme = "file" then (walkFile (dropSlash true cs)).filePath
  else readPath (isSpecial scheme) cs

def setPath (u : Url) (text : String) : Url := { u with path := readPathText u.scheme text.toList }

def withoutQuery (u : Url) : Url := { u with query := none }

def withoutFragment (u : Url) : Url := { u with fragment := none }

def asDirectory (u : Url) : Url :=
  if u.writePath.toList.getLast? = some '/' then u else u.setPath (u.writePath ++ "/")

def resumed (file : Bool) (names : List String) (segments : List (List Char)) : List String :=
  (resolve file ⟨names.reverse, false⟩ segments).done.reverse

def join (u : Url) (relative : String) : Url :=
  match u.path with
  | .opaquePath _ => u
  | .segments names =>
    { u with
      path := .segments (resumed (u.scheme = "file") names.dropLast
        (splitSlashes (isSpecial u.scheme) relative.toList))
      query := none
      fragment := none }

end Docket.Url
