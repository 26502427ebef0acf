import Docket.Url.Domain.Label
/-!
International domains in ASCII: the characters are read as a domain reads them and composed, every
label is opened and checked, and the labels are written again.
-/

namespace Docket.Url.Domain

def readText? (cs : List Char) : Option (List Char) :=
  (cs.mapM readChar?).map fun rs => Text.Canonical.compose rs.flatten

def openLabels? (cs : List Char) : Option (List (List Char)) :=
  ((readText? cs).bind fun t => (labels t).mapM open?).filter fun ls =>
    ls.all isSound && directionsFit ls

def toAscii? (cs : List Char) : Option (List Char) :=
  (openLabels? cs).map fun ls => joinLabels (ls.map close)

end Docket.Url.Domain
