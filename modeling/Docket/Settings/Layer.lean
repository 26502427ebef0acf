import Docket.Entries
import Docket.Json.Basic
/-!
Layers of settings. A later layer is laid over the earlier ones key by key: where both hold an
object the two are merged, and everywhere else the later value stands, a null too.
-/

namespace Docket

abbrev Layer := List (String × Json)

namespace Layer

def ofJson? : Json → Option Layer
  | .object members => some members
  | _ => none

mutual

def overlayValue (base : Option Json) : Json → Json
  | .object members =>
    match base with
    | some (.object below) => .object (overlay below members)
    | _ => .object members
  | v => v

def overlay (base : Layer) : Layer → Layer
  | [] => base
  | (key, v) :: rest =>
    overlay (Entries.put key (overlayValue (Entries.get? key base) v) base) rest

end

def merge (layers : List Layer) : Layer := layers.foldl overlay []

end Layer

end Docket
