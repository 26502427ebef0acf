import Docket.Json.Printer
import Docket.Service.Message
import Docket.Text.Letter
/-!
Requests and replies as they travel: a first line, header lines, an empty line and a body. A reply
is read from all that the service sends before it closes the connection.
-/

namespace Docket.Service.Wire

def lineEnd : String := "\r\n"

def header (name value : String) : String := name ++ ": " ++ value ++ lineEnd

def writeRequest (host authorization : String) (r : Request) : String :=
  let body := (r.body.map Json.write).getD ""
  r.method.text ++ " " ++ r.path ++ " HTTP/1.1" ++ lineEnd ++ header "Host" host ++
    header "Authorization" authorization ++ header "Accept" "application/json" ++
    header "Connection" "close" ++
    (if r.body.isSome then header "Content-Type" "application/json" else "") ++
    header "Content-Length" (toString body.utf8ByteSize) ++ lineEnd ++ body

def splitLine : List UInt8 → Option (List UInt8 × List UInt8)
  | 13 :: 10 :: rest => some ([], rest)
  | b :: rest => (splitLine rest).map fun (line, rest) => (b :: line, rest)
  | [] => none

def asciiText (bs : List UInt8) : String := String.ofList (bs.map fun b => Char.ofNat b.toNat)

theorem length_splitLine {bs line rest : List UInt8} (h : splitLine bs = some (line, rest)) :
    rest.length < bs.length := by
  fun_induction splitLine bs generalizing line with
  | case1 r =>
    cases h
    exact Nat.lt_add_of_pos_right (Nat.zero_lt_succ 1)
  | case2 b tail _ ih =>
    obtain ⟨⟨line', rest'⟩, hs, he⟩ := Option.map_eq_some_iff.1 h
    cases he
    have := ih hs
    simp; omega
  | case3 => cases h

def splitHeaders (bs : List UInt8) : Option (List String × List UInt8) :=
  match _h : splitLine bs with
  | none => none
  | some ([], rest) => some ([], rest)
  | some (line, rest) =>
    (splitHeaders rest).map fun (lines, body) => (asciiText line :: lines, body)
termination_by bs.length
decreasing_by exact length_splitLine (by assumption)

def statusOf? (line : String) : Option Status :=
  match line.toList.splitOn ' ' with
  | _ :: code :: _ =>
    if !code.isEmpty && code.all Char.isDigit then
      some (code.foldl (fun n c => 10 * n + (c.toNat - 48)) 0)
    else none
  | _ => none

def isChunked (lines : List String) : Bool :=
  lines.any fun l => (Text.lowered l).toList.filter (· ≠ ' ') = "transfer-encoding:chunked".toList

def hexSize (cs : List Char) : Option Nat :=
  let ds := cs.takeWhile (· ≠ ';')
  (ds.mapM Url.hexValue?).map fun vs => vs.foldl (fun n v => 16 * n + v) 0

/-- Joins the chunks of a body, each headed by its size; a size of zero ends it. -/
def joinChunks (bs : List UInt8) : Option (List UInt8) :=
  match _h : splitLine bs with
  | none => none
  | some (line, rest) =>
    match hexSize (asciiText line).toList with
    | none => none
    | some 0 => some []
    | some size => (joinChunks (rest.drop (size + 2))).map fun more => rest.take size ++ more
termination_by bs.length
decreasing_by
  rw [List.length_drop]
  exact Nat.lt_of_le_of_lt (Nat.sub_le ..) (length_splitLine (by assumption))

def readReply? (bs : List UInt8) : Option Answer := do
  let (lines, body) ← splitHeaders bs
  match lines with
  | [] => none
  | first :: headers =>
    let body ← if isChunked headers then joinChunks body else some body
    some (.reply (← statusOf? first) (← String.fromUTF8? body.toByteArray))

end Docket.Service.Wire
