import Docket.Sidebar.Collection
import Docket.Sidebar.Filter
/-!
The run that fetches every page of every stream, scope after scope. One request asks for a page of
each stream at once and each stream moves on at its own pace. A run is a function of the replies:
it tells the calls made, the changes of state, and whether it is done, has failed or awaits the
next reply.
-/

namespace Docket.Sidebar

open Result (Response Value)

structure PageSize where
  size : Nat
  pos : 0 < size
  le_max : size ≤ maxPageSize
  deriving DecidableEq

namespace PageSize

def read (n : Nat) : Except Failure PageSize :=
  if h : n = 0 then .error .zeroPageSize
  else if k : maxPageSize < n then .error (.pageSizeAbove maxPageSize)
  else .ok ⟨n, by omega, by omega⟩

def full : PageSize := ⟨maxPageSize, by decide, by decide⟩

end PageSize

structure PageLimit where
  pages : Nat
  pos : 0 < pages
  deriving DecidableEq

def PageLimit.read (n : Nat) : Except Failure PageLimit :=
  if h : n = 0 then .error .zeroPageLimit else .ok ⟨n, by omega⟩

inductive ScopeState
  | initial
  | fetching
  | partiallyExhausted
  | fullyExhausted
  deriving DecidableEq

def ScopeState.text : ScopeState → String
  | .initial => "initial"
  | .fetching => "fetching"
  | .partiallyExhausted => "partially exhausted"
  | .fullyExhausted => "fully exhausted"

structure Change where
  scope : Scope
  before : ScopeState
  after : ScopeState
  deriving DecidableEq

def Change.write (c : Change) : String :=
  c.scope.label ++ ": " ++ c.before.text ++ " -> " ++ c.after.text

/-- Moving from a state to itself is no change. -/
def Scope.changes (scope : Scope) (before after : ScopeState) : List Change :=
  if before = after then [] else [⟨scope, before, after⟩]

structure Call where
  document : Query.Document
  bindings : Query.Bindings

abbrev Reply := Except Failure Value

inductive Ending (α : Type)
  | done (result : α) (unread : List Reply)
  | failed (error : Failure)
  | awaiting

structure Run (α : Type) where
  calls : List Call
  changes : List Change
  ending : Ending α

namespace Run

variable {α β : Type}

def done (result : α) (unread : List Reply) : Run α := ⟨[], [], .done result unread⟩

def failed (e : Failure) : Run α := ⟨[], [], .failed e⟩

def awaiting : Run α := ⟨[], [], .awaiting⟩

def after (calls : List Call) (changes : List Change) (r : Run α) : Run α :=
  ⟨calls ++ r.calls, changes ++ r.changes, r.ending⟩

/-- Goes on with the replies that are left once the first run is done. -/
def bind (r : Run α) (f : α → List Reply → Run β) : Run β :=
  match r.ending with
  | .done a unread => (f a unread).after r.calls r.changes
  | .failed e => ⟨r.calls, r.changes, .failed e⟩
  | .awaiting => ⟨r.calls, r.changes, .awaiting⟩

def map (f : α → β) (r : Run α) : Run β := r.bind fun a unread => .done (f a) unread

end Run

namespace Collection

def state (c : Collection) : ScopeState :=
  if c.firstPending?.isNone then .fullyExhausted
  else if Stream.all.any fun s => (c.get s).isExhausted then .partiallyExhausted
  else .fetching

def receive (c : Collection) (reply : Reply) : Except Failure Collection := do
  let value ← reply
  let response ← failing .response (Response.ofValue? (some value))
  c.absorb response

end Collection

structure Session where
  document : Query.Document
  user : Username
  pageLimit : Option PageLimit

namespace Session

def filterBindings (t : Session) (scope : Scope) : Query.Bindings :=
  Stream.all.foldl (fun b s => b.set s.queryVariable (.text (s.filter t.user scope))) .empty

def bindings (t : Session) (scope : Scope) (c : Collection) : Query.Bindings :=
  Stream.all.foldl (fun b s => b.set s.cursorVariable (.optionalText (c.get s).cursor))
    (t.filterBindings scope)

def call (t : Session) (scope : Scope) (c : Collection) : Call :=
  ⟨t.document, t.bindings scope c⟩

def exceeded? (t : Session) (scope : Scope) (pages : Nat) (c : Collection) : Option Failure :=
  (t.pageLimit.filter fun limit => limit.pages ≤ pages).map fun limit =>
    .pageLimit (c.firstPending?.getD .openItems) scope.label limit.pages

def fetchScope (t : Session) (scope : Scope) (pages : Nat) (state : ScopeState) (c : Collection)
    (replies : List Reply) : Run Collection :=
  match t.exceeded? scope pages c with
  | some e => .failed e
  | none =>
    Run.after [t.call scope c] (scope.changes state .fetching) <|
      match replies with
      | [] => .awaiting
      | reply :: rest =>
        match c.receive reply with
        | .error e => .failed e
        | .ok c =>
          Run.after [] (scope.changes .fetching c.state) <|
            if c.state = .fullyExhausted then .done c rest
            else t.fetchScope scope (pages + 1) c.state c rest

def fetchScopes (t : Session) : List Scope → Collection → List Reply → Run Collection
  | [], c, replies => .done c replies
  | scope :: rest, c, replies =>
    (t.fetchScope scope 0 .initial c.beginScope replies).bind (t.fetchScopes rest)

end Session

structure Plan where
  user : Username
  pageSize : PageSize
  pageLimit : Option PageLimit
  deriving DecidableEq

namespace Plan

def session (p : Plan) : Except QueryError Session := do
  .ok ⟨← document p.pageSize.size, p.user, p.pageLimit⟩

/-- Fetches all streams in all scopes; nothing of a failed run is kept. -/
def fetch (p : Plan) (orgs : List Organization) (replies : List Reply) : Run Digest :=
  match p.session with
  | .error e => .failed (.query e)
  | .ok t => (t.fetchScopes (Scope.ofList orgs) .empty replies).map Collection.toDigest

end Plan

end Docket.Sidebar
