import Docket.Proofs.Syntax.Token
import Mathlib.Tactic.Common
/-!
The grammar of query operations over tokens: a header with typed variables, and selection sets of
fields, with aliases and arguments, and of inline fragments. Reading is the inverse of writing the
tokens of an operation, on exactly the operations whose selection sets are nonempty.
-/

namespace Docket.Query.Syntax

inductive Literal
  | int (value : Int)
  | string (text : String)
  | enum (name : String)
  | variable (name : String)
  deriving DecidableEq

structure Head where
  aliasName : Option String
  name : String
  arguments : List (String × Literal)
  deriving DecidableEq

inductive Selection
  | leaf (head : Head)
  | nested (head : Head) (selections : List Selection)
  | fragment (typeName : String) (selections : List Selection)

structure VariableType where
  name : String
  required : Bool
  deriving DecidableEq

structure Operation where
  name : String
  declared : List (String × VariableType)
  selections : List Selection

def Literal.tokens : Literal → List Token
  | .int n => [.int n]
  | .string s => [.string s]
  | .enum name => [.name name]
  | .variable name => [.dollar, .name name]

def argumentTokens (a : String × Literal) : List Token := .name a.1 :: .colon :: a.2.tokens

def VariableType.tokens (t : VariableType) : List Token :=
  .name t.name :: if t.required then [.bang] else []

def variableTokens (v : String × VariableType) : List Token :=
  .dollar :: .name v.1 :: .colon :: v.2.tokens

def parenTokens {α : Type} (tokens : α → List Token) (l : List α) : List Token :=
  if l = [] then [] else .openParen :: (l.flatMap tokens ++ [.closeParen])

def Head.tokens (h : Head) : List Token :=
  (h.aliasName.elim [] fun a => [.name a, .colon]) ++
    .name h.name :: parenTokens argumentTokens h.arguments

mutual

def Selection.tokens : Selection → List Token
  | .leaf h => h.tokens
  | .nested h ss => h.tokens ++ .openBrace :: (selectionTokens ss ++ [.closeBrace])
  | .fragment t ss =>
    .spread :: .name "on" :: .name t :: .openBrace :: (selectionTokens ss ++ [.closeBrace])

def selectionTokens : List Selection → List Token
  | [] => []
  | s :: ss => s.tokens ++ selectionTokens ss

end

def Operation.tokens (o : Operation) : List Token :=
  .name "query" :: .name o.name :: parenTokens variableTokens o.declared ++
    .openBrace :: (selectionTokens o.selections ++ [.closeBrace])

/-- Names that stand for values of their own and so are no members of enumerations. -/
def isReserved (name : String) : Bool := name = "true" || name = "false" || name = "null"

def Literal.IsProper : Literal → Prop
  | .enum name => isReserved name = false
  | _ => True

def Head.IsProper (h : Head) : Prop := ∀ a ∈ h.arguments, a.2.IsProper

mutual

def Selection.IsProper : Selection → Prop
  | .leaf h => h.IsProper
  | .nested h ss => h.IsProper ∧ ss ≠ [] ∧ AllProper ss
  | .fragment _ ss => ss ≠ [] ∧ AllProper ss

def AllProper : List Selection → Prop
  | [] => True
  | s :: ss => s.IsProper ∧ AllProper ss

end

def Operation.IsProper (o : Operation) : Prop := o.selections ≠ [] ∧ AllProper o.selections

def readArguments : List Token → Option (List (String × Literal) × List Token)
  | .closeParen :: ts => some ([], ts)
  | .name k :: .colon :: .int n :: ts => (readArguments ts).map fun r => ((k, .int n) :: r.1, r.2)
  | .name k :: .colon :: .string s :: ts =>
    (readArguments ts).map fun r => ((k, .string s) :: r.1, r.2)
  | .name k :: .colon :: .name e :: ts =>
    if isReserved e then none else (readArguments ts).map fun r => ((k, .enum e) :: r.1, r.2)
  | .name k :: .colon :: .dollar :: .name x :: ts =>
    (readArguments ts).map fun r => ((k, .variable x) :: r.1, r.2)
  | _ => none

def readVariables : List Token → Option (List (String × VariableType) × List Token)
  | .closeParen :: ts => some ([], ts)
  | .dollar :: .name x :: .colon :: .name t :: .bang :: ts =>
    (readVariables ts).map fun r => ((x, ⟨t, true⟩) :: r.1, r.2)
  | .dollar :: .name x :: .colon :: .name t :: ts =>
    (readVariables ts).map fun r => ((x, ⟨t, false⟩) :: r.1, r.2)
  | _ => none

def readParens {α : Type} (read : List Token → Option (List α × List Token)) :
    List Token → Option (List α × List Token)
  | .openParen :: ts => (read ts).filter fun r => !r.1.isEmpty
  | ts => some ([], ts)

def readHead : List Token → Option (Head × List Token)
  | .name a :: .colon :: .name n :: ts =>
    (readParens readArguments ts).map fun r => (⟨some a, n, r.1⟩, r.2)
  | .name n :: ts => (readParens readArguments ts).map fun r => (⟨none, n, r.1⟩, r.2)
  | _ => none

inductive Owner
  | field (head : Head)
  | fragment (typeName : String)

def Owner.close : Owner → List Selection → Selection
  | .field h, ss => .nested h ss
  | .fragment t, ss => .fragment t ss

theorem readArguments_tokens {as : List (String × Literal)} (h : ∀ a ∈ as, a.2.IsProper)
    (rest : List Token) :
    readArguments (as.flatMap argumentTokens ++ .closeParen :: rest) = some (as, rest) := by
  induction as with
  | nil => rfl
  | cons a as ih =>
    obtain ⟨ha, has⟩ := List.forall_mem_cons.1 h
    have hrest := ih has
    obtain ⟨k, v⟩ := a
    cases v with
    | enum e =>
      have he : isReserved e = false := ha
      simp [argumentTokens, Literal.tokens, readArguments, he, hrest]
    | _ => simp [argumentTokens, Literal.tokens, readArguments, hrest]

theorem readArguments_sound {ts : List Token} {as : List (String × Literal)} {rest : List Token}
    (h : readArguments ts = some (as, rest)) :
    ts = as.flatMap argumentTokens ++ .closeParen :: rest ∧ ∀ a ∈ as, a.2.IsProper := by
  fun_induction readArguments ts generalizing as with
  | case1 ts =>
    cases h
    exact ⟨rfl, nofun⟩
  | case4 k e ts he => cases h
  | case5 k e ts he ih =>
    obtain ⟨⟨as, rest⟩, hr, h⟩ := Option.map_eq_some_iff.1 h
    cases h
    obtain ⟨hts, has⟩ := ih hr
    refine ⟨by rw [hts]; rfl, List.forall_mem_cons.2 ⟨?_, has⟩⟩
    exact Bool.eq_false_iff.2 he
  | case2 k v ts ih | case3 k v ts ih | case6 k v ts ih =>
    obtain ⟨⟨as, rest⟩, hr, h⟩ := Option.map_eq_some_iff.1 h
    cases h
    obtain ⟨hts, has⟩ := ih hr
    exact ⟨by rw [hts]; rfl, List.forall_mem_cons.2 ⟨trivial, has⟩⟩
  | case7 => cases h

theorem readVariables_tokens (vs : List (String × VariableType)) (rest : List Token) :
    readVariables (vs.flatMap variableTokens ++ .closeParen :: rest) = some (vs, rest) := by
  induction vs with
  | nil => rfl
  | cons v vs ih =>
    obtain ⟨x, t, required⟩ := v
    cases required with
    | true => simp [variableTokens, VariableType.tokens, readVariables, ih]
    | false =>
      have hbang : ∀ ts, vs.flatMap variableTokens ++ .closeParen :: rest ≠ .bang :: ts := by
        cases vs <;> exact nofun
      simp [variableTokens, VariableType.tokens, readVariables, ih]

theorem readVariables_sound {ts : List Token} {vs : List (String × VariableType)}
    {rest : List Token} (h : readVariables ts = some (vs, rest)) :
    ts = vs.flatMap variableTokens ++ .closeParen :: rest := by
  fun_induction readVariables ts generalizing vs with
  | case1 ts =>
    cases h
    rfl
  | case2 x t ts ih | case3 x t ts _ ih =>
    obtain ⟨⟨vs, rest⟩, hr, h⟩ := Option.map_eq_some_iff.1 h
    cases h
    rw [ih hr]
    rfl
  | case4 => cases h

section Parens

variable {α : Type} {tokens : α → List Token}
  {read : List Token → Option (List α × List Token)} {l : List α} {ts rest : List Token}

theorem readParens_tokens (h : read (l.flatMap tokens ++ .closeParen :: rest) = some (l, rest))
    (hrest : ∀ ts, rest ≠ .openParen :: ts) :
    readParens read (parenTokens tokens l ++ rest) = some (l, rest) := by
  by_cases hl : l = []
  · subst hl
    unfold readParens
    split
    · rename_i ts heq
      exact absurd heq (hrest ts)
    · rfl
  · rw [parenTokens, if_neg hl, List.cons_append, List.append_assoc, List.singleton_append,
      readParens, h, Option.filter_some, if_pos (by simp [hl])]

theorem readParens_sound (P : List α → Prop) (hnil : P [])
    (hread : ∀ us, read us = some (l, rest) → us = l.flatMap tokens ++ .closeParen :: rest ∧ P l)
    (h : readParens read ts = some (l, rest)) : ts = parenTokens tokens l ++ rest ∧ P l := by
  unfold readParens at h
  split at h
  · rename_i us
    obtain ⟨hus, hl⟩ := Option.filter_eq_some_iff.1 h
    obtain ⟨rfl, hP⟩ := hread us hus
    refine ⟨?_, hP⟩
    rw [parenTokens, if_neg (by simpa using hl), List.cons_append, List.append_assoc,
      List.singleton_append]
  · cases h
    exact ⟨rfl, hnil⟩

end Parens

def Continues : List Token → Prop
  | .closeBrace :: _ => True
  | .spread :: _ => True
  | .name _ :: _ => True
  | _ => False

def Follows : List Token → Prop
  | .openBrace :: _ => True
  | ts => Continues ts

theorem Continues.follows {ts : List Token} (h : Continues ts) : Follows ts := by
  unfold Follows
  split
  · trivial
  · exact h

theorem Head.exists_tokens (h : Head) : ∃ n ts, h.tokens = .name n :: ts := by
  obtain ⟨aliasName, name, arguments⟩ := h
  cases aliasName with
  | none => exact ⟨name, _, rfl⟩
  | some a => exact ⟨a, _, rfl⟩

theorem continues_selectionTokens (ss : List Selection) {more : List Token} :
    Continues (selectionTokens ss ++ .closeBrace :: more) := by
  cases ss with
  | nil => trivial
  | cons s ss =>
    cases s with
    | leaf h | nested h _ =>
      obtain ⟨n, ts, hts⟩ := h.exists_tokens
      simp only [selectionTokens, Selection.tokens, hts, List.cons_append, Continues]
    | fragment t _ => trivial

theorem readHead_tokens {h : Head} (hproper : h.IsProper) {rest : List Token}
    (hrest : Follows rest) : readHead (h.tokens ++ rest) = some (h, rest) := by
  obtain ⟨aliasName, name, arguments⟩ := h
  have hparens : readParens readArguments (parenTokens argumentTokens arguments ++ rest) =
      some (arguments, rest) := by
    apply readParens_tokens (readArguments_tokens hproper rest)
    rintro ts rfl
    exact hrest
  cases aliasName with
  | some a =>
    show readHead
      (.name a :: .colon :: .name name :: (parenTokens argumentTokens arguments ++ rest)) = _
    rw [readHead, hparens]
    rfl
  | none =>
    have hcolon : ∀ ts, parenTokens argumentTokens arguments ++ rest ≠ .colon :: ts := by
      intro ts heq
      unfold parenTokens at heq
      split at heq
      · rw [List.nil_append] at heq
        subst heq
        exact hrest
      · cases heq
    show readHead (.name name :: (parenTokens argumentTokens arguments ++ rest)) = _
    rw [readHead, hparens]
    · rfl
    · intro n ts heq
      exact hcolon _ heq

theorem readArgumentParens_sound {ts rest : List Token} {as : List (String × Literal)}
    (h : readParens readArguments ts = some (as, rest)) :
    ts = parenTokens argumentTokens as ++ rest ∧ ∀ a ∈ as, a.2.IsProper :=
  readParens_sound (fun as => ∀ a ∈ as, a.2.IsProper) nofun (fun _ => readArguments_sound) h

theorem readHead_sound {ts : List Token} {h : Head} {rest : List Token}
    (hread : readHead ts = some (h, rest)) : ts = h.tokens ++ rest ∧ h.IsProper := by
  unfold readHead at hread
  split at hread
  · obtain ⟨⟨as, r⟩, hr, h⟩ := Option.map_eq_some_iff.1 hread
    cases h
    obtain ⟨rfl, hproper⟩ := readArgumentParens_sound hr
    exact ⟨rfl, hproper⟩
  · obtain ⟨⟨as, r⟩, hr, h⟩ := Option.map_eq_some_iff.1 hread
    cases h
    obtain ⟨rfl, hproper⟩ := readArgumentParens_sound hr
    exact ⟨rfl, hproper⟩
  · cases hread

theorem length_of_readHead {ts : List Token} {r : Head × List Token} (h : readHead ts = some r) :
    r.2.length < ts.length := by
  obtain ⟨head, rest⟩ := r
  rw [(readHead_sound h).1, Head.tokens]
  simp only [List.length_append, List.length_cons]
  omega

/-- Reads the selections of a set up to its closing brace, with the sets around it and what each of
them held before. -/
def readSelections (around : List (Owner × List Selection)) (done : List Selection) :
    List Token → Option (List Selection × List Token)
  | .closeBrace :: ts =>
    if done = [] then none
    else match around with
      | [] => some (done, ts)
      | (owner, before) :: around => readSelections around (before ++ [owner.close done]) ts
  | .spread :: .name on :: .name t :: .openBrace :: ts =>
    if on = "on" then readSelections ((.fragment t, done) :: around) [] ts else none
  | .name n :: ts =>
    match h : readHead (.name n :: ts) with
    | none => none
    | some (head, .openBrace :: rest) => readSelections ((.field head, done) :: around) [] rest
    | some (head, rest) => readSelections around (done ++ [.leaf head]) rest
  | _ => none
termination_by ts => ts.length
decreasing_by
  · simp
  · simp only [List.length_cons]
    omega
  · have hlength := length_of_readHead h
    simp only [List.length_cons] at hlength ⊢
    omega
  · exact length_of_readHead h

section Selections

variable {around : List (Owner × List Selection)} {done : List Selection}
  {ts rest : List Token} {head : Head}

theorem exists_name_of_readHead {r : Head × List Token} (h : readHead ts = some r) :
    ∃ n us, ts = .name n :: us := by
  unfold readHead at h
  split at h
  · exact ⟨_, _, rfl⟩
  · exact ⟨_, _, rfl⟩
  · cases h

theorem readSelections_open (h : readHead ts = some (head, .openBrace :: rest)) :
    readSelections around done ts = readSelections ((.field head, done) :: around) [] rest := by
  obtain ⟨n, us, rfl⟩ := exists_name_of_readHead h
  rw [readSelections]
  split
  · rename_i hnone
    rw [h] at hnone
    cases hnone
  · rename_i hopen
    rw [h] at hopen
    cases hopen
    rfl
  · rename_i hne hother
    rw [h] at hother
    cases hother
    exact (hne _ rfl).elim

theorem readSelections_leaf (h : readHead ts = some (head, rest)) (hrest : Continues rest) :
    readSelections around done ts = readSelections around (done ++ [.leaf head]) rest := by
  obtain ⟨n, us, rfl⟩ := exists_name_of_readHead h
  rw [readSelections]
  split
  · rename_i hnone
    rw [h] at hnone
    cases hnone
  · rename_i hopen
    rw [h] at hopen
    cases hopen
    exact absurd hrest id
  · rename_i hother
    rw [h] at hother
    cases hother
    rfl

mutual

theorem readSelections_tokens : ∀ (s : Selection), s.IsProper →
    ∀ (around : List (Owner × List Selection)) (done : List Selection) {more : List Token},
      Continues more → readSelections around done (s.tokens ++ more) =
        readSelections around (done ++ [s]) more
  | .leaf h, hproper, around, done, more, hmore =>
    readSelections_leaf (readHead_tokens hproper hmore.follows) hmore
  | .nested h ss, ⟨hproper, hne, hall⟩, around, done, more, hmore => by
    rw [Selection.tokens, List.append_assoc, List.cons_append, List.append_assoc,
      List.singleton_append, readSelections_open (readHead_tokens hproper trivial),
      readSelections_all ss hall, List.nil_append, readSelections, if_neg hne]
    rfl
  | .fragment t ss, ⟨hne, hall⟩, around, done, more, hmore => by
    rw [Selection.tokens]
    simp only [List.cons_append, List.append_assoc]
    rw [readSelections, if_pos rfl, readSelections_all ss hall, List.nil_append, readSelections,
      if_neg hne]
    rfl

theorem readSelections_all : ∀ (ss : List Selection), AllProper ss →
    ∀ (around : List (Owner × List Selection)) (done : List Selection) {more : List Token},
      readSelections around done (selectionTokens ss ++ .closeBrace :: more) =
        readSelections around (done ++ ss) (.closeBrace :: more)
  | [], _, around, done, more => by rw [List.append_nil]; rfl
  | s :: ss, ⟨hs, hss⟩, around, done, more => by
    rw [selectionTokens, List.append_assoc,
      readSelections_tokens s hs around done (continues_selectionTokens ss),
      readSelections_all ss hss, List.append_assoc]
    rfl

end

theorem selectionTokens_append (ss ss' : List Selection) :
    selectionTokens (ss ++ ss') = selectionTokens ss ++ selectionTokens ss' := by
  induction ss with
  | nil => rfl
  | cons s ss ih => simp only [List.cons_append, selectionTokens, ih, List.append_assoc]

theorem allProper_append {ss ss' : List Selection} :
    AllProper (ss ++ ss') ↔ AllProper ss ∧ AllProper ss' := by
  induction ss with
  | nil => simp [AllProper]
  | cons s ss ih => simp only [List.cons_append, AllProper, ih, and_assoc]

def Owner.tokens : Owner → List Token
  | .field h => h.tokens
  | .fragment t => [.spread, .name "on", .name t]

def Owner.IsProper : Owner → Prop
  | .field h => h.IsProper
  | .fragment _ => True

theorem Owner.tokens_close (o : Owner) (ss : List Selection) :
    (o.close ss).tokens = o.tokens ++ .openBrace :: (selectionTokens ss ++ [.closeBrace]) := by
  cases o <;> rfl

theorem Owner.isProper_close {o : Owner} {ss : List Selection} (ho : o.IsProper) (hne : ss ≠ [])
    (hss : AllProper ss) : (o.close ss).IsProper := by
  cases o with
  | field h => exact ⟨ho, hne, hss⟩
  | fragment t => exact ⟨hne, hss⟩

def openTokens : List (Owner × List Selection) → List Token
  | [] => []
  | (owner, before) :: around =>
    openTokens around ++ (selectionTokens before ++ (owner.tokens ++ [.openBrace]))

theorem readSelections_sound {ss : List Selection}
    (h : readSelections around done ts = some (ss, rest))
    (haround : ∀ a ∈ around, a.1.IsProper ∧ AllProper a.2) (hdone : AllProper done) :
    openTokens around ++ (selectionTokens done ++ ts) = selectionTokens ss ++ .closeBrace :: rest ∧
      ss ≠ [] ∧ AllProper ss := by
  -- what is still to be read follows the sets that are open and what is done of the innermost
  fun_induction readSelections around done ts with
  | case1 => cases h
  | case2 done ts hne =>
    cases h
    exact ⟨rfl, hne, hdone⟩
  | case3 done ts hne owner before around ih =>
    obtain ⟨⟨howner, hbefore⟩, haround⟩ := List.forall_mem_cons.1 haround
    have hclosed : AllProper (before ++ [owner.close done]) :=
      allProper_append.2 ⟨hbefore, Owner.isProper_close howner hne hdone, trivial⟩
    obtain ⟨htokens, hproper⟩ := ih h haround hclosed
    refine ⟨?_, hproper⟩
    rw [← htokens]
    simp [openTokens, selectionTokens_append, selectionTokens, Owner.tokens_close]
  | case4 around done t ts ih =>
    obtain ⟨htokens, hproper⟩ := ih h (List.forall_mem_cons.2 ⟨⟨trivial, hdone⟩, haround⟩) trivial
    refine ⟨?_, hproper⟩
    rw [← htokens]
    simp [openTokens, selectionTokens, Owner.tokens]
  | case5 => cases h
  | case6 => cases h
  | case7 around done n ts head us hread ih =>
    obtain ⟨hts, hhead⟩ := readHead_sound hread
    obtain ⟨htokens, hproper⟩ := ih h (List.forall_mem_cons.2 ⟨⟨hhead, hdone⟩, haround⟩) trivial
    refine ⟨?_, hproper⟩
    rw [← htokens, hts]
    simp [openTokens, selectionTokens, Owner.tokens]
  | case8 around done n ts head us _ hread ih =>
    obtain ⟨hts, hhead⟩ := readHead_sound hread
    have hmore : AllProper (done ++ [.leaf head]) := allProper_append.2 ⟨hdone, hhead, trivial⟩
    obtain ⟨htokens, hproper⟩ := ih h haround hmore
    refine ⟨?_, hproper⟩
    rw [← htokens, hts]
    simp [selectionTokens_append, selectionTokens, Selection.tokens]
  | case9 => cases h

end Selections

def readOperation : List Token → Option Operation
  | .name query :: .name name :: ts =>
    if query ≠ "query" then none
    else match readParens readVariables ts with
      | some (declared, .openBrace :: ts) =>
        match readSelections [] [] ts with
        | some (selections, []) => some ⟨name, declared, selections⟩
        | _ => none
      | _ => none
  | _ => none

theorem readOperation_tokens {o : Operation} (h : o.IsProper) :
    readOperation o.tokens = some o := by
  obtain ⟨hne, hproper⟩ := h
  have hparens : readParens readVariables (parenTokens variableTokens o.declared ++
      .openBrace :: (selectionTokens o.selections ++ [.closeBrace])) =
        some (o.declared, .openBrace :: (selectionTokens o.selections ++ [.closeBrace])) :=
    readParens_tokens (readVariables_tokens _ _) nofun
  have hselections : readSelections [] [] (selectionTokens o.selections ++ [.closeBrace]) =
      some (o.selections, []) := by
    rw [readSelections_all o.selections hproper, List.nil_append, readSelections, if_neg hne]
  show readOperation (.name "query" :: .name o.name :: (_ ++ _)) = _
  rw [readOperation, if_neg (not_not.2 rfl), hparens]
  show (match readSelections [] [] _ with | some (selections, []) => _ | _ => _) = _
  rw [hselections]

theorem readOperation_sound {ts : List Token} {o : Operation} (h : readOperation ts = some o) :
    ts = o.tokens ∧ o.IsProper := by
  unfold readOperation at h
  split at h
  · rename_i query name us
    split at h
    · cases h
    · rename_i hquery
      split at h
      · rename_i declared vs hparens
        split at h
        · rename_i selections hselections
          cases h
          obtain ⟨rfl, _⟩ := readParens_sound (fun _ => True) trivial
            (fun _ h => ⟨readVariables_sound h, trivial⟩) hparens
          obtain ⟨htokens, hne, hproper⟩ := readSelections_sound hselections nofun trivial
          rw [show query = "query" from Classical.not_not.1 hquery,
            show vs = selectionTokens selections ++ [.closeBrace] from htokens]
          exact ⟨rfl, hne, hproper⟩
        · cases h
      · cases h
  · cases h

theorem readOperation_eq_some_iff {ts : List Token} {o : Operation} :
    readOperation ts = some o ↔ ts = o.tokens ∧ o.IsProper := by
  constructor
  · exact readOperation_sound
  · rintro ⟨rfl, hproper⟩
    exact readOperation_tokens hproper

def Operation.read? (text : String) : Option Operation :=
  (Token.read? text.toList).bind readOperation

end Docket.Query.Syntax
