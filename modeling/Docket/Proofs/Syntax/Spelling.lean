import Docket.Proofs.Syntax.Token
import Docket.Text.Letter
import Docket.Text.Quoted
import Mathlib.Tactic.Common
/-!
Which text is read as which tokens. Names, numbers and strings end where a character follows that is
no part of them; every other piece of a query ends by itself.
-/

namespace Docket.Query.Syntax

open Token
open Json.Token (Draft escaped? hexValue?)

/-- A text that is read as some tokens, whatever comes after it. -/
def Firm (s : String) (ts : List Token) : Prop := run .gap s.toList = some (ts, .gap)

def isBreak (c : Char) : Bool := !isNameRest c && c ≠ '.' && c ≠ '"'

/-- A text that is read as some tokens if what comes after it ends them. -/
def Loose (s : String) (ts : List Token) : Prop :=
  ∀ c, isBreak c = true → run .gap (s.toList ++ [c]) = (start c).map (emit ts)

def Breaks (s : String) : Prop := ∃ c cs, s.toList = c :: cs ∧ isBreak c = true

section Append

variable {s t : String} {ts us : List Token}

theorem Breaks.append (h : Breaks s) (t : String) : Breaks (s ++ t) := by
  obtain ⟨c, cs, hs, hc⟩ := h
  exact ⟨c, cs ++ t.toList, by rw [String.toList_append, hs, List.cons_append], hc⟩

theorem run_singleton (st : State) (c : Char) : run st [c] = step st c := by
  rw [run]
  cases step st c with
  | none => rfl
  | some r => simp [run, emit]

theorem run_of_silent {p q : State} {c : Char} (h : step p c = some ([], q)) (cs : List Char) :
    run p (c :: cs) = run q cs := by
  rw [run, h, Option.bind_some, emit_nil, Option.map_id]
  rfl

theorem run_concat_of_startAfter {p q : State} {cs : List Char} {d : Char} {t : Token}
    (hcs : run p cs = some ([], q)) (hd : step q d = startAfter t d) :
    run p (cs ++ [d]) = (start d).map (emit [t]) := by
  rw [Token.run_append, hcs, Option.bind_some, run_singleton, hd, emit_nil, Option.map_id]
  rfl

theorem Firm.run_append (h : Firm s ts) (cs : List Char) :
    run .gap (s.toList ++ cs) = (run .gap cs).map (emit ts) := by
  rw [Token.run_append, h]
  rfl

theorem Loose.run_append (h : Loose s ts) {c : Char} (hc : isBreak c = true) (cs : List Char) :
    run .gap (s.toList ++ c :: cs) = (run .gap (c :: cs)).map (emit ts) := by
  have hsplit : s.toList ++ c :: cs = (s.toList ++ [c]) ++ cs := by simp
  rw [hsplit, Token.run_append, h c hc, run, Option.map_bind, Option.bind_map]
  congr 1
  funext r
  simp only [Function.comp_apply, Option.map_map, emit_comp_emit]
  rfl

theorem Firm.loose (h : Firm s ts) : Loose s ts := by
  intro c _
  rw [h.run_append, run_singleton]
  rfl

theorem Firm.read? (h : Firm s ts) : Token.read? s.toList = some ts := by
  rw [Token.read?, h, Option.bind_some, finish, Option.map_some, List.append_nil]

theorem Firm.append (hs : Firm s ts) (ht : Firm t us) : Firm (s ++ t) (ts ++ us) := by
  rw [Firm, String.toList_append, hs.run_append, ht]
  rfl

theorem Firm.append_loose (hs : Firm s ts) (ht : Loose t us) : Loose (s ++ t) (ts ++ us) := by
  intro c hc
  rw [String.toList_append, List.append_assoc, hs.run_append, ht c hc, Option.map_map,
    emit_comp_emit]

theorem Loose.append (hs : Loose s ts) (ht : Firm t us) (hbreak : Breaks t) :
    Firm (s ++ t) (ts ++ us) := by
  obtain ⟨c, cs, hcs, hc⟩ := hbreak
  rw [Firm, hcs] at ht
  rw [Firm, String.toList_append, hcs, hs.run_append hc, ht]
  rfl

end Append

section Names

variable {c : Char} {cs : List Char}

theorem isNameRest_iff : isNameRest c = true ↔ isNameStart c = true ∨ c.isDigit = true := by
  simp only [isNameRest, isNameStart, Char.isAlphanum, Bool.or_eq_true]
  tauto

theorem start_of_isNameRest (h : isNameRest c = true) :
    start c = some ([], if c.isDigit then .number false [c] else .name [c]) := by
  have hne : ∀ d, isNameRest d = false → c ≠ d := by
    rintro d hd rfl
    rw [h] at hd
    cases hd
  have hmark : c.toNat ≠ 0xFEFF := by
    intro hc
    refine hne (Char.ofNat 0xFEFF) (by decide) ?_
    rw [← hc, Char.ofNat_toNat]
  have hignored : isIgnored c = false := by
    simp only [isIgnored, hne ' ' (by decide), hne '\n' (by decide), hne '\r' (by decide),
      hne '\t' (by decide), hne ',' (by decide), hmark, decide_false, Bool.or_false]
  simp only [start, hignored, hne '#' (by decide), hne '.' (by decide), hne '"' (by decide),
    hne '-' (by decide), Bool.false_eq_true, if_false]
  by_cases hdigit : c.isDigit = true
  · simp only [hdigit, if_true]
  · have hstart := (isNameRest_iff.1 h).resolve_right hdigit
    simp only [hdigit, hstart, Bool.false_eq_true, if_false, if_true]

theorem start_of_isNameStart (h : isNameStart c = true) : start c = some ([], .name [c]) := by
  have hdigit : ¬c.isDigit = true := by
    simp only [isNameStart, Bool.or_eq_true, Text.isAlpha_iff, decide_eq_true_eq] at h
    rw [Text.isDigit_iff]
    rcases h with h | rfl
    · omega
    · decide
  rw [start_of_isNameRest (isNameRest_iff.2 (.inl h)), if_neg hdigit]

theorem start_of_isDigit (h : c.isDigit = true) : start c = some ([], .number false [c]) := by
  rw [start_of_isNameRest (isNameRest_iff.2 (.inr h)), if_pos h]

def isName : List Char → Bool
  | [] => false
  | c :: cs => isNameStart c && cs.all isNameRest

theorem run_name (h : cs.all isNameRest = true) (acc : List Char) :
    run (.name acc) cs = some ([], .name (cs.reverse ++ acc)) := by
  induction cs generalizing acc with
  | nil => rfl
  | cons c cs ih =>
    obtain ⟨hc, hcs⟩ := Bool.and_eq_true_iff.1 h
    rw [run, step, if_pos hc, Option.bind_some, ih hcs]
    simp [emit]

theorem isBreak_iff : isBreak c = true ↔ isNameRest c = false ∧ c ≠ '.' ∧ c ≠ '"' := by
  simp [isBreak, and_assoc]

theorem loose_name {s : String} (h : isName s.toList = true) : Loose s [.name s] := by
  intro d hd
  cases hs : s.toList with
  | nil =>
    rw [hs] at h
    cases h
  | cons c cs =>
    rw [hs] at h
    obtain ⟨hc, hcs⟩ := Bool.and_eq_true_iff.1 h
    have hname : ofName (cs.reverse ++ [c]) = .name s := by
      rw [ofName, List.reverse_append, List.reverse_reverse, List.reverse_singleton,
        List.singleton_append, ← hs, String.ofList_toList]
    have hend : ¬isNameRest d = true := Bool.eq_false_iff.1 (isBreak_iff.1 hd).1
    rw [List.cons_append, run_of_silent (p := .gap) (start_of_isNameStart hc)]
    apply run_concat_of_startAfter (run_name hcs [c])
    rw [step, if_neg hend, hname]

end Names

section Numbers

variable {cs : List Char}

theorem run_number (h : ∀ c ∈ cs, c.isDigit = true) {acc : List Char} (hne : acc ≠ [])
    (hzero : acc ≠ ['0']) :
    run (.number false acc) cs = some ([], .number false (cs.reverse ++ acc)) := by
  induction cs generalizing acc with
  | nil => rfl
  | cons c cs ih =>
    obtain ⟨hc, hcs⟩ := List.forall_mem_cons.1 h
    have hrest := ih hcs (List.cons_ne_nil c acc) (by simp [hne])
    rw [run, step, if_pos hc, if_neg hzero, Option.bind_some, hrest]
    simp [emit]

theorem exists_toDigits (n : Nat) :
    ∃ c cs, Nat.toDigits 10 n = c :: cs ∧ ([c] = ['0'] → cs = []) := by
  induction n using Nat.strongRecOn with
  | ind n ih =>
    by_cases hn : n < 10
    · exact ⟨_, [], Nat.toDigits_of_lt_base hn, fun _ => rfl⟩
    · obtain ⟨c, cs, hdigits, hzero⟩ := ih (n / 10) (by omega)
      refine ⟨c, cs ++ [(n % 10).digitChar], ?_, fun hc => ?_⟩
      · rw [Nat.toDigits_of_base_le (by decide) (by omega), hdigits, List.cons_append]
      · -- then what stands before the last digit is zero, and the number has one digit only
        have hvalue : Nat.ofDigitChars 10 (Nat.toDigits 10 (n / 10)) 0 = n / 10 :=
          Nat.ofDigitChars_toDigits (by decide) (by decide)
        rw [hdigits, hzero hc, hc] at hvalue
        have hsmall : (0 : Nat) = n / 10 := hvalue
        omega

theorem loose_int (n : Nat) : Loose (toString n) [.int n] := by
  intro d hd
  obtain ⟨c, cs, hdigits, hzero⟩ := exists_toDigits n
  have hall : ∀ e ∈ c :: cs, e.isDigit = true := by
    intro e he
    rw [← hdigits] at he
    exact Nat.isDigit_of_mem_toDigits (by decide) (by decide) he
  obtain ⟨hc, hcs⟩ := List.forall_mem_cons.1 hall
  have hrun : run (.number false [c]) cs = some ([], .number false (cs.reverse ++ [c])) := by
    by_cases hzeros : [c] = ['0']
    · rw [hzero hzeros]
      rfl
    · exact run_number hcs (List.cons_ne_nil c []) hzeros
  have hvalue : ofNumber false (cs.reverse ++ [c]) = .int n := by
    rw [ofNumber, List.reverse_append, List.reverse_reverse, List.reverse_singleton,
      List.singleton_append, ← hdigits, Nat.ofDigitChars_toDigits (by decide) (by decide)]
    rfl
  obtain ⟨hend, hdot, _⟩ := isBreak_iff.1 hd
  have hnot := Bool.eq_false_iff.1 hend
  have hstart : ¬isNameStart d = true := fun h => hnot (isNameRest_iff.2 (.inl h))
  have hdigit : ¬d.isDigit = true := fun h => hnot (isNameRest_iff.2 (.inr h))
  have htext : (toString n).toList = c :: cs := by
    rw [← hdigits]
    exact Nat.toList_repr
  rw [htext, List.cons_append, run_of_silent (p := .gap) (start_of_isDigit hc)]
  apply run_concat_of_startAfter hrun
  rw [step, if_neg hdigit, if_neg (by simp [hdot, hstart]), hvalue]

end Numbers

section Strings

variable {d : Draft} {c : Char} {cs : List Char}

theorem hexValue?_hexDigit : ∀ n < 16, hexValue? (Text.hexDigit n) = some n := by decide

theorem run_escape (d : Draft) (c : Char) :
    run (.text d) (Text.escape c) = some ([], .text (d.add c)) := by
  have hofNat : ∀ n, c.toNat = n → c = Char.ofNat n := by
    rintro n rfl
    rw [Char.ofNat_toNat]
  unfold Text.escape
  split_ifs with hquote hslash hfeed hreturn htab hback hform hlow
  · cases hquote; rfl
  · cases hslash; rfl
  · cases hfeed; rfl
  · cases hreturn; rfl
  · cases htab; rfl
  · rw [hofNat 8 hback]; rfl
  · rw [hofNat 12 hform]; rfl
  · have hhigh := hexValue?_hexDigit (c.toNat / 16) (by omega)
    have hdigit := hexValue?_hexDigit (c.toNat % 16) (by omega)
    have hunit : 16 * (16 * 0 + c.toNat / 16) + c.toNat % 16 = c.toNat := by omega
    have hadd : d.addUnit c.toNat = d.add c := by
      rw [Draft.addUnit, if_neg (by omega), if_neg (by omega), Char.ofNat_toNat]
    rw [run_of_silent (q := .escape d) rfl, run_of_silent (q := .hex d 4 0) rfl,
      run_of_silent (q := .hex d 3 0) rfl, run_of_silent (q := .hex d 2 0) rfl,
      run_of_silent (q := .hex d 1 (16 * 0 + c.toNat / 16)) (by rw [step, hhigh]; rfl),
      run_singleton, step, hdigit, Option.map_some, if_pos (Nat.le_refl 1), hunit, hadd]
  · rw [run_singleton, step, stepText, if_neg hquote, if_neg hslash, if_neg (by simp [hlow])]

theorem run_escaped (d : Draft) (cs : List Char) :
    run (.text d) (cs.flatMap Text.escape) = some ([], .text (cs.foldl Draft.add d)) := by
  induction cs generalizing d with
  | nil => rfl
  | cons c cs ih =>
    rw [List.flatMap_cons, run_append, run_escape, Option.bind_some, ih]
    rfl

theorem foldl_add (cs acc : List Char) :
    cs.foldl Draft.add ⟨some acc, none⟩ = ⟨some (cs.reverse ++ acc), none⟩ := by
  induction cs generalizing acc with
  | nil => rfl
  | cons c cs ih =>
    rw [List.foldl_cons]
    show cs.foldl Draft.add ⟨some (c :: acc), none⟩ = _
    rw [ih, List.reverse_cons, List.append_assoc]
    rfl

theorem step_close (cs : List Char) :
    step (.text (cs.foldl Draft.add .empty)) '"' = some ([.string (String.ofList cs)], .gap) := by
  have htext : (cs.foldl Draft.add .empty).text = some (String.ofList cs) := by
    rw [Draft.empty, foldl_add]
    simp [Draft.text, Draft.settled]
  rw [step, stepText, if_pos rfl, htext]
  rfl

theorem exists_escape (c : Char) : ∃ x xs, Text.escape c = x :: xs ∧ x ≠ '"' := by
  unfold Text.escape
  split_ifs with hquote
  all_goals first
    | exact ⟨_, _, rfl, by decide⟩
    | exact ⟨_, _, rfl, hquote⟩

theorem loose_quoted (s : String) : Loose (Text.quoted s) [.string s] := by
  intro d hd
  have hquote : d ≠ '"' := (isBreak_iff.1 hd).2.2
  rw [Text.quoted, String.toList_ofList, Text.quotedChars, List.cons_append,
    run_of_silent (q := .opened) rfl, List.append_assoc]
  -- the second quote of an empty string is told from an opening one by what follows it
  cases hs : s.toList with
  | nil =>
    have hempty : s = "" := by rw [← String.ofList_toList (s := s), hs]
    rw [List.flatMap_nil, List.nil_append, List.singleton_append,
      run_of_silent (q := .emptied) rfl, run_singleton, step, if_neg hquote, hempty]
    rfl
  | cons c cs =>
    obtain ⟨x, xs, hescape, hx⟩ := exists_escape c
    have hopened : run .opened ((c :: cs).flatMap Text.escape ++ (['"'] ++ [d])) =
        run (.text .empty) ((c :: cs).flatMap Text.escape ++ (['"'] ++ [d])) := by
      rw [List.flatMap_cons, hescape, List.cons_append, List.cons_append, run, run, step,
        if_neg hx, step]
    have hclose := step_close (c :: cs)
    rw [← hs, String.ofList_toList, hs] at hclose
    rw [hopened, run_append, run_escaped, Option.bind_some, List.singleton_append, run, hclose,
      Option.bind_some, run_singleton, emit_nil, Option.map_id]
    rfl

end Strings

end Docket.Query.Syntax
