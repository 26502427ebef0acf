import Docket.Proofs.Arguments
import Docket.Proofs.Syntax.Spelling
/-!
String literals at the front of a text. They are read up to the closing quote: a character from
U+0020 on stands for itself, a backslash opens an escape, and three quotes open a block string,
which is no literal of this kind. What is quoted is read back as it was, whatever comes after it.
-/

namespace Docket.Query.Syntax.StringLiteral

open Json.Token (Draft escaped? hexValue?)
open Text (escape quoted quotedChars)

def unit? (x y z w : Char) : Option Nat := do
  let x ← hexValue? x
  let y ← hexValue? y
  let z ← hexValue? z
  let w ← hexValue? w
  some (((x * 16 + y) * 16 + z) * 16 + w)

def readText? (d : Draft) : List Char → Option (String × List Char)
  | [] => none
  | c :: cs =>
    if c = '"' then d.text.map fun s => (s, cs)
    else if c = '\\' then
      match cs with
      | [] => none
      | e :: cs =>
        if e = 'u' then
          match cs with
          | x :: y :: z :: w :: cs => (unit? x y z w).bind fun n => readText? (d.addUnit n) cs
          | _ => none
        else (escaped? e).bind fun c => readText? (d.add c) cs
    else if c.toNat < 32 then none
    else readText? (d.add c) cs

def read? : List Char → Option (String × List Char)
  | '"' :: '"' :: '"' :: _ => none
  | '"' :: cs => readText? .empty cs
  | _ => none

/-- How a character may be written between the quotes: as itself, by a short escape, or by its
number if that is no half of a pair. -/
inductive Writes : List Char → Char → Prop
  | plain {c : Char} (hquote : c ≠ '"') (hslash : c ≠ '\\') (hlow : 32 ≤ c.toNat) : Writes [c] c
  | short {e c : Char} (h : escaped? e = some c) : Writes ['\\', e] c
  | number {x y z w : Char} {n : Nat} (h : unit? x y z w = some n) (hn : n < 0xD800 ∨ 0xE000 ≤ n) :
      Writes ['\\', 'u', x, y, z, w] (Char.ofNat n)

section Read

variable {piece : List Char} {c : Char}

theorem le_toNat_of_escaped? {e : Char} (h : escaped? e = some c) : 32 ≤ e.toNat := by
  unfold escaped? at h
  split_ifs at h with hself hb hf hn hr ht
  · rcases hself with rfl | rfl | rfl
    · decide
    · decide
    · decide
  · exact hb ▸ by decide
  · exact hf ▸ by decide
  · exact hn ▸ by decide
  · exact hr ▸ by decide
  · exact ht ▸ by decide

theorem le_toNat_of_hexValue? {x : Char} {n : Nat} (h : hexValue? x = some n) : 32 ≤ x.toNat := by
  unfold hexValue? at h
  dsimp only at h
  split_ifs at h
  · omega
  · omega
  · omega

theorem Writes.le_toNat (h : Writes piece c) : ∀ x ∈ piece, 32 ≤ x.toNat := by
  cases h with
  | plain hquote hslash hlow => simpa using hlow
  | short h => simpa using le_toNat_of_escaped? h
  | @number x y z w n h hn =>
    simp only [unit?, Option.bind_eq_bind, Option.bind_eq_some_iff] at h
    obtain ⟨_, hx, _, hy, _, hz, _, hw, -⟩ := h
    simp only [List.forall_mem_cons, List.not_mem_nil, false_implies, implies_true, and_true]
    exact ⟨by decide, by decide, le_toNat_of_hexValue? hx, le_toNat_of_hexValue? hy,
      le_toNat_of_hexValue? hz, le_toNat_of_hexValue? hw⟩

theorem readText?_append (h : Writes piece c) (d : Draft) (cs : List Char) :
    readText? d (piece ++ cs) = readText? (d.add c) cs := by
  cases h with
  | plain hquote hslash hlow =>
    rw [List.singleton_append, readText?.eq_def]
    dsimp only
    rw [if_neg hquote, if_neg hslash, if_neg (by omega)]
  | @short e c h =>
    have hu : e ≠ 'u' := by
      rintro rfl
      cases h
    show readText? d ('\\' :: e :: cs) = _
    rw [readText?.eq_def]
    dsimp only
    rw [if_neg (by decide), if_pos rfl, if_neg hu, h, Option.bind_some]
  | @number x y z w n h hn =>
    have hunit : d.addUnit n = d.add (Char.ofNat n) := by
      rw [Draft.addUnit, if_neg (by omega), if_neg (by omega)]
    show readText? d ('\\' :: 'u' :: x :: y :: z :: w :: cs) = _
    rw [readText?.eq_def]
    dsimp only
    rw [if_neg (by decide), if_pos rfl, if_pos rfl, h, Option.bind_some, hunit]

theorem readText?_close (d : Draft) (cs : List Char) :
    readText? d ('"' :: cs) = d.text.map fun s => (s, cs) := by
  rw [readText?.eq_def]
  exact if_pos rfl

theorem readText?_flatten {pieces : List (List Char)} {text : List Char}
    (h : List.Forall₂ Writes pieces text) (acc cs : List Char) :
    readText? ⟨some acc, none⟩ (pieces.flatten ++ '"' :: cs) =
      some (String.ofList (acc.reverse ++ text), cs) := by
  induction h generalizing acc with
  | nil => simp [readText?_close, Draft.text, Draft.settled]
  | @cons piece c pieces text hpiece _ ih =>
    have hadd : Draft.add ⟨some acc, none⟩ c = ⟨some (c :: acc), none⟩ := rfl
    rw [List.flatten_cons, List.append_assoc, readText?_append hpiece, hadd, ih]
    simp

end Read

section Written

theorem writes_escape (c : Char) : Writes (escape c) c := by
  have hofNat : ∀ n, c.toNat = n → c = Char.ofNat n := by
    rintro n rfl
    rw [Char.ofNat_toNat]
  unfold escape
  split_ifs with hquote hslash hfeed hreturn htab hback hform hlow
  · subst hquote
    exact .short rfl
  · subst hslash
    exact .short rfl
  · subst hfeed
    exact .short rfl
  · subst hreturn
    exact .short rfl
  · subst htab
    exact .short rfl
  · rw [hofNat 8 hback]
    exact .short rfl
  · rw [hofNat 12 hform]
    exact .short rfl
  · have hzero : hexValue? '0' = some 0 := rfl
    have hunit : unit? '0' '0' (Text.hexDigit (c.toNat / 16)) (Text.hexDigit (c.toNat % 16)) =
        some c.toNat := by
      rw [unit?, hzero, hexValue?_hexDigit _ (by omega), hexValue?_hexDigit _ (by omega)]
      show some (((0 * 16 + 0) * 16 + c.toNat / 16) * 16 + c.toNat % 16) = some c.toNat
      rw [Option.some_inj]
      omega
    have hwrites := Writes.number hunit (.inl (by omega))
    rwa [Char.ofNat_toNat] at hwrites
  · exact .plain hquote hslash (Nat.le_of_not_lt hlow)

theorem forall₂_writes (text : List Char) : List.Forall₂ Writes (text.map escape) text := by
  induction text with
  | nil => exact .nil
  | cons c text ih => exact .cons (writes_escape c) ih

theorem toList_quoted (s : String) :
    (quoted s).toList = '"' :: ((s.toList.map escape).flatten ++ ['"']) := by
  rw [quoted, String.toList_ofList, quotedChars, List.flatMap_def]

end Written

theorem read?_quoted (s : String) (cs : List Char) (h : s ≠ "" ∨ cs.head? ≠ some '"') :
    read? ((quoted s).toList ++ cs) = some (s, cs) := by
  have htext := readText?_flatten (forall₂_writes s.toList) [] cs
  rw [List.reverse_nil, List.nil_append, String.ofList_toList] at htext
  rw [toList_quoted, List.cons_append, List.append_assoc, List.singleton_append]
  generalize hbody : (s.toList.map escape).flatten ++ '"' :: cs = body at htext
  -- a literal that starts with two quotes is empty, and then a third one would open a block string
  have hopen : ∀ rest, body ≠ '"' :: '"' :: rest := by
    rintro rest rfl
    cases hs : s.toList with
    | nil =>
      rw [hs] at hbody
      rcases h with hne | hhead
      · exact hne (String.toList_eq_nil_iff.1 hs)
      · obtain ⟨-, rfl⟩ := List.cons.inj hbody
        exact hhead rfl
    | cons c text =>
      obtain ⟨x, xs, hescape, hx⟩ := exists_escape c
      rw [hs, List.map_cons, List.flatten_cons, hescape] at hbody
      exact hx (List.cons.inj hbody).1
  rw [read?]
  · exact htext
  · rintro rest rfl
    exact hopen rest rfl

theorem quoted_injective : Function.Injective quoted := by
  intro s t h
  have hs := read?_quoted s [] (.inr (by simp))
  rw [h, read?_quoted t [] (.inr (by simp))] at hs
  exact (congrArg Prod.fst (Option.some.inj hs)).symm

/-- A text that is not blank is read back from its literal up to where that ends, and distinct texts
have distinct literals. Between the quotes each character of the text is written in one of the ways
that there are for it, and nothing below U+0020 stands as it is. -/
theorem read?_quoted_append :
    (∀ s, NonBlank s → ∀ cs, read? ((quoted s).toList ++ cs) = some (s, cs)) ∧
    (∀ s, (∀ c ∈ (quoted s).toList, 32 ≤ c.toNat) ∧ ∃ pieces,
      (quoted s).toList = '"' :: (pieces.flatten ++ ['"']) ∧ List.Forall₂ Writes pieces s.toList) ∧
    Function.Injective quoted := by
  refine ⟨fun s hs cs => ?_, fun s => ⟨fun c hc => ?_, _, toList_quoted s, forall₂_writes s.toList⟩,
    quoted_injective⟩
  · apply read?_quoted
    left
    rintro rfl
    obtain ⟨c, hc, -⟩ := hs
    cases hc
  · rw [toList_quoted] at hc
    simp only [List.mem_cons, List.mem_append, List.mem_flatten, List.mem_map, List.not_mem_nil,
      or_false] at hc
    rcases hc with rfl | ⟨_, ⟨d, -, rfl⟩, hc⟩ | rfl
    · decide
    · exact (writes_escape d).le_toNat c hc
    · decide

theorem read?_quoted_append_sample :
    NonBlank "\\\"" ∧
      read? ['"', '\\', '\\', '\\', '"', '"', '"', '"'] = some ("\\\"", ['"', '"']) := by
  have hblank : NonBlank "\\\"" := ⟨'\\', by decide, by decide⟩
  exact ⟨hblank, read?_quoted_append.1 _ hblank ['"', '"']⟩

end Docket.Query.Syntax.StringLiteral
