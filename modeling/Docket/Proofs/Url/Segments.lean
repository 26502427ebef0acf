import Docket.Url.Reader
import Mathlib.Tactic.Common
/-!
Segments of a path. Percent-encoding leaves a text that needs no encoding a second time and that is
no dot segment unless it was one before, so that a segment, once written, is read as it stands.
-/

namespace Docket.Url

def IsSegment (s : String) : Prop := ∀ c ∈ s.toList, inPathSet c = false ∧ c ≠ '/'

instance (s : String) : Decidable (IsSegment s) :=
  List.decidableBAll (fun c => inPathSet c = false ∧ c ≠ '/') s.toList

def IsDot (cs : List Char) : Prop := isSingleDot cs = true ∨ isDoubleDot cs = true

def dotTexts : List (List Char) :=
  [['.'], ['%', '2', 'e'], ['.', '.'], ['.', '%', '2', 'e'], ['%', '2', 'e', '.'],
    ['%', '2', 'e', '%', '2', 'e']]

theorem isDot_iff {cs : List Char} : IsDot cs ↔ lowerLetters cs ∈ dotTexts := by
  simp [IsDot, isSingleDot, isDoubleDot, dotTexts, or_assoc]

section Encoding

theorem upperHex_free {n : Nat} (h : n < 16) :
    inPathSet (upperHex n) = false ∧ isSlash true (upperHex n) = false := by
  revert n
  decide

theorem toLower_upperHex {n : Nat} (h : n < 16) :
    ((upperHex n).toLower = '2' → n = 2) ∧ ((upperHex n).toLower = 'e' → n = 14) := by
  revert n
  decide

theorem exists_utf8EncodeChar (c : Char) :
    ∃ b bs, String.utf8EncodeChar c = b :: bs ∧ (b.toNat = c.toNat ∨ 128 ≤ b.toNat) := by
  have hval : c.val.toNat = c.toNat := rfl
  simp only [String.utf8EncodeChar]
  repeat' split
  all_goals
    refine ⟨_, _, rfl, ?_⟩
    rw [UInt8.toNat_ofNat']
    omega

theorem mem_encodeByte {b : UInt8} {c : Char} (h : c ∈ encodeByte b) :
    inPathSet c = false ∧ isSlash true c = false := by
  have hb := b.toNat_lt
  simp only [encodeByte, List.mem_cons, List.not_mem_nil, or_false] at h
  rcases h with rfl | rfl | rfl
  · decide
  · exact upperHex_free (by omega)
  · exact upperHex_free (by omega)

theorem mem_encode {cs : List Char} {c : Char} (h : c ∈ encode inPathSet cs) :
    inPathSet c = false ∧ (isSlash true c = true → c ∈ cs) := by
  obtain ⟨d, hd, hc⟩ := List.mem_flatMap.1 h
  unfold encodeChar at hc
  split at hc
  · obtain ⟨b, _, hb⟩ := List.mem_flatMap.1 hc
    obtain ⟨hfree, hslash⟩ := mem_encodeByte hb
    exact ⟨hfree, fun h => by rw [hslash] at h; cases h⟩
  · rename_i hfree
    obtain rfl := List.mem_singleton.1 hc
    exact ⟨by simpa using hfree, fun _ => hd⟩

theorem encode_of_free {inSet : Char → Bool} {cs : List Char} (h : ∀ c ∈ cs, inSet c = false) :
    encode inSet cs = cs := by
  induction cs with
  | nil => rfl
  | cons c cs ih =>
    obtain ⟨hc, hcs⟩ := List.forall_mem_cons.1 h
    have hone : encodeChar inSet c = [c] := by simp [encodeChar, hc]
    change encodeChar inSet c ++ encode inSet cs = c :: cs
    rw [hone, ih hcs, List.singleton_append]

theorem escape_of_mem_dotTexts {before after : List Char} {x y : Char}
    (h : before ++ '%' :: x :: y :: after ∈ dotTexts) : x = '2' ∧ y = 'e' := by
  have hall : ∀ t ∈ dotTexts, ∀ n < t.length,
      t[n]? = some '%' → t[n + 1]? = some '2' ∧ t[n + 2]? = some 'e' := by decide
  simpa using hall _ h before.length (by simp) (by simp)

theorem encode_eq_of_isDot {cs : List Char} (h : IsDot (encode inPathSet cs)) :
    encode inPathSet cs = cs := by
  apply encode_of_free
  by_contra hcs
  push Not at hcs
  obtain ⟨c, hc, hset⟩ := hcs
  rw [ne_eq, Bool.not_eq_false] at hset
  obtain ⟨before, after, rfl⟩ := List.append_of_mem hc
  obtain ⟨b, bs, hbytes, hb⟩ := exists_utf8EncodeChar c
  have hlt := b.toNat_lt
  have hencode : encode inPathSet (before ++ c :: after) = encode inPathSet before ++
      '%' :: upperHex (b.toNat / 16) :: upperHex (b.toNat % 16) ::
        (bs.flatMap encodeByte ++ encode inPathSet after) := by
    simp [encode, encodeChar, hset, hbytes, encodeByte]
  rw [isDot_iff, hencode, lowerLetters, List.map_append] at h
  obtain ⟨hhigh, hlow⟩ := escape_of_mem_dotTexts h
  have hhigh := (toLower_upperHex (by omega)).1 hhigh
  have hlow := (toLower_upperHex (by omega)).2 hlow
  rcases hb with hb | hb
  · -- the byte would be a dot, which is never encoded
    have hdot : c = '.' := by
      apply Char.toNat_inj.1
      rw [← hb]
      change b.toNat = 46
      omega
    rw [hdot] at hset
    cases hset
  · omega

theorem not_isDot_encode {cs : List Char} (h : ¬IsDot cs) : ¬IsDot (encode inPathSet cs) :=
  fun hdot => h (encode_eq_of_isDot hdot ▸ hdot)

theorem isSegment_encodeSegment {cs : List Char} (h : '/' ∉ cs) : IsSegment (encodeSegment cs) := by
  intro c hc
  rw [encodeSegment, String.toList_ofList] at hc
  refine ⟨(mem_encode hc).1, ?_⟩
  rintro rfl
  exact h ((mem_encode hc).2 rfl)

theorem isSlash_encodeSegment {special : Bool} {cs : List Char}
    (h : ∀ c ∈ cs, isSlash special c = false) :
    ∀ c ∈ (encodeSegment cs).toList, isSlash special c = false := by
  intro c hc
  rw [encodeSegment, String.toList_ofList] at hc
  by_contra hslash
  rw [Bool.not_eq_false] at hslash
  have htrue : isSlash true c = true := by
    revert hslash
    cases special <;> simp +contextual [isSlash]
  rw [h c ((mem_encode hc).2 htrue)] at hslash
  cases hslash

theorem IsSegment.encodeSegment_eq {s : String} (h : IsSegment s) : encodeSegment s.toList = s := by
  rw [encodeSegment, encode_of_free fun c hc => (h c hc).1, String.ofList_toList]

theorem IsSegment.isBreak_eq_false {s : String} (h : IsSegment s) {c : Char} (hc : c ∈ s.toList) :
    isBreak c = false := by
  have hfree := (h c hc).1
  by_contra hbreak
  rw [Bool.not_eq_false] at hbreak
  simp only [isBreak, Bool.or_eq_true, decide_eq_true_eq] at hbreak
  rcases hbreak with (rfl | rfl) | rfl <;> cases hfree

end Encoding

end Docket.Url
