import Docket.Result.Decode
import Mathlib.Tactic.Common
/-!
Paths into JSON. The text of a path, its keys separated by dots and its indexes in brackets, reads
back as the path, so an error that names a place by its text names that place only.
-/

namespace Docket

def Json.at? : Json → Result.Path → Option Json
  | j, [] => some j
  | .object members, .key k :: p => (Json.lookup k members).bind fun j => j.at? p
  | .array items, .index i :: p => items[i]?.bind fun j => j.at? p
  | _, _ :: _ => none

namespace Result

namespace Path

mutual

def readOn : List Char → Option Path
  | [] => some []
  | c :: cs => if c = '.' then readKey [] cs else if c = '[' then readIndex [] cs else none

def readKey (acc : List Char) : List Char → Option Path
  | [] => if acc = [] then none else some [.key (String.ofList acc.reverse)]
  | c :: cs =>
    if c = '.' ∨ c = '[' then
      if acc = [] then none
      else (if c = '.' then readKey [] cs else readIndex [] cs).map
        (.key (String.ofList acc.reverse) :: ·)
    else readKey (c :: acc) cs

def readIndex (acc : List Char) : List Char → Option Path
  | [] => none
  | c :: cs =>
    if c = ']' then
      if acc = [] then none else (readOn cs).map (.index (Nat.ofDigitChars 10 acc.reverse 0) :: ·)
    else if c.isDigit then readIndex (c :: acc) cs
    else none

end

def read? (s : String) : Option Path :=
  match s.toList with
  | [] => some []
  | c :: cs => if c = '[' then readIndex [] cs else readKey [] (c :: cs)

end Path

def PathStep.chars : PathStep → List Char
  | .key k => '.' :: k.toList
  | .index i => '[' :: (Nat.toDigits 10 i ++ [']'])

def PathStep.IsPlain : PathStep → Prop
  | .key k => Query.isWord k.toList = true
  | .index _ => True

namespace Path

section Reading

variable {c : Char} {cs rest acc : List Char}

theorem isAlpha_ne (h : c.isAlpha = true) : c ≠ '.' ∧ c ≠ '[' := by
  constructor
  · rintro rfl
    revert h
    decide
  · rintro rfl
    revert h
    decide

theorem readKey_append (h : cs.all Char.isAlpha = true) :
    readKey acc (cs ++ rest) = readKey (cs.reverse ++ acc) rest := by
  induction cs generalizing acc with
  | nil => rfl
  | cons c cs ih =>
    simp only [List.all_cons, Bool.and_eq_true] at h
    have hc : ¬(c = '.' ∨ c = '[') := not_or.2 (isAlpha_ne h.1)
    rw [List.cons_append, readKey, if_neg hc, ih h.2, List.reverse_cons, List.append_assoc]
    rfl

theorem readIndex_append (h : ∀ c ∈ cs, c.isDigit = true) :
    readIndex acc (cs ++ rest) = readIndex (cs.reverse ++ acc) rest := by
  induction cs generalizing acc with
  | nil => rfl
  | cons c cs ih =>
    obtain ⟨hc, hcs⟩ := List.forall_mem_cons.1 h
    have hne : c ≠ ']' := by
      rintro rfl
      revert hc
      decide
    rw [List.cons_append, readIndex, if_neg hne, if_pos hc, ih hcs, List.reverse_cons,
      List.append_assoc]
    rfl

theorem readIndex_toDigits (i : Nat) :
    readIndex [] (Nat.toDigits 10 i ++ ']' :: rest) = (readOn rest).map (.index i :: ·) := by
  rw [readIndex_append fun c hc => Nat.isDigit_of_mem_toDigits (by decide) (by decide) hc,
    readIndex, if_pos rfl, if_neg (by simp), List.append_nil, List.reverse_reverse,
    Nat.ofDigitChars_toDigits (by decide) (by decide)]

theorem readKey_chars {p : Path} (hacc : acc ≠ []) :
    readKey acc (p.flatMap PathStep.chars) =
      (readOn (p.flatMap PathStep.chars)).map (.key (String.ofList acc.reverse) :: ·) := by
  cases p with
  | nil => simp [readKey, readOn, hacc]
  | cons step p =>
    cases step with
    | key k => simp [PathStep.chars, readKey, readOn, hacc]
    | index i => simp [PathStep.chars, readKey, readOn, hacc]

theorem readKey_word {k : String} {p : Path} (hk : Query.isWord k.toList = true) :
    readKey [] (k.toList ++ p.flatMap PathStep.chars) =
      (readOn (p.flatMap PathStep.chars)).map (.key k :: ·) := by
  simp only [Query.isWord, Bool.and_eq_true] at hk
  have hne : k.toList.reverse ≠ [] := by
    intro h
    rw [List.reverse_eq_nil_iff.1 h] at hk
    simp at hk
  rw [readKey_append hk.2, List.append_nil, readKey_chars hne, List.reverse_reverse,
    String.ofList_toList]

theorem readOn_chars {p : Path} (h : ∀ step ∈ p, step.IsPlain) :
    readOn (p.flatMap PathStep.chars) = some p := by
  induction p with
  | nil => rfl
  | cons step p ih =>
    obtain ⟨hstep, hp⟩ := List.forall_mem_cons.1 h
    rw [List.flatMap_cons]
    cases step with
    | key k =>
      rw [PathStep.chars, List.cons_append, readOn, if_pos rfl, readKey_word hstep, ih hp]
      rfl
    | index i =>
      rw [PathStep.chars, List.cons_append, List.append_assoc, readOn, if_neg (by decide),
        if_pos rfl, List.singleton_append, readIndex_toDigits, ih hp]
      rfl

end Reading

theorem toList_append (w : String) (hw : w ≠ "") (step : PathStep) :
    (step.append w).toList = w.toList ++ step.chars := by
  cases step with
  | key k => simp [PathStep.append, PathStep.chars, hw]
  | index i => simp [PathStep.append, PathStep.chars, Nat.toList_repr]

theorem toList_foldl (w : String) (hw : w ≠ "") (p : Path) :
    (p.foldl PathStep.append w).toList = w.toList ++ p.flatMap PathStep.chars := by
  induction p generalizing w with
  | nil => simp
  | cons step p ih =>
    have happend := toList_append w hw step
    have hne : step.append w ≠ "" := by
      intro h
      rw [h] at happend
      simp [hw] at happend
    rw [List.foldl_cons, ih _ hne, happend, List.flatMap_cons, List.append_assoc]

/-- The text of a path is that of its steps, save for the dot before a first key. -/
theorem toList_write (step : PathStep) (h : step.IsPlain) (p : Path) :
    (write (step :: p)).toList = (step.append "").toList ++ p.flatMap PathStep.chars := by
  refine toList_foldl _ ?_ p
  cases step with
  | key k =>
    intro hk
    rw [PathStep.append, if_pos rfl] at hk
    rw [PathStep.IsPlain, hk] at h
    cases h
  | index i =>
    intro hi
    have hlist := congrArg String.toList hi
    simp [PathStep.append] at hlist

theorem read?_write {p : Path} (h : ∀ step ∈ p, step.IsPlain) : read? p.write = some p := by
  cases p with
  | nil => rfl
  | cons step p =>
    obtain ⟨hstep, hp⟩ := List.forall_mem_cons.1 h
    have hrest := readOn_chars hp
    rw [read?, toList_write step hstep]
    cases step with
    | key k =>
      have hkey := readKey_word (p := p) hstep
      rw [hrest, Option.map_some] at hkey
      rw [PathStep.append, if_pos rfl]
      have hword := hstep
      rw [PathStep.IsPlain] at hword
      cases hk : k.toList with
      | nil =>
        rw [hk] at hword
        cases hword
      | cons c cs =>
        rw [hk] at hword
        rw [hk, List.cons_append] at hkey
        have hletter := (Query.isWord_cons_iff.1 hword).1
        simp only [List.cons_append, if_neg (isAlpha_ne hletter).2, hkey]
    | index i =>
      have hindex :
          (PathStep.append "" (.index i)).toList = '[' :: (Nat.toDigits 10 i ++ [']']) := by
        simp [PathStep.append, Nat.toList_repr]
      rw [hindex, List.cons_append, List.append_assoc, List.singleton_append]
      simp only [if_true, readIndex_toDigits, hrest, Option.map_some]

end Path

end Result

end Docket
