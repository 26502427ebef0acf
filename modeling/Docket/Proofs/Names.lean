import Docket.Query.Document
import Mathlib.Logic.Function.Basic
/-!
Names and the words that spell them. Two words spell one name when they differ in the case of the
first letter at most, or when both are casings of `id`. The name is itself such a word, in upper
case at the front, and so is the field of that name, in lower case at the front; hence fields are
named apart, and never as a type is. A variable is spelled by one word only.
-/

namespace Docket.Query

structure Opens (inCase : Char → Bool) (s : String) : Prop where
  letters : ∀ c ∈ s.toList, c.isAlpha = true
  first : ∃ c ∈ s.toList.head?, inCase c = true

/-- Two words that differ in the case of the first letter at most, or are both casings of `id`. -/
def SpellAlike (s t : String) : Prop :=
  (∃ c d rest, s.toList = c :: rest ∧ t.toList = d :: rest ∧ c.toLower = d.toLower) ∨
    (Text.sameLetters s "id" = true ∧ Text.sameLetters t "id" = true)

section TitleCase

variable {s t : String} {c d : Char} {cs rest rest' : List Char}

theorem isWord_toList_iff :
    isWord s.toList = true ↔ s ≠ "" ∧ ∀ c ∈ s.toList, c.isAlpha = true := by
  rw [isWord_iff, Ne, String.toList_eq_nil_iff]

theorem isIdWord_toList (s : String) : isIdWord s.toList = Text.sameLetters s "id" := rfl

theorem map_toLower_titleCase (cs : List Char) :
    (titleCase cs).map Char.toLower = cs.map Char.toLower := by
  unfold titleCase
  split
  · rename_i hid
    rw [isIdWord, beq_iff_eq] at hid
    rw [hid]
    rfl
  · cases cs with
    | nil => rfl
    | cons c rest => rw [List.map_cons, List.map_cons, Text.toLower_toUpper]

theorem isIdWord_titleCase (cs : List Char) : isIdWord (titleCase cs) = isIdWord cs := by
  rw [isIdWord, map_toLower_titleCase, isIdWord]

theorem titleCase_cons (h : isIdWord (c :: rest) = false) :
    titleCase (c :: rest) = c.toUpper :: rest := by
  rw [titleCase, h, if_neg Bool.false_ne_true]

theorem titleCase_cons_congr (h : c.toLower = d.toLower) :
    titleCase (c :: rest) = titleCase (d :: rest) := by
  have hid : isIdWord (c :: rest) = isIdWord (d :: rest) := by
    rw [isIdWord, List.map_cons, h, isIdWord, List.map_cons]
  simp only [titleCase, hid, Text.toUpper_eq_iff.2 h]

/-- Title case forgets the case of the first letter, and all of the case of a casing of `id`. -/
theorem titleCase_eq_iff : titleCase (c :: rest) = titleCase (d :: rest') ↔
    (c.toLower = d.toLower ∧ rest = rest') ∨
      (isIdWord (c :: rest) = true ∧ isIdWord (d :: rest') = true) := by
  constructor
  · intro h
    -- what is a casing of `id` remains one, so both words fall under the same rule
    have hid : isIdWord (c :: rest) = isIdWord (d :: rest') := by
      rw [← isIdWord_titleCase, h, isIdWord_titleCase]
    cases hd : isIdWord (d :: rest') with
    | true => exact .inr ⟨hid.trans hd, rfl⟩
    | false =>
      rw [titleCase_cons (hid.trans hd), titleCase_cons hd] at h
      obtain ⟨hfirst, hrest⟩ := List.cons.inj h
      exact .inl ⟨Text.toUpper_eq_iff.1 hfirst, hrest⟩
  · intro h
    rcases h with ⟨hfirst, rfl⟩ | ⟨hc, hd⟩
    · exact titleCase_cons_congr hfirst
    · rw [titleCase, if_pos hc, titleCase, if_pos hd]

theorem titleCase_eq_iff_spellAlike (hs : isWord s.toList = true) (ht : isWord t.toList = true) :
    titleCase s.toList = titleCase t.toList ↔ SpellAlike s t := by
  obtain ⟨c, rest, hc⟩ := List.exists_cons_of_ne_nil (isWord_iff.1 hs).1
  obtain ⟨d, rest', hd⟩ := List.exists_cons_of_ne_nil (isWord_iff.1 ht).1
  rw [SpellAlike, ← isIdWord_toList, ← isIdWord_toList, hc, hd, titleCase_eq_iff]
  apply or_congr_left
  constructor
  · intro h
    obtain ⟨hfirst, hrest⟩ := h
    exact ⟨c, d, rest, rfl, by rw [hrest], hfirst⟩
  · intro h
    obtain ⟨c', d', rest'', hc', hd', hfirst⟩ := h
    cases hc'
    cases hd'
    exact ⟨hfirst, rfl⟩

theorem exists_head?_titleCase (h : isWord cs = true) :
    ∃ c ∈ (titleCase cs).head?, c.isUpper = true := by
  obtain ⟨c, rest, rfl⟩ := List.exists_cons_of_ne_nil (isWord_iff.1 h).1
  by_cases hid : isIdWord (c :: rest) = true
  · exact ⟨'I', by rw [titleCase, if_pos hid]; rfl, by decide⟩
  · rw [titleCase_cons (by simpa using hid)]
    exact ⟨c.toUpper, rfl, Text.isUpper_toUpper (isWord_cons_iff.1 h).1⟩

end TitleCase

namespace Identifier

variable {s t : String} {name a b : Identifier} {e : QueryError}

theorem read_eq_ok_iff : Identifier.read s = .ok name ↔
    isWord s.toList = true ∧ name.text.toList = titleCase s.toList := by
  rw [← ofString?_eq_some_iff, Identifier.read]
  cases ofString? s <;> simp

theorem read_eq_error_iff :
    Identifier.read s = .error e ↔ e = .invalidIdentifier s ∧ isWord s.toList = false := by
  rw [← ofString?_eq_none_iff, Identifier.read]
  cases ofString? s <;> simp [eq_comm]

theorem exists_read_iff : (∃ name, Identifier.read s = .ok name) ↔ isWord s.toList = true := by
  constructor
  · intro h
    obtain ⟨name, hname⟩ := h
    exact (read_eq_ok_iff.1 hname).1
  · intro h
    exact ⟨.ofWord s h, read_eq_ok_iff.2 ⟨h, String.toList_ofList⟩⟩

theorem lowered_of_read (h : Identifier.read s = .ok name) :
    Text.lowered name.text = Text.lowered s := by
  rw [Text.lowered, (read_eq_ok_iff.1 h).2, map_toLower_titleCase, Text.lowered]

theorem read_text (name : Identifier) : Identifier.read name.text = .ok name :=
  read_eq_ok_iff.2 ⟨name.isWord_text, name.titleCase_text.symm⟩

theorem fieldName_cases (name : Identifier) : (name.text = "ID" ∧ name.fieldName = "id") ∨
    ∃ c rest, name.text.toList = c :: rest ∧ name.fieldName.toList = c.toLower :: rest := by
  by_cases hid : name.text = "ID"
  · exact .inl ⟨hid, if_pos hid⟩
  · obtain ⟨c, rest, htext⟩ := List.exists_cons_of_ne_nil (isWord_iff.1 name.isWord_text).1
    exact .inr ⟨c, rest, htext, by rw [fieldName, if_neg hid, String.toList_ofList, htext]⟩

theorem titleCase_fieldName (name : Identifier) :
    titleCase name.fieldName.toList = name.text.toList := by
  rcases name.fieldName_cases with ⟨htext, hfield⟩ | ⟨c, rest, htext, hfield⟩
  · rw [htext, hfield]
    rfl
  · have hlower : c.toLower.toLower = c.toLower := Text.toUpper_eq_iff.1 (Text.toUpper_toLower c)
    rw [hfield, titleCase_cons_congr hlower, ← htext, name.titleCase_text]

theorem read_fieldName (name : Identifier) : Identifier.read name.fieldName = .ok name :=
  read_eq_ok_iff.2 ⟨name.isWord_fieldName, name.titleCase_fieldName.symm⟩

theorem fieldName_injective : Function.Injective fieldName := by
  intro a b h
  have hread : Identifier.read a.fieldName = .ok b := by rw [h, read_fieldName]
  rw [read_fieldName] at hread
  exact Except.ok.inj hread

theorem opens_text (name : Identifier) : Opens Char.isUpper name.text where
  letters := (isWord_iff.1 name.isWord_text).2
  first := by
    rw [← name.titleCase_text]
    exact exists_head?_titleCase name.isWord_text

theorem opens_fieldName (name : Identifier) : Opens Char.isLower name.fieldName where
  letters := (isWord_iff.1 name.isWord_fieldName).2
  first := by
    rcases name.fieldName_cases with ⟨-, hfield⟩ | ⟨c, rest, htext, hfield⟩
    · exact ⟨'i', by rw [hfield]; rfl, by decide⟩
    · have hc := name.opens_text.letters c (by rw [htext]; exact List.mem_cons_self)
      exact ⟨c.toLower, by rw [hfield]; rfl, Text.isLower_toLower hc⟩

theorem fieldName_ne_text (a b : Identifier) : a.fieldName ≠ b.text := by
  intro h
  obtain ⟨c, hc, hlower⟩ := a.opens_fieldName.first
  obtain ⟨d, hd, hupper⟩ := b.opens_text.first
  rw [h] at hc
  obtain rfl := Option.mem_unique hc hd
  rw [Text.isLower_iff] at hlower
  rw [Text.isUpper_iff] at hupper
  omega

theorem eq_iff_spellAlike (ha : Identifier.read s = .ok a) (hb : Identifier.read t = .ok b) :
    a = b ↔ SpellAlike s t := by
  obtain ⟨hs, ha⟩ := read_eq_ok_iff.1 ha
  obtain ⟨ht, hb⟩ := read_eq_ok_iff.1 hb
  rw [← titleCase_eq_iff_spellAlike hs ht, ← ha, ← hb, String.toList_inj]
  exact ⟨congrArg text, eq_of_text_eq⟩

end Identifier

namespace VariableName

variable {s : String} {x : VariableName} {e : QueryError}

theorem read_eq_ok_iff : VariableName.read s = .ok x ↔ x.text = s := by
  unfold VariableName.read
  by_cases h : isWord s.toList = true
  · rw [dif_pos h, Except.ok.injEq]
    constructor
    · intro hx
      rw [← hx]
    · intro hx
      exact eq_of_text_eq hx.symm
  · rw [dif_neg h]
    refine iff_of_false nofun fun hx => h ?_
    rw [← hx]
    exact x.isWord_text

theorem exists_read_iff : (∃ x, VariableName.read s = .ok x) ↔ isWord s.toList = true := by
  simp only [read_eq_ok_iff]
  constructor
  · intro h
    obtain ⟨x, rfl⟩ := h
    exact x.isWord_text
  · intro h
    exact ⟨⟨s, h⟩, rfl⟩

theorem read_eq_error_iff :
    VariableName.read s = .error e ↔ e = .invalidIdentifier s ∧ isWord s.toList = false := by
  unfold VariableName.read
  by_cases h : isWord s.toList = true
  · simp [h]
  · simp [h, eq_comm]

end VariableName

/-- Words of letters are names, and nothing else is. A name and its field are words for that name,
the one in upper and the other in lower case at the front; so fields are named apart, and no
response key is the name of a type. Words are read as one name just when they spell alike. The same
words are names of variables, and each of them is a variable of its own. -/
theorem Identifier.read_respelled (s t : String) :
    ((∃ name, Identifier.read s = .ok name) ↔ s ≠ "" ∧ ∀ c ∈ s.toList, c.isAlpha = true) ∧
    (∀ name, Identifier.read s = .ok name →
      Identifier.read name.text = .ok name ∧ Identifier.read name.fieldName = .ok name ∧
        Opens Char.isUpper name.text ∧ Opens Char.isLower name.fieldName) ∧
    Function.Injective Identifier.fieldName ∧
    (∀ a b, Identifier.read s = .ok a → Identifier.read t = .ok b → (a = b ↔ SpellAlike s t)) ∧
    (∀ (f : Selection) (g : Fragment), f.head.responseKey ≠ g.typeName.text) ∧
    ((∃ x, VariableName.read s = .ok x) ↔ ∃ name, Identifier.read s = .ok name) ∧
    (∀ e, VariableName.read s = .error e ↔ Identifier.read s = .error e) ∧
    ∀ x y, VariableName.read s = .ok x → VariableName.read t = .ok y →
      x.text = s ∧ (x = y ↔ s = t) := by
  refine ⟨exists_read_iff.trans isWord_toList_iff, fun name _ => ?_, fieldName_injective,
    fun a b ha hb => eq_iff_spellAlike ha hb, fun f g => fieldName_ne_text _ _, ?_, fun e => ?_,
    fun x y hx hy => ?_⟩
  · exact ⟨name.read_text, name.read_fieldName, name.opens_text, name.opens_fieldName⟩
  · rw [VariableName.exists_read_iff, exists_read_iff]
  · rw [VariableName.read_eq_error_iff, read_eq_error_iff]
  · obtain rfl := VariableName.read_eq_ok_iff.1 hx
    obtain rfl := VariableName.read_eq_ok_iff.1 hy
    exact ⟨rfl, congrArg VariableName.text, VariableName.eq_of_text_eq⟩

theorem Identifier.read_respelled_id :
    (Identifier.read "iD" = .ok (.ofWord "ID") ∧ Identifier.read "Id" = .ok (.ofWord "ID") ∧
      Identifier.read (ofWord "ID").fieldName = .ok (.ofWord "ID") ∧ SpellAlike "iD" "Id") ∧
    (Identifier.read "iDs" = .ok (.ofWord "IDs") ∧ Identifier.read "Ids" = .ok (.ofWord "Ids") ∧
      ¬SpellAlike "iDs" "Ids") ∧
    VariableName.read "iD" = .ok (.ofWord "iD") ∧ VariableName.read "Id" = .ok (.ofWord "Id") ∧
      VariableName.ofWord "iD" ≠ .ofWord "Id" := by
  have hid : Identifier.read "iD" = .ok (.ofWord "ID") := by rfl
  have hid' : Identifier.read "Id" = .ok (.ofWord "ID") := by rfl
  have hids : Identifier.read "iDs" = .ok (.ofWord "IDs") := by rfl
  have hids' : Identifier.read "Ids" = .ok (.ofWord "Ids") := by rfl
  have hvar : VariableName.read "iD" = .ok (.ofWord "iD") := by rfl
  have hvar' : VariableName.read "Id" = .ok (.ofWord "Id") := by rfl
  obtain ⟨-, hagain, -, halike, -, -, -, hapart⟩ := read_respelled "iD" "Id"
  obtain ⟨-, -, -, hunlike, -⟩ := read_respelled "iDs" "Ids"
  have hne : Identifier.ofWord "IDs" ≠ .ofWord "Ids" := by decide
  refine ⟨⟨hid, hid', (hagain _ hid).2.1, (halike _ _ hid hid').1 rfl⟩,
    ⟨hids, hids', fun h => hne ((hunlike _ _ hids hids').2 h)⟩, hvar, hvar', fun h => ?_⟩
  have htext := (hapart _ _ hvar hvar').2.1 h
  revert htext
  decide

end Docket.Query
