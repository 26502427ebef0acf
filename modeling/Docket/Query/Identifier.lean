import Docket.Text.Letter
/-!
Names of fields and types. A name is a nonempty word of ASCII letters in title case, save that
every casing of `id` is the one name `ID`. On the wire a field is written with its first letter
in lower case and a type as it stands, so a field and a type are never spelled alike.
-/

namespace Docket.Query

def isWord (cs : List Char) : Bool := !cs.isEmpty && cs.all Char.isAlpha

theorem isWord_iff {cs : List Char} :
    isWord cs = true ↔ cs ≠ [] ∧ ∀ c ∈ cs, c.isAlpha = true := by
  simp [isWord]

theorem isWord_cons_iff {c : Char} {rest : List Char} :
    isWord (c :: rest) = true ↔ c.isAlpha = true ∧ ∀ d ∈ rest, d.isAlpha = true := by
  simp [isWord_iff]

def isIdWord (cs : List Char) : Bool := cs.map Char.toLower == ['i', 'd']

/-- The first letter is raised and the others are kept; a casing of `id` is raised whole. -/
def titleCase (cs : List Char) : List Char :=
  if isIdWord cs then ['I', 'D']
  else match cs with
    | [] => []
    | c :: rest => c.toUpper :: rest

theorem isWord_titleCase {cs : List Char} (h : isWord cs = true) :
    isWord (titleCase cs) = true := by
  unfold titleCase
  split
  · decide
  · cases cs with
    | nil => exact h
    | cons c rest =>
      obtain ⟨hc, hrest⟩ := isWord_cons_iff.1 h
      exact isWord_cons_iff.2 ⟨Text.isAlpha_toUpper hc, hrest⟩

theorem titleCase_titleCase (cs : List Char) : titleCase (titleCase cs) = titleCase cs := by
  by_cases h : isIdWord cs = true
  · simp [titleCase, h, show isIdWord ['I', 'D'] = true by decide]
  · cases cs with
    | nil => rfl
    | cons c rest =>
      have hu : isIdWord (c.toUpper :: rest) = isIdWord (c :: rest) := by
        simp only [isIdWord, List.map_cons, Text.toLower_toUpper]
      simp only [titleCase, h, hu, Text.toUpper_toUpper, Bool.false_eq_true, if_false]

structure Identifier where
  text : String
  isWord_text : isWord text.toList = true
  titleCase_text : titleCase text.toList = text.toList
  deriving DecidableEq

namespace Identifier

def ofString? (s : String) : Option Identifier :=
  if h : isWord s.toList = true then
    some {
      text := String.ofList (titleCase s.toList)
      isWord_text := by rw [String.toList_ofList]; exact isWord_titleCase h
      titleCase_text := by rw [String.toList_ofList]; exact titleCase_titleCase _ }
  else none

def ofWord (s : String) (h : isWord s.toList = true := by decide) : Identifier where
  text := String.ofList (titleCase s.toList)
  isWord_text := by rw [String.toList_ofList]; exact isWord_titleCase h
  titleCase_text := by rw [String.toList_ofList]; exact titleCase_titleCase _

def fieldName (name : Identifier) : String :=
  if name.text = "ID" then "id"
  else String.ofList (match name.text.toList with
    | [] => []
    | c :: rest => c.toLower :: rest)

theorem isWord_fieldName (name : Identifier) : isWord name.fieldName.toList = true := by
  have hword := name.isWord_text
  unfold fieldName
  split
  · decide
  · rw [String.toList_ofList]
    cases hs : name.text.toList with
    | nil =>
      rw [hs] at hword
      cases hword
    | cons c rest =>
      rw [hs] at hword
      obtain ⟨hc, hrest⟩ := isWord_cons_iff.1 hword
      exact isWord_cons_iff.2 ⟨Text.isAlpha_toLower hc, hrest⟩

theorem eq_of_text_eq {a b : Identifier} (h : a.text = b.text) : a = b := by
  cases a
  cases b
  cases h
  rfl

theorem ofString?_eq_some_iff {s : String} {name : Identifier} :
    ofString? s = some name ↔ isWord s.toList = true ∧ name.text.toList = titleCase s.toList := by
  unfold ofString?
  by_cases h : isWord s.toList = true
  · rw [dif_pos h]
    constructor
    · intro hname
      rw [← Option.some.inj hname]
      exact ⟨h, String.toList_ofList⟩
    · intro hname
      apply congrArg some
      apply eq_of_text_eq
      dsimp only
      rw [← hname.2, String.ofList_toList]
  · simp [h]

theorem ofString?_eq_none_iff {s : String} : ofString? s = none ↔ isWord s.toList = false := by
  unfold ofString?
  split <;> simp_all

end Identifier

end Docket.Query
