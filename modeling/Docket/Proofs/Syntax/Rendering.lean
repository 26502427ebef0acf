import Docket.Proofs.Syntax.Outline
import Docket.Proofs.Syntax.Spelling
/-!
The text of a document is read as the tokens of what the document asks for.
-/

namespace Docket.Query

open Syntax

namespace Syntax

theorem isName_of_isWord {cs : List Char} (h : isWord cs = true) : isName cs = true := by
  have hrest : ∀ c : Char, c.isAlpha = true → Token.isNameRest c = true := by
    intro c hc
    rw [isNameRest_iff]
    exact .inl (by simp [Token.isNameStart, hc])
  cases cs with
  | nil => cases h
  | cons c cs =>
    obtain ⟨hc, hcs⟩ := isWord_cons_iff.1 h
    simp only [isName, Bool.and_eq_true, List.all_eq_true]
    exact ⟨by simp [Token.isNameStart, hc], fun d hd => hrest d (hcs d hd)⟩

theorem loose_word {s : String} (h : isWord s.toList = true) : Loose s [.name s] :=
  loose_name (isName_of_isWord h)

section Lists

variable {α : Type} {render : α → String} {tokens : α → List Token} {l : List α}

theorem loose_intercalate (h : ∀ a ∈ l, Loose (render a) (tokens a)) (hne : l ≠ []) :
    Loose (String.intercalate ", " (l.map render)) (l.flatMap tokens) := by
  induction l with
  | nil => exact absurd rfl hne
  | cons a l ih =>
    obtain ⟨ha, hl⟩ := List.forall_mem_cons.1 h
    cases l with
    | nil =>
      rw [List.map_singleton, String.intercalate_singleton, List.flatMap_singleton]
      exact ha
    | cons b l =>
      have hrest := ih hl (List.cons_ne_nil b l)
      have hcomma : Firm ", " [] := by rfl
      rw [List.map_cons, List.map_cons, String.intercalate_cons_cons, List.flatMap_cons,
        ← List.append_nil (tokens a)]
      exact (ha.append hcomma ⟨',', [' '], rfl, rfl⟩).append_loose hrest

theorem loose_parens {s : String} {ts : List Token} (hs : Loose s ts)
    (h : ∀ a ∈ l, Loose (render a) (tokens a)) :
    Loose (s ++ if l.isEmpty then "" else "(" ++ String.intercalate ", " (l.map render) ++ ")")
      (ts ++ parenTokens tokens l) := by
  by_cases hl : l = []
  · subst hl
    rw [parenTokens, if_pos rfl, List.isEmpty_nil, if_pos rfl, String.append_empty, List.append_nil]
    exact hs
  · have hclose : Firm ")" [.closeParen] := by rfl
    have hopen : Firm "(" [.openParen] := by rfl
    have hlist := (hopen.append_loose (loose_intercalate h hl)).append hclose ⟨')', [], rfl, rfl⟩
    rw [parenTokens, if_neg hl, if_neg (by simpa using hl)]
    exact (hs.append hlist ((Breaks.append ⟨'(', [], rfl, rfl⟩ _).append _)).loose

end Lists

end Syntax

theorem ArgumentValue.loose_render (v : ArgumentValue) : Loose v.render v.literal.tokens := by
  cases v with
  | count n => exact loose_int n
  | cursor s | text s => exact loose_quoted s
  | search t => cases t <;> exact loose_name rfl
  | «variable» x =>
    have hdollar : Firm "$" [.dollar] := by rfl
    exact hdollar.append_loose (loose_word x.isWord_text)

theorem firm_colon : Firm ": " [.colon] := by rfl

theorem breaks_colon : Breaks ": " := ⟨':', [' '], rfl, rfl⟩

theorem loose_renderEntry (e : ArgumentKey × ArgumentValue) :
    Loose (ArgumentSet.renderEntry e) (argumentTokens (e.1.text, e.2.literal)) := by
  have hkey : Loose e.1.text [.name e.1.text] := by
    cases e.1 <;> exact loose_name rfl
  exact (hkey.append firm_colon breaks_colon).append_loose e.2.loose_render

theorem ArgumentSet.loose_render (s : ArgumentSet) (field : Identifier) :
    Loose (s.render field) (.name field.fieldName :: parenTokens argumentTokens s.outline) := by
  have htext : s.render field = field.fieldName ++ if s.entries.isEmpty then "" else
      "(" ++ String.intercalate ", " (s.entries.map renderEntry) ++ ")" := by
    unfold render isEmpty
    split
    · rw [String.append_empty]
    · rw [String.append_assoc, String.append_assoc, String.append_assoc]
  have htokens : parenTokens argumentTokens s.outline =
      parenTokens (fun e => argumentTokens (e.1.text, e.2.literal)) s.entries := by
    simp only [parenTokens, outline, List.map_eq_nil_iff, List.flatMap_map]
  rw [htext, htokens]
  exact loose_parens (loose_word field.isWord_fieldName) fun e _ => loose_renderEntry e

theorem FieldHead.loose_tag (h : FieldHead) : Loose h.tag h.outline.tokens := by
  have hfield := h.arguments.loose_render h.name
  unfold tag
  split
  · rename_i a ha
    have halias := (loose_word a.isWord_fieldName).append firm_colon breaks_colon
    have htokens : h.outline.tokens = [.name a.fieldName] ++ [.colon] ++
        (.name h.name.fieldName :: parenTokens argumentTokens h.arguments.outline) := by
      rw [outline, ha]
      rfl
    rw [htokens]
    exact halias.append_loose hfield
  · rename_i ha
    have htokens : h.outline.tokens =
        .name h.name.fieldName :: parenTokens argumentTokens h.arguments.outline := by
      rw [outline, ha]
      rfl
    rw [htokens]
    exact hfield

theorem firm_blank : Firm " " [] := by rfl

theorem breaks_blank : Breaks " " := ⟨' ', [], rfl, rfl⟩

theorem firm_typename {α : Type} (fragments : List α) :
    Firm (if fragments.isEmpty then "" else typenameField ++ " ")
      (selectionTokens (typenameOutline fragments)) := by
  unfold typenameOutline
  split <;> rfl

mutual

theorem Shape.firm_render {s : String} {head : Head} (hs : Firm s head.tokens) :
    ∀ shape : Shape, Firm (s ++ shape.render) (shape.outline head).tokens
  | .leaf _ => by
    rw [Shape.render, String.append_empty]
    exact hs
  | .object set => by
    have hset := set.firm_render.append firm_blank
    rw [List.append_nil] at hset
    exact hs.append hset
  | .list item => item.firm_render hs

theorem SelectionSet.firm_render : ∀ s : SelectionSet,
    Firm s.render (.openBrace :: (selectionTokens s.outline ++ [.closeBrace]))
  | ⟨fields, fragments⟩ => by
    have hopen : Firm "\x7b " [.openBrace] := by rfl
    have hclose : Firm "\x7d" [.closeBrace] := by rfl
    have hset := (((hopen.append (firm_renderFields fields)).append
      (firm_typename fragments)).append (firm_renderFragments fragments)).append hclose
    rw [SelectionSet.render, SelectionSet.outline, selectionTokens_append, selectionTokens_append]
    exact hset

theorem firm_renderFields : ∀ fields : List Selection,
    Firm (renderFields fields) (selectionTokens (fieldsOutline fields))
  | [] => by rfl
  | ⟨head, shape⟩ :: rest => by
    have htag := head.loose_tag.append firm_blank breaks_blank
    rw [List.append_nil] at htag
    exact (shape.firm_render htag).append (firm_renderFields rest)

theorem firm_renderFragments : ∀ fragments : List Fragment,
    Firm (renderFragments fragments) (selectionTokens (fragmentsOutline fragments))
  | [] => by rfl
  | ⟨typeName, set⟩ :: rest => by
    have hspread : Firm "... on " [.spread, .name "on"] := by rfl
    have htype := (hspread.append_loose (loose_word typeName.isWord_text)).append firm_blank
      breaks_blank
    have hset := (htype.append set.firm_render).append firm_blank
    rw [List.append_nil, List.append_nil] at hset
    exact hset.append (firm_renderFragments rest)

end

end Docket.Query
