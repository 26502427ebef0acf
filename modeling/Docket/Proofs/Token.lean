import Docket.Proofs.Trimming
import Docket.Settings.Basic
/-!
Where the token of a run comes from. The settings are asked first, and the environment only where
they have no token at all: a blank one keeps the environment's from being used.
-/

namespace Docket

theorem Token.read_eq_ok_iff {s : String} {token : Token} :
    Token.read s = .ok token ↔ token.text = Text.trim s := by
  obtain ⟨text, htext⟩ := token
  simp only [Token.read]
  constructor
  · intro h
    split at h <;> cases h
    rfl
  · rintro rfl
    rw [dif_neg htext]

theorem Token.read_eq_error_iff {s : String} {e : Failure} :
    Token.read s = .error e ↔ e = .missingToken ∧ Text.trim s = "" := by
  simp only [Token.read]
  split
  · rename_i h
    simp [h, eq_comm]
  · rename_i h
    simp [h]

namespace Settings

/-- Whether a source has a token to give: a text of which something is left without the white space
around it. -/
def Gives (source : Option String) (token : String) : Prop :=
  ∃ raw, source = some raw ∧ Text.Trims raw token ∧ token ≠ ""

theorem gives_some_iff {raw token : String} :
    Gives (some raw) token ↔ token = Text.trim raw ∧ token ≠ "" := by
  simp [Gives, Text.trims_iff]

theorem not_gives_none (token : String) : ¬Gives none token := by
  simp [Gives]

theorem Gives.ne_empty {source : Option String} {token : String} (h : Gives source token) :
    token ≠ "" := by
  obtain ⟨raw, -, -, hne⟩ := h
  exact hne

theorem read_eq_ok_iff_gives {raw : String} {token : Token} :
    Token.read raw = .ok token ↔ Gives (some raw) token.text := by
  rw [Token.read_eq_ok_iff, gives_some_iff, and_iff_left token.text_ne]

theorem read_eq_error_iff_gives {raw : String} {e : Failure} :
    Token.read raw = .error e ↔ e = .missingToken ∧ ∀ token, ¬Gives (some raw) token := by
  simp [Token.read_eq_error_iff, gives_some_iff]

section Resolution

variable {s : Settings} {fallback : Option String}

theorem resolveToken_eq_ok_iff {token : Token} : s.resolveToken fallback = .ok token ↔
    Gives s.token token.text ∨ s.token = none ∧ Gives fallback token.text := by
  unfold resolveToken
  cases s.token with
  | some raw => simp [read_eq_ok_iff_gives]
  | none =>
    cases fallback with
    | some raw => simp [read_eq_ok_iff_gives, not_gives_none]
    | none => simp [not_gives_none]

theorem resolveToken_eq_error_iff {e : Failure} : s.resolveToken fallback = .error e ↔
    e = .missingToken ∧ (∀ token, ¬Gives s.token token) ∧
      (s.token = none → ∀ token, ¬Gives fallback token) := by
  unfold resolveToken
  cases s.token with
  | some raw => simp [read_eq_error_iff_gives]
  | none =>
    cases fallback with
    | some raw => simp [read_eq_error_iff_gives, not_gives_none]
    | none => simp [not_gives_none, eq_comm]

/-- Whether the token is sought in both sources: that of the settings, if it gives one, or else that
of the environment. -/
structure SeeksBoth (s : Settings) (fallback : Option String) : Prop where
  first : ∀ token : Token, Gives s.token token.text → s.resolveToken fallback = .ok token
  second : ∀ token : Token, (∀ t, ¬Gives s.token t) → Gives fallback token.text →
    s.resolveToken fallback = .ok token
  fails : ∀ e, s.resolveToken fallback = .error e ↔
    e = .missingToken ∧ (∀ t, ¬Gives s.token t) ∧ ∀ t, ¬Gives fallback t

theorem seeksBoth_iff : SeeksBoth s fallback ↔
    s.token = none ∨ (∃ t, Gives s.token t) ∨ ∀ t, ¬Gives fallback t := by
  constructor
  · intro h
    by_contra hnot
    push Not at hnot
    obtain ⟨hsome, hblank, t, hgives⟩ := hnot
    have hok : s.resolveToken fallback = .ok ⟨t, hgives.ne_empty⟩ := h.second _ hblank hgives
    have hfails : s.resolveToken fallback = .error .missingToken :=
      resolveToken_eq_error_iff.2 ⟨rfl, hblank, fun hnone => (hsome hnone).elim⟩
    rw [hok] at hfails
    cases hfails
  · intro h
    refine ⟨fun _ hgives => resolveToken_eq_ok_iff.2 (.inl hgives), ?_, ?_⟩
    · intro token hblank hgives
      rcases h with hnone | ⟨t, ht⟩ | hnot
      · exact resolveToken_eq_ok_iff.2 (.inr ⟨hnone, hgives⟩)
      · exact (hblank t ht).elim
      · exact (hnot token.text hgives).elim
    · intro e
      refine resolveToken_eq_error_iff.trans (and_congr_right fun _ => ?_)
      refine and_congr_right fun hblank => ?_
      rcases h with hnone | ⟨t, ht⟩ | hnot
      · exact ⟨fun hfallback => hfallback hnone, fun hfallback _ => hfallback⟩
      · exact (hblank t ht).elim
      · exact iff_of_true (fun _ => hnot) hnot

end Resolution

/-- The token is that of the settings, or else, where they have none, that of the environment; with
neither the run fails for want of a token, and so it does when the token of the settings is blank.
Both sources are sought unless a blank token in the settings hides one that the environment gives.
-/
theorem resolveToken_gives (s : Settings) (fallback : Option String) :
    (∀ token, s.resolveToken fallback = .ok token ↔
      Gives s.token token.text ∨ s.token = none ∧ Gives fallback token.text) ∧
    (∀ e, s.resolveToken fallback = .error e ↔ e = .missingToken ∧
      (∀ token, ¬Gives s.token token) ∧ (s.token = none → ∀ token, ¬Gives fallback token)) ∧
    (SeeksBoth s fallback ↔
      s.token = none ∨ (∃ token, Gives s.token token) ∨ ∀ token, ¬Gives fallback token) :=
  ⟨fun _ => resolveToken_eq_ok_iff, fun _ => resolveToken_eq_error_iff, seeksBoth_iff⟩

theorem exists_gives_not_resolved :
    Gives (some "legacy") "legacy" ∧
      { standard with token := some " " }.resolveToken (some "legacy") = .error .missingToken := by
  refine ⟨gives_some_iff.2 ⟨by decide, by decide⟩, by rfl⟩

end Settings

end Docket
