/-!
Lists of keys with values. `put` replaces a value where its key stands and appends a new key;
`place` keeps the keys in increasing order instead.
-/

namespace Docket.Entries

variable {κ α : Type} [DecidableEq κ]

def get? (key : κ) : List (κ × α) → Option α
  | [] => none
  | (k, v) :: rest => if k = key then some v else get? key rest

def put (key : κ) (value : α) : List (κ × α) → List (κ × α)
  | [] => [(key, value)]
  | (k, v) :: rest => if k = key then (k, value) :: rest else (k, v) :: put key value rest

def place (before : κ → κ → Bool) (key : κ) (value : α) : List (κ × α) → List (κ × α)
  | [] => [(key, value)]
  | (k, v) :: rest =>
    if k = key then (k, value) :: rest
    else if before key k then (key, value) :: (k, v) :: rest
    else (k, v) :: place before key value rest

def keys (entries : List (κ × α)) : List κ := entries.map (·.1)

theorem get?_put_self (key : κ) (value : α) (entries : List (κ × α)) :
    get? key (put key value entries) = some value := by
  induction entries with
  | nil => simp [put, get?]
  | cons e rest ih =>
    by_cases h : e.1 = key <;> simp [put, get?, h, ih]

theorem get?_put_of_ne {key other : κ} (h : other ≠ key) (value : α) (entries : List (κ × α)) :
    get? other (put key value entries) = get? other entries := by
  induction entries with
  | nil => simp [put, get?, Ne.symm h]
  | cons e rest ih =>
    by_cases hk : e.1 = key
    · simp [put, get?, hk, Ne.symm h]
    · simp [put, get?, hk, ih]

theorem keys_put (key : κ) (value : α) (entries : List (κ × α)) :
    keys (put key value entries) =
      if key ∈ keys entries then keys entries else keys entries ++ [key] := by
  induction entries with
  | nil => simp [put, keys]
  | cons e rest ih =>
    by_cases h : e.1 = key
    · simp [put, keys, h]
    · simp only [keys] at ih
      simp only [put, h, ↓reduceIte, keys, List.map_cons, ih, List.mem_cons, Ne.symm h, false_or]
      split <;> simp_all

theorem put_ne_nil (key : κ) (value : α) (entries : List (κ × α)) :
    put key value entries ≠ [] := by
  cases entries with
  | nil => simp [put]
  | cons e rest =>
    rw [put]
    split <;> simp

theorem nodup_keys_put {entries : List (κ × α)} (h : (keys entries).Nodup) (key : κ) (value : α) :
    (keys (put key value entries)).Nodup := by
  rw [keys_put]
  split
  · exact h
  · rename_i hnew
    refine List.nodup_append.2 ⟨h, by simp, fun k hk l hl hkl => hnew ?_⟩
    rwa [← List.mem_singleton.1 hl, ← hkl]

theorem isSome_get?_iff {key : κ} {entries : List (κ × α)} :
    (get? key entries).isSome = true ↔ key ∈ keys entries := by
  induction entries with
  | nil => simp [get?, keys]
  | cons e rest ih =>
    simp only [keys] at ih
    by_cases h : e.1 = key
    · simp [get?, keys, h]
    · simp [get?, keys, h, Ne.symm h, ih]

theorem mem_iff_get? {key : κ} {value : α} {entries : List (κ × α)} (h : (keys entries).Nodup) :
    (key, value) ∈ entries ↔ get? key entries = some value := by
  induction entries with
  | nil => simp [get?]
  | cons e rest ih =>
    obtain ⟨hfirst, hrest⟩ := List.nodup_cons.1 h
    obtain ⟨k, v⟩ := e
    rw [List.mem_cons, ih hrest, get?, Prod.mk.injEq]
    by_cases hk : k = key
    · have habsent : get? key rest ≠ some value := by
        intro hget
        have hmem : key ∈ keys rest := isSome_get?_iff.1 (Option.isSome_of_eq_some hget)
        exact hfirst (hk ▸ hmem)
      simp [hk, habsent, eq_comm]
    · simp [hk, Ne.symm hk]

theorem eq_or_mem_of_mem_put {key : κ} {value : α} {entries : List (κ × α)} {e : κ × α}
    (h : e ∈ put key value entries) : e = (key, value) ∨ e ∈ entries := by
  induction entries with
  | nil => exact .inl (List.mem_singleton.1 h)
  | cons d rest ih =>
    rw [put] at h
    split at h
    · rename_i hkey
      rcases List.mem_cons.1 h with he | he
      · exact .inl (by rw [he, hkey])
      · exact .inr (List.mem_cons_of_mem d he)
    · rcases List.mem_cons.1 h with he | he
      · exact .inr (he ▸ List.mem_cons_self)
      · exact (ih he).imp_right (List.mem_cons_of_mem d)

end Docket.Entries
