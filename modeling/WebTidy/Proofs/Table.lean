import Mathlib
import WebTidy.Table

/-!
# Settings of ordered tables

A table with distinct keys is its own list of settings. Dropping the entries of some keys commutes
with every setting, so it does not matter whether it happens before or after.
-/

namespace WebTidy.Table

variable {κ ν : Type}

def restrict (p : κ → Bool) (t : Table κ ν) : Table κ ν := t.filter (p ·.1)

theorem restrict_restrict (p q : κ → Bool) (t : Table κ ν) :
    restrict q (restrict p t) = restrict (fun k => p k && q k) t := by
  simp [restrict, List.filter_filter, Bool.and_comm]

variable [DecidableEq κ]

theorem get?_eq_none_iff {k : κ} {t : Table κ ν} : get? k t = none ↔ k ∉ keys t := by
  induction t with
  | nil => simp [get?, keys]
  | cons e t ih =>
    by_cases h : e.1 = k
    · simp [get?, keys, h]
    · have hk : ¬ k = e.1 := fun he => h he.symm
      simp only [get?, h, if_false, keys, List.map_cons, List.mem_cons, hk, false_or] at ih ⊢
      exact ih

theorem mem_of_get?_eq_some {k : κ} {v : ν} {t : Table κ ν} (h : get? k t = some v) :
    (k, v) ∈ t := by
  induction t with
  | nil => simp [get?] at h
  | cons e t ih =>
    by_cases he : e.1 = k
    · simp only [get?, he, if_true, Option.some.injEq] at h
      simp [← h, ← he]
    · simp only [get?, he, if_false] at h
      exact List.mem_cons_of_mem _ (ih h)

theorem set_of_notMem {k : κ} {t : Table κ ν} (h : k ∉ keys t) (v : ν) :
    set k v t = t ++ [(k, v)] := by
  induction t with
  | nil => rfl
  | cons e t ih =>
    simp only [keys, List.map_cons, List.mem_cons, not_or] at h
    rw [set, if_neg fun he => h.1 he.symm, ih h.2, List.cons_append]

theorem mem_of_mem_set {k : κ} {v : ν} {e : κ × ν} {t : Table κ ν} (h : e ∈ set k v t) :
    e = (k, v) ∨ e ∈ t := by
  induction t with
  | nil => simpa [set] using h
  | cons d t ih =>
    rw [set] at h
    split at h
    · rcases List.mem_cons.mp h with h | h
      · exact .inl h
      · exact .inr (List.mem_cons_of_mem _ h)
    · rcases List.mem_cons.mp h with h | h
      · exact .inr (by simp [h])
      · exact (ih h).imp_right (List.mem_cons_of_mem _)

theorem mem_of_mem_setAll {e : κ × ν} {t : Table κ ν} {entries : List (κ × ν)}
    (h : e ∈ setAll t entries) : e ∈ t ∨ e ∈ entries := by
  induction entries generalizing t with
  | nil => exact .inl h
  | cons d entries ih =>
    rcases ih h with h | h
    · rcases mem_of_mem_set h with h | h
      · exact .inr (by simp [h])
      · exact .inl h
    · exact .inr (List.mem_cons_of_mem _ h)

theorem mem_of_mem_ofEntries {e : κ × ν} {entries : List (κ × ν)} (h : e ∈ ofEntries entries) :
    e ∈ entries := by
  simpa using mem_of_mem_setAll h

theorem set_ne_nil (k : κ) (v : ν) (t : Table κ ν) : set k v t ≠ [] := by
  cases t with
  | nil => simp [set]
  | cons e t =>
    rw [set]
    split <;> simp

theorem setAll_ne_nil {t : Table κ ν} {entries : List (κ × ν)} (h : t ≠ [] ∨ entries ≠ []) :
    setAll t entries ≠ [] := by
  induction entries generalizing t with
  | nil => simpa [setAll] using h
  | cons d entries ih => exact ih (.inl (set_ne_nil d.1 d.2 t))

theorem setAll_eq_append {t : Table κ ν} {entries : List (κ × ν)}
    (h : (keys (t ++ entries)).Nodup) : setAll t entries = t ++ entries := by
  induction entries generalizing t with
  | nil => simp [setAll]
  | cons e entries ih =>
    have hn : e.1 ∉ keys t := by
      simp only [keys, List.map_append, List.map_cons, List.nodup_append] at h ⊢
      intro hm
      exact h.2.2 _ hm _ (by simp) rfl
    have hset : setAll t (e :: entries) = setAll (t ++ [e]) entries := by
      rw [← set_of_notMem hn e.2]
      rfl
    rw [hset, ih (by simpa using h)]
    simp

theorem ofEntries_eq_self {t : Table κ ν} (h : (keys t).Nodup) : ofEntries t = t :=
  setAll_eq_append (by simpa using h)

theorem get?_append (k : κ) (s t : Table κ ν) : get? k (s ++ t) = (get? k s).or (get? k t) := by
  induction s with
  | nil => rfl
  | cons e s ih =>
    by_cases he : e.1 = k
    · simp [get?, he]
    · simpa [get?, he] using ih

/-- The last setting of a key decides, and what was there before if there is none. -/
theorem get?_setAll (k : κ) (t : Table κ ν) (entries : List (κ × ν)) :
    get? k (setAll t entries) = (get? k entries.reverse).or (get? k t) := by
  induction entries generalizing t with
  | nil => rfl
  | cons e entries ih =>
    have hset : get? k (set e.1 e.2 t) = (get? k [e]).or (get? k t) := by
      by_cases he : e.1 = k
      · subst he
        simp [get?, get?_set_self]
      · simp [get?, he, get?_set_of_ne he]
    have hcons : setAll t (e :: entries) = setAll (set e.1 e.2 t) entries := rfl
    rw [hcons, ih, hset, List.reverse_cons, get?_append, Option.or_assoc]

theorem get?_ofEntries (k : κ) (entries : List (κ × ν)) :
    get? k (ofEntries entries) = get? k entries.reverse := by
  rw [ofEntries, get?_setAll, get?, Option.or_none]

/-! ## Settings set again -/

theorem set_set (k : κ) (v w : ν) (t : Table κ ν) : set k w (set k v t) = set k w t := by
  induction t with
  | nil => simp [set]
  | cons e t ih => by_cases he : e.1 = k <;> simp [set, he, ih]

/-- Settings of two keys commute once one of them has its place. -/
theorem set_comm {k l : κ} (h : k ≠ l) {t : Table κ ν} (hk : k ∈ keys t) (v w : ν) :
    set k v (set l w t) = set l w (set k v t) := by
  induction t with
  | nil => simp [keys] at hk
  | cons e t ih =>
    by_cases he : e.1 = k
    · subst he
      simp [set, h]
    · have ht : k ∈ keys t := by
        rcases List.mem_cons.mp hk with hk | hk
        · exact absurd hk.symm he
        · exact hk
      by_cases hl : e.1 = l
      · simp [set, hl, Ne.symm h]
      · simp [set, he, hl, ih ht]

theorem mem_keys_set_of_mem {k : κ} {t : Table κ ν} (hk : k ∈ keys t) (l : κ) (v : ν) :
    k ∈ keys (set l v t) := by
  rw [keys_set]
  split
  · exact hk
  · exact List.mem_append_left _ hk

theorem set_setAll {k : κ} {t : Table κ ν} (hk : k ∈ keys t) {entries : List (κ × ν)}
    (he : k ∉ keys entries) (v : ν) :
    set k v (setAll t entries) = setAll (set k v t) entries := by
  induction entries generalizing t with
  | nil => rfl
  | cons e entries ih =>
    simp only [keys, List.map_cons, List.mem_cons, not_or] at he
    calc set k v (setAll t (e :: entries)) = setAll (set k v (set e.1 e.2 t)) entries :=
          ih (mem_keys_set_of_mem hk e.1 e.2) he.2
      _ = setAll (set k v t) (e :: entries) := by
        rw [set_comm he.1 hk]
        rfl

theorem setAll_set {s : Table κ ν} (hs : (keys s).Nodup) (t : Table κ ν) (k : κ) (v : ν) :
    setAll t (set k v s) = set k v (setAll t s) := by
  induction s generalizing t with
  | nil => rfl
  | cons e s ih =>
    simp only [keys, List.map_cons, List.nodup_cons] at hs
    by_cases he : e.1 = k
    · subst he
      have hk : e.1 ∈ keys (set e.1 e.2 t) := by
        rw [keys_set]
        split
        · assumption
        · simp
      rw [set, if_pos rfl]
      calc setAll t ((e.1, v) :: s) = setAll (set e.1 v (set e.1 e.2 t)) s := by
            rw [set_set]
            rfl
        _ = set e.1 v (setAll t (e :: s)) := (set_setAll hk hs.1 v).symm
    · rw [set, if_neg he]
      exact ih hs.2 (set e.1 e.2 t)

/-- It does not matter whether entries are set one by one or merged with each other first. -/
theorem setAll_setAll {s : Table κ ν} (hs : (keys s).Nodup) (t : Table κ ν)
    (entries : List (κ × ν)) : setAll t (setAll s entries) = setAll (setAll t s) entries := by
  induction entries generalizing s with
  | nil => rfl
  | cons e entries ih =>
    have hrest := ih (nodup_keys_set hs e.1 e.2)
    rw [setAll_set hs] at hrest
    exact hrest

theorem setAll_ofEntries (t : Table κ ν) (entries : List (κ × ν)) :
    setAll t (ofEntries entries) = setAll t entries :=
  setAll_setAll (by simp [keys]) t entries

/-! ## What settings leave -/

theorem exists_of_get?_eq_some {k : κ} {v : ν} {t : Table κ ν} (h : get? k t = some v) :
    ∃ a b, t = a ++ (k, v) :: b ∧ k ∉ keys a := by
  induction t with
  | nil => simp [get?] at h
  | cons e t ih =>
    by_cases he : e.1 = k
    · simp only [get?, he, if_true, Option.some.injEq] at h
      exact ⟨[], t, by simp [← h, ← he], by simp [keys]⟩
    · simp only [get?, he, if_false] at h
      obtain ⟨a, b, rfl, ha⟩ := ih h
      have hk : ¬ k = e.1 := fun hk => he hk.symm
      refine ⟨e :: a, b, rfl, ?_⟩
      simp only [keys, List.map_cons, List.mem_cons, not_or] at ha ⊢
      exact ⟨hk, ha⟩

theorem get?_eq_some_of_mem {k : κ} {v : ν} {t : Table κ ν} (h : (keys t).Nodup)
    (hm : (k, v) ∈ t) : get? k t = some v := by
  obtain ⟨a, b, rfl⟩ := List.append_of_mem hm
  have ha : get? k a = none := by
    rw [get?_eq_none_iff]
    intro hk
    simp only [keys, List.map_append, List.map_cons, List.nodup_append] at h hk
    exact h.2.2 k hk k (by simp) rfl
  rw [get?_append, ha, get?, if_pos rfl, Option.none_or]

/-- A list grows by an item that it did not have. -/
theorem eraseDups_concat {α : Type} [BEq α] [LawfulBEq α] (as : List α) (a : α) :
    (as ++ [a]).eraseDups = if a ∈ as then as.eraseDups else as.eraseDups ++ [a] := by
  rw [List.eraseDups_append]
  by_cases ha : a ∈ as <;> simp [List.removeAll, ha, List.eraseDups_cons]

section Records

variable [BEq κ] [LawfulBEq κ]

/-- Each key stands at the place of its first setting and has the value of its last. -/
structure Records (entries : List (κ × ν)) (t : Table κ ν) : Prop where
  keys_eq : keys t = (keys entries).eraseDups
  last : ∀ e ∈ t, ∃ a b, entries = a ++ e :: b ∧ e.1 ∉ keys b

theorem keys_ofEntries (entries : List (κ × ν)) :
    keys (ofEntries entries) = (keys entries).eraseDups := by
  induction entries using List.reverseRecOn with
  | nil => rfl
  | append_singleton entries e ih =>
    have hset : ofEntries (entries ++ [e]) = set e.1 e.2 (ofEntries entries) := setAll_append ..
    have hkeys : keys (entries ++ [e]) = keys entries ++ [e.1] := by simp [keys]
    rw [hset, keys_set, ih, hkeys, eraseDups_concat]
    simp only [List.mem_eraseDups]

theorem records_ofEntries (entries : List (κ × ν)) : Records entries (ofEntries entries) where
  keys_eq := keys_ofEntries entries
  last := by
    intro e he
    have hlast := get?_eq_some_of_mem (nodup_keys_ofEntries entries) he
    rw [get?_ofEntries] at hlast
    obtain ⟨a, b, hsplit, ha⟩ := exists_of_get?_eq_some hlast
    refine ⟨b.reverse, a.reverse, ?_, by simpa [keys] using ha⟩
    rw [← List.reverse_reverse entries, hsplit]
    simp

end Records

section Cost

variable (cost : κ × ν → Nat)

/-- A key that has a value keeps its entry, and only the value is exchanged. -/
theorem sum_map_set_of_get? {k : κ} {old : ν} {t : Table κ ν} (h : get? k t = some old) (v : ν) :
    ((set k v t).map cost).sum + cost (k, old) = (t.map cost).sum + cost (k, v) ∧
      (set k v t).length = t.length := by
  induction t with
  | nil => simp [get?] at h
  | cons e t ih =>
    by_cases he : e.1 = k
    · simp only [get?, he, if_true, Option.some.injEq] at h
      obtain rfl : e = (k, old) := Prod.ext he h
      simp only [set, if_true, List.map_cons, List.sum_cons, List.length_cons, and_true]
      omega
    · simp only [get?, he, if_false] at h
      obtain ⟨hsum, hlength⟩ := ih h
      simp only [set, he, if_false, List.map_cons, List.sum_cons, List.length_cons, hlength,
        and_true]
      omega

theorem sum_map_set_le (k : κ) (v : ν) (t : Table κ ν) :
    ((set k v t).map cost).sum ≤ (t.map cost).sum + cost (k, v) := by
  cases h : get? k t with
  | none =>
    rw [set_of_notMem (get?_eq_none_iff.mp h)]
    simp
  | some old =>
    have hset := (sum_map_set_of_get? cost h v).1
    omega

theorem sum_map_setAll_le (t : Table κ ν) (entries : List (κ × ν)) :
    ((setAll t entries).map cost).sum ≤ (t.map cost).sum + (entries.map cost).sum := by
  induction entries generalizing t with
  | nil => simp [setAll]
  | cons e entries ih =>
    obtain ⟨k, v⟩ := e
    have hset := sum_map_set_le cost k v t
    have hrest := ih (set k v t)
    have hcons : setAll t ((k, v) :: entries) = setAll (set k v t) entries := rfl
    rw [hcons, List.map_cons, List.sum_cons]
    omega

end Cost

theorem get?_restrict {p : κ → Bool} {k : κ} (hk : p k = true) (t : Table κ ν) :
    get? k (restrict p t) = get? k t := by
  induction t with
  | nil => rfl
  | cons e t ih =>
    by_cases he : e.1 = k
    · simp [restrict, get?, he, hk]
    · by_cases hp : p e.1 = true
      · simpa [restrict, get?, he, hp] using ih
      · simpa [restrict, get?, he, hp] using ih

theorem restrict_set (p : κ → Bool) (k : κ) (v : ν) (t : Table κ ν) :
    restrict p (set k v t) = if p k then set k v (restrict p t) else restrict p t := by
  induction t with
  | nil => cases hk : p k <;> simp [restrict, set, hk]
  | cons e t ih =>
    by_cases he : e.1 = k
    · subst he
      cases hk : p e.1 <;> simp [restrict, set, hk]
    · simp only [restrict] at ih
      cases hp : p e.1 <;> cases hk : p k <;> simp [restrict, set, he, hp, hk, ih]

end WebTidy.Table
