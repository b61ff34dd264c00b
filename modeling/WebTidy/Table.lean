/-!
# Ordered tables

A table is the list of its entries. A key that is set again keeps its place and takes the new
value, so the keys stand in the order of their first setting.
-/

namespace WebTidy

abbrev Table (κ ν : Type) := List (κ × ν)

namespace Table

variable {κ ν : Type} [DecidableEq κ]

def keys (t : Table κ ν) : List κ := t.map Prod.fst

def get? (k : κ) : Table κ ν → Option ν
  | [] => none
  | e :: t => if e.1 = k then some e.2 else get? k t

def set (k : κ) (v : ν) : Table κ ν → Table κ ν
  | [] => [(k, v)]
  | e :: t => if e.1 = k then (k, v) :: t else e :: set k v t

/-- Sets the entries one after another. -/
def setAll (t : Table κ ν) (entries : List (κ × ν)) : Table κ ν :=
  entries.foldl (fun t e => set e.1 e.2 t) t

def ofEntries (entries : List (κ × ν)) : Table κ ν := setAll [] entries

theorem get?_set_self (k : κ) (v : ν) (t : Table κ ν) : get? k (set k v t) = some v := by
  induction t with
  | nil => simp [set, get?]
  | cons e t ih => by_cases h : e.1 = k <;> simp [set, get?, h, ih]

theorem get?_set_of_ne {k l : κ} (h : k ≠ l) (v : ν) (t : Table κ ν) :
    get? l (set k v t) = get? l t := by
  induction t with
  | nil => simp [set, get?, h]
  | cons e t ih =>
    by_cases he : e.1 = k
    · simp [set, get?, he, h]
    · simp [set, get?, he, ih]

theorem keys_set (k : κ) (v : ν) (t : Table κ ν) :
    keys (set k v t) = if k ∈ keys t then keys t else keys t ++ [k] := by
  induction t with
  | nil => simp [set, keys]
  | cons e t ih =>
    by_cases he : e.1 = k
    · simp [set, keys, he]
    · have hk : ¬ k = e.1 := fun h => he h.symm
      simp only [set, he, if_false, keys, List.map_cons, List.mem_cons, hk, false_or] at ih ⊢
      rw [ih]
      split <;> simp_all

theorem nodup_keys_set {t : Table κ ν} (h : t.keys.Nodup) (k : κ) (v : ν) :
    (keys (set k v t)).Nodup := by
  rw [keys_set]
  split
  · exact h
  · next hk => simp [List.nodup_append, h]; rintro a ha rfl; exact hk ha

theorem nodup_keys_setAll {t : Table κ ν} (h : t.keys.Nodup) (entries : List (κ × ν)) :
    (keys (setAll t entries)).Nodup := by
  induction entries generalizing t with
  | nil => exact h
  | cons e entries ih => exact ih (nodup_keys_set h e.1 e.2)

theorem nodup_keys_ofEntries (entries : List (κ × ν)) : (keys (ofEntries entries)).Nodup :=
  nodup_keys_setAll (by simp [keys]) entries

theorem setAll_append (t : Table κ ν) (xs ys : List (κ × ν)) :
    setAll t (xs ++ ys) = setAll (setAll t xs) ys := by
  simp [setAll]

end Table

end WebTidy
