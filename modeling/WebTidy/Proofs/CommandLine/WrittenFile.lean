import WebTidy.CommandLine.FileTree
import WebTidy.Proofs.Table
import WebTidy.Proofs.Text.Words

/-!
# Written files

A path is followed component by component, and empty ones and `.` lead nowhere. Writing a file bars
no way to a directory, so what was written is found again at the path, and no other file is touched.
-/

namespace WebTidy

/-- Whether a component of a path leads away from a directory. -/
def leadsOn (c : Text) : Bool := !c.isEmpty && c != currentComponent

theorem slash_notMem_of_mem_pathComponents {path c : Text} (h : c ∈ pathComponents path) :
    '/' ∉ c :=
  (Text.of_mem_splitOn (List.mem_of_mem_filter h)).1

theorem Text.splitOn_join {c : Char} {ts : List Text} (hn : ts ≠ []) (h : ∀ t ∈ ts, c ∉ t) :
    (join [c] ts).splitOn c = ts := by
  induction ts with
  | nil => exact absurd rfl hn
  | cons t ts ih =>
    have ht := h t (by simp)
    cases ts with
    | nil => exact List.splitOn_eq_singleton ht
    | cons u ts =>
      have hcut : join [c] (t :: u :: ts) = t ++ c :: join [c] (u :: ts) := by
        simp [join_cons_cons]
      rw [hcut, List.splitOn_append_cons_self_of_not_mem ht,
        ih (by simp) fun v hv => h v (List.mem_cons_of_mem t hv)]

/-! ## Plain paths -/

theorem rootSlashes_cases (path : Text) :
    isAbsolute path = false ∧ rootSlashes path = [] ∨
      isAbsolute path = true ∧ (rootSlashes path = ['/'] ∨ rootSlashes path = ['/', '/']) := by
  fun_cases rootSlashes path with
  | case1 => exact .inr ⟨rfl, .inl rfl⟩
  | case2 => exact .inr ⟨rfl, .inr rfl⟩
  | case3 => exact .inr ⟨rfl, .inl rfl⟩
  | case4 _ _ _ hn =>
    refine .inl ⟨?_, rfl⟩
    cases path with
    | nil => rfl
    | cons c t =>
      have hc : c ≠ '/' := by
        rintro rfl
        exact hn t rfl
      simp [isAbsolute, Text.startsWith, List.isPrefixOf, hc.symm]

section PlainPath

variable {path : Text} (h : pathComponents path ≠ [])

include h

theorem join_pathComponents_ne_nil : Text.join ['/'] (pathComponents path) ≠ [] := by
  intro hj
  have hsplit := Text.splitOn_join h fun c hc => slash_notMem_of_mem_pathComponents hc
  rw [hj] at hsplit
  have hmem : ([] : Text) ∈ pathComponents path := by
    rw [← hsplit]
    simp
  exact (ne_nil_of_mem_pathComponents hmem).1 rfl

theorem plainPath_eq :
    plainPath path = rootSlashes path ++ Text.join ['/'] (pathComponents path) := by
  have hj := join_pathComponents_ne_nil h
  unfold plainPath
  split
  · next hn => exact absurd (List.append_eq_nil_iff.mp hn).2 hj
  · rfl

theorem plainPath_ne_nil : plainPath path ≠ [] := by
  rw [plainPath_eq h]
  exact fun hn => join_pathComponents_ne_nil h (List.append_eq_nil_iff.mp hn).2

/-- A plain path has no components besides those of its path, but for the empty ones in front. -/
theorem splitOn_plainPath :
    ∃ lead : List Text, (plainPath path).splitOn '/' = lead ++ pathComponents path ∧
      ∀ c ∈ lead, leadsOn c = false := by
  have hjoin := Text.splitOn_join h fun c hc => slash_notMem_of_mem_pathComponents hc
  have hslash : ∀ t : Text, ('/' :: t).splitOn '/' = [] :: t.splitOn '/' := by
    intro t
    have hnil : '/' ∉ ([] : Text) := List.not_mem_nil
    exact List.splitOn_append_cons_self_of_not_mem hnil t
  rw [plainPath_eq h]
  rcases rootSlashes_cases path with ⟨-, hr⟩ | ⟨-, hr | hr⟩
  · exact ⟨[], by rw [hr, List.nil_append, hjoin, List.nil_append], by simp⟩
  · exact ⟨[[]], by simp [hr, hslash, hjoin], by simp [leadsOn]⟩
  · exact ⟨[[], []], by simp [hr, hslash, hjoin], by simp [leadsOn]⟩

theorem isAbsolute_plainPath : isAbsolute (plainPath path) = isAbsolute path := by
  rw [plainPath_eq h]
  rcases rootSlashes_cases path with ⟨ha, hr⟩ | ⟨ha, hr | hr⟩
  · rw [hr, ha, List.nil_append]
    obtain ⟨c, cs, hc⟩ := List.exists_cons_of_ne_nil h
    have hmem : c ∈ pathComponents path := by simp [hc]
    obtain ⟨d, t, rfl⟩ := List.exists_cons_of_ne_nil (ne_nil_of_mem_pathComponents hmem).1
    have hd : '/' ≠ d := by
      rintro rfl
      exact slash_notMem_of_mem_pathComponents hmem (by simp)
    rw [hc]
    cases cs <;> simp [Text.join, isAbsolute, Text.startsWith, List.isPrefixOf, hd]
  · rw [hr, ha]
    rfl
  · rw [hr, ha]
    rfl

end PlainPath

namespace FileTree

variable {tree : FileTree}

/-! ## Following a path -/

/-- The entry that components lead to. -/
def follow (tree : FileTree) (entry : Entry) (components : List Text) : Entry :=
  components.foldl tree.step entry

theorem follow_append (entry : Entry) (xs ys : List Text) :
    tree.follow entry (xs ++ ys) = tree.follow (tree.follow entry xs) ys :=
  List.foldl_append

theorem step_of_not_leadsOn {c : Text} (h : leadsOn c = false) (name : FileName) :
    tree.step (.directory name) c = .directory name := by
  have hc : (c.isEmpty || c == currentComponent) = true := by
    unfold leadsOn at h
    revert h
    cases c.isEmpty <;> cases hcur : c == currentComponent <;> simp [bne, hcur]
  rw [step, if_pos hc]

theorem follow_of_not_leadsOn {components : List Text} (h : ∀ c ∈ components, leadsOn c = false)
    (name : FileName) : tree.follow (.directory name) components = .directory name := by
  induction components with
  | nil => rfl
  | cons c components ih =>
    rw [follow, List.foldl_cons, step_of_not_leadsOn (h c (by simp))]
    exact ih fun d hd => h d (List.mem_cons_of_mem c hd)

theorem exists_of_step_eq_directory {entry : Entry} {c : Text} {name : FileName}
    (h : tree.step entry c = .directory name) : ∃ start, entry = .directory start := by
  cases entry <;> simp_all [step]

theorem exists_of_follow_eq_directory {entry : Entry} {components : List Text} {name : FileName}
    (h : tree.follow entry components = .directory name) : ∃ start, entry = .directory start := by
  induction components generalizing entry with
  | nil => exact ⟨name, h⟩
  | cons c components ih =>
    obtain ⟨next, hnext⟩ := ih h
    exact exists_of_step_eq_directory hnext

/-- Only a way that ends at a file is affected by the components that lead nowhere. -/
theorem follow_filter {entry : Entry} {components : List Text} {name : FileName}
    (h : tree.follow entry components = .directory name) :
    tree.follow entry (components.filter leadsOn) = .directory name := by
  induction components generalizing entry with
  | nil => exact h
  | cons c components ih =>
    cases hc : leadsOn c with
    | true =>
      rw [List.filter_cons_of_pos hc]
      exact ih h
    | false =>
      obtain ⟨start, rfl⟩ := exists_of_follow_eq_directory h
      rw [List.filter_cons_of_neg (by simp [hc])]
      have hskip : tree.follow (.directory start) (c :: components) =
          tree.follow (.directory start) components := by
        rw [follow, List.foldl_cons, step_of_not_leadsOn hc, follow]
      exact ih (hskip.symm.trans h)

theorem follow_components_of_lookup {path : Text} {name : FileName}
    (h : tree.lookup path = .directory name) :
    tree.follow (tree.start path) (pathComponents path) = .directory name := by
  unfold lookup at h
  split at h
  · cases h
  · split at h
    · cases h
    · exact follow_filter h

/-! ## Places that can be written -/

theorem child_eq_directory {name other : FileName} (h : tree.child name = .directory other) :
    other = name ∧ Table.get? name tree.files = none ∧ tree.isDirectory name = true := by
  unfold child at h
  split at h
  · cases h
  · next hfile =>
    split at h
    · next hd => exact ⟨(Entry.directory.inj h).symm, hfile, hd⟩
    · cases h

/-- A directory, and a component that can be the name of a file in it. -/
structure Place (tree : FileTree) (path : Text) (directory : FileName) (last : Text) : Prop where
  short : ¬ maxPathBytes < (plainPath path).utf8ByteSize
  components : (pathComponents path).getLast? = some last
  follow : tree.follow (tree.start path) (pathComponents path).dropLast = .directory directory
  no_directory : ∀ name, tree.step (.directory directory) last ≠ .directory name
  not_too_long : tree.step (.directory directory) last ≠ .nameTooLong

theorem writable_eq_ok {path : Text} {name : FileName} (h : tree.writable path = .ok name) :
    ∃ directory last, tree.Place path directory last ∧ name = directory ++ [last] := by
  simp only [writable] at h
  split at h
  · cases h
  · next hshort =>
    split at h
    all_goals try cases h
    next last directory hlast hfollow =>
      split at h
      · cases h
      · cases h
      · next hdirectory hlong =>
        refine ⟨directory, last, ⟨hshort, hlast, hfollow, hdirectory, hlong⟩, ?_⟩
        exact (Except.ok.inj h).symm

namespace Place

variable {path last : Text} {directory : FileName} (place : tree.Place path directory last)

include place

theorem pathComponents_eq : pathComponents path = (pathComponents path).dropLast ++ [last] :=
  (List.dropLast_append_getLast? last (by simp [place.components])).symm

theorem mem_pathComponents : last ∈ pathComponents path :=
  List.mem_of_getLast? place.components

/-- The last component is looked up by its name in any tree. -/
theorem step_eq_child (other : FileTree) :
    other.step (.directory directory) last = other.child (directory ++ [last]) := by
  have hno := place.no_directory
  have hlong := place.not_too_long
  obtain ⟨hempty, hcurrent⟩ := ne_nil_of_mem_pathComponents place.mem_pathComponents
  have hskip : ¬ (last.isEmpty || last == currentComponent) = true := by simp [hempty, hcurrent]
  simp only [step, if_neg hskip] at hno hlong ⊢
  by_cases hparent : last = parentComponent
  · exact absurd (if_pos hparent) (hno directory.dropLast)
  · rw [if_neg hparent] at hlong ⊢
    by_cases hsize : maxComponentBytes < last.utf8ByteSize
    · exact absurd (if_pos hsize) hlong
    · rw [if_neg hsize]

theorem child_ne_directory (name : FileName) :
    tree.child (directory ++ [last]) ≠ .directory name := by
  rw [← place.step_eq_child tree]
  exact place.no_directory name

end Place

/-- No place for a file is a directory. -/
theorem lookup_ne_directory_of_writable {path : Text} {name : FileName}
    (h : tree.writable path = .ok name) (other : FileName) :
    tree.lookup path ≠ .directory other := by
  intro hl
  obtain ⟨directory, last, place, -⟩ := writable_eq_ok h
  have hfollow := follow_components_of_lookup hl
  rw [place.pathComponents_eq, follow_append, place.follow] at hfollow
  exact place.no_directory other hfollow

/-! ## After writing -/

/-- The tree with a file set. -/
def withFile (tree : FileTree) (name : FileName) (content : Bytes) : FileTree :=
  { tree with files := Table.set name content tree.files }

theorem isDirectory_withFile {other : FileName} (h : tree.isDirectory other = true)
    (name : FileName) (content : Bytes) :
    (tree.withFile name content).isDirectory other = true := by
  have hkeys : ∀ files : Table FileName Bytes,
      (files.any fun f => other.isPrefixOf f.1 && other != f.1) =
        (Table.keys files).any fun k => other.isPrefixOf k && other != k := by
    intro files
    rw [Table.keys, List.any_map]
    rfl
  simp only [isDirectory, withFile, Bool.or_eq_true, hkeys] at h ⊢
  refine h.imp_right fun hany => ?_
  rw [Table.keys_set]
  split
  · exact hany
  · rw [List.any_append, hany, Bool.true_or]

theorem step_withFile {name start next : FileName} {c : Text}
    (hname : ∀ other, tree.child name ≠ .directory other) (content : Bytes)
    (h : tree.step (.directory start) c = .directory next) :
    (tree.withFile name content).step (.directory start) c = .directory next := by
  simp only [step] at h ⊢
  split at h
  · next hskip => rwa [if_pos hskip]
  · next hskip =>
    rw [if_neg hskip]
    split at h
    · next hparent => rwa [if_pos hparent]
    · next hparent =>
      rw [if_neg hparent]
      split at h
      · cases h
      · next hsize =>
        obtain ⟨rfl, hfile, hd⟩ := child_eq_directory h
        have hne : name ≠ start ++ [c] := by
          rintro rfl
          exact hname _ h
        have hget : Table.get? (start ++ [c]) (tree.withFile name content).files = none := by
          rw [withFile, Table.get?_set_of_ne hne, hfile]
        rw [if_neg hsize, child, hget]
        simp only [isDirectory_withFile hd, if_true]

theorem follow_withFile {name start next : FileName} {components : List Text}
    (hname : ∀ other, tree.child name ≠ .directory other) (content : Bytes)
    (h : tree.follow (.directory start) components = .directory next) :
    (tree.withFile name content).follow (.directory start) components = .directory next := by
  induction components generalizing start with
  | nil => exact h
  | cons c components ih =>
    obtain ⟨middle, hmiddle⟩ : ∃ middle, tree.step (.directory start) c = .directory middle :=
      exists_of_follow_eq_directory h
    rw [follow, List.foldl_cons, hmiddle] at h
    rw [follow, List.foldl_cons, step_withFile hname content hmiddle]
    exact ih h

/-- What was written is found at the path, and every other file is as it was. -/
theorem lookup_write {after : FileTree} {path : Text} {content : Bytes}
    (h : tree.write path content = .ok after) :
    ∃ name, tree.writable path = .ok name ∧ after = tree.withFile name content ∧
      after.lookup (plainPath path) = .file name content := by
  obtain ⟨name, hwritable, hafter⟩ := write_eq_ok h
  obtain ⟨directory, last, place, hname⟩ := writable_eq_ok hwritable
  have hcomponents : pathComponents path ≠ [] := List.ne_nil_of_mem place.mem_pathComponents
  obtain ⟨lead, hsplit, hlead⟩ := splitOn_plainPath hcomponents
  obtain ⟨first, hfirst⟩ : ∃ first, tree.start path = .directory first := ⟨_, rfl⟩
  have hstart : after.start (plainPath path) = .directory first := by
    rw [← hfirst, start, start, isAbsolute_plainPath hcomponents, hafter]
  have hway : after.follow (.directory first) (pathComponents path).dropLast =
      .directory directory := by
    rw [hafter]
    exact follow_withFile (hname ▸ place.child_ne_directory) content (hfirst ▸ place.follow)
  have hfile : after.child (directory ++ [last]) = .file name content := by
    rw [← hname, hafter, child, Table.get?_set_self]
  refine ⟨name, hwritable, hafter, ?_⟩
  unfold lookup
  rw [if_neg (by simpa using plainPath_ne_nil hcomponents), if_neg place.short, hsplit,
    hstart]
  calc after.follow (.directory first) (lead ++ pathComponents path)
      = after.follow (.directory first) (pathComponents path) := by
        rw [follow_append, follow_of_not_leadsOn hlead]
    _ = after.step (.directory directory) last := by
        rw [place.pathComponents_eq, follow_append, hway]
        rfl
    _ = .file name content := by rw [place.step_eq_child, hfile]

end FileTree

end WebTidy
