import WebTidy.Proofs.Stylesheet.RoundTrip

/-!
# The weight of a tidied text

Every character has a weight, and tidying drops or merges what it reads. All it adds is a semicolon
in each group and a blank in each media block. A group that is merged with another or dropped loses
its closing brace, which pays for the semicolon.
-/

namespace WebTidy

/-! ## Texts -/

namespace Text

def weight (w : Char → Nat) (t : Text) : Nat := (t.map w).sum

variable (w : Char → Nat)

@[simp] theorem weight_nil : weight w [] = 0 := rfl

@[simp] theorem weight_cons (c : Char) (t : Text) : weight w (c :: t) = w c + weight w t := by
  simp [weight]

@[simp] theorem weight_append (s t : Text) : weight w (s ++ t) = weight w s + weight w t := by
  simp [weight]

theorem weight_flatMap {α : Type} (f : α → Text) (l : List α) :
    weight w (l.flatMap f) = (l.map fun a => weight w (f a)).sum := by
  induction l with
  | nil => rfl
  | cons a l ih => rw [List.flatMap_cons, weight_append, ih, List.map_cons, List.sum_cons]

theorem weight_le_of_sublist {s t : Text} (h : s.Sublist t) : weight w s ≤ weight w t := by
  induction h with
  | slnil => exact le_refl _
  | cons c _ ih =>
    rw [weight_cons]
    omega
  | cons_cons c _ ih =>
    rw [weight_cons, weight_cons]
    omega

theorem weight_trim_le (t : Text) : weight w (trim t) ≤ weight w t :=
  weight_le_of_sublist w (trim_isInfix t).sublist

/-- A character at which a text is cut is weighed unless nothing stands behind it. -/
theorem weight_cutAt {c : Char} {t : Text} (h : (cutAt c t).2 ≠ []) :
    weight w (cutAt c t).1 + w c + weight w (cutAt c t).2 = weight w t := by
  have hc : c ∈ t := by
    by_contra hn
    have hall : ∀ d ∈ t, (d != c) = true := by
      intro d hd
      rw [bne_iff_ne]
      rintro rfl
      exact hn hd
    simp [cutAt, List.dropWhile_eq_nil_iff.mpr hall] at h
  obtain ⟨s, u, rfl, hs⟩ := List.eq_append_cons_of_mem hc
  rw [cutAt_append hs, weight_append, weight_cons, Nat.add_assoc]

end Text

variable {w : Char → Nat}

/-- The weight by which a text weighs as much as one character occurs in it. -/
def countOf (c : Char) : Char → Nat := fun d => if d = c then 1 else 0

theorem Text.weight_countOf (c : Char) (t : Text) : weight (countOf c) t = t.count c := by
  induction t with
  | nil => rfl
  | cons d t ih =>
    rw [weight_cons, ih, List.count_cons, countOf, Nat.add_comm]
    simp only [beq_iff_eq]

/-! ## Declarations -/

theorem weight_declaration? {entry property value : Text}
    (h : declaration? entry = some (property, value)) :
    Text.weight w property + w ':' + Text.weight w value ≤ Text.weight w entry := by
  obtain ⟨rfl, rfl⟩ := eq_of_declaration? h
  have hvalue : (Text.cutAt ':' entry).2 ≠ [] := by
    intro hn
    exact (ne_nil_of_declaration? h).2 (by rw [hn, Text.trim_nil])
  have hcut := Text.weight_cutAt w hvalue
  have hp := Text.weight_trim_le w (Text.cutAt ':' entry).1
  have hv := Text.weight_trim_le w (Text.cutAt ':' entry).2
  omega

namespace Declarations

theorem weight_render_cons (d : Text × Text) (ds : Declarations) :
    Text.weight w (render (d :: ds)) =
      Text.weight w d.1 + w ':' + Text.weight w d.2 + w ';' + Text.weight w (render ds) := by
  rw [render_cons]
  simp only [Text.weight_append, Text.weight_cons]
  omega

/-- Writing the entries of a body adds at most the last semicolon. -/
theorem weight_render_bodyEntries_le (body : Text) :
    Text.weight w (render (bodyEntries body)) ≤ Text.weight w body + w ';' := by
  have hentry : ∀ entry, ';' ∉ entry →
      Text.weight w (render (bodyEntries entry)) ≤ Text.weight w entry + w ';' := by
    intro entry he
    rw [bodyEntries_singleton he]
    cases hd : declaration? entry with
    | none => simp [render]
    | some d =>
      have hweight := weight_declaration? (w := w) hd
      rw [Option.toList_some, weight_render_cons]
      simp only [render, List.flatMap_nil, Text.weight_nil]
      omega
  induction body using Text.separator_induction ';' with
  | last entry he => exact hentry entry he
  | cut entry rest he ih =>
    have hfirst := hentry entry he
    have happend : render (bodyEntries entry ++ bodyEntries rest) =
        render (bodyEntries entry) ++ render (bodyEntries rest) := by simp [render]
    rw [bodyEntries_append, happend]
    simp only [Text.weight_append, Text.weight_cons]
    omega

theorem weight_render_setAll_le (old ds : Declarations) :
    Text.weight w (render (Table.setAll old ds)) ≤
      Text.weight w (render old) + Text.weight w (render ds) := by
  simp only [render, Text.weight_flatMap]
  exact Table.sum_map_setAll_le _ old ds

theorem weight_render_ofBody_le (body : Text) :
    Text.weight w (render (ofBody body)) ≤ Text.weight w body + w ';' := by
  have hset := weight_render_setAll_le (w := w) [] (bodyEntries body)
  have hentries := weight_render_bodyEntries_le (w := w) body
  have hnil : Text.weight w (render []) = 0 := rfl
  rw [ofBody, Table.ofEntries]
  omega

end Declarations

/-! ## Rules and groups -/

def groupWeight (w : Char → Nat) (group : Text × Declarations) : Nat :=
  Text.weight w (Groups.renderGroup group)

theorem groupWeight_eq (group : Text × Declarations) :
    groupWeight w group =
      Text.weight w group.1 + w '{' + Text.weight w (Declarations.render group.2) + w '}' := by
  simp only [groupWeight, Groups.renderGroup, Text.weight_append, Text.weight_cons, Text.weight_nil]
  omega

theorem groupWeight_group (rule : Rule) :
    groupWeight w rule.group = Text.weight w rule.selector + w '{' +
      Text.weight w (Declarations.render rule.declarations) + w '}' :=
  groupWeight_eq _

theorem Groups.weight_render (groups : Groups) :
    Text.weight w groups.render = (groups.map (groupWeight w)).sum :=
  Text.weight_flatMap w renderGroup groups

theorem groupWeight_of? {selector body : Text} {rule : Rule}
    (h : Rule.of? selector body = some rule) :
    groupWeight w rule.group ≤
      Text.weight w selector + w '{' + Text.weight w body + w '}' + w ';' := by
  obtain ⟨rfl, -, -⟩ := of?_eq_some h
  have hselector := Text.weight_trim_le w selector
  have hbody := Declarations.weight_render_ofBody_le (w := w) body
  rw [groupWeight_group]
  dsimp only
  omega

theorem weight_readRules_le (t : Text) :
    ((readRules t).map fun r => groupWeight w r.group).sum ≤
      Text.weight w t + (readRules t).length * w ';' := by
  induction t using brace_induction with
  | free s hs => simp [readRules_of_braceFree hs]
  | close s t hs ih =>
    rw [readRules_close hs, Text.weight_append, Text.weight_cons]
    omega
  | unclosed s b hs hb => simp [readRules_unclosed hs hb]
  | pair s b t hs hb ih =>
    rw [readRules_pair hs hb]
    simp only [Text.weight_append, Text.weight_cons]
    cases hr : Rule.of? s b with
    | none =>
      rw [Option.toList_none, List.nil_append]
      omega
    | some rule =>
      have hrule := groupWeight_of? (w := w) hr
      simp only [Option.toList_some, List.singleton_append, List.map_cons, List.sum_cons,
        List.length_cons, Nat.succ_mul]
      omega
  | nested s b t hs hb ih =>
    rw [readRules_nested hs hb, Text.weight_append, Text.weight_cons]
    omega

namespace Groups

theorem groupWeight_setAll_le (selector : Text) (old ds : Declarations) :
    groupWeight w (selector, Table.setAll old ds) ≤
      groupWeight w (selector, old) + Text.weight w (Declarations.render ds) := by
  have hset := Declarations.weight_render_setAll_le (w := w) old ds
  simp only [groupWeight_eq]
  omega

/-- A rule makes a new group, or what it lets go on a merge pays for one semicolon. -/
theorem weight_render_add_le (hw : w ';' ≤ w '}') (groups : Groups) (rule : Rule) :
    Text.weight w (add groups rule).render + (groups.length + 1) * w ';' ≤
      Text.weight w groups.render + groupWeight w rule.group +
        (add groups rule).length * w ';' := by
  have hrule := groupWeight_group (w := w) rule
  have hmerge := groupWeight_setAll_le (w := w) rule.selector
  rw [weight_render, weight_render, add]
  cases hg : Table.get? rule.selector groups with
  | none =>
    have hnew := hmerge [] rule.declarations
    have hempty := groupWeight_eq (w := w) (rule.selector, [])
    have hnil : Text.weight w (Declarations.render []) = 0 := rfl
    rw [Option.getD_none, Table.set_of_notMem (Table.get?_eq_none_iff.mp hg)]
    simp only [List.map_append, List.map_singleton, List.sum_append, List.sum_singleton,
      List.length_append, List.length_singleton]
    simp only at hempty ⊢
    omega
  | some old =>
    -- the selector and the braces of the rule are gone, a brace for the semicolon
    have hset := Table.sum_map_set_of_get? (groupWeight w) hg
      (Table.setAll old rule.declarations)
    have hold := hmerge old rule.declarations
    rw [Option.getD_some, hset.2, Nat.succ_mul]
    omega

theorem weight_render_foldl_add_le (hw : w ';' ≤ w '}') (groups : Groups) (rules : List Rule) :
    Text.weight w (render (rules.foldl add groups)) + (groups.length + rules.length) * w ';' ≤
      Text.weight w groups.render + (rules.map fun r => groupWeight w r.group).sum +
        (rules.foldl add groups).length * w ';' := by
  induction rules generalizing groups with
  | nil => simp
  | cons rule rules ih =>
    have hadd := weight_render_add_le hw groups rule
    have hrest := ih (add groups rule)
    simp only [List.foldl_cons, List.map_cons, List.sum_cons, List.length_cons, Nat.add_mul,
      Nat.one_mul] at hadd hrest ⊢
    omega

/-- A group that is dropped pays for its semicolon. -/
theorem weight_render_of_sublist (hw : w ';' ≤ w '}') {kept all : Groups} (h : kept.Sublist all) :
    Text.weight w kept.render + all.length * w ';' ≤
      Text.weight w all.render + kept.length * w ';' := by
  rw [weight_render, weight_render]
  induction h with
  | slnil => exact le_refl _
  | cons g _ ih =>
    have hg := groupWeight_eq (w := w) g
    simp only [List.map_cons, List.sum_cons, List.length_cons, Nat.succ_mul]
    omega
  | cons_cons g _ ih =>
    simp only [List.map_cons, List.sum_cons, List.length_cons, Nat.succ_mul]
    omega

theorem weight_render_ofText_le (hw : w ';' ≤ w '}') (f : ClassFilter) (t : Text) :
    Text.weight w (ofText f t).render ≤ Text.weight w t + (ofText f t).length * w ';' := by
  have hfilter := weight_render_of_sublist hw (applyFilter_sublist f (ofRules (readRules t)))
  have hmerge := weight_render_foldl_add_le hw [] (readRules t)
  have hread := weight_readRules_le (w := w) t
  have hnil : Text.weight w (render []) = 0 := rfl
  rw [List.length_nil, Nat.zero_add] at hmerge
  simp only [ofText, ofRules] at hfilter ⊢
  omega

end Groups

/-! ## Media blocks -/

/-- The blocks of a text in which a filter keeps a group. -/
def mediaGroups (f : ClassFilter) (t : Text) : List MediaGroups :=
  ((extractMedia t).1.map (MediaBlock.grouped f)).filter (!·.groups.isEmpty)

theorem Sheet.grouped_parse (f : ClassFilter) (css : Text) :
    (Sheet.parse css).grouped f =
      ⟨Groups.ofText f (extractMedia (withoutComments css)).2,
        mediaGroups f (withoutComments css)⟩ := rfl

/-- What writing the blocks may add. -/
def mediaSlack (w : Char → Nat) (blocks : List MediaGroups) : Nat :=
  (blocks.map fun b => b.groups.length * w ';' + w ' ').sum

/-- The weight of the blocks of a text and of what is left of it. -/
def mediaWeight (w : Char → Nat) (f : ClassFilter) (t : Text) : Nat :=
  Text.weight w ((mediaGroups f t).flatMap MediaGroups.render) + Text.weight w (extractMedia t).2

theorem mediaGroups_of_some {t : Text} {cut : MediaCut} (h : firstMedia? t = some cut)
    (f : ClassFilter) :
    mediaGroups f t =
      if Groups.ofText f cut.content = [] then mediaGroups f cut.rest
      else ⟨Text.trim cut.query, Groups.ofText f cut.content⟩ :: mediaGroups f cut.rest := by
  have hblock : MediaBlock.grouped f ⟨Text.trim cut.query, readRules cut.content⟩ =
      ⟨Text.trim cut.query, Groups.ofText f cut.content⟩ := rfl
  rw [mediaGroups, extractMedia_of_some h, List.map_cons, hblock]
  by_cases hn : Groups.ofText f cut.content = []
  · rw [if_pos hn, List.filter_cons_of_neg (by simp [hn]), mediaGroups]
  · rw [if_neg hn, List.filter_cons_of_pos (by simpa using hn), mediaGroups]

/-- A block weighs what stands in the text at its place, less what its content loses when it is
read as another text with the same rules. -/
theorem mediaWeight_of_some (hw : w ';' ≤ w '}') {t v : Text} {cut : MediaCut}
    (h : firstMedia? t = some cut) (hv : readRules cut.content = readRules v) (f : ClassFilter) :
    mediaWeight w f t + Text.weight w cut.content + Text.weight w cut.rest +
        mediaSlack w (mediaGroups f cut.rest) ≤
      Text.weight w t + Text.weight w v + mediaWeight w f cut.rest +
        mediaSlack w (mediaGroups f t) := by
  have ht := congrArg (Text.weight w) (eq_of_firstMedia? h)
  have hgroups := Groups.weight_render_ofText_le hw f v
  have hsame : Groups.ofText f v = Groups.ofText f cut.content := by
    rw [Groups.ofText, ← hv, Groups.ofText]
  have hquery := Text.weight_trim_le w cut.query
  rw [hsame] at hgroups
  simp only [Text.weight_append, Text.weight_cons] at ht
  rw [mediaWeight, mediaWeight, mediaGroups_of_some h, extractMedia_of_some h]
  split
  · rw [Text.weight_append]
    omega
  · rw [List.flatMap_cons, MediaGroups.render_append]
    simp only [mediaSlack, List.map_cons, List.sum_cons, Text.weight_append, Text.weight_cons]
    omega

theorem mediaWeight_le (hw : w ';' ≤ w '}') (f : ClassFilter) (t : Text) :
    mediaWeight w f t ≤ Text.weight w t + mediaSlack w (mediaGroups f t) := by
  induction t using media_induction with
  | last t h => simp [mediaWeight, mediaGroups, extractMedia_of_none h]
  | block t cut h ih =>
    have hblock := mediaWeight_of_some hw h rfl f
    omega

/-! ## Stylesheets -/

theorem weight_tidy_le_mediaWeight (hw : w ';' ≤ w '}') (f : ClassFilter) (css : Text) :
    Text.weight w (tidy f css) ≤ mediaWeight w f (withoutComments css) +
      ((Sheet.parse css).grouped f).top.length * w ';' := by
  have htop := Groups.weight_render_ofText_le hw f (extractMedia (withoutComments css)).2
  rw [tidy, Sheet.grouped_parse, GroupedSheet.render, Text.weight_append, mediaWeight]
  dsimp only
  omega

/-- Tidying adds at most a semicolon for each group and a blank for each block. -/
theorem weight_tidy_le (hw : w ';' ≤ w '}') (f : ClassFilter) (css : Text) :
    Text.weight w (tidy f css) ≤ Text.weight w (withoutComments css) +
      ((Sheet.parse css).grouped f).top.length * w ';' +
      mediaSlack w ((Sheet.parse css).grouped f).media := by
  have htidy := weight_tidy_le_mediaWeight hw f css
  have hmedia := mediaWeight_le hw f (withoutComments css)
  rw [Sheet.grouped_parse] at htidy ⊢
  dsimp only at htidy ⊢
  omega

end WebTidy
