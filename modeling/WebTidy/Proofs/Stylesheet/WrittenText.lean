import WebTidy.Proofs.Stylesheet.CommentScan
import WebTidy.Proofs.Stylesheet.WellFormed

/-!
# The text of a sheet

The text of a sheet is its selectors, properties, values and queries with separators between them.
A piece that holds no separator stands in that text only where it stands in one of these.
-/

namespace WebTidy

theorem Declarations.render_cons (d : Text × Text) (ds : Declarations) :
    Declarations.render (d :: ds) = d.1 ++ ':' :: (d.2 ++ ';' :: Declarations.render ds) := by
  simp [Declarations.render]

theorem Groups.render_nil : Groups.render [] = [] := rfl

theorem Groups.render_cons_append (g : Text × Declarations) (groups : Groups) (t : Text) :
    Groups.render (g :: groups) ++ t =
      g.1 ++ '{' :: (Declarations.render g.2 ++ '}' :: (Groups.render groups ++ t)) := by
  simp [Groups.render, Groups.renderGroup]

theorem MediaGroups.render_append (block : MediaGroups) (t : Text) :
    block.render ++ t =
      mediaWord ++ ' ' :: (block.query ++ '{' :: (block.groups.render ++ '}' :: t)) := by
  simp [MediaGroups.render]

theorem Lacks.of_mem_readRules {piece t : Text} (h : Lacks piece t) :
    ∀ r ∈ readRules t, TextsIn (Lacks piece) (Lacks piece) (Lacks piece) r.group := by
  intro r hr
  have hinfix : ∀ s, s <:+: t → Lacks piece s := fun _ hs => h.of_isInfix hs
  exact (textsIn_of_mem_readRules hr).mono (fun _ hs => hinfix _ hs.2) (fun _ hs => hinfix _ hs.2)
    fun _ hs => hinfix _ hs.2

/-- A piece that no blank and no separator of a group could be part of. -/
structure Unbroken (piece : Text) : Prop where
  ne_nil : piece ≠ []
  free : ∀ c ∈ [':', ';', '{', '}'], c ∉ piece
  solid : ∀ c ∈ piece, isBlank c = false

instance : DecidablePred Unbroken := fun piece =>
  decidable_of_iff (piece ≠ [] ∧ [':', ';', '{', '}'].all (· ∉ piece) = true ∧
      piece.all (!isBlank ·) = true)
    ⟨fun ⟨hn, hf, hs⟩ => ⟨hn, by simpa using hf, by simpa using hs⟩,
      fun ⟨hn, hf, hs⟩ => ⟨hn, by simpa using hf, by simpa using hs⟩⟩

theorem Unbroken.lacks_nil {piece : Text} (hp : Unbroken piece) : Lacks piece [] := by
  intro h
  exact hp.ne_nil (List.infix_nil.mp h)

theorem unbroken_commentStart : Unbroken commentStart := by decide

theorem unbroken_mediaWord : Unbroken mediaWord := by decide

section Written

variable {piece : Text} (hp : Unbroken piece)

include hp

theorem Declarations.lacks_render {ds : Declarations}
    (h : ∀ d ∈ ds, Lacks piece d.1 ∧ Lacks piece d.2) : Lacks piece (Declarations.render ds) := by
  induction ds with
  | nil => exact hp.lacks_nil
  | cons d ds ih =>
    obtain ⟨hd, hv⟩ := h d (by simp)
    have hrest := ih fun e he => h e (by simp [he])
    rw [Declarations.render_cons]
    exact hd.append_cons (hv.append_cons hrest (hp.free _ (by simp))) (hp.free _ (by simp))

theorem Groups.lacks_render_append {groups : Groups}
    (h : ∀ g ∈ groups, TextsIn (Lacks piece) (Lacks piece) (Lacks piece) g) {t : Text}
    (ht : Lacks piece t) : Lacks piece (groups.render ++ t) := by
  induction groups with
  | nil => exact ht
  | cons g groups ih =>
    have hg := h g (by simp)
    have hbody : Lacks piece (Declarations.render g.2) :=
      Declarations.lacks_render hp fun d hd => ⟨hg.property d hd, hg.value d hd⟩
    have hrest := ih fun e he => h e (by simp [he])
    rw [Groups.render_cons_append]
    exact hg.selector.append_cons (hbody.append_cons hrest (hp.free _ (by simp)))
      (hp.free _ (by simp))

end Written

namespace GroupedSheet

/-- Selectors in `P`, properties in `Q`, values in `R` and queries in `S`, in all of the sheet. -/
structure TextsIn (P Q R S : Text → Prop) (sheet : GroupedSheet) : Prop where
  top : ∀ g ∈ sheet.top, WebTidy.TextsIn P Q R g
  media : ∀ b ∈ sheet.media, S b.query ∧ ∀ g ∈ b.groups, WebTidy.TextsIn P Q R g

instance (P Q R S : Text → Prop) [DecidablePred P] [DecidablePred Q] [DecidablePred R]
    [DecidablePred S] (sheet : GroupedSheet) : Decidable (sheet.TextsIn P Q R S) :=
  decidable_of_iff ((∀ g ∈ sheet.top, WebTidy.TextsIn P Q R g) ∧
      ∀ b ∈ sheet.media, S b.query ∧ ∀ g ∈ b.groups, WebTidy.TextsIn P Q R g)
    ⟨fun ⟨ht, hm⟩ => ⟨ht, hm⟩, fun ⟨ht, hm⟩ => ⟨ht, hm⟩⟩

theorem lacks_render_blocks {blocks : List MediaGroups}
    (h : ∀ b ∈ blocks, Lacks commentStart b.query ∧ ∀ g ∈ b.groups,
      WebTidy.TextsIn (Lacks commentStart) (Lacks commentStart) (Lacks commentStart) g) :
    Lacks commentStart (blocks.flatMap MediaGroups.render) := by
  induction blocks with
  | nil => exact unbroken_commentStart.lacks_nil
  | cons block blocks ih =>
    obtain ⟨hquery, hgroups⟩ := h block (by simp)
    have hrest := ih fun b hm => h b (by simp [hm])
    have hword : Lacks commentStart mediaWord := by
      unfold Lacks
      decide
    have hclosed : Lacks commentStart ('}' :: blocks.flatMap MediaGroups.render) :=
      unbroken_commentStart.lacks_nil.append_cons hrest (by decide)
    have hinside := Groups.lacks_render_append unbroken_commentStart hgroups hclosed
    rw [List.flatMap_cons, MediaGroups.render_append]
    exact hword.append_cons (hquery.append_cons hinside (by decide)) (by decide)

theorem lacks_render_commentStart {sheet : GroupedSheet}
    (h : sheet.TextsIn (Lacks commentStart) (Lacks commentStart) (Lacks commentStart)
      (Lacks commentStart)) : Lacks commentStart sheet.render :=
  Groups.lacks_render_append unbroken_commentStart h.top (lacks_render_blocks h.media)

end GroupedSheet

end WebTidy
