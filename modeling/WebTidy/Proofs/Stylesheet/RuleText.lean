import WebTidy.Proofs.Stylesheet.MediaScan

/-!
# Rules as they are written

The text of flat rules is read rule by rule, whatever blanks stand around a selector or in a body,
and no media block opens in it unless a selector opens one. A block that is open may end at the
brace of any of them.
-/

namespace WebTidy

/-- A flat rule as it is written, with the blanks around its selector and in its body. -/
structure RuleText where
  selector : Text
  body : Text
  deriving DecidableEq, Repr

namespace RuleText

def render (r : RuleText) : Text := r.selector ++ '{' :: (r.body ++ ['}'])

def rule (r : RuleText) : Rule := ⟨r.selector.trim, Declarations.ofBody r.body⟩

/-- The selector names something and the body sets something. -/
structure Readable (r : RuleText) : Prop where
  selector_free : BraceFree r.selector
  body_free : BraceFree r.body
  named : r.selector.trim ≠ []
  sets : Declarations.ofBody r.body ≠ []

theorem flatMap_render_cons (r : RuleText) (rules : List RuleText) (t : Text) :
    (r :: rules).flatMap render ++ t =
      r.selector ++ '{' :: (r.body ++ '}' :: (rules.flatMap render ++ t)) := by
  simp [render]

theorem of?_rule {r : RuleText} (h : r.Readable) : Rule.of? r.selector r.body = some r.rule := by
  simp [Rule.of?, rule, h.named, h.sets]

theorem readRules_append {rules : List RuleText} (h : ∀ r ∈ rules, r.Readable) (t : Text) :
    readRules (rules.flatMap render ++ t) = rules.map rule ++ readRules t := by
  induction rules with
  | nil => rfl
  | cons r rules ih =>
    have hr := h r (by simp)
    rw [flatMap_render_cons, readRules_pair hr.selector_free hr.body_free, of?_rule hr,
      ih fun e he => h e (by simp [he])]
    rfl

theorem firstOpening?_append {rules : List RuleText} (h : ∀ r ∈ rules, r.Readable)
    (ho : ∀ r ∈ rules, ¬ OpensMedia r.selector) (t : Text) :
    firstOpening? (rules.flatMap render ++ t) =
      (firstOpening? t).map fun cut => (rules.flatMap render ++ cut.1, cut.2) := by
  induction rules with
  | nil => simp
  | cons r rules ih =>
    have hr := h r (by simp)
    have hopen := WebTidy.firstOpening?_append hr.selector_free isBrace_open fun _ =>
      ho r (by simp)
    have hclose := WebTidy.firstOpening?_append hr.body_free isBrace_close (by simp)
    have hrest := ih (fun e he => h e (by simp [he])) fun e he => ho e (by simp [he])
    rw [flatMap_render_cons, hopen, hclose, hrest, Option.map_map, Option.map_map]
    congr 1
    funext cut
    simp [render]

/-- The brace of a rule ends an open block, or the block goes on behind the rule. -/
theorem mediaContent?_append {r : RuleText} (h : r.Readable) (t : Text) :
    mediaContent? (r.selector ++ '{' :: (r.body ++ '}' :: t)) =
      if closesMedia t then some (r.selector ++ '{' :: r.body, t)
      else (mediaContent? t).map fun cut =>
        (r.selector ++ '{' :: (r.body ++ '}' :: cut.1), cut.2) := by
  have hfree : '}' ∉ r.selector ++ '{' :: r.body := by
    have hs := (braceFree_iff.mp h.selector_free).2
    have hb := (braceFree_iff.mp h.body_free).2
    simp [hs, hb]
  have hsplit : r.selector ++ '{' :: (r.body ++ '}' :: t) =
      (r.selector ++ '{' :: r.body) ++ '}' :: t := by simp
  rw [hsplit, WebTidy.mediaContent?_append hfree, mediaContent?_close]
  split
  · simp
  · rw [Option.map_map]
    congr 1
    funext cut
    simp

end RuleText

end WebTidy
