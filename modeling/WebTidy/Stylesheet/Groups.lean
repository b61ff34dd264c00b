import WebTidy.Stylesheet.Rules

/-!
# Groups

The rules of one selector merge into one group. Selectors stand in the order of their first rules,
and a property that is set again keeps its place and takes the later value.
-/

namespace WebTidy

/-- Declarations by selector. -/
abbrev Groups := Table Text Declarations

namespace Groups

/-- Adds the declarations of a rule to the group of its selector. -/
def add (groups : Groups) (rule : Rule) : Groups :=
  Table.set rule.selector
    (Table.setAll ((Table.get? rule.selector groups).getD []) rule.declarations) groups

def ofRules (rules : List Rule) : Groups := rules.foldl add []

def renderGroup (group : Text × Declarations) : Text :=
  group.1 ++ '{' :: Declarations.render group.2 ++ ['}']

/-- The groups in writing, without a blank that is not part of a selector, property or value. -/
def render (groups : Groups) : Text := groups.flatMap renderGroup

theorem ofRules_concat (rules : List Rule) (rule : Rule) :
    ofRules (rules ++ [rule]) = add (ofRules rules) rule := by
  simp [ofRules]

theorem nodup_keys_foldl_add {groups : Groups} (h : (Table.keys groups).Nodup) (rules : List Rule) :
    (Table.keys (rules.foldl add groups)).Nodup := by
  induction rules generalizing groups with
  | nil => exact h
  | cons rule rules ih => exact ih (Table.nodup_keys_set h _ _)

theorem nodup_keys_ofRules (rules : List Rule) : (Table.keys (ofRules rules)).Nodup :=
  nodup_keys_foldl_add (by simp [Table.keys]) rules

theorem render_append (g h : Groups) : render (g ++ h) = render g ++ render h := by
  simp [render]

end Groups

end WebTidy
