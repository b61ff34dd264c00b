import WebTidy.FilePath
import WebTidy.Markup.ClassUse
import WebTidy.Text.Quoted

/-!
# Source dialects

A dialect is a kind of web source with its own comments and attributes. It is named by its usual
file extension, by a long identifier or by an alias, in any case and with or without leading dots.
-/

namespace WebTidy

inductive Dialect where
  | jsx
  | tsx
  | js
  | ts
  | php
  | html
  | vue
  deriving DecidableEq, Repr

namespace Dialect

/-- The dialects in the order in which they are listed. -/
def all : List Dialect := [jsx, tsx, js, ts, php, html, vue]

theorem mem_all (d : Dialect) : d ∈ all := by cases d <;> decide

def id : Dialect → String
  | jsx => "jsx"
  | tsx => "tsx"
  | js => "js"
  | ts => "ts"
  | php => "php"
  | html => "html"
  | vue => "vue"

def longId : Dialect → String
  | jsx => "component-jsx"
  | tsx => "component-tsx"
  | js => "script-js"
  | ts => "script-ts"
  | php => "server-php"
  | html => "markup-html"
  | vue => "template-vue"

def displayName : Dialect → String
  | jsx => "JSX"
  | tsx => "TSX"
  | js => "JavaScript"
  | ts => "TypeScript"
  | php => "PHP"
  | html => "HTML"
  | vue => "Vue"

end Dialect

/-- How a dialect writes comments, and the attributes that are usual in it. -/
structure Conventions where
  blockComment : String × String
  lineComment : Option String
  alternateComment : Option String
  htmlComment : Option (String × String)
  attributes : List String
  deriving DecidableEq, Repr

def componentAttributes : List String :=
  ["className", "onClick", "onChange", "style", "id", "key", "ref"]

/-- The conventions of a script, with the given attributes. -/
def scriptConventions (attributes : List String) : Conventions where
  blockComment := ("/*", "*/")
  lineComment := some "//"
  alternateComment := none
  htmlComment := none
  attributes := attributes

namespace Dialect

def conventions : Dialect → Conventions
  | jsx => scriptConventions componentAttributes
  | tsx => scriptConventions componentAttributes
  | js => scriptConventions []
  | ts => scriptConventions []
  | php =>
    { scriptConventions ["class", "id", "style"] with alternateComment := some "#" }
  | html =>
    ⟨("<!--", "-->"), none, none, none, ["class", "id", "style", "data-"]⟩
  | vue =>
    { scriptConventions ["class", ":class", "v-bind:class"] with
      htmlComment := some ("<!--", "-->") }

/-- The attributes that carry class names in the markup of a dialect. -/
def classAttributes (d : Dialect) : List Text :=
  if "className" ∈ d.conventions.attributes then ["className".toList]
  else if "class" ∈ d.conventions.attributes then ["class".toList]
  else defaultAttributes

/-- All names of the dialects. -/
def names : List (Text × Dialect) :=
  all.map (fun d => (d.id.toList, d)) ++ all.map (fun d => (d.longId.toList, d))
    ++ [("htm".toList, html), ("mjs".toList, js), ("cjs".toList, js)]

def ofName? (name : Text) : Option Dialect := names.lookup name

end Dialect

/-- The lower case of a character as far as ASCII letters go: the Kelvin sign lowers to one too, and
every other character is left alone. -/
def lowerChar (c : Char) : Char := if c = '\u212A' then 'k' else c.toLower

def Text.lower (t : Text) : Text := t.map lowerChar

theorem Text.length_lower (t : Text) : t.lower.length = t.length := by simp [Text.lower]

/-- A name that is no dialect's. -/
structure UnknownDialect where
  name : Text
  deriving DecidableEq, Repr

def UnknownDialect.message (e : UnknownDialect) : String := "Unknown dialect: " ++ e.name.shown

namespace Dialect

def dropDots (t : Text) : Text := t.dropWhile (· == '.')

/-- The dialect of a name; blanks around it do not count. -/
def named (name : Text) : Except UnknownDialect Dialect :=
  match ofName? (dropDots name.trim.lower) with
  | some d => .ok d
  | none => .error ⟨name⟩

/-- The dialect that a file's extension tells. -/
def ofPath? (path : Text) : Option Dialect :=
  ofName? (dropDots (fileExtension path).lower)

end Dialect

end WebTidy
