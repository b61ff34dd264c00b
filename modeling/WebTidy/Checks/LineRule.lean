import WebTidy.Checks.Finding
import WebTidy.Dialect

/-!
# The rule catalogue

Line rules look at one line at a time and source rules at the whole text once. They match patterns
and know no grammar, so they may be wrong about a line that looks like another.
-/

namespace WebTidy

inductive LineRule where
  | hashComment
  | forbiddenHtmlComment
  | phpHtmlComment
  | scriptCommentInMarkup
  | classAttribute
  | forAttribute
  | classNameInMarkup
  | stringStyle
  | lowercaseEvents
  | unclosedTag
  | missingSemicolon
  deriving DecidableEq, Repr

namespace LineRule

def all : List LineRule :=
  [hashComment, forbiddenHtmlComment, phpHtmlComment, scriptCommentInMarkup, classAttribute,
    forAttribute, classNameInMarkup, stringStyle, lowercaseEvents, unclosedTag, missingSemicolon]

theorem mem_all (rule : LineRule) : rule ∈ all := by cases rule <;> decide

def name : LineRule → String
  | hashComment => "check_hash_comment"
  | forbiddenHtmlComment => "check_html_comment_forbidden"
  | phpHtmlComment => "check_php_html_comment"
  | scriptCommentInMarkup => "check_script_comment_in_markup"
  | classAttribute => "check_class_attribute"
  | forAttribute => "check_for_attribute"
  | classNameInMarkup => "check_classname_in_markup"
  | stringStyle => "check_string_style"
  | lowercaseEvents => "check_lowercase_events"
  | unclosedTag => "check_unclosed_tag"
  | missingSemicolon => "check_missing_semicolon"

def ofName? (name : String) : Option LineRule := all.find? (·.name == name)

theorem ofName?_name (rule : LineRule) : ofName? rule.name = some rule := by cases rule <;> decide

end LineRule

/-- A hash in front of a line, unless it starts an interpreter line. -/
def isHashComment (trimmed : Text) : Bool :=
  trimmed.startsWith ['#'] && !trimmed.startsWith "#!/".toList

/-- The comment written as the dialect's own line comment. -/
def hashCommentFix (d : Dialect) (trimmed : Text) : Text :=
  Text.trimRight <| (d.conventions.lineComment.getD "None").toList
    ++ ' ' :: Text.trim (trimmed.dropWhile (· == '#'))

/-- The quoted value, quotes included, of a class attribute that the text begins with. -/
def classLiteral? (t : Text) : Option Text :=
  (Text.after? "class=".toList t).bind fun t =>
    match t with
    | [] => none
    | opening :: t =>
      match t.dropWhile (!isQuote ·) with
      | [] => none
      | closing :: _ =>
        if isQuote opening then some (opening :: t.takeWhile (!isQuote ·) ++ [closing]) else none

def firstClassLiteral? : Text → Option Text
  | [] => none
  | c :: t => (classLiteral? (c :: t)).or (firstClassLiteral? t)

/-- Event attributes in lower case, and as components spell them. -/
def eventNames : List (Text × Text) := [
    ("onclick=".toList, "onClick=".toList), ("onchange=".toList, "onChange=".toList),
    ("onsubmit=".toList, "onSubmit=".toList)]

/-- Whether an event is in the line in some case, and nowhere in the case of components. -/
def misspellsEvent (event : Text × Text) (line : Text) : Bool :=
  Text.occursIn event.1 line.lower && !Text.occursIn event.2 line

/-- Whether a tag opens in the text and neither ends nor meets another one. -/
def danglingTag : Text → Bool
  | [] => false
  | c :: t =>
    (c == '<' && (t.head?.any Char.isAlpha) && t.all fun d => d != '<' && d != '>') || danglingTag t

def statementWords : List Text :=
  ["const", "let", "var", "return", "import", "export", "throw"].map String.toList

/-- A statement word, a blank, and at least two more characters on the line. -/
def startsStatement (trimmed : Text) : Bool :=
  statementWords.any fun word =>
    match Text.after? word trimmed with
    | some (b :: c :: d :: _) => isBlank b && c != '\n' && d != '\n'
    | _ => false

def isTerminator (c : Char) : Bool := [';', '{', '}', '[', ']'].contains c

def lacksSemicolon (trimmed : Text) : Bool :=
  !trimmed.startsWith ['/', '/'] && !trimmed.startsWith ['/', '*'] && startsStatement trimmed
    && !(trimmed.getLast?.any isTerminator) && !Text.occursIn ['=', '>'] trimmed

namespace LineRule

def category : LineRule → Category
  | hashComment | forbiddenHtmlComment | phpHtmlComment | scriptCommentInMarkup => .comment
  | classAttribute | forAttribute | classNameInMarkup | stringStyle | lowercaseEvents => .attributes
  | unclosedTag => .structural
  | missingSemicolon => .style

def severity : LineRule → Severity
  | phpHtmlComment | unclosedTag | missingSemicolon => .warning
  | _ => .error

/-- What a rule has to say about a line: messages, each with a suggestion if there is one. -/
def remarks (rule : LineRule) (d : Dialect) (line : Text) : List (String × Option Text) :=
  match rule with
  | hashComment =>
    if isHashComment line.trim then
      [("Wrong comment syntax: use '//' or '/* */' instead of '#'",
        some (hashCommentFix d line.trim))]
    else []
  | forbiddenHtmlComment =>
    if Text.occursIn "<!--".toList line then
      [("HTML comment syntax not allowed in " ++ d.displayName, none)]
    else []
  | phpHtmlComment =>
    if Text.occursIn "<!--".toList line && !Text.occursIn "?>".toList line then
      [("HTML comment in " ++ d.displayName ++ " file - make sure it's in HTML context", none)]
    else []
  | scriptCommentInMarkup =>
    if line.trim.startsWith ['/', '/']
        || (line.trim.startsWith ['/', '*'] && !Text.occursIn "<script".toList line.trim) then
      [("JavaScript comment syntax not allowed in " ++ d.displayName ++ " (use "
        ++ d.conventions.blockComment.1 ++ " " ++ d.conventions.blockComment.2 ++ ")", none)]
    else []
  | classAttribute =>
    if Text.occursIn "className=".toList line then []
    else
      (firstClassLiteral? line).toList.map fun value =>
        ("Use 'className' instead of 'class' in " ++ d.displayName,
          some ("className=".toList ++ value))
  | forAttribute =>
    if Text.occursIn "for=".toList line then
      [("Use 'htmlFor' instead of 'for' in " ++ d.displayName, none)]
    else []
  | classNameInMarkup =>
    if Text.occursIn "className=".toList line then
      [("Use 'class' instead of 'className' in " ++ d.displayName, some "class=".toList)]
    else []
  | stringStyle =>
    if Text.occursIn "style=\"".toList line then
      [("Style should be an object in " ++ d.displayName
        ++ ": style=\x7b\x7b...\x7d\x7d not style=\"...\"", none)]
    else []
  | lowercaseEvents =>
    (eventNames.filter (misspellsEvent · line)).map fun event =>
      ("Use camelCase: '" ++ String.ofList event.2 ++ "' instead of '" ++ String.ofList event.1
        ++ "'", some event.2)
  | unclosedTag =>
    if !line.contains '>' && danglingTag line then
      [("Possible unclosed tag or multi-line element", none)]
    else []
  | missingSemicolon =>
    if lacksSemicolon line.trim then
      [("Consider adding semicolon at end of statement", some (line.trim ++ [';']))]
    else []

/-- The findings of a rule on a line of the given number. -/
def check (rule : LineRule) (d : Dialect) (number : Int) (line : Text) : List Finding :=
  (rule.remarks d line).map fun remark =>
    ⟨number, remark.1, rule.category, rule.severity, remark.2, rule.name⟩

theorem check_shift (rule : LineRule) (d : Dialect) (number shift : Int) (line : Text) :
    rule.check d (number + shift) line
      = (rule.check d number line).map fun f => { f with line := f.line + shift } := by
  simp [check]

end LineRule

inductive SourceRule where
  | phpOpenTag
  deriving DecidableEq, Repr

namespace SourceRule

def name : SourceRule → String
  | phpOpenTag => "check_php_open_tag"

def ofName? (name : String) : Option SourceRule :=
  if name == phpOpenTag.name then some phpOpenTag else none

/-- The findings of a rule on a whole source, all of them on its first line. -/
def check (rule : SourceRule) (d : Dialect) (source : Text) : List Finding :=
  match rule with
  | phpOpenTag =>
    if !source.trim.isEmpty && !Text.occursIn "<?php".toList source then
      [⟨1, d.displayName ++ " file should start with <?php tag", .structural, .warning,
        some "<?php".toList, rule.name⟩]
    else []

end SourceRule

end WebTidy
