import WebTidy.Proofs.CommandLine.TidyRun
import WebTidy.Proofs.Stylesheet.Growth
import WebTidy.Proofs.Text.LineEnds
import WebTidy.Proofs.Web.Status

/-!
# The front ends

A task given on the command line and the same task posted to the web application lead to the same
tidied text with the same sizes. Only output that is captured lacks its control sequences.
-/

namespace WebTidy

theorem Dialect.ne_nil_of_named {name : Text} {d : Dialect} (h : named name = .ok d) :
    name ≠ [] := by
  rintro rfl
  have herror : named [] = .error ⟨[]⟩ := by decide
  rw [herror] at h
  cases h

/-- A stylesheet to be tidied by the classes of markup in a named dialect, with newlines for line
ends. -/
structure TidyTask where
  css : Text
  markup : Text
  dialectName : Text
  dialect : Dialect
  named : Dialect.named dialectName = .ok dialect
  css_newlines : '\r' ∉ css
  markup_newlines : '\r' ∉ markup

namespace TidyTask

/-- Blank markup gives no filter. -/
def filter (task : TidyTask) : ClassFilter :=
  if Text.trim task.markup = [] then none
  else some (usedClasses task.dialect.classAttributes task.markup)

def output (task : TidyTask) : Text := tidy task.filter task.css

def size (task : TidyTask) : SizeReport := SizeReport.compute task.filter task.css task.output

variable (task : TidyTask)

/-- No carriage return comes into the output, since none was in the stylesheet. -/
theorem newlines_output : '\r' ∉ task.output := by
  have hcount := count_tidy_le (c := '\r') (by decide) task.filter task.css
  rw [if_neg (by decide), List.count_eq_zero.mpr task.css_newlines] at hcount
  exact List.count_eq_zero.mp (Nat.le_zero.mp hcount)

/-! ## The command line -/

/-- The stylesheet and the markup of the task are in files. -/
structure OnDisk (files : FileTree) (css markup : Text) : Prop where
  operand : ArgumentSpec.isOption css = false
  css_opens : InputFile.OpensIn files ⟨css, task.css.utf8⟩
  markup_opens : InputFile.OpensIn files ⟨markup, task.markup.utf8⟩

theorem read_utf8 (path : Text) {text : Text} (h : '\r' ∉ text) :
    InputFile.read ⟨path, text.utf8⟩ = .ok text := by
  rw [InputFile.read_utf8, Text.normalizeNewlines_of_notMem h]

theorem markupFilter_eq (env : Environment) (path : Text) :
    Command.markupFilter env (some ⟨path, task.markup.utf8⟩) (some task.dialectName) =
      .ok task.filter := by
  rw [Command.markupFilter, read_utf8 path task.markup_newlines, filter]
  simp only [bind, Except.bind, List.isEmpty_iff]
  split
  · rfl
  · rw [chooseDialect, task.named]
    rfl

section CommandLine

variable {task} {env : Environment} {files : FileTree} {css markup : Text}
  (henv : NoSettings env) (hdisk : task.OnDisk files css markup)

include henv hdisk

/-- A file that a task is tidied into holds the tidied text afterwards. -/
theorem written_output {path : Text} (hpath : AcceptsOutput files path) :
    ∃ after name,
      runProgram env files (tidyArguments css markup task.dialectName (some path)) =
        Outcome.done after 0 [] task.size.summary ∧
      after.lookup (plainPath path) = .file name task.output.utf8 :=
  runProgram_tidyArguments_some henv hdisk.operand hdisk.css_opens hdisk.markup_opens
    (read_utf8 css task.css_newlines) (task.markupFilter_eq env markup) hpath

/-- Captured output is the tidied text as a line, without its control sequences. -/
theorem printed_output :
    runProgram env files (tidyArguments css markup task.dialectName none) =
      ⟨0, Text.withoutControlSequences task.output ++ ['\n'], task.size.summary, none, files,
        none⟩ := by
  have hrun : runProgram env files (tidyArguments css markup task.dialectName none) =
      Outcome.done files 0 (task.output ++ ['\n']) task.size.summary :=
    runProgram_tidyArguments_none henv hdisk.operand hdisk.css_opens hdisk.markup_opens
      (read_utf8 css task.css_newlines) (task.markupFilter_eq env markup)
  rw [hrun, Outcome.done, Text.captured_line task.newlines_output]

end CommandLine

/-! ## The web application -/

/-- The stylesheet, the markup and the name of the dialect are strings in the body of a request. -/
structure SentIn (app : App) (r : Request) : Prop where
  css : Table.get? "css" (app.members r) = some (Json.ofText task.css)
  markup : Table.get? "markup" (app.members r) = some (Json.ofText task.markup)
  dialect : Table.get? "dialect" (app.members r) = some (Json.ofText task.dialectName)

section Web

variable {task} {app : App} {r : Request} (hsent : task.SentIn app r)

include hsent

theorem dialectFor_eq (settings : Settings) :
    dialectFor settings (app.members r) = .ok task.dialect := by
  -- a name that is known is not empty, so it does not count as missing
  have hfalsy : (Json.ofText task.dialectName).isFalsy = false := by
    simpa [Json.ofText, Json.isFalsy] using Dialect.ne_nil_of_named task.named
  have hname : WebTidy.dialectName settings (app.members r) = task.dialectName := by
    rw [WebTidy.dialectName, hsent.dialect]
    simp only [hfalsy, Bool.false_eq_true, if_false]
    rw [Json.ofText, Json.display, String.toList_ofList]
  unfold dialectFor
  rw [hname, task.named]

theorem requestFilter_eq (settings : Settings) :
    requestFilter settings (app.members r) = .ok task.filter := by
  have hmarkup : (Table.get? "markup" (app.members r)).bind Json.asText? = some task.markup := by
    simp [hsent.markup, Json.ofText, Json.asText?]
  unfold requestFilter
  rw [hmarkup, filter]
  simp only [List.isEmpty_iff]
  split
  · rfl
  · rw [dialectFor_eq hsent]
    rfl

theorem tidyRequest_eq (settings : Settings) :
    tidyRequest settings (app.members r) = .ok (.tidied task.output task.size) := by
  unfold tidyRequest
  rw [hsent.css]
  simp [requestFilter_eq hsent, Except.map, Json.ofText, tidyValue, tidyReport, output, size]

/-- The answer to a posted task holds the tidied text and the sizes. -/
theorem answered_output (hpost : r.PostsTo .optimize) (hsize : app.Admits r) :
    (app.handle r).status = 200 ∧ ∃ v, (app.handle r).body = .json v ∧
      v.member? "output" = some (Json.ofText task.output) ∧
      v.member? "stats" = some task.size.toJson := by
  rw [App.handle_of_postsTo hpost, App.post_optimize hsize (tidyRequest_eq hsent _)]
  exact ⟨rfl, _, rfl, TidyOutcome.output_toJson _, TidyOutcome.stats_toJson _⟩

/-- The download of a posted task is the tidied text. -/
theorem downloaded_output (hpost : r.PostsTo .download) (hsize : app.Admits r)
    (hname : holdsLineEnd app.settings.downloadName.toList = false) :
    (app.handle r).status = 200 ∧ (app.handle r).body = .text task.output := by
  rw [App.handle_of_postsTo hpost]
  exact App.post_download hsize hname (tidyRequest_eq hsent _)

end Web

/-! ## All of them -/

/-- The output file, the answer and the download of a task hold the same tidied text, and the sizes
that are reported on the command line are those of the answer. What is printed is the tidied text as
a line too, but for control sequences: it is the same exactly if there are none. -/
theorem frontEnds_agree {env : Environment} {files : FileTree} {css markup path : Text} {app : App}
    {r download : Request} (henv : NoSettings env) (hdisk : task.OnDisk files css markup)
    (hpath : AcceptsOutput files path)
    (hname : holdsLineEnd app.settings.downloadName.toList = false)
    (hsent : task.SentIn app r) (hpost : r.PostsTo .optimize) (hsize : app.Admits r)
    (hdsent : task.SentIn app download) (hdpost : download.PostsTo .download)
    (hdsize : app.Admits download) :
    let written := runProgram env files (tidyArguments css markup task.dialectName (some path))
    let printed := runProgram env files (tidyArguments css markup task.dialectName none)
    (¬ written.Failed ∧
      ∃ name, written.files.lookup (plainPath path) = .file name task.output.utf8) ∧
    (¬ printed.Failed ∧
      printed.printed = Text.withoutControlSequences task.output ++ ['\n'] ∧
      (printed.printed = task.output ++ ['\n'] ↔ ¬ Text.HoldsControlSequence task.output)) ∧
    (∃ v, (app.handle r).body = .json v ∧ v.member? "output" = some (Json.ofText task.output) ∧
      v.member? "stats" = some task.size.toJson) ∧
    (app.handle download).body = .text task.output ∧
    written.reported = task.size.summary ∧ printed.reported = task.size.summary := by
  obtain ⟨after, name, hwritten, hlookup⟩ := written_output henv hdisk hpath
  obtain ⟨-, hanswer⟩ := answered_output hsent hpost hsize
  obtain ⟨-, hdownload⟩ := downloaded_output hdsent hdpost hdsize hname
  dsimp only
  rw [hwritten, printed_output henv hdisk]
  refine ⟨⟨Outcome.not_failed_done after _ _, name, hlookup⟩, ⟨by simp [Outcome.Failed], rfl, ?_⟩,
    hanswer, hdownload, rfl, rfl⟩
  rw [List.append_left_inj, Text.withoutControlSequences_eq_self_iff]

/-! ## A coloured value -/

/-- A stylesheet whose only value is a control sequence. -/
def colouredTask : TidyTask where
  css := "a\x7bb:\x1b[0m\x7d".toList
  markup := "<p className=\"x\">".toList
  dialectName := "jsx".toList
  dialect := .jsx
  named := by decide
  css_newlines := by decide
  markup_newlines := by decide

def colouredFiles : FileTree where
  workingDirectory := []
  directories := []
  files := [(["s.css".toList], colouredTask.css.utf8), (["m.jsx".toList], colouredTask.markup.utf8)]

def colouredRun (output : Option Text) : Outcome :=
  runProgram [] colouredFiles (tidyArguments "s.css".toList "m.jsx".toList "jsx".toList output)

def colouredBody : Bytes :=
  Text.utf8 ("\x7b\"css\":\"a\x7bb:\\u001b[0m\x7d\",".toList ++
    "\"markup\":\"<p className=\\\"x\\\">\",\"dialect\":\"jsx\"\x7d".toList)

def colouredRequest (target : Text) : Request where
  method := "POST".toList
  target := target
  contentType := some "application/json".toList
  body := colouredBody

theorem onDisk_colouredTask : colouredTask.OnDisk colouredFiles "s.css".toList "m.jsx".toList where
  operand := by decide
  css_opens := ⟨by decide, ["s.css".toList], by decide +kernel⟩
  markup_opens := ⟨by decide, ["m.jsx".toList], by decide +kernel⟩

theorem members_colouredRequest (target : Text) :
    (App.ofSettings Settings.default).members (colouredRequest target) =
      [("css", .str "a\x7bb:\x1b[0m\x7d"), ("markup", .str "<p className=\"x\">"),
        ("dialect", .str "jsx")] :=
  App.members_of_ofBytes rfl (by with_unfolding_all rfl)

theorem output_colouredTask : colouredTask.output = "a\x7bb:\x1b[0m;\x7d".toList := by
  decide +kernel

theorem shown_colouredTask :
    Text.withoutControlSequences colouredTask.output = "a\x7bb:;\x7d".toList := by
  rw [output_colouredTask]
  decide +kernel

theorem size_colouredTask : colouredTask.size = ⟨9, 10, Percent.reduction 9 10, some 1⟩ := by
  have hcss : colouredTask.css.utf8ByteSize = 9 := by decide
  have hclasses : colouredTask.filter.map ClassSet.size = some 1 := by decide +kernel
  rw [size, SizeReport.compute, output_colouredTask, hcss, hclasses]
  rfl

theorem sentIn_colouredRequest (target : Text) :
    colouredTask.SentIn (App.ofSettings Settings.default) (colouredRequest target) where
  css := by rw [members_colouredRequest]; rfl
  markup := by rw [members_colouredRequest]; rfl
  dialect := by rw [members_colouredRequest]; rfl

theorem summary_of_sizes (percent : Percent) : SizeReport.summary ⟨9, 10, percent, some 1⟩ =
    "Original: 9 bytes, optimized: 10 bytes (" ++ percent.render ++
      "% reduction)\nUsed classes: 1\n" := by
  have hlead : "Original: " ++ toString 9 ++ " bytes, optimized: " ++ toString 10 ++ " bytes (" =
      "Original: 9 bytes, optimized: 10 bytes (" := by decide +kernel
  have htail : "% reduction)\n" ++ ("Used classes: " ++ toString 1 ++ "\n") =
      "% reduction)\nUsed classes: 1\n" := by decide +kernel
  change "Original: " ++ toString 9 ++ " bytes, optimized: " ++ toString 10 ++ " bytes (" ++
    percent.render ++ "% reduction)\n" ++ ("Used classes: " ++ toString 1 ++ "\n") = _
  rw [hlead, String.append_assoc, htail]

/-- The file, the answer and the download hold the control sequence that captured output lacks. All
runs tell the same numbers; the percentage is one of doubles. -/
theorem frontEnds_agree_coloured :
    let handle (target : String) :=
      (App.ofSettings Settings.default).handle (colouredRequest target.toList)
    let percent := Percent.reduction 9 10
    let summary := "Original: 9 bytes, optimized: 10 bytes (" ++ percent.render ++
      "% reduction)\nUsed classes: 1\n"
    ((∃ name, (colouredRun (some "o.css".toList)).files.lookup "o.css".toList =
      .file name (Text.utf8 "a\x7bb:\x1b[0m;\x7d".toList)) ∧
      (colouredRun (some "o.css".toList)).reported = summary) ∧
    ((colouredRun none).printed = "a\x7bb:;\x7d\n".toList ∧ (colouredRun none).reported = summary) ∧
    (∃ v, (handle "/api/optimize").body = .json v ∧
      v.member? "output" = some (.str "a\x7bb:\x1b[0m;\x7d") ∧
      v.member? "stats" = some (.obj [("original_size", .int 9), ("optimized_size", .int 10),
        ("reduction", .real percent.toFloat), ("used_class_count", .int 1)])) ∧
    (handle "/api/optimize/download").body = .text "a\x7bb:\x1b[0m;\x7d".toList := by
  have hpath : AcceptsOutput colouredFiles "o.css".toList :=
    ⟨by decide, ["o.css".toList], by decide +kernel⟩
  have hname : holdsLineEnd Settings.default.downloadName.toList = false := by decide +kernel
  have hpost : (colouredRequest "/api/optimize".toList).PostsTo .optimize :=
    ⟨by decide +kernel, by decide +kernel, by decide⟩
  have hdpost : (colouredRequest "/api/optimize/download".toList).PostsTo .download :=
    ⟨by decide +kernel, by decide +kernel, by decide⟩
  have hbytes : (colouredBody.length : Int) ≤ Settings.default.maxInputBytes := by decide +kernel
  have hsize (target : Text) := App.admits_of_length_le (r := colouredRequest target) hbytes
  obtain ⟨⟨-, name, hwritten⟩, ⟨-, hprinted, -⟩, ⟨v, hbody, houtput, hstats⟩, hdownload,
      hreported, hshown⟩ :=
    frontEnds_agree colouredTask noSettings_nil onDisk_colouredTask hpath hname
      (sentIn_colouredRequest _) hpost (hsize _) (sentIn_colouredRequest _) hdpost (hsize _)
  have hplain : plainPath "o.css".toList = "o.css".toList := by decide
  rw [hplain, output_colouredTask] at hwritten
  rw [shown_colouredTask] at hprinted
  rw [output_colouredTask] at houtput hdownload
  rw [size_colouredTask] at hstats hreported hshown
  rw [summary_of_sizes] at hreported hshown
  exact ⟨⟨⟨name, hwritten⟩, hreported⟩, ⟨hprinted, hshown⟩, ⟨v, hbody, houtput, hstats⟩, hdownload⟩

/-- Not every tidied text is printed as it would be written. -/
theorem not_printed_as_written :
    ¬ ∀ (task : TidyTask) (env : Environment) (files : FileTree) (css markup : Text),
      NoSettings env → task.OnDisk files css markup →
        (runProgram env files (tidyArguments css markup task.dialectName none)).printed =
          task.output ++ ['\n'] := by
  intro h
  have hprinted := h colouredTask [] colouredFiles _ _ noSettings_nil onDisk_colouredTask
  rw [printed_output noSettings_nil onDisk_colouredTask, shown_colouredTask,
    output_colouredTask] at hprinted
  exact absurd hprinted (by decide)

end TidyTask

end WebTidy
