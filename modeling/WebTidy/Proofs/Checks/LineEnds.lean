import WebTidy.Proofs.Checks.ReviewReports
import WebTidy.Proofs.Checks.TrimmedLines
import WebTidy.Proofs.CommandLine.Effects
import WebTidy.Proofs.Text.LineEnds
import WebTidy.Proofs.Web.Status

/-!
# Line ends

A carriage return in front of a newline ends up as the last character of a line, where trimming
takes it. So a source is reviewed alike with either line end, also where one front end makes
newlines of the line ends and the other does not.
-/

namespace WebTidy

namespace Text

/-- Joined or not, the lines of a text are the same up to blanks. -/
theorem map_trim_lines_joinLineEnds (t : Text) :
    (joinLineEnds t).lines.map trim = t.lines.map trim := by
  induction t using separator_induction '\n' with
  | last t ht => rw [joinLineEnds_line ht]
  | cut s t hs ih =>
    obtain ⟨line, hline, hs'⟩ := exists_joinLineEnds_append hs t
    have hlines (u : Text) (hu : '\n' ∉ u) : lines u = [u] := List.splitOn_eq_singleton hu
    have hreturn : ∀ c ∈ ['\r'], isBlank c = true := by simp only [List.forall_mem_singleton]; rfl
    have htrim : (lines line).map trim = (lines s).map trim := by
      rcases hs' with rfl | rfl
      · rfl
      · rw [hlines line fun hm => hs (by simp [hm]), hlines _ hs, List.map_singleton,
          List.map_singleton, trim_append_blank hreturn]
    rw [hline, lines_append_newline, lines_append_newline, List.map_append, List.map_append, ih,
      htrim]

end Text

/-- A review does not depend on the line ends. -/
theorem review_joinLineEnds (d : Dialect) (extra : List LineRule) (source : Text) :
    review d extra source.joinLineEnds = review d extra source :=
  review_congr_trim (Text.map_trim_lines_joinLineEnds source) d extra

/-! ## The front ends -/

/-- A file is read with newlines for line ends. -/
theorem read_returnsJoined (path : Text) {source : Text} (h : source.ReturnsJoined) :
    InputFile.read ⟨path, source.utf8⟩ = .ok source.joinLineEnds := by
  rw [InputFile.read_utf8, Text.normalizeNewlines_eq_joinLineEnds h]

theorem reviewLog_joinLineEnds (d : Dialect) (source : Text) (r : Review) :
    reviewLog d source.joinLineEnds r = reviewLog d source r := by
  have hempty : source.joinLineEnds.isEmpty = source.isEmpty := by
    fun_cases Text.joinLineEnds source <;> rfl
  rw [reviewLog, hempty, reviewLog]

/-- The command prints the findings on the source, whatever its line ends are. -/
theorem runValidate_returnsJoined {env : Environment} {path : Text} {name : Option Text}
    {d : Dialect} (hd : chooseDialect env path name = .ok d) {source : Text}
    (h : source.ReturnsJoined) (files : FileTree) (level : LogLevel) :
    Command.runValidate env files level ⟨path, source.utf8⟩ name =
      .ok ⟨if (review d [] source).errors = [] then 0 else 1,
        Text.captured (unlines ((review d [] source).lines (baseName path) d)),
        renderLog level (reviewLog d source (review d [] source)), none, files, none⟩ := by
  unfold Command.runValidate
  rw [hd, read_returnsJoined path h]
  simp only [bind, Except.bind, review_joinLineEnds, reviewLog_joinLineEnds]
  simp [Outcome.done, Review.passed, pure, Except.pure]

theorem App.post_validate {app : App} {r : Request} (hsize : app.Admits r) {source : Text}
    (hsource : Table.get? "source" (app.members r) = some (Json.ofText source)) {d : Dialect}
    (hd : dialectFor app.settings (app.members r) = .ok d) :
    app.post .validate r = Response.ofJson 200 (review d [] source).toJson := by
  have htext : requiredText "source" (app.members r) = .ok source := by
    simp [requiredText, hsource, Json.ofText, Json.asText?]
  have hanswer : Endpoint.validate.answer app.settings (app.members r) =
      .ok (.json (review d [] source).toJson) := by
    rw [Endpoint.answer, htext, hd]
    rfl
  exact post_of_json hsize (not_overnested_of_members hsource) hanswer

/-- A source is reviewed alike with its carriage returns and without them. So the command, which
makes newlines of the line ends, prints about a file the findings that the application answers about
the same text, from which it takes nothing. -/
theorem review_ignores_lineEnds (source : Text) :
    (∀ d extra, review d extra source = review d extra source.joinLineEnds) ∧
    (source.ReturnsJoined →
      ∀ (env : Environment) (files : FileTree) (arguments : List Text) (level : LogLevel)
        (path : Text) (name : Option Text) (app : App) (r : Request) (d : Dialect),
      Invocation.read env files arguments =
        .ok (.command level (.validate ⟨path, source.utf8⟩ name)) →
      chooseDialect env path name = .ok d →
      r.PostsTo .validate → app.Admits r →
      Table.get? "source" (app.members r) = some (Json.ofText source) →
      dialectFor app.settings (app.members r) = .ok d →
      (∃ text, (review d [] source).PrintedAs (baseName path) d text ∧
        runProgram env files arguments =
          ⟨if (review d [] source).errors = [] then 0 else 1, Text.captured text,
            renderLog level (reviewLog d source (review d [] source)), none, files, none⟩ ∧
        ('\r' ∉ text → ¬ Text.HoldsControlSequence text →
          (runProgram env files arguments).printed = text)) ∧
      (app.handle r).status = 200 ∧
      ∃ v, (review d [] source).AnsweredAs v ∧ (app.handle r).body = .json v) := by
  refine ⟨fun d extra => (review_joinLineEnds d extra source).symm, ?_⟩
  intro hreturns env files arguments level path name app r d hread hd hpost hsize hsource hmember
  have hrun := runProgram_of_run hread (runValidate_returnsJoined hd hreturns files level)
  refine ⟨⟨_, Review.printedAs_iff.mpr rfl, hrun, fun hnewlines hplain => ?_⟩, ?_⟩
  · rw [hrun]
    exact Text.captured_eq_self hnewlines hplain
  · rw [App.handle_of_postsTo hpost, App.post_validate hsize hsource hmember]
    exact ⟨rfl, _, Review.answeredAs_iff.mpr rfl, rfl⟩

/-- A script with both line ends, of which the first line lacks a semicolon and the second one has a
comment of another language. -/
def mixedScript : Text := "let x = 1\r\n# two\r\n\n".toList

def mixedFiles : FileTree where
  workingDirectory := []
  directories := []
  files := [(["a.js".toList], mixedScript.utf8)]

def mixedRequest : Request where
  method := "POST".toList
  target := "/api/validate".toList
  contentType := some "application/json".toList
  body := Text.utf8 ("\x7b\"source\":\"let x = 1\\r\\n# two\\r\\n\\n\",".toList ++
    "\"dialect\":\"js\"\x7d".toList)

theorem review_mixedScript : review .js [] mixedScript =
    ⟨[⟨2, "Wrong comment syntax: use '//' or '/* */' instead of '#'", .comment, .error,
      some ['/', '/', ' ', 't', 'w', 'o'], "check_hash_comment"⟩],
    [⟨1, "Consider adding semicolon at end of statement", .style, .warning,
      some ['l', 'e', 't', ' ', 'x', ' ', '=', ' ', '1', ';'], "check_missing_semicolon"⟩]⟩ := by
  decide +kernel

/-- The lines that the command prints about the script. -/
def mixedReport : List String := [
    "ERROR line 2 [comment]: Wrong comment syntax: use '//' or '/* */' instead of '#'"
      ++ " (suggestion: // two)",
    "WARNING line 1 [style]: Consider adding semicolon at end of statement"
      ++ " (suggestion: let x = 1;)",
    "", "Summary: 1 error(s), 1 warning(s)"]

theorem render_mixedScript : (review .js [] mixedScript).all.map Finding.render =
    mixedReport.take 2 := by
  have hone : toString (1 : Int) = "1" := by decide
  have htwo : toString (2 : Int) = "2" := by decide
  rw [review_mixedScript]
  simp [mixedReport, Review.all, Finding.render, Severity.title, Category.name, hone, htwo]

theorem eq_mixedReport {text : Text}
    (h : (review .js [] mixedScript).PrintedAs "a.js".toList .js text) :
    text = mixedReport.flatMap fun line => line.toList ++ ['\n'] := by
  have hsummary : ("\nSummary: " ++ toString 1 ++ " error(s), " ++ toString 1
      ++ " warning(s)\n").toList =
      (mixedReport.drop 2).flatMap fun line => line.toList ++ "\n".toList := by
    decide +kernel
  have hrender := render_mixedScript
  rw [review_mixedScript] at h
  rw [review_mixedScript, Review.all] at hrender
  cases h with
  | valid herrors => cases herrors
  | findings hne hlines =>
    rw [← (forall₂_iff_map_eq Finding.printedAs_iff).mp hlines, ← Function.comp_def,
      ← List.map_map, hrender, List.flatMap_map, List.length_singleton, List.length_singleton,
      hsummary, ← List.flatMap_append, List.take_append_drop]
    rfl

theorem notMem_flatMap_line {c : Char} (hc : c ≠ '\n') {lines : List String}
    (h : ∀ line ∈ lines, c ∉ line.toList) :
    c ∉ lines.flatMap fun line => line.toList ++ ['\n'] := by
  intro hm
  obtain ⟨line, hline, hc'⟩ := List.mem_flatMap.mp hm
  rcases List.mem_append.mp hc' with hc' | hc'
  · exact h line hline hc'
  · exact hc (List.mem_singleton.mp hc')

theorem captured_mixedReport :
    Text.captured (mixedReport.flatMap fun line => line.toList ++ ['\n']) =
      mixedReport.flatMap fun line => line.toList ++ ['\n'] := by
  have hreturn : ∀ line ∈ mixedReport, '\r' ∉ line.toList := by simp [mixedReport]
  have hescape : ∀ line ∈ mixedReport, '\x1b' ∉ line.toList := by simp [mixedReport]
  exact Text.captured_eq_self (notMem_flatMap_line (by decide) hreturn)
    (Text.not_holdsControlSequence_of_notMem (notMem_flatMap_line (by decide) hescape))

theorem review_ignores_lineEnds_mixed :
    review .js [] mixedScript = review .js [] "let x = 1\n# two\n\n".toList ∧
    (runProgram [] mixedFiles ["validate".toList, "a.js".toList]).exitCode = 1 ∧
    (runProgram [] mixedFiles ["validate".toList, "a.js".toList]).printed =
      (mixedReport.flatMap fun line => line.toList ++ ['\n']) ∧
    ((App.ofSettings Settings.default).handle mixedRequest).body =
      .json (.obj [
        ("errors", .arr [.obj [("line", .int 2),
          ("message", .str "Wrong comment syntax: use '//' or '/* */' instead of '#'"),
          ("category", .str "comment"), ("severity", .str "error"),
          ("suggestion", .str "// two"), ("rule", .str "check_hash_comment")]]),
        ("warnings", .arr [.obj [("line", .int 1),
          ("message", .str "Consider adding semicolon at end of statement"),
          ("category", .str "style"), ("severity", .str "warning"),
          ("suggestion", .str "let x = 1;"), ("rule", .str "check_missing_semicolon")]])]) := by
  have hreturns : mixedScript.ReturnsJoined := by
    intro u hu
    have htails : ∀ t ∈ mixedScript.tails, t.head? = some '\r' → t.tail.head? = some '\n' := by
      decide +kernel
    exact htails _ ((List.mem_tails _ _).mpr hu) rfl
  have hread : Invocation.read [] mixedFiles ["validate".toList, "a.js".toList] =
      .ok (.command .warning (.validate ⟨"a.js".toList, mixedScript.utf8⟩ none)) := by
    decide +kernel
  have hd : chooseDialect [] "a.js".toList none = .ok .js := by rfl
  have hpost : mixedRequest.PostsTo .validate :=
    ⟨by decide +kernel, by decide +kernel, by decide⟩
  have hmembers : (App.ofSettings Settings.default).members mixedRequest =
      [("source", .str "let x = 1\r\n# two\r\n\n"), ("dialect", .str "js")] :=
    App.members_of_ofBytes rfl (by with_unfolding_all rfl)
  have hsize : (App.ofSettings Settings.default).Admits mixedRequest :=
    App.admits_of_length_le (by decide +kernel)
  obtain ⟨hreview, hagree⟩ := review_ignores_lineEnds mixedScript
  obtain ⟨⟨text, hprinted, hrun, -⟩, -, v, hanswered, hbody⟩ :=
    hagree hreturns [] mixedFiles _ _ _ _ _ _ _ hread hd hpost hsize
      (by rw [hmembers]; rfl) (by rw [hmembers]; decide +kernel)
  have hbase : baseName "a.js".toList = "a.js".toList := by decide +kernel
  rw [hbase] at hprinted
  rw [review_mixedScript] at hanswered
  rw [hrun, eq_mixedReport hprinted, captured_mixedReport]
  refine ⟨hreview .js [], by rw [review_mixedScript]; rfl, rfl, ?_⟩
  rw [hbody, ← Review.answeredAs_iff.mp hanswered]
  rfl

end WebTidy
