import WebTidy.Proofs.CommandLine.Spelling
import WebTidy.Proofs.CommandLine.WrittenFile

/-!
# What a run changes

A run that fails changes no file, and unless it reviews a source it prints nothing. A run that does
not fail changes a file only if it was asked to tidy into one, and then only that file.
-/

namespace WebTidy

/-- The run ends with an exit code other than zero or with a fault. -/
def Outcome.Failed (o : Outcome) : Prop := o.exitCode ≠ 0 ∨ o.fault ≠ none

/-! ## Runs that are stopped -/

theorem Text.captured_nil : captured [] = [] := by
  rw [captured, withoutControlSequences]
  rfl

/-- A run that came to nothing. -/
structure Outcome.Void (files : FileTree) (o : Outcome) : Prop where
  failed : o.Failed
  files_eq : o.files = files
  printed_eq : o.printed = []

namespace Outcome

theorem void_failed (files : FileTree) (fault : Fault) (reported : String) :
    Void files (failed files fault reported) :=
  ⟨.inl Nat.one_ne_zero, rfl, rfl⟩

theorem void_ofUsageError (files : FileTree) (e : UsageError) :
    Void files (ofUsageError files e) := by
  unfold ofUsageError
  split
  · exact void_failed files _ _
  · exact ⟨.inl (Nat.succ_ne_zero 1), rfl, Text.captured_nil⟩

theorem void_ofStop (files : FileTree) (name : CommandName) (stop : Stop) :
    Void files (ofStop files name stop) := by
  cases stop with
  | usage e => exact void_ofUsageError files _
  | fault f reported => exact void_failed files f reported

theorem not_failed_done (files : FileTree) (printed : Text) (reported : String) :
    ¬ (done files 0 printed reported).Failed := by
  simp [Failed, done]

end Outcome

/-! ## Commands that finish -/

namespace Command

variable {env : Environment} {files : FileTree} {level : LogLevel} {outcome : Outcome}

/-- Tidying a text never fails, so that neither does a command that came so far. -/
theorem conclude_tidyReport (stats : Bool) (filter : ClassFilter) (text : Text) :
    conclude stats (tidyReport filter text) =
      (0, if stats then (SizeReport.compute filter text (tidy filter text)).summary else "") := rfl

theorem runOptimize_eq_ok {css : InputFile} {markup : Option InputFile}
    {dialect output : Option Text} {stats : Bool}
    (h : runOptimize env files level css markup dialect output stats = .ok outcome) :
    ∃ text filter after printed reported, css.read = .ok text ∧
      markupFilter env markup dialect = .ok filter ∧
      deliver files output (tidy filter text) = .ok (after, printed) ∧
      outcome = Outcome.done after 0 printed reported := by
  obtain ⟨text, htext, h⟩ := exists_of_bind_eq_ok h
  obtain ⟨filter, hfilter, h⟩ := exists_of_bind_eq_ok h
  dsimp only at h
  split at h
  · next after printed hdeliver =>
    rw [conclude_tidyReport] at h
    exact ⟨text, filter, after, printed, _, htext, hfilter, hdeliver, (Except.ok.inj h).symm⟩
  · cases h

theorem runValidate_eq_ok {source : InputFile} {dialect : Option Text}
    (h : runValidate env files level source dialect = .ok outcome) :
    outcome.files = files ∧ outcome.fault = none := by
  obtain ⟨d, -, h⟩ := exists_of_bind_eq_ok h
  obtain ⟨text, -, h⟩ := exists_of_bind_eq_ok h
  cases h
  exact ⟨rfl, rfl⟩

theorem runClasses_eq_ok {source : InputFile} {dialect : Option Text}
    (h : runClasses env files source dialect = .ok outcome) :
    outcome.files = files ∧ ¬ outcome.Failed := by
  obtain ⟨d, -, h⟩ := exists_of_bind_eq_ok h
  obtain ⟨text, -, h⟩ := exists_of_bind_eq_ok h
  cases h
  exact ⟨rfl, Outcome.not_failed_done files _ _⟩

theorem runServe_eq_ok {host : Option Text} {port : Option Int} {debug : Bool}
    (h : runServe env files host port debug = .ok outcome) :
    outcome.files = files ∧ ¬ outcome.Failed := by
  unfold runServe at h
  split at h
  · cases h
  · cases h
    exact ⟨rfl, by simp [Outcome.Failed, Outcome.done]⟩

/-- Only a review fails when it has run to its end. -/
theorem not_failed_of_run {c : Command} (h : c.run env files level = .ok outcome)
    (hc : c.name ≠ .validate) : ¬ outcome.Failed := by
  cases c with
  | validate source dialect => exact absurd rfl hc
  | optimize css markup dialect output stats =>
    obtain ⟨text, filter, after, printed, reported, -, -, -, rfl⟩ := runOptimize_eq_ok h
    exact Outcome.not_failed_done after _ _
  | classes source dialect => exact (runClasses_eq_ok h).2
  | dialects =>
    cases h
    exact Outcome.not_failed_done files _ _
  | serve host port debug => exact (runServe_eq_ok h).2

/-- The path of the file that a command is to write. -/
def outputPath? : Command → Option Text
  | optimize _ _ _ output _ => output
  | _ => none

theorem files_of_run {c : Command} (h : c.run env files level = .ok outcome)
    (hc : c.outputPath? = none) : outcome.files = files := by
  cases c with
  | validate source dialect => exact (runValidate_eq_ok h).1
  | optimize css markup dialect output stats =>
    obtain ⟨text, filter, after, printed, reported, -, -, hdeliver, rfl⟩ := runOptimize_eq_ok h
    rw [outputPath?] at hc
    rw [hc] at hdeliver
    cases hdeliver
    rfl
  | classes source dialect => exact (runClasses_eq_ok h).1
  | dialects =>
    cases h
    rfl
  | serve host port debug => exact (runServe_eq_ok h).1

end Command

/-! ## The output file -/

/-- The stylesheet `css`, tidied, stands at the path, and all other files are as before. -/
def WritesTidied (env : Environment) (before after : FileTree) (css : InputFile)
    (markup : Option InputFile) (dialect : Option Text) (path : Text) : Prop :=
  ∃ text filter name, css.read = .ok text ∧ Command.markupFilter env markup dialect = .ok filter ∧
    after.lookup (plainPath path) = .file name (tidy filter text).utf8 ∧
    after = before.withFile name (tidy filter text).utf8

theorem writesTidied_of_run {env : Environment} {files : FileTree} {level : LogLevel}
    {css : InputFile} {markup : Option InputFile} {dialect : Option Text} {path : Text}
    {stats : Bool} {outcome : Outcome}
    (h : Command.runOptimize env files level css markup dialect (some path) stats = .ok outcome) :
    WritesTidied env files outcome.files css markup dialect path := by
  obtain ⟨text, filter, after, printed, reported, htext, hfilter, hdeliver, rfl⟩ :=
    Command.runOptimize_eq_ok h
  cases hwrite : files.write path (tidy filter text).utf8 with
  | error e => simp [Command.deliver, hwrite, Except.map] at hdeliver
  | ok tree =>
    simp only [Command.deliver, hwrite, Except.map, Except.ok.injEq, Prod.mk.injEq] at hdeliver
    obtain ⟨rfl, -⟩ := hdeliver
    obtain ⟨name, -, hafter, hlookup⟩ := FileTree.lookup_write hwrite
    exact ⟨text, filter, name, htext, hfilter, hlookup, hafter⟩

/-! ## Runs -/

/-- The arguments ask to tidy a stylesheet into the file at a path. -/
def AsksToTidyInto (env : Environment) (files : FileTree) (arguments : List Text) (css : InputFile)
    (markup : Option InputFile) (dialect : Option Text) (path : Text) : Prop :=
  ∃ level stats, Invocation.read env files arguments =
    .ok (.command level (.optimize css markup dialect (some path) stats))

section Runs

variable {env : Environment} {files : FileTree} {arguments : List Text} {level : LogLevel}
  {c : Command}

theorem void_of_usageError {e : UsageError} (h : Invocation.read env files arguments = .error e) :
    (runProgram env files arguments).Void files := by
  unfold runProgram
  rw [h]
  exact Outcome.void_ofUsageError files e

theorem void_of_stop {stop : Stop}
    (h : Invocation.read env files arguments = .ok (.command level c))
    (hrun : c.run env files level = .error stop) : (runProgram env files arguments).Void files := by
  unfold runProgram
  rw [h]
  simp only [hrun]
  exact Outcome.void_ofStop files c.name stop

theorem runProgram_of_run {outcome : Outcome}
    (h : Invocation.read env files arguments = .ok (.command level c))
    (hrun : c.run env files level = .ok outcome) : runProgram env files arguments = outcome := by
  unfold runProgram
  rw [h]
  simp only [hrun]

/-- A version or a usage is shown. -/
theorem runProgram_of_shown {shown : Invocation}
    (h : Invocation.read env files arguments = .ok shown)
    (hshown : ∀ level c, shown ≠ .command level c) :
    (runProgram env files arguments).files = files ∧ ¬ (runProgram env files arguments).Failed := by
  unfold runProgram
  rw [h]
  cases shown with
  | version => exact ⟨rfl, Outcome.not_failed_done files _ _⟩
  | help scope => exact ⟨rfl, Outcome.not_failed_done files _ _⟩
  | command level c => exact absurd rfl (hshown level c)

theorem unchanged_of_failed (h : (runProgram env files arguments).Failed) :
    (runProgram env files arguments).files = files ∧
      (Invocation.namedCommand? arguments ≠ some .validate →
        (runProgram env files arguments).printed = []) := by
  have hvoid : (runProgram env files arguments).Void files →
      (runProgram env files arguments).files = files ∧
        (Invocation.namedCommand? arguments ≠ some .validate →
          (runProgram env files arguments).printed = []) :=
    fun hv => ⟨hv.files_eq, fun _ => hv.printed_eq⟩
  cases hread : Invocation.read env files arguments with
  | error e => exact hvoid (void_of_usageError hread)
  | ok invocation =>
    cases invocation with
    | version => exact absurd h (runProgram_of_shown hread (by simp)).2
    | help scope => exact absurd h (runProgram_of_shown hread (by simp)).2
    | command level c =>
      cases hrun : c.run env files level with
      | error stop => exact hvoid (void_of_stop hread hrun)
      | ok outcome =>
        have hnamed := (Invocation.read_eq_command hread).1
        rw [runProgram_of_run hread hrun] at h ⊢
        by_cases hc : c.name = .validate
        · -- a review that finds errors is a failure, but not one of the run
          cases c with
          | validate source dialect =>
            refine ⟨Command.files_of_run hrun rfl, fun hn => ?_⟩
            exact absurd hnamed hn
          | _ => cases hc
        · exact absurd h (Command.not_failed_of_run hrun hc)

theorem not_asksToTidyInto {invocation : Invocation}
    (h : Invocation.read env files arguments = .ok invocation)
    (hpath : ∀ level c, invocation = .command level c → c.outputPath? = none) (css : InputFile)
    (markup : Option InputFile) (dialect : Option Text) (path : Text) :
    ¬ AsksToTidyInto env files arguments css markup dialect path := by
  rintro ⟨level, stats, hread⟩
  have hnone := hpath level _ (Except.ok.inj (h.symm.trans hread))
  exact Option.some_ne_none path hnone

theorem changed_of_not_failed (h : ¬ (runProgram env files arguments).Failed) :
    ((∀ css markup dialect path, ¬ AsksToTidyInto env files arguments css markup dialect path) ∧
      (runProgram env files arguments).files = files) ∨
    ∃ css markup dialect path, AsksToTidyInto env files arguments css markup dialect path ∧
      SpellsTidyingInto arguments css.path path ∧
      css.FoundIn files ∧ (∀ file ∈ markup, file.FoundIn files) ∧
      WritesTidied env files (runProgram env files arguments).files css markup dialect path := by
  cases hread : Invocation.read env files arguments with
  | error e => exact absurd (void_of_usageError hread).failed h
  | ok invocation =>
    cases invocation with
    | version =>
      exact .inl ⟨not_asksToTidyInto hread (by simp), (runProgram_of_shown hread (by simp)).1⟩
    | help scope =>
      exact .inl ⟨not_asksToTidyInto hread (by simp), (runProgram_of_shown hread (by simp)).1⟩
    | command level c =>
      cases hrun : c.run env files level with
      | error stop => exact absurd (void_of_stop hread hrun).failed h
      | ok outcome =>
        rw [runProgram_of_run hread hrun]
        cases hpath : c.outputPath? with
        | none =>
          refine .inl ⟨not_asksToTidyInto hread ?_, Command.files_of_run hrun hpath⟩
          rintro _ _ ⟨⟩
          exact hpath
        | some path =>
          cases c with
          | optimize css markup dialect output stats =>
            obtain rfl : output = some path := hpath
            have hfound := (Invocation.read_eq_command hread).2
            refine .inr ⟨css, markup, dialect, path, ⟨level, stats, hread⟩,
              spellsTidyingInto_of_read hread, hfound css (by simp [Command.inputs]), ?_,
              writesTidied_of_run hrun⟩
            intro file hfile
            exact hfound file (by simp [Command.inputs, Option.mem_def.mp hfile])
          | _ => cases hpath

end Runs

/-- A run that fails leaves all files alone, and prints nothing unless it is a review. A run that
does not fail leaves them alone too, or it was asked to tidy into a file and changed only that. -/
theorem files_runProgram (env : Environment) (files : FileTree) (arguments : List Text) :
    ((runProgram env files arguments).Failed →
      (runProgram env files arguments).files = files ∧
        (Invocation.namedCommand? arguments ≠ some .validate →
          (runProgram env files arguments).printed = [])) ∧
    (¬ (runProgram env files arguments).Failed →
      ((∀ css markup dialect path, ¬ AsksToTidyInto env files arguments css markup dialect path) ∧
        (runProgram env files arguments).files = files) ∨
      ∃ css markup dialect path, AsksToTidyInto env files arguments css markup dialect path ∧
        SpellsTidyingInto arguments css.path path ∧
        css.FoundIn files ∧ (∀ file ∈ markup, file.FoundIn files) ∧
        WritesTidied env files (runProgram env files arguments).files css markup dialect path) :=
  ⟨unchanged_of_failed, changed_of_not_failed⟩

def ownFiles : FileTree where
  workingDirectory := []
  directories := []
  files := [(["a.css".toList], Text.utf8 "a\x7bb:c\x7d".toList),
    (["b.css".toList], Text.utf8 "d".toList)]

def ownArguments : List Text := ["optimize".toList, "a.css".toList, "-o".toList, "a.css".toList]

/-- A stylesheet may be tidied into its own file, which it is read from before that. -/
theorem files_runProgram_ownFile :
    let after := (runProgram [] ownFiles ownArguments).files
    ∃ name, after.lookup "a.css".toList = .file name (Text.utf8 "a\x7bb:c;\x7d".toList) ∧
      after = ownFiles.withFile name (Text.utf8 "a\x7bb:c;\x7d".toList) := by
  have hread : Invocation.read [] ownFiles ownArguments = .ok (.command .warning
      (.optimize ⟨"a.css".toList, Text.utf8 "a\x7bb:c\x7d".toList⟩ none none
        (some "a.css".toList) true)) := by
    decide +kernel
  have hsucceeds : ¬ (runProgram [] ownFiles ownArguments).Failed := by
    unfold Outcome.Failed
    decide +kernel
  have hcontent : InputFile.read ⟨"a.css".toList, Text.utf8 "a\x7bb:c\x7d".toList⟩ =
      .ok "a\x7bb:c\x7d".toList :=
    InputFile.read_utf8 _ _
  have htidy : tidy none "a\x7bb:c\x7d".toList = "a\x7bb:c;\x7d".toList := by decide +kernel
  have hpath : plainPath "a.css".toList = "a.css".toList := by decide
  rcases (files_runProgram [] ownFiles ownArguments).2 hsucceeds with ⟨hnone, -⟩ |
    ⟨css, markup, dialect, path, ⟨level, stats, hasks⟩, -, -, -, text, filter, name, htext, hfilter,
      hlookup, hafter⟩
  · exact absurd ⟨.warning, true, hread⟩ (hnone _ _ _ _)
  · cases hread.symm.trans hasks
    cases hcontent.symm.trans htext
    cases hfilter
    rw [htidy] at hlookup hafter
    rw [hpath] at hlookup
    exact ⟨name, hlookup, hafter⟩

end WebTidy
