import WebTidy.Proofs.CommandLine.Effects

/-!
# Tidying from the command line

Arguments that name a stylesheet, markup and a dialect are read as the command to tidy the one by
the classes of the other. Without settings in the environment the log is silent, so that all that is
reported are the sizes.
-/

namespace WebTidy

/-! ## No settings -/

def settingPrefix : Text := "STYLESWEEP_".toList

/-- The environment sets no variable of the program. -/
def NoSettings (env : Environment) : Prop :=
  ∀ name ∈ Table.keys env, ¬ settingPrefix <+: name.toList

theorem noSettings_nil : NoSettings [] := fun _ h => absurd h List.not_mem_nil

section NoSettings

variable {env : Environment} (henv : NoSettings env)

include henv

theorem get?_setting {name : String} (h : settingPrefix <+: name.toList) :
    Table.get? name env = none := by
  rw [Table.get?_eq_none_iff]
  exact fun hn => henv name hn h

theorem textSetting_of_noSettings {name : String} (h : settingPrefix <+: name.toList)
    (value : String) : Settings.textSetting env name value = value := by
  unfold Settings.textSetting
  rw [get?_setting henv h, Option.getD_none]

theorem integerSetting_of_noSettings {name : String} (h : settingPrefix <+: name.toList)
    (value : Int) : Settings.integerSetting env name value = .ok value := by
  unfold Settings.integerSetting
  rw [get?_setting henv h]

theorem ofEnvironment_of_noSettings : Settings.ofEnvironment env = .ok Settings.default := by
  unfold Settings.ofEnvironment
  rw [integerSetting_of_noSettings henv (by decide),
    integerSetting_of_noSettings henv (by decide), textSetting_of_noSettings henv (by decide),
    textSetting_of_noSettings henv (by decide), textSetting_of_noSettings henv (by decide),
    textSetting_of_noSettings henv (by decide)]
  rfl

theorem levelInForce_of_noSettings : levelInForce env none = .ok .warning := by
  unfold levelInForce
  rw [Option.bind_none, readSettings, ofEnvironment_of_noSettings henv]
  decide +kernel

end NoSettings

/-! ## Reading the arguments -/

namespace ArgumentSpec

variable {spec : ArgumentSpec} {argument : Text}

theorem ne_hyphens_of_not_isOption (h : isOption argument = false) : argument ≠ ['-', '-'] := by
  rintro rfl
  exact absurd h (by decide)

/-- Where options may stand behind operands, an operand is read by itself. -/
theorem occurrences_operand (hm : spec.mixed = true) (h : isOption argument = false)
    (rest : List Text) : spec.occurrences (argument :: rest) =
      (spec.occurrences rest).map (.operand argument :: ·) := by
  rw [occurrences, if_neg (ne_hyphens_of_not_isOption h), if_neg (by simp [h]), if_pos hm]
  cases spec.occurrences rest <;> rfl

/-- Where they may not, the first operand makes operands of all that follows. -/
theorem occurrences_operands (hm : spec.mixed = false) (h : isOption argument = false)
    (rest : List Text) : spec.occurrences (argument :: rest) =
      .ok ((argument :: rest).map .operand) := by
  rw [occurrences, if_neg (ne_hyphens_of_not_isOption h), if_neg (by simp [h]),
    if_neg (by simp [hm])]

theorem occurrences_valued {writtenAs : Text} {option : OptionSpec}
    (hopt : isOption argument = true) (hne : argument ≠ ['-', '-'])
    (huse : spec.optionUse argument = .ok (.valued option writtenAs none)) (value : Text)
    (rest : List Text) : spec.occurrences (argument :: value :: rest) =
      (spec.occurrences rest).map (.value option.name value :: ·) := by
  rw [occurrences, if_neg hne, if_pos hopt, huse]
  cases h : spec.occurrences rest <;> simp [h, bind, Except.bind, Except.map, pure, Except.pure]

end ArgumentSpec

theorem ofOccurrences_operands (operands : List Text) :
    Arguments.ofOccurrences (operands.map .operand) = ⟨[], [], operands⟩ := by
  unfold Arguments.ofOccurrences
  simp only [List.filterMap_map]
  simp [Table.ofEntries, Table.setAll]

def outputArguments : Option Text → List Text
  | none => []
  | some path => ["-o".toList, path]

/-- The arguments that tidy a stylesheet by the classes of markup in a named dialect, behind the
command. -/
def tidyOptions (css markup dialect : Text) (output : Option Text) : List Text :=
  css :: "--markup".toList :: markup :: "--dialect".toList :: dialect :: outputArguments output

def tidyArguments (css markup dialect : Text) (output : Option Text) : List Text :=
  "optimize".toList :: tidyOptions css markup dialect output

/-- The same arguments as the command understands them. -/
def tidyReading (css markup dialect : Text) (output : Option Text) : Arguments where
  values := (CommandName.markupOption.name, markup) :: (CommandName.dialectOption.name, dialect) ::
    (output.map fun path => (CommandName.outputOption.name, path)).toList
  switches := []
  operands := [css]

section Reading

variable {css markup dialect : Text} {output : Option Text}

theorem read_tidyOptions (h : ArgumentSpec.isOption css = false) :
    Arguments.read CommandName.optimize.spec (tidyOptions css markup dialect output) =
      .ok (tidyReading css markup dialect output) := by
  have hmarkup : CommandName.optimize.spec.optionUse "--markup".toList =
      .ok (.valued CommandName.markupOption "--markup".toList none) := by decide
  have hdialect : CommandName.optimize.spec.optionUse "--dialect".toList =
      .ok (.valued CommandName.dialectOption "--dialect".toList none) := by decide
  have houtput : CommandName.optimize.spec.optionUse "-o".toList =
      .ok (.valued CommandName.outputOption "-o".toList none) := by decide
  unfold tidyOptions
  rw [Arguments.read, ArgumentSpec.occurrences_operand rfl h,
    ArgumentSpec.occurrences_valued (by decide) (by decide) hmarkup,
    ArgumentSpec.occurrences_valued (by decide) (by decide) hdialect]
  cases output with
  | none => rfl
  | some path =>
    rw [outputArguments, ArgumentSpec.occurrences_valued (by decide) (by decide) houtput]
    rfl

theorem value?_markup_tidyReading :
    (tidyReading css markup dialect output).value? CommandName.markupOption.name = some markup :=
  rfl

theorem value?_dialect_tidyReading :
    (tidyReading css markup dialect output).value? CommandName.dialectOption.name = some dialect :=
  rfl

theorem value?_output_tidyReading :
    (tidyReading css markup dialect output).value? CommandName.outputOption.name = output := by
  cases output <;> rfl

theorem readProgram_tidyArguments (files : FileTree) :
    Invocation.readProgram files (tidyArguments css markup dialect output) =
      .ok ⟨[], [], tidyArguments css markup dialect output⟩ := by
  unfold Invocation.readProgram
  rw [Arguments.read, tidyArguments, ArgumentSpec.occurrences_operands rfl (by decide), Except.map,
    ofOccurrences_operands]
  rfl

end Reading

/-! ## Checking the arguments -/

/-- Checks that are made one by one pass if and only if each passes. -/
theorem forM_eq_ok_iff {α ε : Type} {check : α → Except ε Unit} {xs : List α} :
    xs.forM check = .ok () ↔ ∀ x ∈ xs, check x = .ok () := by
  induction xs with
  | nil => simp [pure, Except.pure]
  | cons x xs ih =>
    rw [List.forall_mem_cons, ← ih]
    change (check x >>= fun _ => xs.forM check) = .ok () ↔ _
    cases check x <;> simp [bind, Except.bind]

/-- The file is found at its path, in which there is no null character. -/
def InputFile.OpensIn (files : FileTree) (file : InputFile) : Prop :=
  '\x00' ∉ file.path ∧ file.FoundIn files

/-- A file may be written to the path. -/
def AcceptsOutput (files : FileTree) (path : Text) : Prop :=
  '\x00' ∉ path ∧ ∃ name, files.writable path = .ok name

section Checking

variable {files : FileTree}

theorem openInput_of_opensIn {file : InputFile} (h : file.OpensIn files) (hint : String) :
    openInput files hint file.path = .ok file := by
  obtain ⟨hnull, name, hfile⟩ := h
  unfold openInput
  rw [if_neg (by simpa using hnull), hfile]

theorem check_inputFile (option : OptionSpec) (hkind : option.kind = .inputFile) {file : InputFile}
    (h : file.OpensIn files) : option.check files file.path = .ok () := by
  unfold OptionSpec.check
  rw [hkind]
  simp only [openInput_of_opensIn h, Except.map]

theorem check_outputFile (option : OptionSpec) (hkind : option.kind = .outputFile) {path : Text}
    (h : AcceptsOutput files path) : option.check files path = .ok () := by
  obtain ⟨hnull, name, hwritable⟩ := h
  unfold OptionSpec.check
  rw [hkind]
  simp only [List.contains_iff_mem, hnull, if_false]
  split
  · next hdirectory =>
    exact absurd hdirectory (FileTree.lookup_ne_directory_of_writable hwritable _)
  · rfl

variable {css markup : InputFile} {dialect : Text} {output : Option Text}

theorem check_tidyReading (hmarkup : markup.OpensIn files)
    (houtput : ∀ path ∈ output, AcceptsOutput files path) :
    CommandName.optimize.spec.check files (tidyReading css.path markup.path dialect output) =
      .ok () := by
  unfold ArgumentSpec.check
  rw [forM_eq_ok_iff]
  intro given hgiven
  simp only [tidyReading, List.mem_cons, Option.mem_toList, Option.map_eq_some_iff] at hgiven
  obtain rfl | rfl | ⟨path, hpath, rfl⟩ := hgiven
  · exact check_inputFile CommandName.markupOption rfl hmarkup
  · rfl
  · exact check_outputFile CommandName.outputOption rfl (houtput path hpath)

theorem readCommand_tidyReading (hcss : css.OpensIn files) (hmarkup : markup.OpensIn files)
    (houtput : ∀ path ∈ output, AcceptsOutput files path) :
    CommandName.optimize.readCommand files (tidyReading css.path markup.path dialect output) =
      .ok (.optimize css (some markup) (some dialect) output true) := by
  have hopen : CommandName.openOperand files "CSSFILE" [css.path] = .ok css := by
    rw [CommandName.openOperand, openInput_of_opensIn hcss]
    rfl
  unfold CommandName.readCommand
  rw [check_tidyReading hmarkup houtput, value?_markup_tidyReading, value?_dialect_tidyReading,
    value?_output_tidyReading, Option.mapM_some, openInput_of_opensIn hmarkup]
  simp only [tidyReading]
  rw [hopen]
  rfl

/-- The arguments ask to tidy the stylesheet, and the log shows warnings only. -/
theorem read_tidyArguments {env : Environment} (henv : NoSettings env)
    (hoption : ArgumentSpec.isOption css.path = false) (hcss : css.OpensIn files)
    (hmarkup : markup.OpensIn files) (houtput : ∀ path ∈ output, AcceptsOutput files path) :
    Invocation.read env files (tidyArguments css.path markup.path dialect output) =
      .ok (.command .warning (.optimize css (some markup) (some dialect) output true)) := by
  have hname : CommandName.ofText? "optimize".toList = some .optimize := by decide
  have hcommand : Invocation.ofCommand .warning files .optimize
      (tidyOptions css.path markup.path dialect output) =
        .ok (.command .warning (.optimize css (some markup) (some dialect) output true)) := by
    unfold Invocation.ofCommand
    rw [read_tidyOptions hoption]
    change (CommandName.readCommand _ _ _ >>= _) = _
    rw [readCommand_tidyReading hcss hmarkup houtput]
    rfl
  -- no option stands in front of the command, so the level is that of the settings
  have hlevel : levelInForce env (Arguments.value? ⟨[], [],
      tidyArguments css.path markup.path dialect output⟩ logLevelOption.name) = .ok .warning :=
    levelInForce_of_noSettings henv
  unfold Invocation.read
  rw [readProgram_tidyArguments]
  simp only [Except.mapError, bind, Except.bind, hlevel]
  simp only [tidyArguments, Invocation.ofSwitches?, hname, hcommand]

end Checking

/-! ## Running the command -/

theorem renderLog_eq_empty {level : LogLevel} {records : List LogRecord}
    (h : ∀ r ∈ records, r.level.rank < level.rank) : renderLog level records = "" := by
  have hnone : (records.filter fun r => decide (level.rank ≤ r.level.rank)) = [] := by
    rw [List.filter_eq_nil_iff]
    intro r hr
    simpa using h r hr
  unfold renderLog
  rw [hnone]
  rfl

theorem level_of_mem_droppedRecords {filter : ClassFilter} {groups : Groups} {r : LogRecord}
    (h : r ∈ droppedRecords filter groups) : r.level = .debug := by
  cases filter with
  | none => cases h
  | some used =>
    obtain ⟨group, -, rfl⟩ := List.mem_map.mp h
    rfl

theorem level_of_mem_mediaRecords {filter : ClassFilter} {block : MediaBlock} {r : LogRecord}
    (h : r ∈ mediaRecords filter block) : r.level = .debug := by
  rcases List.mem_append.mp h with h | h
  · exact level_of_mem_droppedRecords h
  · split at h
    · rw [List.mem_singleton.mp h, optimizerRecord]
    · cases h

/-- Tidying a text reports nothing that is as much as a warning. -/
theorem rank_of_mem_tidyLog {filter : ClassFilter} {text : Text} {r : LogRecord}
    (h : r ∈ tidyLog filter text) : r.level.rank < LogLevel.warning.rank := by
  simp only [tidyLog, List.cons_append, List.mem_cons, List.mem_append, List.mem_flatMap,
    List.not_mem_nil, or_false] at h
  obtain rfl | (h | ⟨block, -, h⟩) | rfl := h
  · exact Nat.zero_lt_two
  · rw [level_of_mem_droppedRecords h]
    exact Nat.zero_lt_two
  · rw [level_of_mem_mediaRecords h]
    exact Nat.zero_lt_two
  · exact Nat.one_lt_two

theorem write_of_acceptsOutput {files : FileTree} {path : Text} (h : AcceptsOutput files path)
    (content : Bytes) : ∃ after, files.write path content = .ok after := by
  obtain ⟨-, name, hname⟩ := h
  exact ⟨files.withFile name content, by rw [FileTree.write, hname]; rfl⟩

section Running

variable {env : Environment} {files : FileTree} {css markup : InputFile} {dialect : Text}
  {output : Option Text} {text : Text} {filter : ClassFilter}

theorem runOptimize_of_ok {after : FileTree} {printed : Text} (htext : css.read = .ok text)
    (hfilter : Command.markupFilter env (some markup) (some dialect) = .ok filter)
    (hdeliver : Command.deliver files output (tidy filter text) = .ok (after, printed)) :
    Command.runOptimize env files .warning css (some markup) (some dialect) output true =
      .ok (Outcome.done after 0 printed
        (SizeReport.compute filter text (tidy filter text)).summary) := by
  have hlog : renderLog .warning (outcomeLog filter text (tidyReport filter text)) = "" :=
    renderLog_eq_empty fun r hr => rank_of_mem_tidyLog hr
  have houtput : (tidyReport filter text).output = tidy filter text := rfl
  unfold Command.runOptimize
  rw [htext, hfilter]
  simp only [bind, Except.bind, houtput, hdeliver, hlog, Command.conclude_tidyReport, if_true,
    String.empty_append]
  rfl

variable (henv : NoSettings env) (hoption : ArgumentSpec.isOption css.path = false)
  (hcss : css.OpensIn files) (hmarkup : markup.OpensIn files) (htext : css.read = .ok text)
  (hfilter : Command.markupFilter env (some markup) (some dialect) = .ok filter)

include henv hoption hcss hmarkup htext hfilter

/-- Without an output file the tidied text is printed as a line, and no file changes. -/
theorem runProgram_tidyArguments_none :
    runProgram env files (tidyArguments css.path markup.path dialect none) =
      Outcome.done files 0 (tidy filter text ++ ['\n'])
        (SizeReport.compute filter text (tidy filter text)).summary := by
  have hdeliver : Command.deliver files none (tidy filter text) =
      .ok (files, tidy filter text ++ ['\n']) := by
    simp [Command.deliver, unlines]
  exact runProgram_of_run (read_tidyArguments henv hoption hcss hmarkup (by simp))
    (runOptimize_of_ok htext hfilter hdeliver)

/-- With an output file the tidied text is what the file holds afterwards. -/
theorem runProgram_tidyArguments_some {path : Text} (hpath : AcceptsOutput files path) :
    ∃ after name, runProgram env files (tidyArguments css.path markup.path dialect (some path)) =
        Outcome.done after 0 [] (SizeReport.compute filter text (tidy filter text)).summary ∧
      after.lookup (plainPath path) = .file name (tidy filter text).utf8 := by
  obtain ⟨after, hwrite⟩ := write_of_acceptsOutput hpath (tidy filter text).utf8
  have hdeliver : Command.deliver files (some path) (tidy filter text) = .ok (after, []) := by
    rw [Command.deliver, hwrite]
    rfl
  obtain ⟨name, -, -, hlookup⟩ := FileTree.lookup_write hwrite
  refine ⟨after, name, ?_, hlookup⟩
  exact runProgram_of_run (read_tidyArguments henv hoption hcss hmarkup (by simpa using hpath))
    (runOptimize_of_ok htext hfilter hdeliver)

end Running

end WebTidy
