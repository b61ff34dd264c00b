import Mathlib
import WebTidy.CommandLine.Run

/-!
# What arguments ask for

A command is only ever run if the arguments name it, and the files that it reads are those that were
found when the arguments were read.
-/

namespace WebTidy

/-- A step of a computation that succeeds has succeeded itself. -/
theorem exists_of_bind_eq_ok {ε α β : Type} {x : Except ε α} {f : α → Except ε β} {b : β}
    (h : x >>= f = .ok b) : ∃ a, x = .ok a ∧ f a = .ok b := by
  cases x with
  | error e => cases h
  | ok a => exact ⟨a, rfl, h⟩

theorem eq_ok_of_mapError {ε δ α : Type} {x : Except ε α} {f : ε → δ} {a : α}
    (h : x.mapError f = .ok a) : x = .ok a := by
  cases x with
  | error e => cases h
  | ok b => exact congrArg Except.ok (Except.ok.inj h)

/-- The file was found at its path. -/
def InputFile.FoundIn (files : FileTree) (file : InputFile) : Prop :=
  ∃ name, files.lookup file.path = .file name file.content

theorem foundIn_of_openInput {files : FileTree} {hint : String} {path : Text} {file : InputFile}
    (h : openInput files hint path = .ok file) : file.path = path ∧ file.FoundIn files := by
  unfold openInput at h
  split at h
  · cases h
  · split at h
    · next name content hfile =>
      cases h
      exact ⟨rfl, name, hfile⟩
    · cases h
    · cases h

theorem foundIn_of_openOperand {files : FileTree} {metavar : String} {operands : List Text}
    {file : InputFile} (h : CommandName.openOperand files metavar operands = .ok file) :
    file.FoundIn files := by
  cases operands with
  | nil => cases h
  | cons path rest =>
    obtain ⟨opened, hopen, hrest⟩ := exists_of_bind_eq_ok h
    split at hrest
    · cases hrest
      exact (foundIn_of_openInput hopen).2
    · cases hrest

/-- The files that a command reads. -/
def Command.inputs : Command → List InputFile
  | validate source _ => [source]
  | optimize css markup _ _ _ => css :: markup.toList
  | classes source _ => [source]
  | dialects => []
  | serve _ _ _ => []

theorem readCommand_eq_ok {name : CommandName} {files : FileTree} {a : Arguments} {c : Command}
    (h : name.readCommand files a = .ok c) :
    c.name = name ∧ ∀ file ∈ c.inputs, file.FoundIn files := by
  obtain ⟨-, -, h⟩ := exists_of_bind_eq_ok h
  cases name with
  | validate =>
    obtain ⟨source, hsource, h⟩ := exists_of_bind_eq_ok h
    cases h
    simpa [Command.name, Command.inputs] using foundIn_of_openOperand hsource
  | classes =>
    obtain ⟨source, hsource, h⟩ := exists_of_bind_eq_ok h
    cases h
    simpa [Command.name, Command.inputs] using foundIn_of_openOperand hsource
  | optimize =>
    obtain ⟨css, hcss, h⟩ := exists_of_bind_eq_ok h
    obtain ⟨markup, hmarkup, h⟩ := exists_of_bind_eq_ok h
    cases h
    refine ⟨rfl, fun file hfile => ?_⟩
    rcases List.mem_cons.mp hfile with rfl | hfile
    · exact foundIn_of_openOperand hcss
    · cases hvalue : a.value? CommandName.markupOption.name with
      | none =>
        rw [hvalue] at hmarkup
        cases hmarkup
        simp at hfile
      | some path =>
        rw [hvalue] at hmarkup
        obtain ⟨opened, hopen, hsome⟩ := exists_of_bind_eq_ok hmarkup
        cases hsome
        rw [Option.toList_some, List.mem_singleton] at hfile
        rw [hfile]
        exact (foundIn_of_openInput hopen).2
  | dialects =>
    obtain ⟨-, -, h⟩ := exists_of_bind_eq_ok h
    cases h
    simp [Command.name, Command.inputs]
  | serve =>
    obtain ⟨-, -, h⟩ := exists_of_bind_eq_ok h
    cases h
    simp [Command.name, Command.inputs]

namespace Invocation

/-- The command that stands behind the options of the program, whether or not it can be run. -/
def namedCommand? (arguments : List Text) : Option CommandName :=
  (Arguments.read programSpec arguments).toOption.bind fun a =>
    a.operands.head?.bind CommandName.ofText?

theorem readProgram_eq_ok {files : FileTree} {arguments : List Text} {a : Arguments}
    (h : readProgram files arguments = .ok a) : Arguments.read programSpec arguments = .ok a := by
  obtain ⟨b, hb, h⟩ := exists_of_bind_eq_ok h
  rw [hb]
  split at h
  · obtain ⟨_, _, h⟩ := exists_of_bind_eq_ok h
    exact h
  · exact h

theorem ofSwitches?_ne_command {switches : List Text} {level : LogLevel} {c : Command} :
    ofSwitches? switches ≠ some (.command level c) := by
  cases switches with
  | nil => simp [ofSwitches?]
  | cons switch switches =>
    rw [ofSwitches?]
    split <;> simp

theorem ofCommand_eq_command {level used : LogLevel} {files : FileTree} {name : CommandName}
    {arguments : List Text} {c : Command}
    (h : ofCommand level files name arguments = .ok (.command used c)) :
    ∃ a, Arguments.read name.spec arguments = .ok a ∧ name.readCommand files a = .ok c := by
  obtain ⟨a, ha, h⟩ := exists_of_bind_eq_ok h
  split at h
  · cases h
  · obtain ⟨read, hread, h⟩ := exists_of_bind_eq_ok h
    cases h
    exact ⟨a, ha, hread⟩

/-- A command that is to be run is the first operand of the program, and what follows are its own
arguments. -/
theorem exists_of_read_eq_command {env : Environment} {files : FileTree} {arguments : List Text}
    {level : LogLevel} {c : Command} (h : read env files arguments = .ok (.command level c)) :
    ∃ a name given own, Arguments.read programSpec arguments = .ok a ∧ a.operands = name :: given ∧
      CommandName.ofText? name = some c.name ∧ Arguments.read c.name.spec given = .ok own ∧
      c.name.readCommand files own = .ok c := by
  obtain ⟨a, ha, h⟩ := exists_of_bind_eq_ok h
  have hread := readProgram_eq_ok (eq_ok_of_mapError ha)
  split at h
  · next invocation _ hswitches =>
    cases h
    exact absurd hswitches ofSwitches?_ne_command
  · cases h
  · next name given _ hoperands =>
    split at h
    · next hname =>
      obtain ⟨b, -, h⟩ := exists_of_bind_eq_ok (eq_ok_of_mapError h)
      split at h
      · next invocation hswitches =>
        cases h
        exact absurd hswitches ofSwitches?_ne_command
      · cases h
    · next command hname =>
      obtain ⟨used, -, h⟩ := exists_of_bind_eq_ok h
      obtain ⟨own, hown, hcommand⟩ := ofCommand_eq_command (eq_ok_of_mapError h)
      obtain ⟨rfl, -⟩ := readCommand_eq_ok hcommand
      exact ⟨a, name, given, own, hread, hoperands, hname, hown, hcommand⟩

/-- A command that is to be run was named, and its files were found. -/
theorem read_eq_command {env : Environment} {files : FileTree} {arguments : List Text}
    {level : LogLevel} {c : Command} (h : read env files arguments = .ok (.command level c)) :
    namedCommand? arguments = some c.name ∧ ∀ file ∈ c.inputs, file.FoundIn files := by
  obtain ⟨a, name, given, own, hread, hoperands, hname, -, hcommand⟩ := exists_of_read_eq_command h
  refine ⟨?_, (readCommand_eq_ok hcommand).2⟩
  unfold namedCommand?
  rw [hread]
  simp [Except.toOption, hoperands, hname]

end Invocation

end WebTidy
