import WebTidy.Proofs.CommandLine.Invocations
import WebTidy.Proofs.Table

/-!
# How arguments are spelled

What a command reads from its arguments is what they spell out: options with a value behind them or
in the next argument, switches, and operands. Of an option that is given more than once the last
value counts.
-/

namespace WebTidy

/-- The argument names the option, with its value if that is in the same argument. -/
inductive OptionSpec.Writes (option : OptionSpec) : Text → Option Text → Prop
  | name : Writes option option.name none
  | equated (value : Text) : Writes option (option.name ++ '=' :: value) (some value)
  | letter {letter : Char} (h : option.letter = some letter) : Writes option ['-', letter] none
  | attached {letter : Char} (h : option.letter = some letter) {value : Text} (hv : value ≠ []) :
    Writes option ('-' :: letter :: value) (some value)

/-- The arguments spell out the occurrences. -/
inductive ArgumentSpec.Spells (spec : ArgumentSpec) : List Text → List Occurrence → Prop
  | nil : Spells spec [] []
  | operands (rest : List Text) : Spells spec (['-', '-'] :: rest) (rest.map .operand)
  | switched {name : Text} (h : name ∈ spec.switches) {given : List Text} {found : List Occurrence}
    (hrest : Spells spec given found) : Spells spec (name :: given) (.switched name :: found)
  | joined {option : OptionSpec} (h : option ∈ spec.options) {argument value : Text}
    (hw : option.Writes argument (some value)) {given : List Text} {found : List Occurrence}
    (hrest : Spells spec given found) :
    Spells spec (argument :: given) (.value option.name value :: found)
  | apart {option : OptionSpec} (h : option ∈ spec.options) {argument : Text}
    (hw : option.Writes argument none) (value : Text) {given : List Text} {found : List Occurrence}
    (hrest : Spells spec given found) :
    Spells spec (argument :: value :: given) (.value option.name value :: found)
  | operand (hm : spec.mixed = true) {argument : Text} (h : isOption argument = false)
    {given : List Text} {found : List Occurrence} (hrest : Spells spec given found) :
    Spells spec (argument :: given) (.operand argument :: found)
  | first (hm : spec.mixed = false) {argument : Text} (h : isOption argument = false)
    (rest : List Text) : Spells spec (argument :: rest) ((argument :: rest).map .operand)

namespace ArgumentSpec

variable {spec : ArgumentSpec} {argument : Text}

theorem nameAndValue_eq {name : Text} {value : Option Text}
    (h : nameAndValue argument = (name, value)) :
    (value = none ∧ argument = name) ∨ ∃ v, value = some v ∧ argument = name ++ '=' :: v := by
  unfold nameAndValue at h
  split at h
  · next hequals =>
    obtain ⟨front, rest, rfl, hfront⟩ :=
      List.eq_append_cons_of_mem (List.contains_iff_mem.mp hequals)
    rw [Text.cutAt_append hfront] at h
    cases h
    exact .inr ⟨rest, rfl, rfl⟩
  · cases h
    exact .inl ⟨rfl, rfl⟩

theorem letterUse_eq_ok {use : OptionUse} (hopt : isOption argument = true)
    (h : spec.letterUse argument = .ok use) :
    ∃ option ∈ spec.options, ∃ writtenAs value,
      use = .valued option writtenAs value ∧ option.Writes argument value := by
  unfold letterUse at h
  split at h
  · next hyphen letter rest =>
    obtain rfl : hyphen = '-' := by
      simp only [isOption, Bool.and_eq_true, Text.startsWith_iff, List.cons_prefix_cons] at hopt
      exact hopt.1.1.symm
    split at h
    · next option hfind =>
      cases h
      have hletter : option.letter = some letter := by simpa using List.find?_some hfind
      refine ⟨option, List.mem_of_find?_eq_some hfind, _, _, rfl, ?_⟩
      cases rest with
      | nil => exact .letter hletter
      | cons c rest => exact .attached hletter (List.cons_ne_nil c rest)
    · cases h
  · cases h

/-- An argument that begins with a hyphen is a switch or names an option. -/
theorem optionUse_eq_ok {use : OptionUse} (hopt : isOption argument = true)
    (h : spec.optionUse argument = .ok use) :
    (argument ∈ spec.switches ∧ use = .switched argument) ∨
      ∃ option ∈ spec.options, ∃ writtenAs value,
        use = .valued option writtenAs value ∧ option.Writes argument value := by
  unfold optionUse at h
  split at h
  next name value hname =>
  split at h
  · next option hfind =>
    cases h
    have hsame : option.name = name := by simpa using List.find?_some hfind
    subst hsame
    refine .inr ⟨option, List.mem_of_find?_eq_some hfind, _, _, rfl, ?_⟩
    rcases nameAndValue_eq hname with ⟨rfl, rfl⟩ | ⟨v, rfl, rfl⟩
    · exact .name
    · exact .equated v
  · split at h
    · next hswitch =>
      split at h
      · cases h
      · next hvalue =>
        cases h
        rcases nameAndValue_eq hname with ⟨rfl, rfl⟩ | ⟨v, rfl, rfl⟩
        · exact .inl ⟨hswitch, rfl⟩
        · exact absurd rfl hvalue
    · split at h
      · cases h
      · exact .inr (letterUse_eq_ok hopt h)

theorem spells_of_occurrences {arguments : List Text} {found : List Occurrence}
    (h : spec.occurrences arguments = .ok found) : spec.Spells arguments found := by
  fun_induction occurrences spec arguments generalizing found with
  | case1 =>
    cases h
    exact .nil
  | case2 rest =>
    cases h
    exact .operands rest
  | case3 argument rest hne hopt ihrest ihnext =>
    obtain ⟨use, huse, h⟩ := exists_of_bind_eq_ok h
    rcases optionUse_eq_ok hopt huse with
      ⟨hswitch, rfl⟩ | ⟨option, hoption, writtenAs, value, rfl, hw⟩
    · obtain ⟨tail, htail, h⟩ := exists_of_bind_eq_ok h
      cases h
      exact .switched hswitch (ihrest htail)
    · cases value with
      | some value =>
        obtain ⟨tail, htail, h⟩ := exists_of_bind_eq_ok h
        cases h
        exact .joined hoption hw (ihrest htail)
      | none =>
        cases rest with
        | nil => cases h
        | cons value rest =>
          obtain ⟨tail, htail, h⟩ := exists_of_bind_eq_ok h
          cases h
          exact .apart hoption hw value (ihnext htail)
  | case4 argument rest hne hopt hmixed ih =>
    obtain ⟨tail, htail, h⟩ := exists_of_bind_eq_ok h
    cases h
    exact .operand hmixed (by simpa using hopt) (ih htail)
  | case5 argument rest hne hopt hmixed =>
    cases h
    exact .first (by simpa using hmixed) (by simpa using hopt) rest

end ArgumentSpec

/-! ## Operands and last values -/

def Occurrence.operand? : Occurrence → Option Text
  | operand t => some t
  | _ => none

/-- Where operands end the options, they are the arguments from the first of them on. -/
theorem ArgumentSpec.Spells.operands_suffix {spec : ArgumentSpec} (hm : spec.mixed = false)
    {arguments : List Text} {found : List Occurrence} (h : spec.Spells arguments found) :
    found.filterMap Occurrence.operand? <:+ arguments := by
  have hall (rest : List Text) : (rest.map .operand).filterMap Occurrence.operand? = rest := by
    rw [List.filterMap_map]
    exact List.filterMap_some
  induction h with
  | nil => exact List.suffix_rfl
  | operands rest =>
    rw [hall]
    exact List.suffix_cons _ rest
  | switched _ _ ih => exact ih.trans (List.suffix_cons _ _)
  | joined _ _ _ ih => exact ih.trans (List.suffix_cons _ _)
  | apart _ _ value _ ih =>
    exact (ih.trans (List.suffix_cons value _)).trans (List.suffix_cons _ _)
  | operand hmixed => exact absurd hm (by simp [hmixed])
  | first _ _ rest => rw [hall]

/-- The value is given for the name, and no value for it comes later. -/
def GivenLast (name value : Text) (found : List Occurrence) : Prop :=
  ∃ before behind, found = before ++ .value name value :: behind ∧
    ∀ other, .value name other ∉ behind

theorem givenLast_concat {name value : Text} {found : List Occurrence} {o : Occurrence}
    (h : GivenLast name value found) (ho : ∀ other, o ≠ .value name other) :
    GivenLast name value (found ++ [o]) := by
  obtain ⟨before, behind, rfl, hbehind⟩ := h
  refine ⟨before, behind ++ [o], by simp, fun other hm => ?_⟩
  rcases List.mem_append.mp hm with hm | hm
  · exact hbehind other hm
  · exact ho other (List.mem_singleton.mp hm).symm

namespace Arguments

theorem operands_ofOccurrences (found : List Occurrence) :
    (ofOccurrences found).operands = found.filterMap Occurrence.operand? := rfl

theorem givenLast_of_value? {name value : Text} {found : List Occurrence}
    (h : (ofOccurrences found).value? name = some value) : GivenLast name value found := by
  rw [value?, ofOccurrences, Table.get?_ofEntries] at h
  induction found using List.reverseRecOn with
  | nil => simp [Table.get?] at h
  | append_singleton found o ih =>
    rw [List.filterMap_append, List.reverse_append] at h
    cases o with
    | value other v =>
      change Table.get? name ((other, v) :: List.reverse _) = some value at h
      by_cases hname : other = name
      · subst hname
        obtain rfl : v = value := by simpa [Table.get?] using h
        exact ⟨found, [], rfl, by simp⟩
      · refine givenLast_concat (ih ?_) (by simp [hname])
        simpa [Table.get?, hname] using h
    | switched other => exact givenLast_concat (ih h) (by simp)
    | operand other => exact givenLast_concat (ih h) (by simp)

theorem spells_of_read {spec : ArgumentSpec} {arguments : List Text} {a : Arguments}
    (h : read spec arguments = .ok a) :
    ∃ found, spec.Spells arguments found ∧ a = ofOccurrences found := by
  unfold read at h
  cases hfound : spec.occurrences arguments with
  | error e => simp [hfound, Except.map] at h
  | ok found =>
    rw [hfound] at h
    exact ⟨found, ArgumentSpec.spells_of_occurrences hfound, (Except.ok.inj h).symm⟩

end Arguments

/-! ## Tidying into a file -/

/-- The arguments name the command, and behind it a stylesheet as the only operand and an output
file, of which the last one counts. -/
def SpellsTidyingInto (arguments : List Text) (css path : Text) : Prop :=
  ∃ front given found, arguments = front ++ "optimize".toList :: given ∧
    CommandName.optimize.spec.Spells given found ∧
    found.filterMap Occurrence.operand? = [css] ∧ GivenLast "--output".toList path found

theorem eq_of_ofText? {name : Text} {c : CommandName} (h : CommandName.ofText? name = some c) :
    name = c.text.toList := by
  unfold CommandName.ofText? at h
  have hsame := List.find?_some h
  exact (beq_iff_eq.mp hsame).symm

theorem operands_of_openOperand {files : FileTree} {metavar : String} {operands : List Text}
    {file : InputFile} (h : CommandName.openOperand files metavar operands = .ok file) :
    operands = [file.path] := by
  cases operands with
  | nil => cases h
  | cons path rest =>
    obtain ⟨opened, hopen, hrest⟩ := exists_of_bind_eq_ok h
    split at hrest
    · next hempty =>
      cases hrest
      rw [(foundIn_of_openInput hopen).1, List.isEmpty_iff.mp hempty]
    · cases hrest

theorem spellsTidyingInto_of_read {env : Environment} {files : FileTree} {arguments : List Text}
    {level : LogLevel} {css : InputFile} {markup : Option InputFile} {dialect : Option Text}
    {path : Text} {stats : Bool} (h : Invocation.read env files arguments =
      .ok (.command level (.optimize css markup dialect (some path) stats))) :
    SpellsTidyingInto arguments css.path path := by
  obtain ⟨a, name, given, own, ha, hoperands, hname, hown, hcommand⟩ :=
    Invocation.exists_of_read_eq_command h
  obtain ⟨found, hfound, rfl⟩ := Arguments.spells_of_read hown
  have hword : name = "optimize".toList := eq_of_ofText? hname
  have hsplit : ∃ front, arguments = front ++ "optimize".toList :: given := by
    obtain ⟨all, hall, rfl⟩ := Arguments.spells_of_read ha
    obtain ⟨front, hfront⟩ := hall.operands_suffix rfl
    rw [← Arguments.operands_ofOccurrences, hoperands, hword] at hfront
    exact ⟨front, hfront.symm⟩
  obtain ⟨front, hfront⟩ := hsplit
  change CommandName.readCommand .optimize files _ = _ at hcommand
  obtain ⟨-, -, hcommand⟩ := exists_of_bind_eq_ok hcommand
  obtain ⟨opened, hopen, hcommand⟩ := exists_of_bind_eq_ok hcommand
  obtain ⟨read, -, hcommand⟩ := exists_of_bind_eq_ok hcommand
  obtain ⟨rfl, -, -, houtput, -⟩ := Command.optimize.inj (Except.ok.inj hcommand)
  exact ⟨front, given, found, hfront, hfound, operands_of_openOperand hopen,
    Arguments.givenLast_of_value? houtput⟩

end WebTidy
