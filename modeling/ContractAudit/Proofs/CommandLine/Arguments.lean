import ContractAudit.CommandLine.Command
import ContractAudit.Proofs.Audit.Outcome
import Mathlib.Data.List.Find

/-!
# Arguments without a flag

Taking a flag out of the arguments, with its value, changes nothing about the others, as long as the
flag excludes none of them.  For that each argument has to mean the same by itself as it did among the
others, and the flags have to be taken as before.

* `Given.without` -- the flags that are given, but for one;
* `withoutFlag` -- the arguments without a flag and its values;
* `consume_withoutFlag`, `classifyAll_withoutFlag`, `read_withoutFlag` -- what they give;
* `Command.parse_analyze`, `Command.parse_eq_analyze_iff` -- the arguments of the command that audits a
  contract;
* `parse_withoutOutput` -- the same without the flag for its output.
-/

namespace ContractAudit.CommandLine

/-! ### Flags that are given -/

namespace Given

/-- The flags but those with a title. -/
def without (title : String) (given : Given) : Given :=
  { given with values := given.values.filter fun entry => entry.1 != title }

variable {title other : String}

theorem find?_without (h : other ≠ title) (given : Given) :
    ((given.without title).values.find? fun entry => entry.1 == other)
      = given.values.find? fun entry => entry.1 == other := by
  rw [without, List.find?_filter]
  congr 1
  funext entry
  by_cases hentry : entry.1 = other
  · simp [hentry, h]
  · simp [hentry]

theorem value?_without (h : other ≠ title) (given : Given) :
    (given.without title).value? other = given.value? other := by
  rw [value?, find?_without h, value?]

theorem includes_without (h : other ≠ title) (given : Given) :
    (given.without title).includes other = given.includes other := by
  have hsome (given : Given) : given.includes other
      = (given.values.find? fun entry => entry.1 == other).isSome := by
    rw [List.isSome_find?]
    rfl
  rw [hsome, find?_without h, hsome]

theorem valueOr_without (h : other ≠ title) (given : Given) (default : String) :
    (given.without title).valueOr other default = given.valueOr other default := by
  rw [valueOr, includes_without h, value?_without h, valueOr]

theorem value?_without_self (title : String) (given : Given) :
    (given.without title).value? title = none := by
  have hnone : ((given.without title).values.find? fun entry => entry.1 == title) = none := by
    rw [List.find?_eq_none]
    intro entry hentry
    simpa [without] using (List.mem_filter.1 hentry).2
  rw [value?, hnone]
  rfl

end Given

namespace Grammar

/-! ### Giving a flag -/

variable {g : Grammar} {flag : Flag} {value : Option Signs} {given next : Given} {title : String}

theorem eq_of_give_eq_ok (h : g.give flag value given = .ok next) :
    next = { given with values := (flag.title, value) :: given.values } := by
  unfold give at h
  dsimp only at h
  split at h
  · cases h
  · cases h
  · exact (Except.ok.inj h).symm

/-- A flag that is given later is taken out again. -/
theorem without_of_give_self (h : g.give flag value given = .ok next) :
    next.without flag.title = given.without flag.title := by
  rw [eq_of_give_eq_ok h]
  simp [Given.without]

/-- Whether a flag can be given does not depend on flags that exclude none. -/
theorem give_without (htitle : title ∉ g.exclusive) (hflag : flag.title ≠ title) (given : Given) :
    g.give flag value (given.without title)
      = (g.give flag value given).map (Given.without title) := by
  have hrival : (g.exclusive.find? fun rival => rival != flag.title
        && (given.without title).includes rival)
      = g.exclusive.find? fun rival => rival != flag.title && given.includes rival := by
    refine List.find?_congr fun rival hrival => ?_
    rw [Given.includes_without]
    rintro rfl
    exact htitle hrival
  unfold give
  dsimp only
  rw [hrival]
  split
  · rfl
  · rfl
  · simp [Given.without, hflag, Except.map]

end Grammar

/-! ### Arguments without a flag -/

/-- Whether the argument is a flag with a title. -/
def Reading.isFlag (title : String) : Reading → Bool
  | known flag _ _ => flag.title == title
  | _ => false

/-- Whether the argument is a flag that has its value in the next one. -/
def Reading.takesNext : Reading → Bool
  | known flag _ none => flag.valued
  | _ => false

/-- The arguments without the flags with a title and without their values; `skip` says that a value is
due. -/
def withoutFlag (title : String) : (skip : Bool) → List (Signs × Reading) → List (Signs × Reading)
  | _, [] => []
  | true, (_, .operand) :: rest => withoutFlag title false rest
  | _, (arg, reading) :: rest =>
    if reading.isFlag title then withoutFlag title reading.takesNext rest
    else (arg, reading) :: withoutFlag title false rest

theorem withoutFlag_flag {title : String} {arg : Signs} {reading : Reading}
    (h : reading.isFlag title = true) (skip : Bool) (rest : List (Signs × Reading)) :
    withoutFlag title skip ((arg, reading) :: rest) = withoutFlag title reading.takesNext rest := by
  cases reading with
  | known flag name attached => cases skip <;> exact if_pos h
  | operand => cases h
  | separator => cases h
  | unknown => cases h

theorem withoutFlag_other {title : String} {arg : Signs} {reading : Reading}
    (h : reading.isFlag title = false) (rest : List (Signs × Reading)) :
    withoutFlag title false ((arg, reading) :: rest)
      = (arg, reading) :: withoutFlag title false rest := by
  have hnot : ¬ reading.isFlag title = true := by simp [h]
  cases reading <;> exact if_neg hnot

/-- An argument goes or stays. -/
theorem withoutFlag_cons (title : String) (skip : Bool) (arg : Signs) (reading : Reading)
    (rest : List (Signs × Reading)) :
    (∃ next, withoutFlag title skip ((arg, reading) :: rest) = withoutFlag title next rest) ∨
      withoutFlag title skip ((arg, reading) :: rest)
        = (arg, reading) :: withoutFlag title false rest := by
  cases hflag : reading.isFlag title with
  | true => exact .inl ⟨reading.takesNext, withoutFlag_flag hflag skip rest⟩
  | false =>
    cases skip with
    | false => exact .inr (withoutFlag_other hflag rest)
    | true =>
      have hnot : ¬ reading.isFlag title = true := by simp [hflag]
      cases reading with
      | operand => exact .inl ⟨false, rfl⟩
      | separator => exact .inr (if_neg hnot)
      | known flag name attached => exact .inr (if_neg hnot)
      | unknown => exact .inr (if_neg hnot)

namespace Grammar

variable {g : Grammar} {title : String}

/-- **Arguments without a flag** give what all of them give, but for the flag, if it excludes no
other. -/
theorem consume_withoutFlag (htitle : title ∉ g.exclusive) {readings : List (Signs × Reading)}
    {given final : Given} (h : g.consume readings given = .ok final) :
    g.consume (withoutFlag title false readings) (given.without title)
      = .ok (final.without title) := by
  fun_induction g.consume readings given with
  | case1 given =>
    cases h
    rfl
  | case2 arg flag name rest given hvalued text next hnext ih =>
    by_cases hflag : flag.title = title
    · subst hflag
      rw [withoutFlag_flag (beq_self_eq_true _), ← without_of_give_self hnext]
      exact ih h
    · have hother : (Reading.known flag name (some text)).isFlag title = false :=
        beq_false_of_ne hflag
      rw [withoutFlag_other hother, consume, if_pos hvalued,
        give_without htitle hflag, hnext]
      exact ih h
  | case3 => cases h
  | case4 arg flag name given hvalued value rest next hnext ih =>
    by_cases hflag : flag.title = title
    · subst hflag
      -- the next argument is the value of the flag and goes with it
      have hdue : (Reading.known flag name none).takesNext = true := hvalued
      rw [withoutFlag_flag (beq_self_eq_true _), ← without_of_give_self hnext, hdue]
      exact ih h
    · have hother : (Reading.known flag name none).isFlag title = false := beq_false_of_ne hflag
      rw [withoutFlag_other hother, withoutFlag_other rfl, consume, if_pos hvalued,
        give_without htitle hflag, hnext]
      exact ih h
  | case5 => cases h
  | case6 => cases h
  | case7 => cases h
  | case8 arg reading rest given hreading ih =>
    have hother : reading.isFlag title = false := by
      cases reading with
      | known flag name attached => exact absurd rfl (hreading flag name attached)
      | _ => rfl
    rw [withoutFlag_other hother, consume]
    · exact ih h
    · exact hreading

/-- What the first of several arguments can be: the two dashes, which make operands of all others, or
something by itself. -/
theorem classifyAll_cons_eq_ok {arg : Signs} {rest : List Signs}
    {readings : List (Signs × Reading)} (h : g.classifyAll (arg :: rest) = .ok readings) :
    (arg = dashes ∧ readings = (arg, .separator) :: rest.map fun operand => (operand, .operand)) ∨
    (arg ≠ dashes ∧ ∃ reading later, g.classify arg = .ok reading ∧ g.classifyAll rest = .ok later ∧
      readings = (arg, reading) :: later) := by
  rw [classifyAll] at h
  split at h
  · rename_i hseparator
    exact .inl ⟨hseparator, (Except.ok.inj h).symm⟩
  · rename_i hseparator
    obtain ⟨reading, hreading, hrest⟩ := exists_of_bind_eq_ok h
    obtain ⟨later, hlater, hmade⟩ := exists_of_bind_eq_ok hrest
    exact .inr ⟨hseparator, reading, later, hreading, hlater, (Except.ok.inj hmade).symm⟩

theorem map_fst_operands (args : List Signs) :
    (args.map fun arg => (arg, Reading.operand)).map Prod.fst = args := by
  rw [List.map_map]
  exact List.map_id args

theorem map_fst_of_classifyAll {args : List Signs} {readings : List (Signs × Reading)}
    (h : g.classifyAll args = .ok readings) : readings.map Prod.fst = args := by
  induction args generalizing readings with
  | nil =>
    cases h
    rfl
  | cons arg rest ih =>
    rcases classifyAll_cons_eq_ok h with ⟨-, rfl⟩ | ⟨-, reading, later, -, hlater, rfl⟩
    · rw [List.map_cons, map_fst_operands]
    · rw [List.map_cons, ih hlater]

theorem withoutFlag_operands (title : String) (args : List Signs) :
    withoutFlag title false (args.map fun arg => (arg, .operand))
      = args.map fun arg => (arg, .operand) := by
  induction args with
  | nil => rfl
  | cons arg rest ih => rw [List.map_cons, withoutFlag_other rfl, ih]

/-- What the remaining arguments are does not change. -/
theorem classifyAll_withoutFlag {args : List Signs} {readings : List (Signs × Reading)}
    (h : g.classifyAll args = .ok readings) (title : String) (skip : Bool) :
    g.classifyAll ((withoutFlag title skip readings).map Prod.fst)
      = .ok (withoutFlag title skip readings) := by
  induction args generalizing readings skip with
  | nil =>
    cases h
    cases skip <;> rfl
  | cons arg rest ih =>
    rcases classifyAll_cons_eq_ok h with
      ⟨hseparator, rfl⟩ | ⟨hseparator, reading, later, hreading, hlater, rfl⟩
    · -- the two dashes stay, even where a value is due
      have hkept : withoutFlag title skip
          ((arg, .separator) :: rest.map fun operand => (operand, .operand))
          = (arg, .separator) :: rest.map fun operand => (operand, .operand) := by
        cases skip <;> exact congrArg _ (withoutFlag_operands title rest)
      rw [hkept, List.map_cons, map_fst_operands, classifyAll, if_pos hseparator]
    · rcases withoutFlag_cons title skip arg reading later with ⟨next, hgone⟩ | hkept
      · rw [hgone]
        exact ih hlater next
      · rw [hkept, List.map_cons, classifyAll, if_neg hseparator, hreading, ok_bind,
          ih hlater false]
        rfl

/-- **Reading the arguments without a flag.** -/
theorem read_withoutFlag {args : List Signs} {readings : List (Signs × Reading)} {given : Given}
    (htitle : title ∉ g.exclusive) (hreadings : g.classifyAll args = .ok readings)
    (h : g.read args = .ok given) :
    g.read ((withoutFlag title false readings).map Prod.fst) = .ok (given.without title) := by
  rw [read, hreadings, ok_bind] at h
  rw [read, classifyAll_withoutFlag hreadings, ok_bind]
  exact consume_withoutFlag htitle h

end Grammar

/-! ### The program and its commands -/

theorem flagNames_programGrammar :
    programGrammar.flagNames = [("-h", helpFlag), ("--help", helpFlag)] := rfl

/-- Nothing can be short for two flags of the program itself. -/
theorem length_guesses_le (second : Sign) (rest : Signs) :
    (programGrammar.guesses (.char '-' :: second :: rest)).length ≤ 1 := by
  by_cases hsecond : second = .char '-'
  · subst hsecond
    -- the short name has no second dash
    have hshort : (splitAtEquals (.char '-' :: .char '-' :: rest)).1.isPrefixOf
        (Signs.ofString "-h") = false := rfl
    simp only [Grammar.guesses, flagNames_programGrammar, List.length_map, List.filter_cons, hshort,
      Bool.false_eq_true, if_false]
    split <;> simp
  · -- and the long one needs it
    have hlong : ¬ Signs.ofString "--help" = (.char '-' :: second :: rest).take 2 := by
      simp [Signs.ofString, Signs.ofText]
    have hcut : ¬ (.char '-' :: second :: rest).isPrefixOf (Signs.ofString "--help") = true := by
      rw [List.isPrefixOf_iff_prefix]
      intro hcut
      have hsame := (List.cons_prefix_cons.1 (List.cons_prefix_cons.1 hcut).2).1
      exact hsecond hsame
    rw [Grammar.guesses, flagNames_programGrammar]
    · simp only [List.filterMap_cons, List.filterMap_nil, if_neg hlong, if_neg hcut]
      split <;> simp
    · intro more hmore
      exact hsecond (List.cons.inj (List.cons.inj hmore).2).1

theorem exists_classifyDashed_eq_ok (second : Sign) (rest : Signs) :
    ∃ reading, programGrammar.classifyDashed (.char '-' :: second :: rest) = .ok reading := by
  have hlength := length_guesses_le second rest
  rw [Grammar.classifyDashed]
  cases hguesses : programGrammar.guesses (.char '-' :: second :: rest) with
  | nil => exact ⟨_, rfl⟩
  | cons guess more =>
    cases more with
    | nil => exact ⟨_, rfl⟩
    | cons other more =>
      rw [hguesses] at hlength
      simp at hlength

theorem exists_classify_eq_ok (arg : Signs) :
    ∃ reading, programGrammar.classify arg = .ok reading := by
  unfold Grammar.classify
  split
  · dsimp only
    split
    · exact ⟨_, rfl⟩
    · split
      · exact ⟨_, rfl⟩
      · exact exists_classifyDashed_eq_ok _ _
  · exact ⟨_, rfl⟩

theorem exists_classifyAll_eq_ok (args : List Signs) :
    ∃ readings, programGrammar.classifyAll args = .ok readings := by
  induction args with
  | nil => exact ⟨[], rfl⟩
  | cons arg rest ih =>
    rw [Grammar.classifyAll]
    split
    · exact ⟨_, rfl⟩
    · obtain ⟨reading, hreading⟩ := exists_classify_eq_ok arg
      obtain ⟨later, hlater⟩ := ih
      rw [hreading, hlater]
      exact ⟨_, rfl⟩

namespace Command

theorem parseFrom_operand (arg : Signs) (rest : List (Signs × Reading)) (leftOver : List Signs) :
    parseFrom ((arg, .operand) :: rest) leftOver = (do
      let (command, more) ← parseNamed arg (rest.map Prod.fst)
      return (some command, leftOver ++ more)) := by
  cases rest <;> rfl

/-- **The command that audits a contract** is named first, and makes up a command if nothing is left
over of what follows. -/
theorem parse_analyze (args : List Signs) :
    parse (.ofString "analyze" :: args) = (do
      let given ← analyzeGrammar.read args
      if given.leftOver.isEmpty then return some (ofGiven given)
      else throw (programGrammar.refuse ("unrecognized arguments: "
        ++ " ".intercalate (given.leftOver.map Signs.shown)))) := by
  obtain ⟨readings, hreadings⟩ := exists_classifyAll_eq_ok args
  have hall : programGrammar.classifyAll (.ofString "analyze" :: args)
      = .ok ((.ofString "analyze", .operand) :: readings) := by
    rw [Grammar.classifyAll, if_neg (by decide), hreadings]
    rfl
  rw [parse, hall, ok_bind, parseFrom_operand, Grammar.map_fst_of_classifyAll hreadings]
  show ((analyzeGrammar.read args >>= _) >>= _) >>= _ = _
  cases analyzeGrammar.read args with
  | error stop => rfl
  | ok given => rfl

/-- What is left over stays so. -/
theorem isPrefix_of_parseFrom {readings : List (Signs × Reading)} {leftOver rest : List Signs}
    {command : Option Command} (h : parseFrom readings leftOver = .ok (command, rest)) :
    leftOver <+: rest := by
  fun_induction parseFrom readings leftOver with
  | case1 leftOver =>
    cases h
    exact List.prefix_refl _
  | case2 arg readings leftOver ih => exact (List.prefix_append _ _).trans (ih h)
  | case3 => cases h
  | case4 arg leftOver =>
    cases h
    exact List.prefix_append _ _
  | case5 arg reading readings leftOver =>
    obtain ⟨⟨_, more⟩, -, hmade⟩ := exists_of_bind_eq_ok h
    cases hmade
    exact List.prefix_append _ _

theorem eq_of_parseNamed_eq_analyze {name : Signs} {args leftOver : List Signs}
    {choice : SourceChoice} {output : Option Signs} {format : Option String}
    (h : parseNamed name args = .ok (analyze choice output format, leftOver)) :
    name = .ofString "analyze" := by
  by_contra hname
  rw [parseNamed, find?, if_neg hname] at h
  by_cases hexamples : name = .ofString "examples"
  · rw [if_pos hexamples] at h
    obtain ⟨given, -, hmade⟩ := exists_of_bind_eq_ok h
    cases hmade
  · rw [if_neg hexamples] at h
    by_cases hexplain : name = .ofString "explain"
    · rw [if_pos hexplain] at h
      obtain ⟨given, -, hmade⟩ := exists_of_bind_eq_ok h
      cases hmade
    · rw [if_neg hexplain] at h
      cases h

/-- If nothing is left over, the first argument names the command. -/
theorem parseNamed_of_parseFrom {arg : Signs} {reading : Reading}
    {rest : List (Signs × Reading)} {command : Command}
    (h : parseFrom ((arg, reading) :: rest) [] = .ok (some command, [])) :
    ∃ more, parseNamed arg (rest.map Prod.fst) = .ok (command, more) := by
  cases reading with
  | unknown =>
    have hrest : parseFrom rest [arg] = .ok (some command, []) := h
    cases List.prefix_nil.1 (isPrefix_of_parseFrom hrest)
  | known flag name attached => cases h
  | operand =>
    rw [parseFrom_operand] at h
    obtain ⟨⟨_, more⟩, hfound, hmade⟩ := exists_of_bind_eq_ok h
    cases hmade
    exact ⟨_, hfound⟩
  | separator =>
    cases rest with
    | nil => cases h
    | cons second rest =>
      obtain ⟨⟨_, more⟩, hfound, hmade⟩ := exists_of_bind_eq_ok h
      cases hmade
      exact ⟨_, hfound⟩

/-- The command that audits a contract has to be named first. -/
theorem exists_cons_of_parse_eq_analyze {args : List Signs} {choice : SourceChoice}
    {output : Option Signs} {format : Option String}
    (h : parse args = .ok (some (analyze choice output format))) :
    ∃ rest, args = .ofString "analyze" :: rest := by
  obtain ⟨readings, hreadings, hparsed⟩ := exists_of_bind_eq_ok h
  obtain ⟨⟨command, leftOver⟩, hfrom, hmade⟩ := exists_of_bind_eq_ok hparsed
  dsimp only at hmade
  split at hmade
  · rename_i hempty
    cases hmade
    obtain rfl := List.isEmpty_iff.1 hempty
    cases readings with
    | nil => cases hfrom
    | cons first rest =>
      obtain ⟨more, hnamed⟩ := parseNamed_of_parseFrom hfrom
      refine ⟨rest.map Prod.fst, ?_⟩
      rw [← Grammar.map_fst_of_classifyAll hreadings, List.map_cons,
        eq_of_parseNamed_eq_analyze hnamed]
  · cases hmade

/-- Arguments that make up the command that audits a contract, as the flags that they give. -/
theorem parse_eq_analyze_iff {args : List Signs} {choice : SourceChoice}
    {output : Option Signs} {format : Option String} :
    parse args = .ok (some (analyze choice output format)) ↔
      ∃ rest given, args = .ofString "analyze" :: rest ∧ analyzeGrammar.read rest = .ok given ∧
        given.leftOver = [] ∧ ofGiven given = analyze choice output format := by
  constructor
  · intro h
    obtain ⟨rest, rfl⟩ := exists_cons_of_parse_eq_analyze h
    rw [parse_analyze] at h
    obtain ⟨given, hgiven, hmade⟩ := exists_of_bind_eq_ok h
    split at hmade
    · rename_i hempty
      exact ⟨rest, given, rfl, hgiven, List.isEmpty_iff.1 hempty,
        Option.some.inj (Except.ok.inj hmade)⟩
    · cases hmade
  · rintro ⟨rest, given, rfl, hgiven, hempty, hmade⟩
    rw [parse_analyze, hgiven, ok_bind, hempty, hmade]
    rfl

end Command

/-- The arguments make up no command but the one that audits a contract: they may also be refused, or
ask for help. -/
def OnlyAnalyze (args : List Signs) : Prop :=
  ∀ command, Command.parse args = .ok command →
    ∃ choice output format, command = some (.analyze choice output format)

/-- It is enough that the command is named first. -/
theorem onlyAnalyze_cons (args : List Signs) : OnlyAnalyze (.ofString "analyze" :: args) := by
  intro command h
  rw [Command.parse_analyze] at h
  obtain ⟨given, -, hmade⟩ := exists_of_bind_eq_ok h
  split at hmade
  · cases hmade
    exact ⟨_, _, _, rfl⟩
  · cases hmade

/-- The arguments without the flag for the file that receives the report, and without its value. -/
def withoutOutput : List Signs → List Signs
  | [] => []
  | command :: args =>
    match analyzeGrammar.classifyAll args with
    | .ok readings => command :: (withoutFlag outputFlag.title false readings).map Prod.fst
    | .error _ => command :: args

/-- **Without the flag for its output**, the command is the same but for the output. -/
theorem parse_withoutOutput {args : List Signs} {choice : SourceChoice}
    {output : Option Signs} {format : Option String}
    (h : Command.parse args = .ok (some (.analyze choice output format))) :
    Command.parse (withoutOutput args) = .ok (some (.analyze choice none format)) := by
  obtain ⟨rest, given, rfl, hgiven, hempty, hmade⟩ := Command.parse_eq_analyze_iff.1 h
  have hread := hgiven
  obtain ⟨readings, hreadings, -⟩ := exists_of_bind_eq_ok hread
  refine Command.parse_eq_analyze_iff.2 ⟨(withoutFlag outputFlag.title false readings).map Prod.fst,
    given.without outputFlag.title, ?_, ?_, hempty, ?_⟩
  · rw [withoutOutput, hreadings]
  · exact Grammar.read_withoutFlag (by decide) hreadings hgiven
  · cases hmade
    have hfile : fileFlag.title ≠ outputFlag.title := by decide
    have hsample : exampleFlag.title ≠ outputFlag.title := by decide
    have hmode : modeFlag.title ≠ outputFlag.title := by decide
    have hthresholds : thresholdsFlag.title ≠ outputFlag.title := by decide
    have hformat : formatFlag.title ≠ outputFlag.title := by decide
    simp only [Command.ofGiven, SourceChoice.ofGiven, Given.value?_without hfile,
      Given.value?_without hsample, Given.valueOr_without hmode, Given.value?_without hthresholds,
      Given.value?_without hformat, Given.value?_without_self]

end ContractAudit.CommandLine
