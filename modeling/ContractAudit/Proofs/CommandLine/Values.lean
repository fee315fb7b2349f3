import ContractAudit.Proofs.CommandLine.Arguments

/-!
# The values of flags

A value that a flag is given is an argument or the end of one, so that it is text if all arguments
are.

* `suffix_of_classify` -- what stands in the same argument as its flag;
* `Given.IsDrawn` -- all values are drawn from the arguments;
* `isDrawn_give`, `isDrawn_consume` -- this stays so, flag by flag, and along all arguments, as long as
  each of them is read soundly (`isSound_of_classifyAll`);
* `exists_arg_of_file` -- the name of a file with the source is text, if all arguments are.
-/

namespace ContractAudit.CommandLine

/-! ### Single arguments -/

theorem suffix_of_splitAtEquals {arg value : Signs} (h : (splitAtEquals arg).2 = some value) :
    value <:+ arg := by
  rw [splitAtEquals] at h
  dsimp only at h
  split at h
  · cases h
  · rename_i sign rest hdrop
    rw [← Option.some.inj h]
    have hwhole : sign :: rest <:+ arg := hdrop ▸ List.dropWhile_suffix _
    exact (List.suffix_cons sign rest).trans hwhole

namespace Grammar

variable {g : Grammar} {arg value : Signs} {flag : Flag} {name : String}

theorem suffix_of_mem_guesses (h : (flag, name, some value) ∈ g.guesses arg) : value <:+ arg := by
  unfold guesses at h
  split at h
  · obtain ⟨entry, -, hmade⟩ := List.mem_map.1 h
    have hvalue : (splitAtEquals _).2 = some value := congrArg (fun guess => guess.2.2) hmade
    exact suffix_of_splitAtEquals hvalue
  · obtain ⟨entry, -, hmade⟩ := List.mem_filterMap.1 h
    dsimp only at hmade
    split at hmade
    · cases hmade
      exact List.drop_suffix 2 arg
    · split at hmade <;> cases hmade

theorem suffix_of_classifyDashed
    (h : g.classifyDashed arg = .ok (.known flag name (some value))) : value <:+ arg := by
  unfold classifyDashed at h
  split at h
  · rename_i hguesses
    cases h
    apply suffix_of_mem_guesses
    rw [hguesses]
    exact List.mem_singleton_self _
  · split at h <;> cases h
  · cases h

/-- **What stands in the same argument as its flag** is the end of that argument. -/
theorem suffix_of_classify (h : g.classify arg = .ok (.known flag name (some value))) :
    value <:+ arg := by
  unfold classify at h
  split at h
  · dsimp only at h
    split at h
    · cases h
    · split at h
      · rename_i hvalue _
        cases h
        exact suffix_of_splitAtEquals hvalue
      · exact suffix_of_classifyDashed h
  · cases h

end Grammar

/-! ### All arguments -/

/-- A value is an argument or the end of one. -/
def IsDrawn (args : List Signs) (value : Signs) : Prop :=
  ∃ arg ∈ args, value <:+ arg

/-- All values are drawn from the arguments. -/
def Given.IsDrawn (args : List Signs) (given : Given) : Prop :=
  ∀ title value, (title, some value) ∈ given.values → CommandLine.IsDrawn args value

/-- A value that is not text comes from an argument that is not. -/
theorem exists_arg_of_isDrawn {args : List Signs} {value : Signs} (h : IsDrawn args value)
    (hvalue : value.isText = false) : ∃ arg ∈ args, arg.isText = false := by
  obtain ⟨arg, harg, hsuffix⟩ := h
  refine ⟨arg, harg, ?_⟩
  obtain ⟨sign, hsign, hoctet⟩ := List.all_eq_false.1 hvalue
  exact List.all_eq_false.2 ⟨sign, hsuffix.subset hsign, hoctet⟩

namespace Grammar

variable {g : Grammar} {args : List Signs}

/-- **Step.**  A flag is given a value. -/
theorem isDrawn_give {flag : Flag} {value : Option Signs} {given next : Given}
    (hgiven : given.IsDrawn args) (hvalue : ∀ v, value = some v → IsDrawn args v)
    (h : g.give flag value given = .ok next) : next.IsDrawn args := by
  rw [eq_of_give_eq_ok h]
  intro title v hmem
  rcases List.mem_cons.1 hmem with hfirst | hmem
  · exact hvalue v (congrArg Prod.snd hfirst).symm
  · exact hgiven title v hmem

/-- What an argument is read as holds no value that does not end it. -/
structure IsSound (args : List Signs) (reading : Signs × Reading) : Prop where
  mem : reading.1 ∈ args
  suffix : ∀ flag name value, reading.2 = .known flag name (some value) → value <:+ reading.1

theorem isSound_of_classifyAll {readings : List (Signs × Reading)}
    (h : g.classifyAll args = .ok readings) : ∀ reading ∈ readings, IsSound args reading := by
  induction args generalizing readings with
  | nil =>
    cases h
    nofun
  | cons arg rest ih =>
    rcases classifyAll_cons_eq_ok h with ⟨-, rfl⟩ | ⟨-, reading, later, hreading, hlater, rfl⟩
    · -- after the two dashes there are only operands
      intro reading hmem
      rcases List.mem_cons.1 hmem with rfl | hmem
      · exact ⟨List.mem_cons_self, nofun⟩
      · obtain ⟨operand, hoperand, rfl⟩ := List.mem_map.1 hmem
        exact ⟨List.mem_cons_of_mem arg hoperand, nofun⟩
    · intro other hmem
      rcases List.mem_cons.1 hmem with rfl | hmem
      · refine ⟨List.mem_cons_self, fun flag name value hknown => ?_⟩
        exact suffix_of_classify (hreading.trans (congrArg Except.ok hknown))
      · have hsound := ih hlater other hmem
        exact ⟨List.mem_cons_of_mem arg hsound.mem, hsound.suffix⟩

/-- **Run.**  All arguments are taken. -/
theorem isDrawn_consume {readings : List (Signs × Reading)} {given final : Given}
    (hreadings : ∀ reading ∈ readings, IsSound args reading) (hgiven : given.IsDrawn args)
    (h : g.consume readings given = .ok final) : final.IsDrawn args := by
  fun_induction g.consume readings given with
  | case1 given =>
    cases h
    exact hgiven
  | case2 arg flag name rest given hvalued text next hnext ih =>
    obtain ⟨hfirst, hrest⟩ := List.forall_mem_cons.1 hreadings
    have hvalue : ∀ v, attachedValue text = some v → IsDrawn args v := by
      intro v hv
      rw [attachedValue] at hv
      split at hv
      · cases hv
      · cases hv
        exact ⟨arg, hfirst.mem, hfirst.suffix flag name text rfl⟩
    exact ih hrest (isDrawn_give hgiven hvalue hnext) h
  | case3 => cases h
  | case4 arg flag name given hvalued value rest next hnext ih =>
    obtain ⟨-, hbehind⟩ := List.forall_mem_cons.1 hreadings
    obtain ⟨hoperand, hrest⟩ := List.forall_mem_cons.1 hbehind
    have hvalue : ∀ v, some value = some v → IsDrawn args v := by
      intro v hv
      cases hv
      exact ⟨value, hoperand.mem, List.suffix_refl value⟩
    exact ih hrest (isDrawn_give hgiven hvalue hnext) h
  | case5 => cases h
  | case6 => cases h
  | case7 => cases h
  | case8 arg reading rest given hreading ih => exact ih (List.forall_mem_cons.1 hreadings).2 hgiven h

theorem isDrawn_read {given : Given} (h : g.read args = .ok given) : given.IsDrawn args := by
  obtain ⟨readings, hreadings, hconsume⟩ := exists_of_bind_eq_ok h
  have hempty : Given.empty.IsDrawn args := fun _ _ hmem => absurd hmem List.not_mem_nil
  exact isDrawn_consume (isSound_of_classifyAll hreadings) hempty hconsume

end Grammar

theorem isDrawn_of_value? {args : List Signs} {given : Given} (h : given.IsDrawn args)
    {title : String} {value : Signs} (hvalue : given.value? title = some value) :
    IsDrawn args value := by
  obtain ⟨entry, hfound, hentry⟩ := Option.bind_eq_some_iff.1 hvalue
  obtain ⟨name, held⟩ := entry
  obtain rfl : held = some value := hentry
  exact h name value (List.mem_of_find?_eq_some hfound)

/-- **The name of a file with the source** is text, unless an argument is not. -/
theorem exists_arg_of_file {args : List Signs} {choice : SourceChoice} {output : Option Signs}
    {format : Option String} {name : Signs}
    (h : Command.parse args = .ok (some (.analyze choice output format)))
    (hfile : choice.file = some name) (hname : name.isText = false) :
    ∃ arg ∈ args, arg.isText = false := by
  obtain ⟨rest, given, rfl, hread, -, hmade⟩ := Command.parse_eq_analyze_iff.1 h
  cases hmade
  have hdrawn := isDrawn_of_value? (Grammar.isDrawn_read hread) hfile
  obtain ⟨arg, harg, htext⟩ := exists_arg_of_isDrawn hdrawn hname
  exact ⟨arg, List.mem_cons_of_mem _ harg, htext⟩

end ContractAudit.CommandLine
