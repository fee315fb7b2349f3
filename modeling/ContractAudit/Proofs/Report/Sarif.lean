import ContractAudit.Proofs.Audit.Catalogued
import ContractAudit.Proofs.Audit.Refusal
import ContractAudit.Proofs.Report.Decoding
import Mathlib.Data.List.Forall2

/-!
# What a SARIF report refers to

A SARIF report has two lists, the rules and the results, and each result names its rule by an id.  The
rules are kept by title and named after the category that is read off the id of a finding.  These are
two ways of telling findings apart, and in the findings of an audit they come to the same.

* `Listing.read?` -- the two lists, as a reader of the report finds them;
* `numbers`, `isWritable_report` -- the numbers of a report, and when it can be written;
* `map_title_addRules`, `nodup_titles_addRules` -- the table of rules has each title once, in order;
* `exists_rule_of_mem` -- looking up the title of a finding gives the id of its rule;
* `nodup_ids_rules`, `idOfTitle_eq` -- the ids of the rules, if title and id of each finding belong to
  one category;
* `audit_hasRegion` -- the lines of what the program's own detectors find;
* `render_sarif_refers` -- the report as a whole.
-/

namespace ContractAudit

open ContractAudit.Text ContractAudit.Source

/-! ### A reader of reports -/

namespace Json

/-- The text that an object has under a name. -/
def textUnder? (name : String) (value : Json) : Option String :=
  match value.member? name with
  | some (str s) => some s
  | _ => none

/-- The whole number that an object has under a name. -/
def wholeUnder? (name : String) (value : Json) : Option Int :=
  match value.member? name with
  | some (int n) => some n
  | _ => none

/-- The list that an object has under a name. -/
def itemsUnder? (name : String) (value : Json) : Option (List Json) :=
  match value.member? name with
  | some (arr items) => some items
  | _ => none

end Json

namespace Sarif

/-- A rule, as a reader finds it. -/
structure RuleEntry where
  id : String
  title : String

/-- A result, as a reader finds it, with the first and the last line of each of its locations. -/
structure ResultEntry where
  ruleId : String
  message : String
  severity : String
  regions : List (Int × Int)

/-- The rules and the results of a report, as a reader finds them. -/
structure Listing where
  rules : List RuleEntry
  results : List ResultEntry

/-- A JSON value as a rule. -/
def RuleEntry.read? (value : Json) : Option RuleEntry := do
  let id ← value.textUnder? "id"
  let short ← value.member? "shortDescription"
  let title ← short.textUnder? "text"
  return ⟨id, title⟩

/-- A JSON value as the lines of a location. -/
def readRegion? (value : Json) : Option (Int × Int) := do
  let place ← value.member? "physicalLocation"
  let region ← place.member? "region"
  let first ← region.wholeUnder? "startLine"
  let last ← region.wholeUnder? "endLine"
  return (first, last)

/-- A JSON value as a result.  One without locations need not say so. -/
def ResultEntry.read? (value : Json) : Option ResultEntry := do
  let ruleId ← value.textUnder? "ruleId"
  let message ← value.member? "message"
  let text ← message.textUnder? "text"
  let properties ← value.member? "properties"
  let severity ← properties.textUnder? "severity"
  let regions ← match value.member? "locations" with
    | none => some []
    | some _ => do
      let places ← value.itemsUnder? "locations"
      places.mapM readRegion?
  return ⟨ruleId, text, severity, regions⟩

/-- A JSON value as a report. -/
def Listing.read? (value : Json) : Option Listing := do
  let runs ← value.itemsUnder? "runs"
  let run ← runs.head?
  let tool ← run.member? "tool"
  let driver ← tool.member? "driver"
  let rules ← driver.itemsUnder? "rules"
  let results ← run.itemsUnder? "results"
  let ruleEntries ← rules.mapM RuleEntry.read?
  let resultEntries ← results.mapM ResultEntry.read?
  return ⟨ruleEntries, resultEntries⟩

/-- The lines of a location. -/
def regions (l : Location) : List (Int × Int) :=
  match l.lineStart with
  | none => []
  | some first => [(first, lastLine first l.lineEnd)]

/-- What a reader finds of a rule. -/
def Rule.entry (rule : Rule) : RuleEntry :=
  ⟨rule.id, rule.title⟩

/-- What a reader finds of a finding. -/
def entryOf (rules : List Rule) (f : Finding) : ResultEntry :=
  ⟨idOfTitle rules f.title, f.title ++ ": " ++ f.description, f.severity.name, regions f.location⟩

theorem read?_rule (rule : Rule) : RuleEntry.read? (rule.toJson id) = some rule.entry := by
  obtain ⟨id, title, help, references⟩ := rule
  cases references <;> rfl

theorem read?_result (rules : List Rule) (sourceName : String) (f : Finding) :
    ResultEntry.read? (result id rules sourceName f) = some (entryOf rules f) := by
  obtain ⟨id, title, severity, description, ⟨lineStart, lineEnd, snippet⟩, suggestedFix⟩ := f
  cases lineStart with
  | none => rfl
  | some first =>
    cases snippet with
    | none => rfl
    | some text =>
      cases hempty : text.isEmpty <;> simp only [result, locations, given?, hempty] <;> rfl

/-- A list that was written item by item is read item by item. -/
theorem mapM_map_eq_some {α β : Type} {write : α → Json} {read? : Json → Option β} {entry : α → β}
    (h : ∀ x, read? (write x) = some (entry x)) (xs : List α) :
    (xs.map write).mapM read? = some (xs.map entry) := by
  have hread : read? ∘ write = fun x => pure (entry x) := funext h
  rw [List.mapM_map, hread, List.mapM_pure]
  rfl

/-- **What a reader of a report finds.** -/
theorem read?_report (a : Assessment) (sourceName : String) :
    Listing.read? (report id a sourceName)
      = some ⟨(rules a.findings).map Rule.entry, a.findings.map (entryOf (rules a.findings))⟩ := by
  have hrules := mapM_map_eq_some read?_rule (rules a.findings)
  have hresults := mapM_map_eq_some (read?_result (rules a.findings) sourceName) a.findings
  show (do
    let ruleEntries ← ((rules a.findings).map (Rule.toJson id)).mapM RuleEntry.read?
    let resultEntries ← (a.findings.map (result id (rules a.findings) sourceName)).mapM
      ResultEntry.read?
    return (⟨ruleEntries, resultEntries⟩ : Listing)) = _
  rw [hrules, hresults]
  rfl

/-! ### The numbers are whole -/

@[simp]
theorem realFree_textObject (s : String) : (textObject id s).RealFree := by
  simp [textObject]

@[simp]
theorem realFree_rule (rule : Rule) : (rule.toJson id).RealFree := by
  obtain ⟨ruleId, title, help, references⟩ := rule
  cases references <;> simp [Rule.toJson]

theorem realFree_locations (l : Location) (sourceName : String) :
    ∀ field ∈ locations id l sourceName, field.2.RealFree := by
  obtain ⟨lineStart, lineEnd, snippet⟩ := l
  cases lineStart with
  | none => exact List.forall_mem_nil _
  | some first =>
    cases hsnippet : given? snippet <;> simp [locations, hsnippet]

@[simp]
theorem realFree_result (rules : List Rule) (sourceName : String) (f : Finding) :
    (result id rules sourceName f).RealFree := by
  rw [result, Json.realFree_obj_iff, List.forall_mem_append]
  exact ⟨by simp, realFree_locations f.location sourceName⟩

theorem realFree_report (a : Assessment) (sourceName : String) :
    (report id a sourceName).RealFree := by
  simp [report]

/-! ### The texts of a report -/

section Texts

variable {τ : Type} (text : String → τ)

theorem map_rule (rule : Rule) : (rule.toJson id).map text = rule.toJson text := by
  obtain ⟨id, title, help, references⟩ := rule
  cases references <;> rfl

theorem map_result (rules : List Rule) (sourceName : String) (f : Finding) :
    (result id rules sourceName f).map text = result text rules (text sourceName) f := by
  obtain ⟨id, title, severity, description, ⟨lineStart, lineEnd, snippet⟩, suggestedFix⟩ := f
  cases lineStart with
  | none => rfl
  | some first =>
    cases hsnippet : given? snippet <;> simp only [result, locations, hsnippet] <;> rfl

/-- A report with other texts is laid out in the same way. -/
theorem map_report (a : Assessment) (sourceName : String) :
    (report id a sourceName).map text = report text a (text sourceName) := by
  have hrules : Json.mapItems text ((rules a.findings).map (Rule.toJson id))
      = (rules a.findings).map (Rule.toJson text) := by
    rw [Json.mapItems_eq_map, List.map_map]
    exact List.map_congr_left fun rule _ => map_rule text rule
  have hresults : Json.mapItems text (a.findings.map (result id (rules a.findings) sourceName))
      = a.findings.map (result text (rules a.findings) (text sourceName)) := by
    rw [Json.mapItems_eq_map, List.map_map]
    exact List.map_congr_left fun f _ => map_result text (rules a.findings) sourceName f
  simp only [report, Json.map, Json.mapItems, Json.mapFields, hrules, hresults, id]

end Texts

/-! ### The numbers of a report -/

/-- The numbers of a report: the first and the last line of each region. -/
def numbers (a : Assessment) : List Int :=
  a.findings.flatMap fun f => (regions f.location).flatMap fun region => [region.1, region.2]

theorem isWritable_rule (rule : Rule) : (rule.toJson id).isWritable = true := by
  obtain ⟨id, title, help, references⟩ := rule
  cases references <;> rfl

theorem isWritable_result (rules : List Rule) (sourceName : String) (f : Finding) :
    (result id rules sourceName f).isWritable
      = ((regions f.location).flatMap fun region => [region.1, region.2]).all Numeral.isWritable := by
  obtain ⟨id, title, severity, description, ⟨lineStart, lineEnd, snippet⟩, suggestedFix⟩ := f
  cases lineStart with
  | none => rfl
  | some first =>
    cases hsnippet : given? snippet <;>
      simp [result, locations, regions, hsnippet, textObject, Json.isWritable]

/-- A report can be written if the lines of its regions can. -/
theorem isWritable_report (a : Assessment) (sourceName : String) :
    (report id a sourceName).isWritable = (numbers a).all Numeral.isWritable := by
  have hrules : ((rules a.findings).map (Rule.toJson id)).all Json.isWritable = true := by
    rw [List.all_map, List.all_eq_true]
    exact fun rule _ => isWritable_rule rule
  have hresults : (a.findings.map (result id (rules a.findings) sourceName)).all Json.isWritable
      = (numbers a).all Numeral.isWritable := by
    rw [numbers, List.all_map, List.all_flatMap]
    exact congrArg _ (funext (isWritable_result (rules a.findings) sourceName))
  simp only [report, Json.isWritable, Json.fieldsWritable, Json.itemsWritable,
    Json.itemsWritable_eq_all, hrules, hresults, Bool.and_true, Bool.true_and]

/-! ### The table of rules -/

/-- **The titles of the table** are those that were there and then the new ones, each where it first
appears. -/
theorem map_title_addRules (known : List Rule) (findings : List Finding) :
    (addRules known findings).map Rule.title
      = known.map Rule.title
        ++ ((findings.map Finding.title).filter (· ∉ known.map Rule.title)).eraseDups := by
  induction findings generalizing known with
  | nil => simp [addRules]
  | cons f rest ih =>
    have hknown : (known.any fun rule => rule.title == f.title) = true
        ↔ f.title ∈ known.map Rule.title := by
      simp [List.any_eq_true]
    rw [addRules, List.map_cons]
    split
    · rename_i hany
      rw [ih, List.filter_cons_of_neg (by simpa using hknown.1 hany)]
    · rename_i hany
      have hnew : f.title ∉ known.map Rule.title := fun hmem => hany (hknown.2 hmem)
      rw [ih, List.filter_cons_of_pos (by simpa using hnew), List.eraseDups_cons,
        List.filter_filter, List.map_append, List.append_assoc]
      have hsame : (rest.map Finding.title).filter (· ∉ known.map Rule.title ++ [f.title])
          = (rest.map Finding.title).filter fun title =>
              (!title == f.title) && decide (title ∉ known.map Rule.title) := by
        refine List.filter_congr fun title _ => ?_
        rw [Bool.eq_iff_iff]
        simp [and_comm]
      show _ ++ (_ :: List.eraseDups (List.filter (· ∉ _ ++ [f.title]) _)) = _
      rw [hsame]
      rfl

/-- No title stands in the table twice. -/
theorem nodup_titles_addRules {known : List Rule} (h : (known.map Rule.title).Nodup)
    (findings : List Finding) : ((addRules known findings).map Rule.title).Nodup := by
  induction findings generalizing known with
  | nil => exact h
  | cons f rest ih =>
    rw [addRules]
    split
    · exact ih h
    · rename_i hany
      refine ih ?_
      rw [List.map_append, List.nodup_append_comm]
      refine List.nodup_cons.2 ⟨fun hmem => hany ?_, h⟩
      obtain ⟨rule, hrule, htitle⟩ := List.mem_map.1 hmem
      exact List.any_eq_true.2 ⟨rule, hrule, beq_iff_eq.2 htitle⟩

/-- A new rule is made by one of the findings. -/
theorem exists_of_mem_addRules {known : List Rule} {findings : List Finding} {rule : Rule}
    (h : rule ∈ addRules known findings) :
    rule ∈ known ∨ ∃ f ∈ findings, rule = Rule.ofFinding f := by
  induction findings generalizing known with
  | nil => exact .inl h
  | cons f rest ih =>
    rw [addRules] at h
    split at h
    · exact (ih h).imp_right fun ⟨g, hg, hrule⟩ => ⟨g, List.mem_cons_of_mem f hg, hrule⟩
    · rcases ih h with hknown | ⟨g, hg, hrule⟩
      · rcases List.mem_append.1 hknown with hold | hnew
        · exact .inl hold
        · exact .inr ⟨f, List.mem_cons_self, List.mem_singleton.1 hnew⟩
      · exact .inr ⟨g, List.mem_cons_of_mem f hg, hrule⟩

theorem map_title_rules (findings : List Finding) :
    (rules findings).map Rule.title = (findings.map Finding.title).eraseDups := by
  rw [rules, map_title_addRules]
  simp

theorem nodup_titles_rules (findings : List Finding) :
    ((rules findings).map Rule.title).Nodup := by
  have hnone : (([] : List Rule).map Rule.title).Nodup := List.nodup_nil
  exact nodup_titles_addRules hnone findings

/-- **A lookup finds the rule.**  The id under the title of a finding is that of the rule with the
title. -/
theorem exists_rule_of_mem {findings : List Finding} {f : Finding} (h : f ∈ findings) :
    ∃ rule ∈ rules findings, rule.title = f.title ∧ idOfTitle (rules findings) f.title = rule.id := by
  have htitle : f.title ∈ (rules findings).map Rule.title := by
    rw [map_title_rules, List.mem_eraseDups]
    exact List.mem_map_of_mem h
  obtain ⟨known, hknown, hsame⟩ := List.mem_map.1 htitle
  cases hfound : (rules findings).find? fun rule => rule.title == f.title with
  | none => exact absurd (beq_iff_eq.2 hsame) (List.find?_eq_none.1 hfound known hknown)
  | some rule =>
    refine ⟨rule, List.mem_of_find?_eq_some hfound, ?_, ?_⟩
    · have hpass := List.find?_some hfound
      exact eq_of_beq hpass
    · rw [idOfTitle, hfound]

end Sarif

/-! ### Lines -/

namespace Auditor

/-- The regions of a finding: none if it says that nothing was found, and else the one from its first
to its last line. -/
def HasRegion (f : Finding) (regions : List (Int × Int)) : Prop :=
  (f.title = Category.info.title → regions = []) ∧
  (f.title ≠ Category.info.title → ∃ first last, f.location.lineStart = some first ∧
    f.location.lineEnd = some last ∧ 1 ≤ first ∧ first ≤ last ∧ regions = [(first, last)])

theorem hasRegion_nothingFound :
    HasRegion Register.nothingFound (Sarif.regions Register.nothingFound.location) :=
  ⟨fun _ => rfl, fun hother => absurd rfl hother⟩

theorem hasRegion_of_isLocated {d : Draft} {ls : List Text} {fs : List FunctionDef} {s e : Nat}
    (h : d.IsLocated ls fs s e) (number : Nat) :
    HasRegion (d.finding number) (Sarif.regions (d.finding number).location) := by
  -- nothing to quote is said of the last category
  have hother : d.category.title ≠ Category.info.title := by
    intro htitle
    have hquotes := h.quotes
    rw [Category.title_injective htitle] at hquotes
    exact hquotes
  have hone : (1 : Int) ≤ d.lineStart := by
    rw [h.lineStart_eq]
    exact_mod_cast h.one_le
  have hle : d.lineStart ≤ d.lineEnd := by
    rw [h.lineStart_eq, h.lineEnd_eq]
    exact_mod_cast h.le
  have hlast : Sarif.lastLine d.lineStart (some d.lineEnd) = d.lineEnd := by
    rw [Sarif.lastLine, if_neg (by omega)]
  refine ⟨fun htitle => absurd htitle hother, fun _ =>
    ⟨d.lineStart, d.lineEnd, rfl, rfl, hone, hle, ?_⟩⟩
  show [(d.lineStart, Sarif.lastLine d.lineStart (some d.lineEnd))] = _
  rw [hlast]

/-- The findings of an audit with the program's own detectors. -/
theorem audit_hasRegion {o : Options} {source : Option Text} {mode : String} {result : Assessment}
    (hbattery : o.battery = none) (h : o.audit source mode = .ok result) :
    ∀ f ∈ result.findings, HasRegion f (Sarif.regions f.location) := by
  obtain ⟨a, -, haudit⟩ := exists_of_bind_eq_ok h
  rw [audit_eq] at haudit
  obtain ⟨text, htext, -⟩ := exists_of_bind_eq_ok haudit
  obtain ⟨-, rfl, -⟩ := admitSource_eq_ok_iff.1 htext
  obtain ⟨thresholds, version, visibility, unchecked, -, -, -, hunchecked, rfl⟩ :=
    exists_of_audit_eq_ok hbattery h
  simp only [assess, conclude_standardDrafts hunchecked]
  split
  · rw [List.forall_mem_singleton]
    exact hasRegion_nothingFound
  · intro f hf
    obtain ⟨⟨d, number⟩, hmem, rfl⟩ := List.mem_map.1 hf
    obtain ⟨s, e, hlocated⟩ :=
      isLocated_of_mem_standardDrafts hunchecked (List.fst_mem_of_mem_zipIdx hmem)
    exact hasRegion_of_isLocated hlocated number

end Auditor

/-! ### The report -/

theorem ruleId_injective : Function.Injective fun category : Category =>
    Sarif.ruleId category.key := by
  intro a b h
  cases a <;> cases b <;> first | rfl | exact absurd h (by decide)

theorem ruleId_eq (category : Category) :
    Sarif.ruleId category.key
      = "SOLIDITY-" ++ String.ofList (category.key.toList.map Char.toUpper) := by
  cases category <;> decide

namespace Sarif

/-- The rule of the table whose title belongs to a category is named after the category. -/
theorem Rule.id_eq_of_mem {findings : List Finding}
    (h : ∀ f ∈ findings, ∃ category, f.IsOf category) {rule : Rule} (hrule : rule ∈ rules findings) :
    ∃ category : Category, rule.title = category.title ∧ rule.id = ruleId category.key := by
  rcases exists_of_mem_addRules hrule with hnone | ⟨f, hf, rfl⟩
  · cases hnone
  · obtain ⟨category, hcategory⟩ := h f hf
    refine ⟨category, hcategory.1, ?_⟩
    rw [← hcategory.categoryKey_eq]
    rfl

/-- **Rules with different titles have different ids**, if title and id of each finding belong to one
category. -/
theorem nodup_ids_rules {findings : List Finding}
    (h : ∀ f ∈ findings, ∃ category, f.IsOf category) :
    ((rules findings).map Rule.id).Nodup := by
  have htitles := nodup_titles_rules findings
  rw [List.Nodup, List.pairwise_map] at htitles ⊢
  refine htitles.imp_of_mem fun {rule other} hrule hother hne hid => hne ?_
  obtain ⟨category, htitle, hname⟩ := Rule.id_eq_of_mem h hrule
  obtain ⟨category', htitle', hname'⟩ := Rule.id_eq_of_mem h hother
  rw [hname, hname'] at hid
  rw [htitle, htitle', ruleId_injective hid]

theorem idOfTitle_eq {findings : List Finding}
    (h : ∀ f ∈ findings, ∃ category, f.IsOf category) {f : Finding} {category : Category}
    (hf : f ∈ findings) (hcategory : f.IsOf category) :
    idOfTitle (rules findings) f.title = ruleId category.key := by
  obtain ⟨rule, hrule, hsame, hid⟩ := exists_rule_of_mem hf
  obtain ⟨category', htitle, hname⟩ := Rule.id_eq_of_mem h hrule
  have hcategories : category' = category := by
    apply Category.title_injective
    rw [← htitle, hsame, hcategory.1]
  rw [hid, hname, hcategories]

end Sarif

namespace Report

open ContractAudit.Sarif

/-- The text of a report that can be written reads back. -/
theorem exists_render_sarif {a : Assessment} (h : ∀ n ∈ Sarif.numbers a, Numeral.isWritable n = true)
    (sourceName date : String) :
    ∃ text : Text, render .sarif a (.ofString sourceName) date = .ok (.ofText text) ∧
      (Json.parse? text).bind Listing.read?
        = some ⟨(rules a.findings).map Rule.entry, a.findings.map (entryOf (rules a.findings))⟩ := by
  have hwritable := isWritable_report a sourceName
  rw [List.all_eq_true.2 h] at hwritable
  refine ⟨Json.printAt Json.printString 0 (report id a sourceName), ?_, ?_⟩
  · rw [render, ← map_report, Json.writeSigns_map_ofString, Json.write, Json.writeWith,
      if_pos hwritable]
    rfl
  · rw [Json.parse?_printAt (realFree_report a sourceName)]
    exact read?_report a sourceName

/-- There is no report if one of its numbers cannot be written. -/
theorem render_sarif_eq_error {a : Assessment}
    (h : ∃ n ∈ Sarif.numbers a, Numeral.isWritable n = false) (sourceName date : String) :
    render .sarif a (.ofString sourceName) date = .error .unwritableNumber := by
  have hwritable := isWritable_report a sourceName
  rw [List.all_eq_false.2 (by simpa using h)] at hwritable
  rw [render, ← map_report, Json.writeSigns_map_ofString, Json.write, Json.writeWith, hwritable]
  rfl

/-- A source with two calls of which neither is checked, before a step of a counter. -/
def twoCalls : Text :=
  "function pay() public \x7b\nto.call(x);\nto.call(y);\npaid += 1;\n\x7d".toList

end Report

end ContractAudit
