import ManifestLint.Proofs.RunAccounts
import ManifestLint.Proofs.SarifReadBack
import Mathlib.Data.List.Nodup

/-!
# Results resolve to their rules

A log for code scanning has one result for each finding of a report, in their order.  A
result whose rule is registered has a position, and this is the only position at which the
tool describes that rule.  Every finding of a run names a registered rule.
-/

namespace ManifestLint

/-! ## The registry -/

namespace Rule

/-- No identifier is registered twice. -/
theorem nodup_ids : (all.map (·.id)).Nodup := by
  decide

theorem eq_of_id_eq {rule other : Rule} (member : rule ∈ all) (otherMember : other ∈ all)
    (same : rule.id = other.id) : rule = other :=
  List.inj_on_of_nodup_map nodup_ids member otherMember same

theorem find?_eq_some_iff {id : String} {rule : Rule} :
    find? id = some rule ↔ rule ∈ all ∧ rule.id = id := by
  constructor
  · intro found
    exact ⟨List.mem_of_find?_eq_some found, by simpa using List.find?_some found⟩
  · rintro ⟨member, rfl⟩
    cases found : find? rule.id with
    | none =>
        have unlike := List.find?_eq_none.mp found rule member
        simp at unlike
    | some other =>
        have isOther : other.id = rule.id := by simpa using List.find?_some found
        rw [eq_of_id_eq (List.mem_of_find?_eq_some found) member isOther]

theorem isSome_find?_iff {id : String} :
    (find? id).isSome = true ↔ ∃ rule ∈ all, rule.id = id := by
  simp only [Option.isSome_iff_exists, find?_eq_some_iff]

end Rule

namespace Report

/-- The position of a rule is the only one at which its identifier stands. -/
theorem ruleIndex?_eq_some_iff {id : String} {index : Nat} :
    ruleIndex? id = some index ↔ ∃ rule, Rule.all[index]? = some rule ∧ rule.id = id := by
  rw [ruleIndex?, List.findIdx?_eq_some_iff_getElem]
  constructor
  · rintro ⟨bound, isRule, _⟩
    exact ⟨_, List.getElem?_eq_getElem bound, by simpa using isRule⟩
  · rintro ⟨rule, there, rfl⟩
    obtain ⟨bound, rfl⟩ := List.getElem?_eq_some_iff.mp there
    refine ⟨bound, by simp, fun before smaller same => ?_⟩
    -- An earlier rule with the same identifier would be registered twice.
    have apart := List.nodup_iff_getElem?_ne_getElem?.mp Rule.nodup_ids before index smaller
      (by simpa using bound)
    have earlier : before < Rule.all.length := Nat.lt_trans smaller bound
    apply apart
    rw [List.getElem?_map, List.getElem?_map, there, List.getElem?_eq_getElem earlier]
    simpa using same

theorem isSome_ruleIndex?_iff {id : String} :
    (ruleIndex? id).isSome = true ↔ ∃ rule ∈ Rule.all, rule.id = id := by
  simp [ruleIndex?]

end Report

/-! ## Results -/

/-- A result says what a finding says.  It has a position exactly if the rule of the finding
is registered, and among the rules of the tool this rule stands there and nowhere else. -/
structure ResultEntry.Describes (rules : List RuleEntry) (finding : Finding)
    (result : ResultEntry) : Prop where
  ruleId : result.ruleId = finding.ruleId
  message : result.message = finding.message
  level : result.level = "error"
  located : result.uri.isSome = finding.file.isSome
  indexed : result.ruleIndex.isSome = true ↔ ∃ rule ∈ Rule.all, rule.id = finding.ruleId
  resolves : ∀ index, result.ruleIndex = some index → ∃ entry rule,
    rules[index]? = some entry ∧ entry.id = result.ruleId ∧
      Rule.find? result.ruleId = some rule ∧ entry.help = rule.remediation
  alone : ∀ index other entry, result.ruleIndex = some index → rules[other]? = some entry →
    entry.id = result.ruleId → other = index

theorem ResultEntry.describes_of (finding : Finding) :
    Describes (Rule.all.map .of) finding (.of finding) where
  ruleId := rfl
  message := rfl
  level := rfl
  located := Option.isSome_map
  indexed := Report.isSome_ruleIndex?_iff
  resolves := by
    intro index found
    obtain ⟨rule, there, isRule⟩ := Report.ruleIndex?_eq_some_iff.mp found
    have entry : (Rule.all.map RuleEntry.of)[index]? = some (.of rule) := by
      rw [List.getElem?_map, there]
      rfl
    have registered : Rule.find? finding.ruleId = some rule :=
      Rule.find?_eq_some_iff.mpr ⟨List.mem_of_getElem? there, isRule⟩
    exact ⟨.of rule, rule, entry, isRule, registered, rfl⟩
  alone := by
    intro index other entry found there isRule
    rw [List.getElem?_map, Option.map_eq_some_iff] at there
    obtain ⟨rule, there, rfl⟩ := there
    have position : Report.ruleIndex? finding.ruleId = some other :=
      Report.ruleIndex?_eq_some_iff.mpr ⟨rule, there, isRule⟩
    exact Option.some.inj (position.symm.trans found)

namespace Report

theorem describes_sarifLog (report : Report) :
    List.Forall₂ (ResultEntry.Describes report.sarifLog.rules) report.findings
      report.sarifLog.results := by
  rw [sarifLog, List.forall₂_map_right_iff, List.forall₂_same]
  exact fun finding _ => ResultEntry.describes_of finding

/-- The rule of every finding of a run is registered. -/
theorem isSome_find?_of_mem_lint {config : Config} {path : String} {clock : Clock}
    {tree : Option Tree} {finding : Finding}
    (member : finding ∈ (lint config path clock tree).findings) :
    (Rule.find? finding.ruleId).isSome = true := by
  obtain ⟨file, _, ⟨error, _, rfl⟩ | ⟨_, _, _, violation, _, _, _, rfl⟩⟩ :=
    mem_findings_lint_iff.mp member
  · exact Rule.isSome_find?_parseErrorRule
  · exact violation.isSome_find?

/-! ## Main statement -/

/-- The log of a report is a JSON document with one run, whose results describe the findings
one by one and lead to their rules; the log of a run has a position for every result. -/
theorem sarif_resolves :
    (∀ report : Report, Json.IsDocument report.sarif.toList ∧
      ∃ log, (Json.read report.sarif).bind SarifLog.ofJson = some log ∧
        List.Forall₂ (ResultEntry.Describes log.rules) report.findings log.results) ∧
    ∀ config path clock tree, ∃ log,
      (Json.read (lint config path clock tree).sarif).bind SarifLog.ofJson = some log ∧
        ∀ result ∈ log.results, result.ruleIndex.isSome = true := by
  constructor
  · intro report
    exact ⟨Json.isDocument_pretty report.wordNumbers_sarifJson, report.sarifLog,
      report.read_sarif, report.describes_sarifLog⟩
  · intro config path clock tree
    refine ⟨_, read_sarif _, ?_⟩
    rw [sarifLog, List.forall_mem_map]
    intro finding member
    exact isSome_ruleIndex?_iff.mpr (Rule.isSome_find?_iff.mp (isSome_find?_of_mem_lint member))

/-- A finding of a registered rule in a file, and one of an unknown rule in no file. -/
def mixedRules : Report where
  target := "ci"
  timestamp := "2024-05-01T00:00:00+00:00"
  trusted := false
  files :=
    [ { file := "ci/a.yml", resourcesLinted := 2, parseFailed := false, duration := 0,
        findings :=
          [ { ruleId := "trust/privileged", message := "\"rejected\"\n",
              file := some "ci/a.yml", resource := none, kind := none, document := some 0,
              remediation := none },
            { ruleId := "trust/unheard-of", message := "rejected", file := none,
              resource := none, kind := none, document := some 1, remediation := none } ] } ]

theorem sarif_resolves_mixedRules : ∃ log first second index entry,
    (Json.read mixedRules.sarif).bind SarifLog.ofJson = some log ∧
      log.results = [first, second] ∧
      first.message = "\"rejected\"\n" ∧ first.uri.isSome = true ∧
      first.ruleIndex = some index ∧ log.rules[index]? = some entry ∧
      entry.id = "trust/privileged" ∧ entry.help = Privilege.privileged.remediation ∧
      second.uri.isSome = false ∧ second.ruleIndex = none := by
  obtain ⟨-, log, read, describes⟩ := sarif_resolves.1 mixedRules
  obtain ⟨first, others, isFirst, rest, same⟩ := List.forall₂_cons_left_iff.mp describes
  obtain ⟨second, last, isSecond, nothing, rfl⟩ := List.forall₂_cons_left_iff.mp rest
  obtain rfl := List.forall₂_nil_left_iff.mp nothing
  have registered : first.ruleIndex.isSome = true := isFirst.indexed.mpr (by decide)
  obtain ⟨index, found⟩ := Option.isSome_iff_exists.mp registered
  obtain ⟨entry, rule, there, isRule, known, help⟩ := isFirst.resolves index found
  have remediation : rule.remediation = Privilege.privileged.remediation := by
    rw [isFirst.ruleId] at known
    have expected : Rule.find? "trust/privileged" = some Privilege.privileged.rule := by decide
    exact congrArg Rule.remediation (Option.some.inj (known.symm.trans expected))
  have unheardOf : second.ruleIndex = none := by
    rw [← Option.not_isSome_iff_eq_none, isSecond.indexed]
    decide
  exact ⟨log, first, second, index, entry, read, same, isFirst.message, isFirst.located, found,
    there, isRule.trans isFirst.ruleId, help.trans remediation, isSecond.located, unheardOf⟩

end Report

end ManifestLint
