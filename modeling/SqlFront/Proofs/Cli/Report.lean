import SqlFront.Proofs.Cli.Session
import SqlFront.Proofs.Json.Read
import SqlFront.Proofs.Json.Sorted

/-!
# SqlFront.Proofs.Cli.Report

What a query gives as JSON is in the analysis.

The report holds the selected stages only, has its fields in another order and is laid out in lines.
None of this is seen by a reader of values: the selection leaves fields out, the order of fields
does not count, and the layout says the same tokens.

* `exists_selectedStages`: the fields before they are sorted.
* `stdout_oneShot_decodes`: the text of the report beside the text of the analysis.
-/

namespace SqlFront
namespace Cli

variable {display : Display} {config : Config} {query : String} {analysis : Analysis}

/-- The stages of an analysis under their names. -/
def stages (analysis : Analysis) : List (String × Json) :=
  [("tokens", .array (analysis.tokens.map .text)), ("cst", analysis.cst.toJson),
   ("ast", analysis.ast.toJson)]

theorem exists_selectedStages (config : Config) (analysis : Analysis) :
    ∃ fields, selectedStages config analysis = .object fields ∧
      fields.Sublist (stages analysis) ∧
      ∀ key, key ∈ fields.map Prod.fst ↔
        key = "tokens" ∧ config.showTokens ∨ key = "cst" ∧ config.showCst ∨
          key = "ast" ∧ config.showAst := by
  refine ⟨_, rfl, ?_, ?_⟩
  · cases config.showTokens <;> cases config.showCst <;> cases config.showAst <;> simp [stages]
  · cases config.showTokens <;> cases config.showCst <;> cases config.showAst <;> simp

theorem stdout_oneShot (hanalysis : analyze query = .ok analysis)
    (hformat : config.format = .json) :
    (oneShot display config query).2.stdout =
      (selectedStages config analysis).sorted.indented 0 ++ "\n" := by
  rw [Session.stdout_oneShot_eq, hanalysis]
  simp only [report, hformat]

/-- The text of a query in the format of JSON is an object with ascending keys, those of the stages
that are shown. The compact text of the analysis has all three, and for each key in common the two
values are the same. -/
theorem stdout_oneShot_decodes (display : Display) (config : Config) (query : String)
    (analysis : Analysis) (hanalysis : analyze query = .ok analysis)
    (hformat : config.format = .json) :
    ∃ fields whole,
      Json.ofText? (oneShot display config query).2.stdout = some (.object fields) ∧
      Json.ofText? analysis.toJson.compact = some (.object whole) ∧
      (fields.map Prod.fst).Pairwise (· < ·) ∧
      (∀ key, key ∈ fields.map Prod.fst ↔
        key = "tokens" ∧ config.showTokens ∨ key = "cst" ∧ config.showCst ∨
          key = "ast" ∧ config.showAst) ∧
      whole.map Prod.fst = ["tokens", "cst", "ast"] ∧
      ∀ key value, (key, value) ∈ fields →
        ∃ value', (key, value') ∈ whole ∧ Json.Same value' value := by
  obtain ⟨selected, hselected, hsublist, hshown⟩ := exists_selectedStages config analysis
  have hkeys := Json.keys_sortedFields selected
  have hdifferent : ((Json.sortedFields selected).map Prod.fst).Nodup := by
    have hstages : ((stages analysis).map Prod.fst).Nodup := by simp [stages]
    exact hkeys ▸ (hsublist.map Prod.fst).nodup hstages
  have hend : Json.Spells "\n" [] := Json.spells_newLine 0
  have hprinted := (Json.spells_indented 0 (selectedStages config analysis).sorted).append hend
  rw [List.append_nil, ← stdout_oneShot hanalysis hformat] at hprinted
  refine ⟨Json.inOrder (Json.sortedFields selected), stages analysis, ?_,
    Json.ofText?_compact analysis.toJson, Json.keys_inOrder_ascend hdifferent, ?_, rfl, ?_⟩
  · rw [Json.ofText?_of_spells hprinted, hselected, Json.sorted_object]
  · intro key
    rw [(Json.keys_inOrder_perm _).mem_iff, hkeys, hshown]
  · intro key value hmem
    obtain ⟨value', hfield, hsame⟩ := Json.exists_same_of_mem hmem
    exact ⟨value', hsublist.subset hfield, hsame⟩

/-- A report without one of the stages, for a query with a literal that reads like JSON. -/
theorem stdout_oneShot_decodes_literal :
    let display : Display := { color := true, verbose := true }
    let config : Config := { format := .json, showCst := false }
    let query := "SELECT a FROM t WHERE b = '\",\n\x7b\"cst\":\x7d';"
    ∃ analysis fields whole, analyze query = .ok analysis ∧
      Json.ofText? (oneShot display config query).2.stdout = some (.object fields) ∧
      Json.ofText? analysis.toJson.compact = some (.object whole) ∧
      "ast" ∈ fields.map Prod.fst ∧ "cst" ∉ fields.map Prod.fst ∧
      ∀ key value, (key, value) ∈ fields →
        ∃ value', (key, value') ∈ whole ∧ Json.Same value' value := by
  intro display config query
  have hanalysed : (analyze query).isOk = true := by decide +kernel
  cases h : analyze query with
  | error fault => rw [h] at hanalysed; cases hanalysed
  | ok analysis =>
    obtain ⟨fields, whole, hprinted, hwhole, -, hshown, -, hsame⟩ :=
      stdout_oneShot_decodes display config query analysis h rfl
    exact ⟨analysis, fields, whole, rfl, hprinted, hwhole, by simp [hshown, config],
      by simp [hshown, config], hsame⟩

end Cli
end SqlFront
