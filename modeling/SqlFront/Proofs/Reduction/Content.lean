import SqlFront.Proofs.Token
import SqlFront.Proofs.Token.Alike
import SqlFront.Reduction

/-!
# SqlFront.Proofs.Reduction.Content

Which tokens the reduction keeps.

The reduction goes by labels and knows no token classes. A token that stands for a name, a value,
a type or an operator must therefore be no label of the table and no name of the grammar, or it
would be dropped or taken for a clause. `keeps_of_value` and its companions say that this never
happens, whatever the token is spelled like.
-/

namespace SqlFront
namespace Reduction

/-- The label stands for itself: it is in no row of the table, and it names nothing in the
grammar. -/
def Keeps (label : String) : Prop :=
  ruleFor label = .passThrough ∧ Token.isNonTerminal label = false

/-- The label is a name of the grammar that leaves its place to what is below it. -/
def Wraps (label : String) : Prop :=
  ruleFor label = .passThrough ∧ Token.isNonTerminal label = true

instance (label : String) : Decidable (Keeps label) := by unfold Keeps; infer_instance

instance (label : String) : Decidable (Wraps label) := by unfold Wraps; infer_instance

/-! ## The table -/

theorem ruleFor_of_mem {label : String} {rule : Rule} (h : (label, rule) ∈ table) :
    ruleFor label = rule := by
  have htable : ∀ row ∈ table, ruleFor row.1 = row.2 := by decide
  exact htable _ h

theorem ruleFor_eq_iff {label : String} {rule : Rule} (hrule : rule ≠ .passThrough) :
    ruleFor label = rule ↔ (label, rule) ∈ table := by
  refine ⟨fun h => ?_, ruleFor_of_mem⟩
  rw [ruleFor] at h
  cases hlookup : table.lookup label with
  | none =>
    rw [hlookup] at h
    exact absurd h.symm hrule
  | some found =>
    rw [hlookup] at h
    obtain rfl : found = rule := h
    obtain ⟨before, after, htable, -⟩ := List.lookup_eq_some_iff.mp hlookup
    rw [htable]
    exact List.mem_append_right before List.mem_cons_self

/-- Each kind belongs to one label. -/
theorem ruleFor_eq_relabel_iff {label clauseLabel : String} {kind : Kind}
    (hrow : (clauseLabel, .relabel kind) ∈ table) :
    ruleFor label = .relabel kind ↔ label = clauseLabel := by
  have hunique : ∀ row ∈ table, ∀ row' ∈ table, row.2 = row'.2 →
      row.2 = .delete ∨ row.1 = row'.1 := by
    decide
  refine ⟨fun h => ?_, fun h => h ▸ ruleFor_of_mem hrow⟩
  have hmem : (label, .relabel kind) ∈ table := (ruleFor_eq_iff (by simp)).mp h
  exact (hunique _ hmem _ hrow rfl).resolve_left nofun

/-- Only names of the grammar get a kind. -/
theorem isNonTerminal_of_relabel {label : String} {kind : Kind}
    (h : ruleFor label = .relabel kind) : Token.isNonTerminal label = true := by
  have htable : ∀ row ∈ table, row.2 = .delete ∨ Token.isNonTerminal row.1 = true := by decide
  have hmem : (label, .relabel kind) ∈ table := (ruleFor_eq_iff (by simp)).mp h
  exact (htable _ hmem).resolve_left nofun

theorem table_excludes {row : String × Rule} (h : row ∈ table) :
    Token.isIdentifier row.1 = false ∧ Token.isNumericLiteral row.1 = false ∧
      Token.isStringLiteral row.1 = false := by
  have htable : ∀ row ∈ table,
      (Token.isKeyword row.1 = true ∨ Token.isBelowLetters row.1 = true) ∧
        Token.isNumericLiteral row.1 = false ∧ Token.isStringLiteral row.1 = false := by
    decide
  obtain ⟨hkeyword | hbelow, hliterals⟩ := htable row h
  · exact ⟨by simp [Token.isIdentifier, hkeyword], hliterals⟩
  · exact ⟨Token.isIdentifier_of_isBelowLetters hbelow, hliterals⟩

theorem ruleFor_of_class {test : String → Bool} (htable : ∀ row ∈ table, test row.1 = false)
    {label : String} (h : test label = true) : ruleFor label = .passThrough := by
  have hnone : table.lookup label = none := by
    rw [List.lookup_eq_none_iff]
    intro row hrow
    rw [bne_iff_ne]
    rintro rfl
    rw [htable row hrow] at h
    cases h
  rw [ruleFor, hnone]; rfl

theorem isNonTerminal_of_head {label : String} (h : label.toList.head? ≠ some '<') :
    Token.isNonTerminal label = false := by
  simp [Token.isNonTerminal, h]

theorem wraps_of_mem :
    ∀ label ∈ [Label.columnName, Label.columnListTail, Label.condition, Label.value,
      Label.valueListTail, Label.columnDefsListTail], Wraps label := by
  decide

/-! ## Tokens with content -/

theorem keeps_of_identifier {token : String} (h : Token.isIdentifier token = true) :
    Keeps token := by
  have htable := ruleFor_of_class (fun row hrow => (table_excludes hrow).1) h
  refine ⟨htable, isNonTerminal_of_head fun hhead => ?_⟩
  have hbelow : Token.isBelowLetters token = true := by
    rw [Token.isBelowLetters, hhead]
    decide
  rw [Token.isIdentifier_of_isBelowLetters hbelow] at h
  cases h

theorem keeps_of_typeName {token : String} (h : Token.isTypeName token = true) :
    Keeps token := by
  rw [Token.isTypeName_eq] at h
  exact keeps_of_identifier h

theorem keeps_of_numericLiteral {token : String} (h : Token.isNumericLiteral token = true) :
    Keeps token := by
  have htable := ruleFor_of_class (fun row hrow => (table_excludes hrow).2.1) h
  refine ⟨htable, isNonTerminal_of_head fun hhead => ?_⟩
  obtain ⟨rest, hchars⟩ := List.head?_eq_some_iff.mp hhead
  rw [Token.isNumericLiteral, hchars] at h
  cases h

theorem keeps_of_stringLiteral {token : String} (h : Token.isStringLiteral token = true) :
    Keeps token := by
  have htable := ruleFor_of_class (fun row hrow => (table_excludes hrow).2.2) h
  refine ⟨htable, isNonTerminal_of_head fun hhead => ?_⟩
  rw [Token.isStringLiteral, hhead] at h
  cases h

/-- The reserved words and signs that stand for something. Some of them begin with `<`, but none
is written like a name of the grammar. -/
theorem keeps_of_mem :
    ∀ token ∈ "*" :: (Vocabulary.literalKeywords ++ Vocabulary.comparisonOperators),
      Keeps token := by
  decide

theorem keeps_of_value {token : String} (h : Token.isValue token = true) : Keeps token := by
  simp only [Token.isValue, Bool.or_eq_true] at h
  rcases h with ((h | h) | h) | h
  · exact keeps_of_identifier h
  · exact keeps_of_numericLiteral h
  · exact keeps_of_stringLiteral h
  · have hmem : token ∈ Vocabulary.literalKeywords := List.contains_iff_mem.mp h
    exact keeps_of_mem token (by simp [hmem])

theorem keeps_of_comparisonOperator {token : String}
    (h : Token.isComparisonOperator token = true) : Keeps token := by
  have hmem : token ∈ Vocabulary.comparisonOperators := List.contains_iff_mem.mp h
  exact keeps_of_mem token (by simp [hmem])

theorem keeps_of_selectable {token : String} (h : Token.isSelectable token = true) :
    Keeps token := by
  simp only [Token.isSelectable, Bool.or_eq_true, beq_iff_eq] at h
  rcases h with rfl | h
  · exact keeps_of_mem "*" List.mem_cons_self
  · exact keeps_of_identifier h

end Reduction
end SqlFront
