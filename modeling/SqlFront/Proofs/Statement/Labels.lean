import SqlFront.Proofs.Reduction.Meaning
import SqlFront.Proofs.Tree.Alike

/-!
# SqlFront.Proofs.Statement.Labels

Where the tokens of a statement are in its abstract tree. In its grammar tree they are all the
labels that name nothing in the grammar, as `SqlFront.Proofs.Statement.Mirror` says.

* `labels_ast`: read in preorder, the labels of the abstract tree that are not empty are the tokens
  that the reduction keeps.
-/

namespace SqlFront

/-- A label that is there. -/
def Label.isWritten (label : String) : Bool := label != ""

/-! ## Tokens that are kept -/

/-- A token that the reduction keeps as a leaf. -/
def Reduction.isKept (token : String) : Bool := ruleFor token == .passThrough

namespace Reduction

theorem filter_kept_of_keeps {token : String} (h : Keeps token) (tokens : List String) :
    (token :: tokens).filter isKept = token :: tokens.filter isKept :=
  List.filter_cons_of_pos (by rw [isKept, h.1]; rfl)

theorem filter_kept_of_delete {token : String} (h : (token, .delete) ∈ table)
    (tokens : List String) : (token :: tokens).filter isKept = tokens.filter isKept := by
  have hdropped : ¬isKept token = true := by
    rw [isKept, ruleFor_of_mem h]
    decide
  exact List.filter_cons_of_neg hdropped

theorem filter_kept_parenthesized (tokens : List String) :
    ("(" :: tokens ++ [")"]).filter isKept = tokens.filter isKept := by
  have hopen : ("(", Rule.delete) ∈ table := by decide
  have hclose : (")", Rule.delete) ∈ table := by decide
  rw [List.cons_append, filter_kept_of_delete hopen, List.filter_append,
    filter_kept_of_delete hclose, List.filter_nil, List.append_nil]

/-- The commas of a list are dropped, so its parts are left. -/
theorem filter_kept_listed {α : Type} (part : α → List String) (items : Listed α) :
    (items.tokens part).filter isKept = items.toList.flatMap fun a => (part a).filter isKept := by
  have hcomma : (",", Rule.delete) ∈ table := by decide
  rw [Listed.tokens, Listed.toList, List.filter_append, List.filter_flatMap, List.flatMap_cons]
  simp only [filter_kept_of_delete hcomma]

theorem filter_kept_items {test : String → Bool}
    (hkeeps : ∀ token, test token = true → Keeps token) (items : Listed (TokenOf test)) :
    (items.tokens fun item => [item.val]).filter isKept = items.toList.map Subtype.val := by
  have hitem : ∀ item : TokenOf test, [item.val].filter isKept = [item.val] := fun item =>
    filter_kept_of_keeps (hkeeps _ item.property) []
  rw [filter_kept_listed]
  simp only [hitem]
  exact List.map_eq_flatMap.symm

end Reduction

/-! ## Labels that are written -/

namespace Tree

theorem written_tagged (kind : Kind) (children : List Tree) :
    (tagged kind children).labels.filter Label.isWritten =
      (labelsAll children).filter Label.isWritten := by
  rw [tagged, labels, List.filter_cons_of_neg (by decide)]

theorem written_leaf {token : String} (h : token ≠ "") (kind : Kind) (trees : List Tree) :
    (labelsAll (.leaf token kind :: trees)).filter Label.isWritten =
      token :: (labelsAll trees).filter Label.isWritten := by
  rw [labelsAll, leaf, labels, labelsAll, List.cons_append, List.nil_append,
    List.filter_cons_of_pos (by simpa [Label.isWritten] using h)]

theorem written_cons (tree : Tree) (trees : List Tree) :
    (labelsAll (tree :: trees)).filter Label.isWritten =
      tree.labels.filter Label.isWritten ++ (labelsAll trees).filter Label.isWritten := by
  rw [labelsAll, List.filter_append]

theorem written_map {α : Type} {ast : α → Tree} {write : α → List String}
    (h : ∀ a, (ast a).labels.filter Label.isWritten = write a) (items : List α) :
    (labelsAll (items.map ast)).filter Label.isWritten = items.flatMap write := by
  induction items with
  | nil => rfl
  | cons a items ih => rw [List.map_cons, written_cons, h, ih, List.flatMap_cons]

theorem written_leaves {test : String → Bool} (h : test "" = false) (kind : Kind)
    (items : Listed (TokenOf test)) :
    (labelsAll (items.leaves kind)).filter Label.isWritten = items.toList.map Subtype.val := by
  have hleaf : ∀ item : TokenOf test,
      (leaf item.val kind).labels.filter Label.isWritten = [item.val] := by
    intro item
    simpa [labelsAll] using written_leaf (TokenOf.ne h item) kind []
  rw [Listed.leaves, written_map hleaf]
  exact List.map_eq_flatMap.symm

theorem written_condition (condition : Condition) :
    condition.ast.labels.filter Label.isWritten = condition.tokens.filter Reduction.isKept := by
  have hvalue : Token.isValue "" = false := by decide
  have hoperator : Token.isComparisonOperator "" = false := by decide
  rw [Condition.ast, written_tagged, written_leaf (TokenOf.ne hvalue condition.left),
    written_leaf (TokenOf.ne hoperator condition.operator),
    written_leaf (TokenOf.ne hvalue condition.right), labelsAll, List.filter_nil,
    Condition.tokens,
    Reduction.filter_kept_of_keeps (Reduction.keeps_of_value condition.left.property),
    Reduction.filter_kept_of_keeps
      (Reduction.keeps_of_comparisonOperator condition.operator.property),
    Reduction.filter_kept_of_keeps (Reduction.keeps_of_value condition.right.property),
    List.filter_nil]

theorem written_definition (definition : Definition) :
    definition.ast.labels.filter Label.isWritten = definition.tokens.filter Reduction.isKept := by
  have hname : Token.isIdentifier "" = false := by decide
  have htype : Token.isTypeName "" = false := by decide
  have hsize : Token.isNumericLiteral "" = false := by decide
  have hopen : ("(", Reduction.Rule.delete) ∈ Reduction.table := by decide
  have hclose : (")", Reduction.Rule.delete) ∈ Reduction.table := by decide
  rw [Definition.ast, written_tagged, List.cons_append, List.cons_append, List.nil_append,
    written_leaf (TokenOf.ne hname definition.name),
    written_leaf (TokenOf.ne htype definition.type), Definition.tokens_eq,
    Reduction.filter_kept_of_keeps (Reduction.keeps_of_identifier definition.name.property),
    Reduction.filter_kept_of_keeps (Reduction.keeps_of_typeName definition.type.property)]
  cases definition.size with
  | none => rfl
  | some size =>
    have hkeeps := Reduction.keeps_of_numericLiteral size.property
    rw [Option.toList_some, List.map_cons, List.map_nil, written_leaf (TokenOf.ne hsize size),
      labelsAll, List.filter_nil, optionalTokens, Reduction.filter_kept_of_delete hopen,
      Reduction.filter_kept_of_keeps hkeeps, Reduction.filter_kept_of_delete hclose,
      List.filter_nil]

theorem written_where (condition : Option Condition) :
    (labelsAll (condition.toList.map Condition.ast)).filter Label.isWritten =
      (optionalTokens "WHERE" Condition.tokens condition).filter Reduction.isKept := by
  have hword : ("WHERE", Reduction.Rule.delete) ∈ Reduction.table := by decide
  cases condition with
  | none => rfl
  | some condition =>
    rw [optionalTokens, Reduction.filter_kept_of_delete hword, ← written_condition]
    simp [labelsAll]

end Tree

/-- The labels of the abstract tree that are not empty are the tokens that the reduction keeps, in
preorder. -/
theorem Statement.labels_ast (statement : Statement) :
    statement.ast.labels.filter Label.isWritten = statement.tokens.filter Reduction.isKept := by
  have hname : Token.isIdentifier "" = false := by decide
  cases statement with
  | select columns table condition =>
    have hcolumns := Reduction.filter_kept_items (fun _ => Reduction.keeps_of_selectable) columns
    have htable := Reduction.keeps_of_identifier table.property
    rw [ast, Tree.written_tagged, List.cons_append, List.cons_append, List.nil_append,
      Tree.written_cons, Tree.written_tagged, Tree.written_leaves (by decide),
      Tree.written_leaf (TokenOf.ne hname table), Tree.written_where, tokens_select,
      Reduction.filter_kept_of_delete (by decide), List.filter_append, hcolumns,
      Reduction.filter_kept_of_delete (by decide),
      Reduction.filter_kept_of_keeps htable, List.filter_append,
      Reduction.filter_kept_of_delete (by decide), List.filter_nil,
      List.append_nil]
  | insert table columns values =>
    have hcolumns := Reduction.filter_kept_items (fun _ => Reduction.keeps_of_identifier) columns
    have hvalues := Reduction.filter_kept_items (fun _ => Reduction.keeps_of_value) values
    have htable := Reduction.keeps_of_identifier table.property
    rw [ast, Tree.written_tagged, Tree.written_leaf (TokenOf.ne hname table), Tree.written_cons,
      Tree.written_tagged, Tree.written_leaves (by decide), Tree.written_cons, Tree.written_tagged,
      Tree.written_leaves (by decide), Tree.labelsAll, List.filter_nil, List.append_nil,
      tokens_insert, Reduction.filter_kept_of_delete (by decide),
      Reduction.filter_kept_of_delete (by decide),
      Reduction.filter_kept_of_keeps htable, List.filter_append,
      Reduction.filter_kept_parenthesized, hcolumns,
      Reduction.filter_kept_of_delete (by decide), List.filter_append,
      Reduction.filter_kept_parenthesized, hvalues,
      Reduction.filter_kept_of_delete (by decide), List.filter_nil,
      List.append_nil]
  | createTable table definitions =>
    have htable := Reduction.keeps_of_identifier table.property
    rw [ast, Tree.written_tagged, Tree.written_leaf (TokenOf.ne hname table), Tree.written_cons,
      Tree.written_tagged, Tree.written_map Tree.written_definition, Tree.labelsAll,
      List.filter_nil, List.append_nil, tokens_createTable,
      Reduction.filter_kept_of_delete (by decide),
      Reduction.filter_kept_of_delete (by decide),
      Reduction.filter_kept_of_keeps htable, List.filter_append,
      Reduction.filter_kept_parenthesized, Reduction.filter_kept_listed,
      Reduction.filter_kept_of_delete (by decide), List.filter_nil,
      List.append_nil]

end SqlFront
