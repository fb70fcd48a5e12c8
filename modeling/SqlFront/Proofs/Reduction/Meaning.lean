import SqlFront.Analysis
import SqlFront.Proofs.Reduction.Content
import SqlFront.Proofs.Statement.Reading

/-!
# SqlFront.Proofs.Reduction.Meaning

What a statement means, and that the reduction finds it.

`Statement.ast` writes the abstract tree of a statement down directly, part by part. The reduction
knows only labels; on the grammar tree of a statement it gives this tree and never fails.

* `toAst_tree`: the grammar tree of a statement reduces to its abstract tree.
* `toAst_of_parse`: hence every parsed tree is reduced, and a query is analysed exactly if its
  tokens are parsed.
-/

namespace SqlFront

/-! ## Abstract trees -/

def Listed.leaves {test : String → Bool} (kind : Kind) (items : Listed (TokenOf test)) :
    List Tree :=
  items.toList.map fun item => .leaf item.val kind

def Condition.ast (condition : Condition) : Tree :=
  .tagged .binaryPredicate
    [.leaf condition.left.val .leftOperand, .leaf condition.operator.val .operator,
     .leaf condition.right.val .rightOperand]

/-- The size stands beside the data type, not below it. -/
def Definition.ast (definition : Definition) : Tree :=
  .tagged .columnDefinition
    ([.leaf definition.name.val .identifier, .leaf definition.type.val .dataType] ++
      definition.size.toList.map fun size => .leaf size.val .value)

def Statement.ast : Statement → Tree
  | .select columns table condition =>
    .tagged .select
      ([.tagged .columnList (columns.leaves .identifier), .leaf table.val .tableName] ++
        condition.toList.map Condition.ast)
  | .insert table columns values =>
    .tagged .insert
      [.leaf table.val .tableName, .tagged .columnList (columns.leaves .identifier),
       .tagged .valueList (values.leaves .value)]
  | .createTable table definitions =>
    .tagged .createTable
      [.leaf table.val .tableName,
       .tagged .columnDefinitions (definitions.toList.map Definition.ast)]

namespace Reduction

/-! ## Nodes inside a clause -/

variable {kind : Kind}

theorem survivors_of_delete {token : String} (h : (token, .delete) ∈ table) :
    survivors kind (.token token) = [] := by
  simp [Tree.token, Tree.plain, survivors, ruleFor_of_mem h]

theorem survivors_of_keeps {token : String} (h : Keeps token) :
    survivors kind (.token token) = [.leaf token kind] := by
  simp [Tree.token, Tree.plain, survivors, h.1, h.2]

theorem survivors_of_wraps {label : String} (h : Wraps label) (children : List Tree) :
    survivors kind (.plain label children) = survivorsAll kind children := by
  simp [Tree.plain, survivors, h.1, h.2]

theorem survivors_wrapped {label token : String} (hlabel : Wraps label) (h : Keeps token) :
    survivors kind (Statement.wrapped label token) = [.leaf token kind] := by
  rw [Statement.wrapped, survivors_of_wraps hlabel, survivorsAll, survivors_of_keeps h]
  rfl

/-- The tail of a list, however deep, gives what its items give, in order. -/
theorem survivors_tailTree {label : String} (h : Wraps label) (items : List Tree) :
    survivors kind (tailTree label items) = survivorsAll kind items := by
  induction items with
  | nil => exact survivors_of_wraps h []
  | cons item items ih =>
    have hcomma : survivors kind (.token ",") = [] :=
      survivors_of_delete (by simp [Reduction.table])
    rw [tailTree, survivors_of_wraps h]
    simp only [survivorsAll, hcomma, ih, List.nil_append, List.append_nil]

theorem survivorsAll_map {α : Type} {node ast : α → Tree}
    (hnode : ∀ a, survivors kind (node a) = [ast a]) (items : List α) :
    survivorsAll kind (items.map node) = items.map ast := by
  induction items with
  | nil => rfl
  | cons a items ih => rw [List.map_cons, survivorsAll, hnode, ih]; rfl

theorem survivors_condition (condition : Condition) :
    survivors kind condition.tree =
      [.leaf condition.left.val kind, .leaf condition.operator.val kind,
       .leaf condition.right.val kind] := by
  have hlabel : Wraps Label.condition := wraps_of_mem _ (by simp)
  rw [Condition.tree, survivors_of_wraps hlabel]
  simp only [survivorsAll, survivors_of_keeps (keeps_of_value condition.left.property),
    survivors_of_keeps (keeps_of_comparisonOperator condition.operator.property),
    survivors_of_keeps (keeps_of_value condition.right.property)]
  rfl

theorem survivors_definition (definition : Definition) :
    survivors kind definition.tree = [definition.ast] := by
  have hrule : ruleFor Label.columnDef = .relabel .columnDefinition :=
    ruleFor_of_mem (by simp [Reduction.table])
  have htype : ruleFor Label.dataType = .relabel .dataType :=
    ruleFor_of_mem (by simp [Reduction.table])
  obtain ⟨name, type, size⟩ := definition
  cases size with
  | none =>
    simp [Definition.tree, Definition.ast, Tree.plain, Tree.token, survivors, hrule,
      Reduction.definition, definitionPart, htype, dataType]
  | some size =>
    have hopen : size.val ≠ "(" :=
      TokenOf.ne (Token.isNumericLiteral_of_symbol (by simp [Vocabulary.symbols])) size
    have hclose : size.val ≠ ")" :=
      TokenOf.ne (Token.isNumericLiteral_of_symbol (by simp [Vocabulary.symbols])) size
    simp [Definition.tree, Definition.ast, Tree.plain, Tree.token, survivors, hrule,
      Reduction.definition, definitionPart, htype, dataType, hopen, hclose]

/-! ## Clauses -/

theorem clauses_cons {tree : Tree} {trees parts rest : List Tree} (h : clause tree = .ok parts)
    (hrest : clauses trees = .ok rest) : clauses (tree :: trees) = .ok (parts ++ rest) := by
  rw [clauses, h, hrest]

theorem clauses_word {token : String} {trees rest : List Tree} (h : (token, .delete) ∈ table)
    (hrest : clauses trees = .ok rest) : clauses (.token token :: trees) = .ok rest := by
  have hclause : clause (.token token) = .ok [] := by
    simp [clause, Tree.token, Tree.plain, ruleFor_of_mem h]
  exact clauses_cons hclause hrest

theorem clause_tableName (table : Name) :
    clause (Statement.wrapped Label.tableName table.val) = .ok [.leaf table.val .tableName] := by
  have hrule : ruleFor Label.tableName = .relabel .tableName :=
    ruleFor_of_mem (by simp [Reduction.table])
  simp [clause, Statement.wrapped, Tree.plain, Tree.token, hrule, tableName]

theorem clause_relabel {tree : Tree} (h : (tree.label, .relabel kind) ∈ table)
    (hname : kind ≠ .tableName) (hwhere : kind ≠ .binaryPredicate) :
    clause tree = .ok [.tagged kind (survivorsAll (leafKindOf kind) tree.children)] := by
  rw [clause, ruleFor_of_mem h]
  cases kind <;> first | rfl | contradiction

/-- A list is one flat node, with what its items give below it. -/
theorem clause_listed {α : Type} {label tailLabel : String} {node ast : α → Tree}
    (hlabel : (label, .relabel kind) ∈ table) (hname : kind ≠ .tableName)
    (hwhere : kind ≠ .binaryPredicate) (htail : Wraps tailLabel)
    (hnode : ∀ a, survivors (leafKindOf kind) (node a) = [ast a]) (items : Listed α) :
    clause (items.tree label tailLabel node) = .ok [.tagged kind (items.toList.map ast)] := by
  have hitems : survivorsAll (leafKindOf kind) (items.tree label tailLabel node).children =
      items.toList.map ast := by
    simp only [Listed.tree, Tree.plain, survivorsAll, survivors_tailTree htail, hnode,
      survivorsAll_map hnode, List.append_nil]
    rfl
  rw [clause_relabel hlabel hname hwhere, hitems]

theorem clause_optionalWhere (condition : Option Condition) :
    clause (.plain Label.optionalWhere
        (match condition with
         | some condition => [.token "WHERE", condition.tree]
         | none => [])) = .ok (condition.toList.map Condition.ast) := by
  have hrule : ruleFor Label.optionalWhere = .relabel .binaryPredicate :=
    ruleFor_of_mem (by simp [Reduction.table])
  cases condition with
  | none => simp [clause, Tree.plain, hrule, predicate]
  | some condition =>
    have hword : survivors .identifier (.token "WHERE") = [] :=
      survivors_of_delete (by simp [Reduction.table])
    simp [clause, Tree.plain, hrule, predicate, survivorsAll, hword, survivors_condition,
      Condition.ast, Tree.withKind, Tree.leaf]

/-! ## Statements -/

theorem clause_columns {test : String → Bool} (hkeeps : ∀ column : TokenOf test, Keeps column.val)
    (columns : Listed (TokenOf test)) :
    clause (columns.tree Label.columnList Label.columnListTail fun column =>
        Statement.wrapped Label.columnName column.val) =
      .ok [.tagged .columnList (columns.leaves .identifier)] := by
  refine clause_listed ?_ (by decide) (by decide) ?_ (fun column => ?_) columns
  · simp [Reduction.table]
  · exact wraps_of_mem _ (by simp)
  · exact survivors_wrapped (wraps_of_mem _ (by simp)) (hkeeps column)

theorem clause_values (values : Listed (TokenOf Token.isValue)) :
    clause (values.tree Label.valueList Label.valueListTail fun value =>
        Statement.wrapped Label.value value.val) =
      .ok [.tagged .valueList (values.leaves .value)] := by
  refine clause_listed ?_ (by decide) (by decide) ?_ (fun value => ?_) values
  · simp [Reduction.table]
  · exact wraps_of_mem _ (by simp)
  · exact survivors_wrapped (wraps_of_mem _ (by simp)) (keeps_of_value value.property)

theorem clause_definitions (definitions : Listed Definition) :
    clause (definitions.tree Label.columnDefsList Label.columnDefsListTail Definition.tree) =
      .ok [.tagged .columnDefinitions (definitions.toList.map Definition.ast)] := by
  refine clause_listed ?_ (by decide) (by decide) ?_ survivors_definition definitions
  · simp [Reduction.table]
  · exact wraps_of_mem _ (by simp)

/-- Nothing but the clauses with content is left, and they are in the order of the statement. -/
theorem clauses_tree (statement : Statement) :
    clauses statement.tree.children = .ok statement.ast.children := by
  have hend : clauses [.token ";"] = .ok [] := clauses_word (by simp [Reduction.table]) rfl
  cases statement with
  | select columns table condition =>
    have hcolumns := clause_columns (fun column => keeps_of_selectable column.property) columns
    have hrest := clauses_cons (clause_tableName table)
      (clauses_cons (clause_optionalWhere condition) hend)
    rw [List.append_nil] at hrest
    have hfrom : clauses (.token "FROM" :: _) = .ok _ :=
      clauses_word (by simp [Reduction.table]) hrest
    have hselect := clauses_cons hcolumns hfrom
    exact clauses_word (by simp [Reduction.table]) hselect
  | insert table columns values =>
    have hcolumns := clause_columns (fun column => keeps_of_identifier column.property) columns
    refine clauses_word (by simp [Reduction.table]) (clauses_word (by simp [Reduction.table]) ?_)
    refine clauses_cons (clause_tableName table) (clauses_word (by simp [Reduction.table]) ?_)
    refine clauses_cons hcolumns (clauses_word (by simp [Reduction.table]) ?_)
    refine clauses_word (by simp [Reduction.table]) (clauses_word (by simp [Reduction.table]) ?_)
    refine clauses_cons (clause_values values) ?_
    exact clauses_word (by simp [Reduction.table]) hend
  | createTable table definitions =>
    refine clauses_word (by simp [Reduction.table]) (clauses_word (by simp [Reduction.table]) ?_)
    refine clauses_cons (clause_tableName table) (clauses_word (by simp [Reduction.table]) ?_)
    refine clauses_cons (clause_definitions definitions) ?_
    exact clauses_word (by simp [Reduction.table]) hend

end Reduction

namespace Statement

theorem toAst_tree (statement : Statement) : statement.tree.toAst = .ok statement.ast := by
  have hclauses := Reduction.clauses_tree statement
  rw [Tree.toAst, Tree.toAstLogged, hclauses]
  cases statement <;> rfl

end Statement

theorem analyze_eq_map (q : String) :
    analyze q = (Statement.ofTokens (tokenize q)).map fun statement =>
      ⟨tokenize q, statement.tree, statement.ast⟩ := by
  rw [analyze_eq, parse]
  cases Statement.ofTokens (tokenize q) with
  | error fault => rfl
  | ok statement =>
    simp only [Except.map, bind, Except.bind, Statement.toAst_tree]
    rfl

theorem exists_statement_of_analyze {q : String} {a : Analysis} (h : analyze q = .ok a) :
    ∃ statement : Statement, statement.tokens = tokenize q ∧
      a = ⟨statement.tokens, statement.tree, statement.ast⟩ := by
  rw [analyze_eq_map] at h
  cases hread : Statement.ofTokens (tokenize q) with
  | error fault => rw [hread] at h; cases h
  | ok statement =>
    have htokens := Statement.ofTokens_eq_ok_iff.mp hread
    rw [hread, ← htokens] at h
    cases h
    exact ⟨statement, htokens, rfl⟩

/-- A parsed tree always reduces, to the abstract tree of the statement that its tokens write. So
a query is analysed as the statement that its tokens write, and refused only for its tokens. -/
theorem toAst_of_parse :
    (∀ ts c, parse ts = .ok c → ∃ statement : Statement,
      statement.tokens = ts ∧ statement.tree = c ∧ c.toAst = .ok statement.ast) ∧
    (∀ q a, analyze q = .ok a ↔ ∃ statement : Statement,
      statement.tokens = tokenize q ∧ a = ⟨statement.tokens, statement.tree, statement.ast⟩) ∧
    ∀ q fault, analyze q = .error fault ↔ parse (tokenize q) = .error fault := by
  refine ⟨?_, ?_, ?_⟩
  · intro ts c h
    obtain ⟨statement, htokens, htree⟩ := parse_eq_ok_iff.mp h
    exact ⟨statement, htokens, htree, htree ▸ statement.toAst_tree⟩
  · intro q a
    simp only [← Statement.ofTokens_eq_ok_iff, analyze_eq_map]
    cases hread : Statement.ofTokens (tokenize q) with
    | error fault => simp [Except.map]
    | ok statement =>
      have htokens := Statement.ofTokens_eq_ok_iff.mp hread
      simp [Except.map, htokens, eq_comm]
  · intro q fault
    rw [analyze_eq_map, parse]
    cases Statement.ofTokens (tokenize q) <;> simp [Except.map]

theorem toAst_of_parse_null :
    let ts := ["INSERT", "INTO", "t", "(", "a", ")", "VALUES", "(", "NULL", ")", ";"]
    let c := Tree.plain "<query>"
      [.token "INSERT", .token "INTO", .plain "<table_name>" [.token "t"], .token "(",
       .plain "<column_list>"
         [.plain "<column_name>" [.token "a"], .plain "<column_list_tail>" []],
       .token ")", .token "VALUES", .token "(",
       .plain "<value_list>" [.plain "<value>" [.token "NULL"], .plain "<value_list_tail>" []],
       .token ")", .token ";"]
    parse ts = .ok c ∧
      ∃ statement : Statement,
        statement.tokens = ts ∧ statement.tree = c ∧ c.toAst = .ok statement.ast := by
  intro ts c
  have hparse : parse ts = .ok c := by decide +kernel
  exact ⟨hparse, toAst_of_parse.1 ts c hparse⟩

end SqlFront
