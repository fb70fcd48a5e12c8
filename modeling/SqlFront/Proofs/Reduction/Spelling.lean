import SqlFront.Proofs.Reduction.Meaning

/-!
# SqlFront.Proofs.Reduction.Spelling

The way back from an abstract tree to the tokens.

An abstract tree has lost every keyword, comma, parenthesis and semicolon, and all wrappers.
`Tree.spelling` puts them back from the kind of the root and the places of the nodes alone.

* `spelling_ast`: the tokens of a statement are rebuilt from its abstract tree.
* `spelling_toAst`: hence from the abstract tree of whatever was parsed, and two token lists with
  the same abstract tree are the same.
-/

namespace SqlFront

namespace Tree

def spelledList (tree : Tree) : List String :=
  List.intercalate [","] (tree.children.map fun child => [child.label])

def spelledCondition (tree : Tree) : List String := "WHERE" :: tree.children.map label

/-- A third child is the size of the type. -/
def spelledDefinition (tree : Tree) : List String :=
  match tree.children with
  | [name, type] => [name.label, type.label]
  | [name, type, size] => [name.label, type.label, "(", size.label, ")"]
  | _ => []

def spelledDefinitions (tree : Tree) : List String :=
  List.intercalate [","] (tree.children.map spelledDefinition)

/-- The tokens that an abstract tree stands for. A tree that is none stands for nothing. -/
def spelling (tree : Tree) : List String :=
  match tree.kind, tree.children with
  | some .select, columns :: table :: conditions =>
    ["SELECT"] ++ columns.spelledList ++ ["FROM", table.label] ++
      conditions.flatMap spelledCondition ++ [";"]
  | some .insert, [table, columns, values] =>
    ["INSERT", "INTO", table.label, "("] ++ columns.spelledList ++ [")", "VALUES", "("] ++
      values.spelledList ++ [")", ";"]
  | some .createTable, [table, definitions] =>
    ["CREATE", "TABLE", table.label, "("] ++ definitions.spelledDefinitions ++ [")", ";"]
  | _, _ => []

end Tree

theorem Listed.tokens_eq_intercalate {α : Type} (part : α → List String) (items : Listed α) :
    items.tokens part = List.intercalate [","] (items.toList.map part) := by
  obtain ⟨head, tail⟩ := items
  induction tail generalizing head with
  | nil => simp [tokens, toList]
  | cons a as ih =>
    simp only [tokens, toList, List.flatMap_cons, List.map_cons] at ih ⊢
    rw [List.intercalate_cons_cons, ← ih a]
    simp

theorem Listed.spelledList_leaves {test : String → Bool} (kind kind' : Kind)
    (items : Listed (TokenOf test)) :
    (Tree.tagged kind (items.leaves kind')).spelledList =
      items.tokens fun item => [item.val] := by
  rw [tokens_eq_intercalate]
  simp [Tree.spelledList, Tree.tagged, Listed.leaves, Function.comp_def, Tree.leaf]

theorem Condition.spelledCondition_ast (condition : Option Condition) :
    (condition.toList.map ast).flatMap Tree.spelledCondition =
      optionalTokens "WHERE" Condition.tokens condition := by
  cases condition <;> rfl

theorem Definition.spelledDefinition_ast (definition : Definition) :
    definition.ast.spelledDefinition = definition.tokens := by
  obtain ⟨name, type, size⟩ := definition
  cases size <;> rfl

theorem Listed.spelledDefinitions_ast (definitions : Listed Definition) :
    (Tree.tagged .columnDefinitions (definitions.toList.map Definition.ast)).spelledDefinitions =
      definitions.tokens Definition.tokens := by
  rw [tokens_eq_intercalate]
  simp [Tree.spelledDefinitions, Tree.tagged, Function.comp_def, Definition.spelledDefinition_ast]

namespace Statement

theorem spelling_ast (statement : Statement) : statement.ast.spelling = statement.tokens := by
  cases statement with
  | select columns table condition =>
    have hspelled : (select columns table condition).ast.spelling =
        ["SELECT"] ++ (Tree.tagged .columnList (columns.leaves .identifier)).spelledList ++
          ["FROM", table.val] ++
          (condition.toList.map Condition.ast).flatMap Tree.spelledCondition ++ [";"] := rfl
    rw [hspelled, columns.spelledList_leaves, Condition.spelledCondition_ast, tokens_select]
    simp
  | insert table columns values =>
    have hspelled : (insert table columns values).ast.spelling =
        ["INSERT", "INTO", table.val, "("] ++
          (Tree.tagged .columnList (columns.leaves .identifier)).spelledList ++
          [")", "VALUES", "("] ++ (Tree.tagged .valueList (values.leaves .value)).spelledList ++
          [")", ";"] := rfl
    rw [hspelled, columns.spelledList_leaves, values.spelledList_leaves, tokens]
  | createTable table definitions =>
    have hspelled : (createTable table definitions).ast.spelling =
        ["CREATE", "TABLE", table.val, "("] ++
          (Tree.tagged .columnDefinitions
            (definitions.toList.map Definition.ast)).spelledDefinitions ++ [")", ";"] := rfl
    rw [hspelled, definitions.spelledDefinitions_ast, tokens]

end Statement

/-- Whatever is parsed is rebuilt from its abstract tree; so token lists with equal abstract trees
are equal. -/
theorem spelling_toAst :
    (∀ ts c, parse ts = .ok c → ∃ ast, c.toAst = .ok ast ∧ ast.spelling = ts) ∧
      ∀ ts us c d, parse ts = .ok c → parse us = .ok d → c.toAst = d.toAst → ts = us := by
  have hspelling : ∀ ts c, parse ts = .ok c → ∃ ast, c.toAst = .ok ast ∧ ast.spelling = ts := by
    intro ts c h
    obtain ⟨statement, rfl, rfl⟩ := parse_eq_ok_iff.mp h
    exact ⟨statement.ast, statement.toAst_tree, statement.spelling_ast⟩
  refine ⟨hspelling, ?_⟩
  intro ts us c d hts hus heq
  obtain ⟨ast, hast, rfl⟩ := hspelling ts c hts
  obtain ⟨ast', hast', rfl⟩ := hspelling us d hus
  rw [hast, hast'] at heq
  cases heq
  rfl

theorem spelling_toAst_sized :
    let ts := ["CREATE", "TABLE", "t", "(", "a", "CHAR", "(", "3", ")", ")", ";"]
    let c := Tree.plain "<query>"
      [.token "CREATE", .token "TABLE", .plain "<table_name>" [.token "t"], .token "(",
       .plain "<column_defs_list>"
         [.plain "<column_def>"
           [.token "a",
            .plain "<data_type>" [.token "CHAR", .token "(", .token "3", .token ")"]],
          .plain "<column_defs_list_tail>" []],
       .token ")", .token ";"]
    (∃ ast, c.toAst = .ok ast ∧ ast.spelling = ts) ∧ ∀ us, parse us = .ok c → ts = us := by
  intro ts c
  have hts : parse ts = .ok c := by decide +kernel
  exact ⟨spelling_toAst.1 ts c hts, fun us hus => spelling_toAst.2 ts us c c hts hus rfl⟩

end SqlFront
