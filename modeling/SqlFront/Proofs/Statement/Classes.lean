import SqlFront.Proofs.Statement.Alike
import SqlFront.Proofs.Statement.Derivation

/-!
# SqlFront.Proofs.Statement.Classes

Only the classes of tokens count, not how names and literals are spelled.

Statements alike have trees alike, because each of their tokens is kept under its own label and none
of them is mistaken for a name of the grammar. With the reading of corresponding tokens this takes
the correspondence through parsing and reduction.

* `tree_alike`, `ast_alike`: the two trees of statements alike.
* `parse_alike`: what parsing and reduction make of tokens that are alike one by one.
-/

namespace SqlFront

variable {R : String → String → Prop}

theorem TokenOf.Alike.label {test : String → Bool} {s t : TokenOf test} (h : s.Alike R t)
    (hkeeps : ∀ token, test token = true → Reduction.Keeps token) :
    Label.Alike R s.val t.val :=
  .inr ⟨h, (hkeeps _ s.property).2, (hkeeps _ t.property).2⟩

namespace Tree

/-! ## Parts -/

theorem alike_plain (label : String) {children children' : List Tree}
    (h : List.Forall₂ (Alike (Label.Alike R)) children children') :
    Alike (Label.Alike R) (.plain label children) (.plain label children') :=
  .node (.refl label) h

theorem alike_tagged (kind : Kind) {children children' : List Tree}
    (h : List.Forall₂ (Alike (Label.Alike R)) children children') :
    Alike (Label.Alike R) (.tagged kind children) (.tagged kind children') :=
  .node (.refl "") h

theorem alike_token {s t : String} (h : Label.Alike R s t) :
    Alike (Label.Alike R) (.token s) (.token t) := .node h .nil

theorem alike_word (token : String) : Alike (Label.Alike R) (.token token) (.token token) :=
  alike_token (.refl token)

theorem alike_leaf {s t : String} (h : Label.Alike R s t) (kind : Kind) :
    Alike (Label.Alike R) (.leaf s kind) (.leaf t kind) := .node h .nil

theorem alike_wrapped (label : String) {s t : String} (h : Label.Alike R s t) :
    Alike (Label.Alike R) (Statement.wrapped label s) (Statement.wrapped label t) :=
  alike_plain label (.cons (alike_token h) .nil)

/-! ## Lists -/

theorem alike_tailTree (label : String) {items items' : List Tree}
    (h : List.Forall₂ (Alike (Label.Alike R)) items items') :
    Alike (Label.Alike R) (tailTree label items) (tailTree label items') := by
  induction h with
  | nil => exact alike_plain label .nil
  | cons hitem _ ih =>
    exact alike_plain label (.cons (alike_word ",") (.cons hitem (.cons ih .nil)))

theorem alike_listed {α : Type} {A : α → α → Prop} {node : α → Tree} (label tailLabel : String)
    (hnode : ∀ a b, A a b → Alike (Label.Alike R) (node a) (node b)) {items items' : Listed α}
    (h : items.Alike A items') :
    Alike (Label.Alike R) (items.tree label tailLabel node) (items'.tree label tailLabel node) := by
  have htail : List.Forall₂ (Alike (Label.Alike R)) (items.tail.map node) (items'.tail.map node) :=
    List.rel_map (fun a b hab => hnode a b hab) h.tail
  exact alike_plain label
    (.cons (hnode _ _ h.head) (.cons (alike_tailTree tailLabel htail) .nil))

theorem alike_items {test : String → Bool}
    (hkeeps : ∀ token, test token = true → Reduction.Keeps token)
    (label tailLabel itemLabel : String) {items items' : Listed (TokenOf test)}
    (h : items.Alike (TokenOf.Alike R) items') :
    Alike (Label.Alike R)
      (items.tree label tailLabel fun item => Statement.wrapped itemLabel item.val)
      (items'.tree label tailLabel fun item => Statement.wrapped itemLabel item.val) :=
  alike_listed label tailLabel (fun _ _ hitem => alike_wrapped itemLabel (hitem.label hkeeps)) h

theorem alike_map {α : Type} {A : α → α → Prop} {node : α → Tree}
    (hnode : ∀ a b, A a b → Alike (Label.Alike R) (node a) (node b)) {items items' : Listed α}
    (h : items.Alike A items') :
    List.Forall₂ (Alike (Label.Alike R)) (items.toList.map node) (items'.toList.map node) :=
  List.rel_map (fun a b hab => hnode a b hab) (.cons h.head h.tail)

theorem alike_leaves {test : String → Bool}
    (hkeeps : ∀ token, test token = true → Reduction.Keeps token) (kind : Kind)
    {items items' : Listed (TokenOf test)} (h : items.Alike (TokenOf.Alike R) items') :
    List.Forall₂ (Alike (Label.Alike R)) (items.leaves kind) (items'.leaves kind) :=
  alike_map (fun _ _ hitem => alike_leaf (hitem.label hkeeps) kind) h

/-! ## Conditions and definitions -/

theorem alike_condition {condition condition' : Condition} (h : condition.Alike R condition') :
    Alike (Label.Alike R) condition.tree condition'.tree := by
  have hleft := h.left.label fun _ => Reduction.keeps_of_value
  have hoperator := h.operator.label fun _ => Reduction.keeps_of_comparisonOperator
  have hright := h.right.label fun _ => Reduction.keeps_of_value
  exact alike_plain Label.condition
    (.cons (alike_token hleft) (.cons (alike_token hoperator) (.cons (alike_token hright) .nil)))

theorem alike_whereTree {condition condition' : Option Condition}
    (h : Option.Rel (Condition.Alike R) condition condition') :
    Alike (Label.Alike R) (Grammar.whereTree condition) (Grammar.whereTree condition') := by
  cases h with
  | none => exact alike_plain Label.optionalWhere .nil
  | some h =>
    exact alike_plain Label.optionalWhere
      (.cons (alike_word "WHERE") (.cons (alike_condition h) .nil))

theorem alike_conditionAst {condition condition' : Condition} (h : condition.Alike R condition') :
    Alike (Label.Alike R) condition.ast condition'.ast := by
  have hleft := h.left.label fun _ => Reduction.keeps_of_value
  have hoperator := h.operator.label fun _ => Reduction.keeps_of_comparisonOperator
  have hright := h.right.label fun _ => Reduction.keeps_of_value
  exact alike_tagged .binaryPredicate
    (.cons (alike_leaf hleft .leftOperand)
      (.cons (alike_leaf hoperator .operator) (.cons (alike_leaf hright .rightOperand) .nil)))

theorem alike_definition {definition definition' : Definition}
    (h : definition.Alike R definition') :
    Alike (Label.Alike R) definition.tree definition'.tree := by
  have hname := h.name.label fun _ => Reduction.keeps_of_identifier
  have htype := h.type.label fun _ => Reduction.keeps_of_typeName
  obtain ⟨name, type, size⟩ := definition
  obtain ⟨name', type', size'⟩ := definition'
  refine alike_plain Label.columnDef (.cons (alike_token hname) (.cons ?_ .nil))
  refine alike_plain Label.dataType (.cons (alike_token htype) ?_)
  cases h.size with
  | none => exact .nil
  | some hsize =>
    have hsize := hsize.label fun _ => Reduction.keeps_of_numericLiteral
    exact .cons (alike_word "(") (.cons (alike_token hsize) (.cons (alike_word ")") .nil))

theorem alike_definitionAst {definition definition' : Definition}
    (h : definition.Alike R definition') :
    Alike (Label.Alike R) definition.ast definition'.ast := by
  have hname := h.name.label fun _ => Reduction.keeps_of_identifier
  have htype := h.type.label fun _ => Reduction.keeps_of_typeName
  obtain ⟨name, type, size⟩ := definition
  obtain ⟨name', type', size'⟩ := definition'
  refine alike_tagged .columnDefinition
    (.cons (alike_leaf hname .identifier) (.cons (alike_leaf htype .dataType) ?_))
  cases h.size with
  | none => exact .nil
  | some hsize =>
    have hsize := hsize.label fun _ => Reduction.keeps_of_numericLiteral
    exact .cons (alike_leaf hsize .value) .nil

end Tree

namespace Statement

/-! ## Statements -/

theorem tree_alike {s t : Statement} (h : s.Alike R t) :
    Tree.Alike (Label.Alike R) s.tree t.tree := by
  cases h with
  | select hcolumns htable hcondition =>
    have htable := htable.label fun _ => Reduction.keeps_of_identifier
    have hcolumns := Tree.alike_items (fun _ => Reduction.keeps_of_selectable)
      Label.columnList Label.columnListTail Label.columnName hcolumns
    rw [Grammar.tree_select, Grammar.tree_select]
    exact Tree.alike_plain Label.query <|
      .cons (Tree.alike_word "SELECT") <| .cons hcolumns <| .cons (Tree.alike_word "FROM") <|
      .cons (Tree.alike_wrapped Label.tableName htable) <|
      .cons (Tree.alike_whereTree hcondition) <| .cons (Tree.alike_word ";") .nil
  | insert htable hcolumns hvalues =>
    have htable := htable.label fun _ => Reduction.keeps_of_identifier
    have hcolumns := Tree.alike_items (fun _ => Reduction.keeps_of_identifier)
      Label.columnList Label.columnListTail Label.columnName hcolumns
    have hvalues := Tree.alike_items (fun _ => Reduction.keeps_of_value)
      Label.valueList Label.valueListTail Label.value hvalues
    exact Tree.alike_plain Label.query <|
      .cons (Tree.alike_word "INSERT") <| .cons (Tree.alike_word "INTO") <|
      .cons (Tree.alike_wrapped Label.tableName htable) <| .cons (Tree.alike_word "(") <|
      .cons hcolumns <| .cons (Tree.alike_word ")") <| .cons (Tree.alike_word "VALUES") <|
      .cons (Tree.alike_word "(") <| .cons hvalues <| .cons (Tree.alike_word ")") <|
      .cons (Tree.alike_word ";") .nil
  | createTable htable hdefinitions =>
    have htable := htable.label fun _ => Reduction.keeps_of_identifier
    have hdefinitions := Tree.alike_listed Label.columnDefsList Label.columnDefsListTail
      (fun _ _ hdefinition => Tree.alike_definition hdefinition) hdefinitions
    exact Tree.alike_plain Label.query <|
      .cons (Tree.alike_word "CREATE") <| .cons (Tree.alike_word "TABLE") <|
      .cons (Tree.alike_wrapped Label.tableName htable) <| .cons (Tree.alike_word "(") <|
      .cons hdefinitions <| .cons (Tree.alike_word ")") <| .cons (Tree.alike_word ";") .nil

theorem ast_alike {s t : Statement} (h : s.Alike R t) :
    Tree.Alike (Label.Alike R) s.ast t.ast := by
  cases h with
  | select hcolumns htable hcondition =>
    have htable := htable.label fun _ => Reduction.keeps_of_identifier
    have hcolumns := Tree.alike_leaves (fun _ => Reduction.keeps_of_selectable) .identifier hcolumns
    refine Tree.alike_tagged .select <|
      .cons (Tree.alike_tagged .columnList hcolumns) <|
      .cons (Tree.alike_leaf htable .tableName) ?_
    cases hcondition with
    | none => exact .nil
    | some hcondition => exact .cons (Tree.alike_conditionAst hcondition) .nil
  | insert htable hcolumns hvalues =>
    have htable := htable.label fun _ => Reduction.keeps_of_identifier
    have hcolumns := Tree.alike_leaves (fun _ => Reduction.keeps_of_identifier) .identifier hcolumns
    have hvalues := Tree.alike_leaves (fun _ => Reduction.keeps_of_value) .value hvalues
    exact Tree.alike_tagged .insert <|
      .cons (Tree.alike_leaf htable .tableName) <|
      .cons (Tree.alike_tagged .columnList hcolumns) <|
      .cons (Tree.alike_tagged .valueList hvalues) .nil
  | createTable htable hdefinitions =>
    have htable := htable.label fun _ => Reduction.keeps_of_identifier
    have hdefinitions := Tree.alike_map
      (fun _ _ hdefinition => Tree.alike_definitionAst hdefinition) hdefinitions
    exact Tree.alike_tagged .createTable <|
      .cons (Tree.alike_leaf htable .tableName) <|
      .cons (Tree.alike_tagged .columnDefinitions hdefinitions) .nil

end Statement

/-- Parsing and reduction see the classes of tokens only. On tokens that are alike one by one they
both succeed, with trees that differ at most in the spelling of names and literals, or both fail for
the same reason at the same place. -/
theorem parse_alike {ts us : List String} (h : List.Forall₂ Token.Alike ts us) :
    (∃ cst ast cst' ast',
      (parse ts = .ok cst ∧ cst.toAst = .ok ast) ∧ (parse us = .ok cst' ∧ cst'.toAst = .ok ast') ∧
      Tree.Alike (Label.Alike Token.Alike) cst cst' ∧
      Tree.Alike (Label.Alike Token.Alike) ast ast') ∨
    ∃ fault fault', parse ts = .error fault ∧ parse us = .error fault' ∧
      Fault.Alike Token.Alike fault fault' := by
  have hread := Statement.ofTokens_alike (fun _ _ hst => hst) h
  rw [parse, parse]
  generalize Statement.ofTokens ts = x at hread ⊢
  generalize Statement.ofTokens us = y at hread ⊢
  cases hread with
  | @ok statement statement' hstatements =>
    exact .inl ⟨statement.tree, statement.ast, statement'.tree, statement'.ast,
      ⟨rfl, statement.toAst_tree⟩, ⟨rfl, statement'.toAst_tree⟩,
      Statement.tree_alike hstatements, Statement.ast_alike hstatements⟩
  | @error fault fault' hfaults => exact .inr ⟨fault, fault', rfl, rfl, hfaults⟩

/-- A built-in type and one that the user names, with other names and another size. -/
theorem parse_alike_typeNames :
    let ts := ["CREATE", "TABLE", "t", "(", "a", "VARCHAR", "(", "10", ")", ")", ";"]
    let us := ["CREATE", "TABLE", "été", "(", "_b", "money", "(", "007", ")", ")", ";"]
    List.Forall₂ Token.Alike ts us ∧
      ∃ cst ast cst' ast',
        (parse ts = .ok cst ∧ cst.toAst = .ok ast) ∧
        (parse us = .ok cst' ∧ cst'.toAst = .ok ast') ∧
        Tree.Alike (Label.Alike Token.Alike) cst cst' ∧
        Tree.Alike (Label.Alike Token.Alike) ast ast' := by
  intro ts us
  have halike : List.Forall₂ Token.Alike ts us := by decide +kernel
  refine ⟨halike, (parse_alike halike).resolve_right ?_⟩
  rintro ⟨fault, fault', hfault, -⟩
  have hparsed : (parse ts).isOk = true := by decide +kernel
  rw [hfault] at hparsed
  cases hparsed

end SqlFront
