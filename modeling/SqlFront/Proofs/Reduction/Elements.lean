import SqlFront.Proofs.Reduction.Content
import SqlFront.Proofs.Tree.Nodes

/-!
# SqlFront.Proofs.Reduction.Elements

The reduction in two steps, on every tree.

Inside a clause, keywords and punctuation disappear and most names of the grammar leave their place
to what is below them. What remains are the elements of the clause, in order; only they are looked
at again, and each becomes a few nodes of the abstract tree on its own.

* `elements`, `survivors_eq`: first the elements are found, then each of them is reduced. The
  recursion is in the first step alone.
* `toAst_eq`: the root sees the labels of its children and what each of them becomes.
-/

namespace SqlFront
namespace Reduction

/-! ## Elements -/

/-- Inside a clause, the label leaves its place to what is below it. Besides the labels that pass
through everywhere, these are the lists, the conditions and the table names. -/
def Transparent (label : String) : Prop :=
  Token.isNonTerminal label = true ∧ ruleFor label ≠ .delete ∧
    ruleFor label ≠ .relabel .columnDefinition ∧ ruleFor label ≠ .relabel .dataType ∧
    ruleFor label ≠ .relabel .constraint

instance (label : String) : Decidable (Transparent label) := by
  unfold Transparent; infer_instance

mutual

/-- The elements of a clause that come from a node: itself, those below it or none. -/
def elements : Tree → List Tree
  | ⟨label, kind, children⟩ =>
    if ruleFor label = .delete then []
    else if Transparent label then elementsAll children
    else [⟨label, kind, children⟩]

def elementsAll : List Tree → List Tree
  | [] => []
  | tree :: trees => elements tree ++ elementsAll trees

end

theorem elementsAll_append (trees trees' : List Tree) :
    elementsAll (trees ++ trees') = elementsAll trees ++ elementsAll trees' := by
  induction trees with
  | nil => rfl
  | cons tree trees ih => rw [List.cons_append, elementsAll, elementsAll, ih, List.append_assoc]

mutual

theorem mem_nodes_of_mem_elements : ∀ {tree element : Tree},
    element ∈ elements tree → element ∈ tree.nodes
  | ⟨label, kind, children⟩, element, h => by
    rw [elements] at h
    rw [Tree.nodes]
    split at h
    · cases h
    split at h
    · exact List.mem_cons_of_mem _ (mem_nodesAll_of_mem_elementsAll h)
    · rw [List.mem_singleton.mp h]
      exact List.mem_cons_self

theorem mem_nodesAll_of_mem_elementsAll : ∀ {trees : List Tree} {element : Tree},
    element ∈ elementsAll trees → element ∈ Tree.nodesAll trees
  | tree :: trees, element, h => by
    rw [Tree.nodesAll]
    rcases List.mem_append.mp h with h | h
    · exact List.mem_append_left _ (mem_nodes_of_mem_elements h)
    · exact List.mem_append_right _ (mem_nodesAll_of_mem_elementsAll h)

end

/-! ## What elements become -/

/-- The nodes that an element becomes. Only a token takes its kind from the clause. -/
def reduced (leafKind : Kind) (element : Tree) : List Tree :=
  match ruleFor element.label with
  | .relabel .columnDefinition => [definition element.children]
  | .relabel .dataType => dataType element.children
  | .relabel .constraint => [element.withKind .constraint]
  | _ => [.leaf element.label leafKind]

mutual

theorem survivors_eq (leafKind : Kind) : ∀ tree : Tree,
    survivors leafKind tree = (elements tree).flatMap (reduced leafKind)
  | ⟨label, kind, children⟩ => by
    rw [survivors, elements]
    cases hrule : ruleFor label with
    | delete => simp
    | passThrough =>
      by_cases hname : Token.isNonTerminal label = true
      · simp [Transparent, hrule, hname, survivorsAll_eq leafKind children]
      · simp [Transparent, hrule, hname, reduced]
    | relabel kind =>
      -- three kinds make elements, and with any other the node is transparent
      have hname := isNonTerminal_of_relabel hrule
      cases kind <;>
        simp [Transparent, hrule, hname, reduced, survivorsAll_eq leafKind children]

theorem survivorsAll_eq (leafKind : Kind) : ∀ trees : List Tree,
    survivorsAll leafKind trees = (elementsAll trees).flatMap (reduced leafKind)
  | [] => rfl
  | tree :: trees => by
    rw [survivorsAll, elementsAll, List.flatMap_append, survivors_eq leafKind tree,
      survivorsAll_eq leafKind trees]

end

/-! ## Conditions -/

/-- What the parts of a condition become. -/
def condition : List Tree → Except Fault (List Tree)
  | [left, operator, right] =>
    .ok [.tagged .binaryPredicate
      [left.withKind .leftOperand, operator.withKind .operator, right.withKind .rightOperand]]
  | parts => .error (.malformedPredicate parts.length)

theorem predicate_eq {children : List Tree} (h : children ≠ []) :
    predicate children = condition (survivorsAll .identifier children) := by
  cases children with
  | nil => contradiction
  | cons first rest => rfl

end Reduction

/-! ## The root -/

/-- Of the children of the root only the labels count, to find the kind of statement, and what they
become. -/
theorem Tree.toAst_eq (tree : Tree) :
    tree.toAst =
      match (tree.children.map label).findSome? Reduction.statementKind? with
      | none => .error (.unrecognized ((tree.children.map label).head?.getD ""))
      | some kind => (Reduction.clauses tree.children).map (.tagged kind) := by
  rw [toAst, toAstLogged, List.findSome?_map, List.head?_map, Function.comp_def]
  cases tree.children.findSome? fun child => Reduction.statementKind? child.label with
  | none => rfl
  | some kind => cases Reduction.clauses tree.children <;> rfl

theorem Tree.exists_of_toAst {tree ast : Tree} (h : tree.toAst = .ok ast) :
    ∃ kind children, (∃ child ∈ tree.children, Reduction.statementKind? child.label = some kind) ∧
      Reduction.clauses tree.children = .ok children ∧ ast = .tagged kind children := by
  rw [toAst_eq] at h
  split at h
  · cases h
  · rename_i kind hkind
    obtain ⟨label, hlabel, hannounced⟩ := List.exists_of_findSome?_eq_some hkind
    obtain ⟨child, hchild, rfl⟩ := List.mem_map.mp hlabel
    cases hclauses : Reduction.clauses tree.children with
    | error fault =>
      rw [hclauses] at h
      cases h
    | ok children =>
      rw [hclauses] at h
      cases h
      exact ⟨kind, children, ⟨child, hchild, hannounced⟩, rfl, rfl⟩

end SqlFront
