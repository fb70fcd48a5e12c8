import SqlFront.Proofs.Reader.Alike
import SqlFront.Proofs.Reduction.Elements
import SqlFront.Proofs.Tree.Rekinded

/-!
# SqlFront.Proofs.Reduction.Kinds

The kinds that a tree has before the reduction do not matter.

The reduction goes by labels and makes its nodes anew, with kinds of its own. Only a constraint is
copied, with everything below it, and what is below it keeps the kinds that it has. So two trees
that differ in kinds are reduced alike, and a difference is left only below such a copy.

* `reduced_agrees`: what elements at the same place become.
* `toAst_rekinded`: the abstract trees of two trees that differ in kinds only.
-/

namespace SqlFront
namespace Reduction

open SqlFront.Tree (Corresponds AgreesOutside)

variable {P : Tree → Tree → Prop}

/-- Related if it is a constraint. -/
def IfConstraint (P : Tree → Tree → Prop) (tree tree' : Tree) : Prop :=
  tree.label = Label.constraint → P tree tree'

/-! ## Elements -/

mutual

theorem elements_corresponds : ∀ {tree tree' : Tree}, Corresponds P tree tree' →
    List.Forall₂ (Corresponds P) (elements tree) (elements tree')
  | ⟨label, _, _⟩, ⟨_, _, _⟩, .node hnode hchildren => by
    rw [elements, elements]
    split
    · exact .nil
    split
    · exact elementsAll_corresponds hchildren
    · exact .cons (.node hnode hchildren) .nil

theorem elementsAll_corresponds : ∀ {trees trees' : List Tree},
    List.Forall₂ (Corresponds P) trees trees' →
    List.Forall₂ (Corresponds P) (elementsAll trees) (elementsAll trees')
  | [], [], _ => .nil
  | _ :: _, _ :: _, .cons htree htrees =>
    List.rel_append (elements_corresponds htree) (elementsAll_corresponds htrees)

end

/-! ## What they become -/

/-- A data type is made of labels. -/
theorem dataType_eq_of_labels {children children' : List Tree}
    (h : children.map Tree.label = children'.map Tree.label) :
    dataType children = dataType children' := by
  cases children with
  | nil =>
    cases children' with
    | nil => rfl
    | cons _ _ => cases h
  | cons name rest =>
    cases children' with
    | nil => cases h
    | cons name' rest' =>
      rw [List.map_cons, List.map_cons, List.cons.injEq] at h
      have hvalues : ∀ parts : List Tree,
          ((parts.filter fun part => part.label != "(" && part.label != ")").map
            fun part => Tree.leaf part.label .value) =
          ((parts.map Tree.label).filter fun label => label != "(" && label != ")").map
            fun label => Tree.leaf label .value := by
        intro parts
        rw [List.filter_map, List.map_map]
        rfl
      rw [dataType, dataType, h.1, hvalues, hvalues, h.2]

theorem agrees_constraint {tree tree' : Tree} (h : Corresponds (IfConstraint P) tree tree')
    (hrule : ruleFor tree.label = .relabel .constraint) (kind : Kind) :
    AgreesOutside P (tree.withKind kind) (tree'.withKind kind) := by
  have hlabel : tree.label = Label.constraint :=
    (ruleFor_eq_relabel_iff (by simp [table])).mp hrule
  exact .copy kind (h.related hlabel)

theorem definitionPart_agrees {part part' : Tree} (h : Corresponds (IfConstraint P) part part') :
    List.Forall₂ (AgreesOutside P) (definitionPart part) (definitionPart part') := by
  unfold definitionPart
  rw [← h.label_eq]
  split
  · rw [dataType_eq_of_labels (Tree.map_label_eq h.children)]
    exact Tree.agreesOutside_refl _
  · exact .cons (agrees_constraint h ‹_› .constraint) .nil
  · exact .nil

theorem definition_agrees {children children' : List Tree}
    (h : List.Forall₂ (Corresponds (IfConstraint P)) children children') :
    AgreesOutside P (definition children) (definition children') := by
  cases h with
  | nil => exact .refl _
  | cons hname hparts =>
    have hflat := List.rel_flatMap hparts fun _ _ h => definitionPart_agrees h
    rw [definition, definition, hname.label_eq]
    exact .node (.cons (.refl _) hflat)

theorem reduced_agrees (leafKind : Kind) {element element' : Tree}
    (h : Corresponds (IfConstraint P) element element') :
    List.Forall₂ (AgreesOutside P) (reduced leafKind element) (reduced leafKind element') := by
  unfold reduced
  rw [← h.label_eq]
  split
  · exact .cons (definition_agrees h.children) .nil
  · rw [dataType_eq_of_labels (Tree.map_label_eq h.children)]
    exact Tree.agreesOutside_refl _
  · exact .cons (agrees_constraint h ‹_› .constraint) .nil
  · exact Tree.agreesOutside_refl _

theorem survivorsAll_agrees (leafKind : Kind) {trees trees' : List Tree}
    (h : List.Forall₂ (Corresponds (IfConstraint P)) trees trees') :
    List.Forall₂ (AgreesOutside P) (survivorsAll leafKind trees)
      (survivorsAll leafKind trees') := by
  rw [survivorsAll_eq, survivorsAll_eq]
  exact List.rel_flatMap (elementsAll_corresponds h) fun _ _ => reduced_agrees leafKind

/-! ## Clauses -/

/-- Both are refused for the same fault, or the results agree node by node. -/
abbrev PartsAgree (P : Tree → Tree → Prop) :
    Except Fault (List Tree) → Except Fault (List Tree) → Prop :=
  OutcomesAlike Eq (List.Forall₂ (AgreesOutside P))

theorem condition_agrees {parts parts' : List Tree}
    (h : List.Forall₂ (AgreesOutside P) parts parts') :
    PartsAgree P (condition parts) (condition parts') := by
  match h with
  | .nil | .cons _ .nil | .cons _ (.cons _ .nil) => exact .error rfl
  | .cons hleft (.cons hoperator (.cons hright .nil)) =>
    have hoperands : List.Forall₂ (AgreesOutside P) _ _ :=
      .cons (hleft.withKind .leftOperand)
        (.cons (hoperator.withKind .operator) (.cons (hright.withKind .rightOperand) .nil))
    exact .ok (.cons (.node hoperands) .nil)
  | .cons _ (.cons _ (.cons _ (.cons _ hmore))) =>
    exact .error (by simp only [List.length_cons, hmore.length_eq])

theorem predicate_agrees {children children' : List Tree}
    (h : List.Forall₂ (Corresponds (IfConstraint P)) children children') :
    PartsAgree P (predicate children) (predicate children') := by
  have hparts := survivorsAll_agrees .identifier h
  cases h with
  | nil => exact .ok .nil
  | cons _ _ =>
    rw [predicate_eq (List.cons_ne_nil _ _), predicate_eq (List.cons_ne_nil _ _)]
    exact condition_agrees hparts

theorem tableName_agrees {children children' : List Tree}
    (h : List.Forall₂ (Corresponds (IfConstraint P)) children children') :
    AgreesOutside P (tableName children) (tableName children') := by
  cases h with
  | nil => exact .refl _
  | cons hname _ =>
    rw [tableName, tableName, hname.label_eq]
    exact .refl _

theorem clause_agrees {tree tree' : Tree} (h : Corresponds (IfConstraint P) tree tree') :
    PartsAgree P (clause tree) (clause tree') := by
  have hsurvivors := fun leafKind => survivorsAll_agrees leafKind h.children
  unfold clause
  rw [← h.label_eq]
  split
  · exact .ok .nil
  · exact .ok (.cons (tableName_agrees h.children) .nil)
  · exact predicate_agrees h.children
  · exact .ok (.cons (.node (hsurvivors _)) .nil)
  · split
    · exact .ok (hsurvivors _)
    · exact .ok (Tree.agreesOutside_refl _)

theorem clauses_agree {trees trees' : List Tree}
    (h : List.Forall₂ (Corresponds (IfConstraint P)) trees trees') :
    PartsAgree P (clauses trees) (clauses trees') := by
  induction h with
  | nil => exact .ok .nil
  | @cons tree tree' trees trees' htree _ ih =>
    have hfirst := clause_agrees htree
    rw [clauses, clauses]
    generalize clause tree = x at hfirst ⊢
    generalize clause tree' = y at hfirst ⊢
    cases hfirst with
    | error hfault => exact .error hfault
    | ok hparts =>
      generalize clauses trees = x at ih ⊢
      generalize clauses trees' = y at ih ⊢
      cases ih with
      | error hfault => exact .error hfault
      | ok hrest => exact .ok (List.rel_append hparts hrest)

end Reduction

namespace Tree

theorem toAst_agrees {P : Tree → Tree → Prop} {t u : Tree}
    (h : Corresponds (Reduction.IfConstraint P) t u) :
    OutcomesAlike Eq (AgreesOutside P) t.toAst u.toAst := by
  rw [toAst_eq, toAst_eq, map_label_eq h.children]
  split
  · exact .error rfl
  · exact (Reduction.clauses_agree h.children).map fun _ _ hchildren => .node hchildren

end Tree

/-- The kinds on a tree do not matter. Trees of the same shape and with the same labels are refused
for the same fault, or their abstract trees have the same shape and the same labels, and the same
kinds as well, except below copies of constraints that are at the same place in the two trees.
Without a constraint the abstract trees are equal. -/
theorem toAst_rekinded {t u : Tree} (h : t.Rekinded u) :
    OutcomesAlike Eq
      (fun a b => a.Rekinded b ∧
        a.AgreesOutside
          (fun c d => c.label = Label.constraint ∧ (c, d) ∈ t.nodes.zip u.nodes) b)
      t.toAst u.toAst ∧
    ((∀ node ∈ t.nodes, node.label ≠ Label.constraint) → t.toAst = u.toAst) := by
  have hagrees : OutcomesAlike Eq (Tree.AgreesOutside fun c d =>
      c.label = Label.constraint ∧ (c, d) ∈ t.nodes.zip u.nodes) t.toAst u.toAst :=
    Tree.toAst_agrees (h.counterparts.imp fun c d hmem hlabel => ⟨hlabel, hmem⟩)
  generalize t.toAst = x at hagrees ⊢
  generalize u.toAst = y at hagrees ⊢
  cases hagrees with
  | error hfault => exact ⟨.error hfault, fun _ => congrArg _ hfault⟩
  | ok hab =>
    refine ⟨.ok ⟨hab.rekinded fun c d hcopied => h.of_mem_zip hcopied.2, hab⟩, fun hnone => ?_⟩
    have hequal := hab.eq fun c d hcopied => hnone c (List.of_mem_zip hcopied.2).1 hcopied.1
    rw [hequal]

/-- Below a constraint that is an operand the kinds remain, and nowhere else. -/
theorem toAst_rekinded_operand :
    let t : Tree := ⟨"<query>", some .insert,
      [.token "SELECT",
       ⟨"<optional_where>", none,
        [⟨"<constraint>", some .value, [.leaf "a" .select]⟩, .leaf "=" .identifier, .token "b"]⟩]⟩
    let u : Tree := .plain "<query>"
      [.leaf "SELECT" .operator,
       .plain "<optional_where>" [.plain "<constraint>" [.token "a"], .token "=", .token "b"]]
    let v : Tree := .plain "<query>" [.leaf "SELECT" .value, .token "b"]
    let w : Tree := .plain "<query>" [.token "SELECT", .leaf "b" .constraint]
    (t.Rekinded u ∧ ∃ a b, t.toAst = .ok a ∧ u.toAst = .ok b ∧ a ≠ b ∧ a.Rekinded b ∧
      a.AgreesOutside
        (fun c d => c.label = Label.constraint ∧ (c, d) ∈ t.nodes.zip u.nodes) b) ∧
    v.Rekinded w ∧ (∀ node ∈ v.nodes, node.label ≠ Label.constraint) ∧ v.toAst = w.toAst := by
  intro t u v w
  have hoperand : t.Rekinded u := .node trivial <| .cons (.node trivial .nil) <|
    .cons (.node trivial <| .cons (.node trivial <| .cons (.node trivial .nil) .nil) <|
      .cons (.node trivial .nil) <| .cons (.node trivial .nil) .nil) .nil
  have htoken : v.Rekinded w :=
    .node trivial <| .cons (.node trivial .nil) <| .cons (.node trivial .nil) .nil
  have hplain : ∀ node ∈ v.nodes, node.label ≠ Label.constraint := by decide
  refine ⟨⟨hoperand, ?_⟩, htoken, hplain, (toAst_rekinded htoken).2 hplain⟩
  have hagrees := (toAst_rekinded hoperand).1
  have hdiffer : t.toAst ≠ u.toAst := by decide
  have hanalysed : t.toAst.isOk = true := by decide
  generalize t.toAst = x at hagrees hdiffer hanalysed ⊢
  generalize u.toAst = y at hagrees hdiffer ⊢
  cases hagrees with
  | error _ => cases hanalysed
  | @ok a b hab => exact ⟨a, b, rfl, rfl, fun heq => hdiffer (heq ▸ rfl), hab⟩

end SqlFront
