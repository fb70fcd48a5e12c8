import Mathlib.Logic.Relation
import SqlFront.Proofs.Reduction.Elements

/-!
# SqlFront.Proofs.Reduction.Regrouped

How a list is grouped does not matter, only what is in it.

* `Regroups`: one change to the grouping, anywhere below a list and above its elements.
* `Regroups.elementsAll_eq`: it leaves the elements as they are, in their order.
* `eqvGen_regroups_iff`: apart from the elements, any grouping can be changed into any other.
* `toAst_regrouped`: any number of changes, in any lists of a statement and in either direction.
-/

namespace SqlFront

/-- What one step keeps is kept by any number of steps in either direction. -/
theorem eq_of_eqvGen {α β : Type} {step : α → α → Prop} {f : α → β}
    (hstep : ∀ x y, step x y → f x = f y) {x y : α} (h : Relation.EqvGen step x y) :
    f x = f y := by
  induction h with
  | rel x y h => exact hstep x y h
  | refl _ => rfl
  | symm _ _ _ ih => exact ih.symm
  | trans _ _ _ _ _ ih ih' => exact ih.trans ih'

namespace Reduction

/-! ## Changes -/

/-- One change to the trees below a list. A transparent node gives way to its children, or a node
that would be deleted anyway is left out; the place may be below other transparent nodes. -/
inductive Regroups : List Tree → List Tree → Prop where
  | unwrap {label : String} (left : List Tree) (kind : Option Kind) (children right : List Tree) :
      Transparent label →
      Regroups (left ++ ⟨label, kind, children⟩ :: right) (left ++ children ++ right)
  | drop {label : String} (left : List Tree) (kind : Option Kind) (children right : List Tree) :
      ruleFor label = .delete →
      Regroups (left ++ ⟨label, kind, children⟩ :: right) (left ++ right)
  | within {label : String} {children children' : List Tree} (left : List Tree)
      (kind : Option Kind) (right : List Tree) :
      Transparent label → Regroups children children' →
      Regroups (left ++ ⟨label, kind, children⟩ :: right)
        (left ++ ⟨label, kind, children'⟩ :: right)

theorem elements_of_transparent {label : String} (h : Transparent label) (kind : Option Kind)
    (children : List Tree) : elements ⟨label, kind, children⟩ = elementsAll children := by
  rw [elements, if_neg h.2.1, if_pos h]

theorem elements_of_delete {label : String} (h : ruleFor label = .delete) (kind : Option Kind)
    (children : List Tree) : elements ⟨label, kind, children⟩ = [] := by
  rw [elements, if_pos h]

/-- No change reorders, drops or duplicates an element. -/
theorem Regroups.elementsAll_eq {trees trees' : List Tree} (h : Regroups trees trees') :
    elementsAll trees = elementsAll trees' := by
  induction h with
  | unwrap left kind children right hlabel =>
    simp only [elementsAll_append, elementsAll, elements_of_transparent hlabel, List.append_assoc]
  | drop left kind children right hlabel =>
    simp only [elementsAll_append, elementsAll, elements_of_delete hlabel, List.nil_append]
  | within left kind right hlabel _ ih =>
    simp only [elementsAll_append, elementsAll, elements_of_transparent hlabel, ih]

mutual

theorem regroups_elements (left right : List Tree) : ∀ tree : Tree,
    Relation.EqvGen Regroups (left ++ tree :: right) (left ++ elements tree ++ right)
  | ⟨label, kind, children⟩ => by
    by_cases hdelete : ruleFor label = .delete
    · rw [elements_of_delete hdelete, List.append_nil]
      exact .rel _ _ (.drop left kind children right hdelete)
    by_cases hlabel : Transparent label
    · rw [elements_of_transparent hlabel]
      have hunwrap := Regroups.unwrap left kind children right hlabel
      exact .trans _ _ _ (.rel _ _ hunwrap) (regroups_elementsAll left right children)
    · rw [elements, if_neg hdelete, if_neg hlabel, List.append_assoc]
      exact .refl _

theorem regroups_elementsAll (left right : List Tree) : ∀ trees : List Tree,
    Relation.EqvGen Regroups (left ++ trees ++ right) (left ++ elementsAll trees ++ right)
  | [] => .refl _
  | tree :: trees => by
    have hfirst := regroups_elements left (trees ++ right) tree
    have hrest := regroups_elementsAll (left ++ elements tree) right trees
    rw [List.append_assoc (left ++ elements tree)] at hrest
    rw [elementsAll, ← List.append_assoc left, List.append_assoc left (tree :: trees),
      List.cons_append]
    exact hfirst.trans _ _ _ hrest

end

/-- Changes lead from one grouping to another exactly if the elements are the same. -/
theorem eqvGen_regroups_iff {trees trees' : List Tree} :
    Relation.EqvGen Regroups trees trees' ↔ elementsAll trees = elementsAll trees' := by
  refine ⟨eq_of_eqvGen fun _ _ h => h.elementsAll_eq, fun h => ?_⟩
  -- both can be changed until nothing but elements is left
  have hleft := regroups_elementsAll [] [] trees
  have hright := regroups_elementsAll [] [] trees'
  rw [List.nil_append, List.nil_append, List.append_nil, List.append_nil] at hleft hright
  rw [← h] at hright
  exact hleft.trans _ _ _ (hright.symm _ _)

/-! ## Lists -/

def listLabels : List String := [Label.columnList, Label.valueList, Label.columnDefsList]

/-- What a list becomes depends on its elements only. Their leaves have the kind that this list
gives, whatever lists there are below it. -/
theorem clause_of_mem_listLabels {label : String} (h : label ∈ listLabels) :
    ∃ listKind, ∀ kind children, clause ⟨label, kind, children⟩ =
      .ok [.tagged listKind ((elementsAll children).flatMap (reduced (leafKindOf listKind)))] := by
  have htable : ∀ label ∈ listLabels,
      ∃ listKind ∈ [Kind.columnList, .valueList, .columnDefinitions],
        ruleFor label = .relabel listKind := by
    decide
  obtain ⟨listKind, hkind, hrule⟩ := htable label h
  refine ⟨listKind, fun kind children => ?_⟩
  rw [clause, hrule, ← survivorsAll_eq]
  simp only [List.mem_cons, List.not_mem_nil, or_false] at hkind
  rcases hkind with rfl | rfl | rfl <;> rfl

theorem clauses_congr {tree tree' : Tree} (h : clause tree = clause tree')
    (left right : List Tree) :
    clauses (left ++ tree :: right) = clauses (left ++ tree' :: right) := by
  induction left with
  | nil => rw [List.nil_append, List.nil_append, clauses, clauses, h]
  | cons first left ih => rw [List.cons_append, List.cons_append, clauses, clauses, ih]

end Reduction

namespace Tree

/-- One change to the grouping below a list, which is a child of the root. -/
inductive Regrouped : Tree → Tree → Prop where
  | list {listLabel : String} {children children' : List Tree} (label : String)
      (kind : Option Kind) (left : List Tree) (listKind : Option Kind) (right : List Tree) :
      listLabel ∈ Reduction.listLabels → Reduction.Regroups children children' →
      Regrouped ⟨label, kind, left ++ ⟨listLabel, listKind, children⟩ :: right⟩
        ⟨label, kind, left ++ ⟨listLabel, listKind, children'⟩ :: right⟩

theorem Regrouped.toAst_eq {tree tree' : Tree} (h : Regrouped tree tree') :
    tree.toAst = tree'.toAst := by
  cases h with
  | @list listLabel children children' label kind left listKind right hlist hregroups =>
    obtain ⟨astKind, hclause⟩ := Reduction.clause_of_mem_listLabels hlist
    have hequal : Reduction.clause ⟨listLabel, listKind, children⟩ =
        Reduction.clause ⟨listLabel, listKind, children'⟩ := by
      rw [hclause, hclause, hregroups.elementsAll_eq]
    rw [Tree.toAst_eq, Tree.toAst_eq, Reduction.clauses_congr hequal left right]
    simp only [List.map_append, List.map_cons]

/-- Lists with the same elements are regrouped into one another below any root. -/
theorem regrouped_of_elementsAll_eq {listLabel : String} (hlist : listLabel ∈ Reduction.listLabels)
    {children children' : List Tree}
    (h : Reduction.elementsAll children = Reduction.elementsAll children') (label : String)
    (kind : Option Kind) (left : List Tree) (listKind : Option Kind) (right : List Tree) :
    Relation.EqvGen Regrouped ⟨label, kind, left ++ ⟨listLabel, listKind, children⟩ :: right⟩
      ⟨label, kind, left ++ ⟨listLabel, listKind, children'⟩ :: right⟩ := by
  have hregroups := Reduction.eqvGen_regroups_iff.mpr h
  clear h
  induction hregroups with
  | rel _ _ h => exact .rel _ _ (.list label kind left listKind right hlist h)
  | refl _ => exact .refl _
  | symm _ _ _ ih => exact ih.symm _ _
  | trans _ _ _ _ _ ih ih' => exact ih.trans _ _ _ ih'

end Tree

/-- Only what is in a list matters, not how it is grouped. Trees that differ by any number of
changes to the grouping below their lists have the same abstract tree, or fail alike. -/
theorem toAst_regrouped {t u : Tree} (h : Relation.EqvGen Tree.Regrouped t u) :
    t.toAst = u.toAst :=
  eq_of_eqvGen (fun _ _ hstep => hstep.toAst_eq) h

/-- A list of columns in a list of values, and a stray comma in it: all of them are values. -/
theorem toAst_regrouped_nested :
    let t : Tree := .plain "<query>"
      [.token "INSERT",
       .plain "<value_list>"
         [.token "1",
          .plain "<column_list>" [.token ",", .plain "<any name>" [.token "b"]],
          .token "3"],
       .plain "<optional_where>" []]
    let u : Tree := .plain "<query>"
      [.token "INSERT", .plain "<value_list>" [.token "1", .token "b", .token "3"],
       .plain "<optional_where>" []]
    Relation.EqvGen Tree.Regrouped t u ∧ t.toAst = u.toAst ∧
      u.toAst = .ok (.tagged .insert
        [.tagged .valueList [.leaf "1" .value, .leaf "b" .value, .leaf "3" .value]]) := by
  intro t u
  have hregrouped : Relation.EqvGen Tree.Regrouped t u :=
    Tree.regrouped_of_elementsAll_eq (by decide) (by decide) "<query>" none [.token "INSERT"] none
      [.plain "<optional_where>" []]
  exact ⟨hregrouped, toAst_regrouped hregrouped, by decide⟩

end SqlFront
