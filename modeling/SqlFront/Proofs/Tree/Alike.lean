import Mathlib.Data.List.Forall2
import SqlFront.Token
import SqlFront.Tree

/-!
# SqlFront.Proofs.Tree.Alike

Trees that differ in labels only.

* `Tree.Alike L`: the same shape and the same kinds, and corresponding labels related by `L`.
* `Label.Alike R`: the relation between labels that a relation `R` between tokens gives rise to.
* `Tree.labels`: the labels in preorder. Of trees alike, these are related one by one, and they
  alone decide whether the trees are equal.
-/

namespace SqlFront

/-- Equal labels, or tokens that correspond. A name of the grammar corresponds to itself only. -/
def Label.Alike (R : String → String → Prop) (label label' : String) : Prop :=
  label = label' ∨
    (R label label' ∧ Token.isNonTerminal label = false ∧ Token.isNonTerminal label' = false)

theorem Label.Alike.refl {R : String → String → Prop} (label : String) :
    Label.Alike R label label := .inl rfl

namespace Tree

variable {L : String → String → Prop}

/-- The same shape and the same kinds, with labels that are related. -/
inductive Alike (L : String → String → Prop) : Tree → Tree → Prop where
  | node {label label' : String} {kind : Option Kind} {children children' : List Tree} :
      L label label' → List.Forall₂ (Alike L) children children' →
      Alike L ⟨label, kind, children⟩ ⟨label', kind, children'⟩

mutual

theorem Alike.imp {M : String → String → Prop} (h : ∀ x y, L x y → M x y) :
    ∀ {s t : Tree}, Alike L s t → Alike M s t
  | ⟨_, _, _⟩, ⟨_, _, _⟩, .node hlabel hchildren => .node (h _ _ hlabel) (imp_all h hchildren)

theorem imp_all {M : String → String → Prop} (h : ∀ x y, L x y → M x y) :
    ∀ {ss ts : List Tree}, List.Forall₂ (Alike L) ss ts → List.Forall₂ (Alike M) ss ts
  | [], [], _ => .nil
  | _ :: _, _ :: _, .cons htree htrees => .cons (htree.imp h) (imp_all h htrees)

end

/-! ## Labels in preorder -/

mutual

def labels : Tree → List String
  | ⟨label, _, children⟩ => label :: labelsAll children

def labelsAll : List Tree → List String
  | [] => []
  | tree :: trees => labels tree ++ labelsAll trees

end

mutual

theorem Alike.labels : ∀ {s t : Tree}, Alike L s t → List.Forall₂ L s.labels t.labels
  | ⟨_, _, _⟩, ⟨_, _, _⟩, .node hlabel hchildren => .cons hlabel (labelsAll_alike hchildren)

theorem labelsAll_alike : ∀ {ss ts : List Tree}, List.Forall₂ (Alike L) ss ts →
    List.Forall₂ L (labelsAll ss) (labelsAll ts)
  | [], [], _ => .nil
  | _ :: _, _ :: _, .cons htree htrees =>
    List.rel_append htree.labels (labelsAll_alike htrees)

end

mutual

theorem Alike.eq_of_labels : ∀ {s t : Tree}, Alike L s t → s.labels = t.labels → s = t
  | ⟨_, _, _⟩, ⟨_, _, _⟩, .node _ hchildren, heq => by
    rw [Tree.labels, Tree.labels, List.cons.injEq] at heq
    rw [heq.1, eq_of_labelsAll hchildren heq.2]

theorem eq_of_labelsAll : ∀ {ss ts : List Tree}, List.Forall₂ (Alike L) ss ts →
    labelsAll ss = labelsAll ts → ss = ts
  | [], [], _, _ => rfl
  | _ :: _, _ :: _, .cons htree htrees, heq => by
    have hlength := htree.labels.length_eq
    obtain ⟨hhead, htail⟩ := List.append_inj heq hlength
    rw [htree.eq_of_labels hhead, eq_of_labelsAll htrees htail]

end

end Tree
end SqlFront
