import Mathlib.Data.List.Forall2
import SqlFront.Proofs.Tree.Nodes

/-!
# SqlFront.Proofs.Tree.Rekinded

Trees that differ in kinds only.

* `Tree.Corresponds P`: the same shape and the same labels, and `P` of every two nodes that are at
  the same place.
* `Tree.Rekinded`: the same shape and the same labels.
* `Corresponds.counterparts`, `Corresponds.of_mem_zip`: nodes at the same place are those at the
  same index in preorder.
* `Tree.AgreesOutside P`: the same tree, except below copies of nodes that are related by `P`.
-/

namespace SqlFront
namespace Tree

variable {P Q : Tree → Tree → Prop}

/-- The same shape and the same labels, and related nodes at each place. -/
inductive Corresponds (P : Tree → Tree → Prop) : Tree → Tree → Prop where
  | node {label : String} {kind kind' : Option Kind} {children children' : List Tree} :
      P ⟨label, kind, children⟩ ⟨label, kind', children'⟩ →
      List.Forall₂ (Corresponds P) children children' →
      Corresponds P ⟨label, kind, children⟩ ⟨label, kind', children'⟩

/-- The same shape and the same labels. -/
def Rekinded : Tree → Tree → Prop := Corresponds fun _ _ => True

namespace Corresponds

theorem label_eq {s t : Tree} (h : Corresponds P s t) : s.label = t.label := by
  cases h with
  | node _ _ => rfl

theorem children {s t : Tree} (h : Corresponds P s t) :
    List.Forall₂ (Corresponds P) s.children t.children := by
  cases h with
  | node _ hchildren => exact hchildren

theorem related {s t : Tree} (h : Corresponds P s t) : P s t := by
  cases h with
  | node hnode _ => exact hnode

end Corresponds

mutual

theorem Corresponds.imp (h : ∀ x y, P x y → Q x y) :
    ∀ {s t : Tree}, Corresponds P s t → Corresponds Q s t
  | ⟨_, _, _⟩, ⟨_, _, _⟩, .node hnode hchildren => .node (h _ _ hnode) (corresponds_imp h hchildren)

theorem corresponds_imp (h : ∀ x y, P x y → Q x y) :
    ∀ {ss ts : List Tree}, List.Forall₂ (Corresponds P) ss ts → List.Forall₂ (Corresponds Q) ss ts
  | [], [], _ => .nil
  | _ :: _, _ :: _, .cons htree htrees => .cons (htree.imp h) (corresponds_imp h htrees)

end

theorem Corresponds.rekinded {s t : Tree} (h : Corresponds P s t) : s.Rekinded t :=
  h.imp fun _ _ _ => trivial

theorem map_label_eq {ss ts : List Tree} (h : List.Forall₂ (Corresponds P) ss ts) :
    ss.map label = ts.map label := by
  induction h with
  | nil => rfl
  | cons htree _ ih => rw [List.map_cons, List.map_cons, htree.label_eq, ih]

/-! ## Nodes at the same place -/

mutual

theorem Corresponds.length_nodes : ∀ {s t : Tree}, Corresponds P s t →
    s.nodes.length = t.nodes.length
  | ⟨_, _, _⟩, ⟨_, _, _⟩, .node _ hchildren => by
    rw [nodes, nodes, List.length_cons, List.length_cons, length_nodesAll hchildren]

theorem length_nodesAll : ∀ {ss ts : List Tree}, List.Forall₂ (Corresponds P) ss ts →
    (nodesAll ss).length = (nodesAll ts).length
  | [], [], _ => rfl
  | _ :: _, _ :: _, .cons htree htrees => by
    rw [nodesAll, nodesAll, List.length_append, List.length_append, htree.length_nodes,
      length_nodesAll htrees]

end

mutual

theorem Corresponds.counterparts : ∀ {s t : Tree}, Corresponds P s t →
    Corresponds (fun x y => (x, y) ∈ s.nodes.zip t.nodes) s t
  | ⟨_, _, _⟩, ⟨_, _, _⟩, .node _ hchildren => by
    rw [nodes, nodes, List.zip_cons_cons]
    refine .node List.mem_cons_self ?_
    exact corresponds_imp (fun _ _ => List.mem_cons_of_mem _) (counterparts_all hchildren)

theorem counterparts_all : ∀ {ss ts : List Tree}, List.Forall₂ (Corresponds P) ss ts →
    List.Forall₂ (Corresponds fun x y => (x, y) ∈ (nodesAll ss).zip (nodesAll ts)) ss ts
  | [], [], _ => .nil
  | _ :: _, _ :: _, .cons htree htrees => by
    rw [nodesAll, nodesAll, List.zip_append htree.length_nodes]
    exact .cons (htree.counterparts.imp fun _ _ => List.mem_append_left _)
      (corresponds_imp (fun _ _ => List.mem_append_right _) (counterparts_all htrees))

end

mutual

theorem Corresponds.of_mem_zip : ∀ {s t x y : Tree}, Corresponds P s t →
    (x, y) ∈ s.nodes.zip t.nodes → Corresponds P x y
  | ⟨_, _, _⟩, ⟨_, _, _⟩, x, y, .node hnode hchildren, hmem => by
    rw [nodes, nodes, List.zip_cons_cons] at hmem
    rcases List.mem_cons.mp hmem with heq | hmem
    · cases heq
      exact .node hnode hchildren
    · exact of_mem_zip_all hchildren hmem

theorem of_mem_zip_all : ∀ {ss ts : List Tree} {x y : Tree}, List.Forall₂ (Corresponds P) ss ts →
    (x, y) ∈ (nodesAll ss).zip (nodesAll ts) → Corresponds P x y
  | _ :: _, _ :: _, x, y, .cons htree htrees, hmem => by
    rw [nodesAll, nodesAll, List.zip_append htree.length_nodes] at hmem
    rcases List.mem_append.mp hmem with hmem | hmem
    · exact htree.of_mem_zip hmem
    · exact of_mem_zip_all htrees hmem

end

/-! ## Copies -/

/-- The same label and kind at every node outside of copies. A copy has a kind of its own, the same
on both sides; below it are the two nodes that were copied, and these are related by `P`. -/
inductive AgreesOutside (P : Tree → Tree → Prop) : Tree → Tree → Prop where
  | node {label : String} {kind : Option Kind} {children children' : List Tree} :
      List.Forall₂ (AgreesOutside P) children children' →
      AgreesOutside P ⟨label, kind, children⟩ ⟨label, kind, children'⟩
  | copy {original original' : Tree} (kind : Kind) : P original original' →
      AgreesOutside P (original.withKind kind) (original'.withKind kind)

mutual

theorem AgreesOutside.refl : ∀ tree : Tree, AgreesOutside P tree tree
  | ⟨_, _, children⟩ => .node (agreesOutside_refl children)

theorem agreesOutside_refl : ∀ trees : List Tree, List.Forall₂ (AgreesOutside P) trees trees
  | [] => .nil
  | tree :: trees => .cons (.refl tree) (agreesOutside_refl trees)

end

theorem AgreesOutside.withKind {s t : Tree} (h : AgreesOutside P s t) (kind : Kind) :
    AgreesOutside P (s.withKind kind) (t.withKind kind) := by
  cases h with
  | node hchildren => exact .node hchildren
  | @copy original original' _ hcopied =>
    change AgreesOutside P (original.withKind kind) (original'.withKind kind)
    exact .copy kind hcopied

mutual

/-- Without copies there is no difference. -/
theorem AgreesOutside.eq (hnone : ∀ x y, ¬P x y) : ∀ {s t : Tree}, AgreesOutside P s t → s = t
  | ⟨_, _, _⟩, ⟨_, _, _⟩, .node hchildren => by rw [eq_of_agreesOutside hnone hchildren]
  | _, _, .copy _ hcopied => absurd hcopied (hnone _ _)

theorem eq_of_agreesOutside (hnone : ∀ x y, ¬P x y) :
    ∀ {ss ts : List Tree}, List.Forall₂ (AgreesOutside P) ss ts → ss = ts
  | [], [], _ => rfl
  | _ :: _, _ :: _, .cons htree htrees => by
    rw [htree.eq hnone, eq_of_agreesOutside hnone htrees]

end

mutual

theorem AgreesOutside.rekinded (hcopied : ∀ x y, P x y → x.Rekinded y) :
    ∀ {s t : Tree}, AgreesOutside P s t → s.Rekinded t
  | ⟨_, _, _⟩, ⟨_, _, _⟩, .node hchildren => .node trivial (rekinded_all hcopied hchildren)
  | _, _, .copy kind h => by
    cases hcopied _ _ h with
    | node _ hchildren => exact .node trivial hchildren

theorem rekinded_all (hcopied : ∀ x y, P x y → x.Rekinded y) :
    ∀ {ss ts : List Tree}, List.Forall₂ (AgreesOutside P) ss ts → List.Forall₂ Rekinded ss ts
  | [], [], _ => .nil
  | _ :: _, _ :: _, .cons htree htrees =>
    .cons (htree.rekinded hcopied) (rekinded_all hcopied htrees)

end

end Tree
end SqlFront
