import SqlFront.Proofs.Tree.Alike

/-!
# SqlFront.Proofs.Tree.Nodes

The nodes of a tree, each with everything below it.

* `Tree.nodes`: the nodes in preorder, so the first of them is the tree itself.
* `map_label_nodes`: their labels are the labels of the tree in preorder.
-/

namespace SqlFront
namespace Tree

mutual

def nodes : Tree → List Tree
  | ⟨label, kind, children⟩ => ⟨label, kind, children⟩ :: nodesAll children

def nodesAll : List Tree → List Tree
  | [] => []
  | tree :: trees => nodes tree ++ nodesAll trees

end

theorem nodes_plain (label : String) (children : List Tree) :
    (plain label children).nodes = plain label children :: nodesAll children := by
  rw [plain, nodes]

@[simp] theorem nodes_token (label : String) : (token label).nodes = [token label] := by
  rw [token, nodes_plain, nodesAll]

theorem mem_nodes_self : ∀ tree : Tree, tree ∈ tree.nodes
  | ⟨_, _, _⟩ => by rw [nodes]; exact List.mem_cons_self

theorem nodesAll_eq_flatMap (trees : List Tree) : nodesAll trees = trees.flatMap nodes := by
  induction trees with
  | nil => rfl
  | cons tree trees ih => rw [nodesAll, ih, List.flatMap_cons]

theorem mem_nodesAll {node : Tree} {trees : List Tree} :
    node ∈ nodesAll trees ↔ ∃ tree ∈ trees, node ∈ tree.nodes := by
  rw [nodesAll_eq_flatMap, List.mem_flatMap]

theorem mem_nodes_of_mem_children : ∀ {tree child : Tree}, child ∈ tree.children →
    child ∈ tree.nodes
  | ⟨_, _, _⟩, child, h => by
    rw [nodes]
    exact List.mem_cons_of_mem _ (mem_nodesAll.mpr ⟨child, h, mem_nodes_self child⟩)

mutual

/-- What is below a node of a tree is below the tree. -/
theorem nodes_subset : ∀ {tree node : Tree}, node ∈ tree.nodes → node.nodes ⊆ tree.nodes
  | ⟨label, kind, children⟩, node, h => by
    rw [nodes] at h ⊢
    rcases List.mem_cons.mp h with rfl | h
    · rw [nodes]
      exact List.Subset.refl _
    · exact List.subset_cons_of_subset _ (nodes_subset_all h)

theorem nodes_subset_all : ∀ {trees : List Tree} {node : Tree},
    node ∈ nodesAll trees → node.nodes ⊆ nodesAll trees
  | tree :: trees, node, h => by
    rw [nodesAll] at h ⊢
    rcases List.mem_append.mp h with h | h
    · exact List.subset_append_of_subset_left _ (nodes_subset h)
    · exact List.subset_append_of_subset_right _ (nodes_subset_all h)

end

mutual

theorem map_label_nodes : ∀ tree : Tree, tree.nodes.map label = tree.labels
  | ⟨_, _, children⟩ => by rw [nodes, labels, List.map_cons, map_label_nodesAll children]

theorem map_label_nodesAll : ∀ trees : List Tree, (nodesAll trees).map label = labelsAll trees
  | [] => rfl
  | tree :: trees => by
    rw [nodesAll, labelsAll, List.map_append, map_label_nodes tree, map_label_nodesAll trees]

end

end Tree
end SqlFront
