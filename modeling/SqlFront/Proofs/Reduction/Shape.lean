import SqlFront.Proofs.Reduction.Elements

/-!
# SqlFront.Proofs.Reduction.Shape

The shape of abstract trees, whatever tree they come from.

Every node is made by one of a few constructions, and each of these gives the node the shape that
its kind asks for. The exceptions are the parts of a condition: they take the kinds of operands and
keep their children, so a definition or a constraint must not be among them.

* `Tree.WellShaped`: what the kind of a node says about its children.
* `shaped_reduced`: the nodes that an element becomes.
* `toAst_wellShaped`: all nodes of an abstract tree.
-/

namespace SqlFront
namespace Tree

/-- A node below the root has no kind of a statement. If its kind is that of a token, it has no
children; if it is a condition, its children are the three parts in order. -/
structure WellShaped (node : Tree) : Prop where
  notStatement : ∀ kind, node.kind = some kind → kind.isStatement = false
  leafRole : ∀ kind, node.kind = some kind → kind.isLeafRole = true → node.children = []
  operands : node.kind = some .binaryPredicate →
    node.children.map Tree.kind = [some .leftOperand, some .operator, some .rightOperand]

def Shaped (tree : Tree) : Prop := ∀ node ∈ tree.nodes, node.WellShaped

def Unkinded (tree : Tree) : Prop := ∀ node ∈ tree.nodes, node.kind = none

/-! ## Constructions -/

theorem shaped_node {label : String} {kind : Option Kind} {children : List Tree}
    (hnode : WellShaped ⟨label, kind, children⟩) (h : ∀ child ∈ children, child.Shaped) :
    Shaped ⟨label, kind, children⟩ := by
  intro node hmem
  rw [nodes] at hmem
  rcases List.mem_cons.mp hmem with rfl | hmem
  · exact hnode
  · obtain ⟨child, hchild, hnode⟩ := mem_nodesAll.mp hmem
    exact h child hchild node hnode

theorem shaped_of_kind (label : String) {kind : Kind} {children : List Tree}
    (hstatement : kind.isStatement = false) (hleaf : kind.isLeafRole = true → children = [])
    (hcondition : kind ≠ .binaryPredicate) (h : ∀ child ∈ children, child.Shaped) :
    Shaped ⟨label, some kind, children⟩ := by
  refine shaped_node ⟨?_, ?_, fun hkind => absurd (Option.some.inj hkind) hcondition⟩ h
  · rintro _ ⟨⟩
    exact hstatement
  · rintro _ ⟨⟩ hrole
    exact hleaf hrole

theorem shaped_leaf (label : String) {kind : Kind} (hstatement : kind.isStatement = false)
    (hcondition : kind ≠ .binaryPredicate) : (leaf label kind).Shaped :=
  shaped_of_kind label hstatement (fun _ => rfl) hcondition (List.forall_mem_nil _)

theorem Unkinded.shaped {tree : Tree} (h : tree.Unkinded) : tree.Shaped := by
  intro node hmem
  have hnone := h node hmem
  constructor <;> simp [hnone]

theorem Unkinded.of_mem {tree node : Tree} (h : tree.Unkinded) (hmem : node ∈ tree.nodes) :
    node.Unkinded :=
  fun below hbelow => h below (nodes_subset hmem hbelow)

theorem Unkinded.child {tree child : Tree} (h : tree.Unkinded) (hmem : child ∈ tree.children) :
    child.Unkinded :=
  h.of_mem (mem_nodes_of_mem_children hmem)

theorem Unkinded.shaped_withKind {tree : Tree} (h : tree.Unkinded) :
    (tree.withKind .constraint).Shaped :=
  shaped_of_kind tree.label rfl nofun (by decide) fun _ hchild => (h.child hchild).shaped

end Tree

namespace Reduction

open SqlFront.Tree

/-! ## Elements -/

theorem shaped_dataType {children : List Tree} : ∀ tree ∈ dataType children, tree.Shaped := by
  cases children with
  | nil =>
    intro tree hmem
    rw [List.mem_singleton.mp hmem]
    exact shaped_of_kind "" rfl nofun (by decide) (List.forall_mem_nil _)
  | cons name rest =>
    refine List.forall_mem_cons.mpr ⟨shaped_leaf _ rfl (by decide), fun tree hmem => ?_⟩
    obtain ⟨part, -, rfl⟩ := List.mem_map.mp hmem
    exact shaped_leaf _ rfl (by decide)

theorem shaped_definitionPart {part : Tree} (h : part.Unkinded) :
    ∀ tree ∈ definitionPart part, tree.Shaped := by
  unfold definitionPart
  split
  · exact shaped_dataType
  · exact List.forall_mem_singleton.mpr h.shaped_withKind
  · nofun

theorem shaped_definition {children : List Tree} (h : ∀ child ∈ children, child.Unkinded) :
    (definition children).Shaped := by
  cases children with
  | nil => exact shaped_of_kind "" rfl nofun (by decide) (List.forall_mem_nil _)
  | cons name parts =>
    refine shaped_of_kind "" rfl nofun (by decide) ?_
    refine List.forall_mem_cons.mpr ⟨shaped_leaf _ rfl (by decide), fun tree hmem => ?_⟩
    obtain ⟨part, hpart, htree⟩ := List.mem_flatMap.mp hmem
    exact shaped_definitionPart (h part (List.mem_cons_of_mem _ hpart)) tree htree

theorem shaped_reduced (kind : Kind) {element : Tree} (h : element.Unkinded) :
    ∀ tree ∈ reduced (leafKindOf kind) element, tree.Shaped := by
  unfold reduced
  split
  · exact List.forall_mem_singleton.mpr (shaped_definition fun _ => h.child)
  · exact shaped_dataType
  · exact List.forall_mem_singleton.mpr h.shaped_withKind
  · refine List.forall_mem_singleton.mpr (shaped_leaf _ ?_ ?_) <;> cases kind <;> decide

theorem shaped_survivorsAll (kind : Kind) {trees : List Tree}
    (h : ∀ tree ∈ trees, tree.Unkinded) :
    ∀ tree ∈ survivorsAll (leafKindOf kind) trees, tree.Shaped := by
  intro tree hmem
  rw [survivorsAll_eq] at hmem
  obtain ⟨element, helement, htree⟩ := List.mem_flatMap.mp hmem
  obtain ⟨parent, hparent, hbelow⟩ := mem_nodesAll.mp (mem_nodesAll_of_mem_elementsAll helement)
  exact shaped_reduced kind ((h parent hparent).of_mem hbelow) tree htree

/-! ## Conditions -/

theorem children_of_mem_dataType {children : List Tree} :
    ∀ tree ∈ dataType children, tree.children = [] := by
  cases children with
  | nil => exact List.forall_mem_singleton.mpr rfl
  | cons name rest =>
    refine List.forall_mem_cons.mpr ⟨rfl, fun tree hmem => ?_⟩
    obtain ⟨part, -, rfl⟩ := List.mem_map.mp hmem
    rfl

-- Only a definition and a constraint keep children when they become elements.
theorem children_of_mem_reduced {leafKind : Kind} {element : Tree}
    (hdefinition : element.label ≠ Label.columnDef)
    (hconstraint : element.label ≠ Label.constraint) :
    ∀ tree ∈ reduced leafKind element, tree.children = [] := by
  unfold reduced
  split
  case h_1 hrule =>
    exact absurd ((ruleFor_eq_relabel_iff (by simp [table])).mp hrule) hdefinition
  case h_2 => exact children_of_mem_dataType
  case h_3 hrule =>
    exact absurd ((ruleFor_eq_relabel_iff (by simp [table])).mp hrule) hconstraint
  case h_4 => exact List.forall_mem_singleton.mpr rfl

theorem shaped_condition {parts trees : List Tree} (h : condition parts = .ok trees)
    (hparts : ∀ part ∈ parts, part.children = []) : ∀ tree ∈ trees, tree.Shaped := by
  -- an operand takes the kind of a token, so it needs to have no children of its own
  have hoperand : ∀ part ∈ parts, ∀ kind : Kind, kind.isStatement = false →
      kind ≠ .binaryPredicate → (part.withKind kind).Shaped := by
    intro part hmem kind hstatement hcondition
    have hchildren := hparts part hmem
    refine shaped_of_kind part.label hstatement (fun _ => hchildren) hcondition ?_
    rw [hchildren]
    exact List.forall_mem_nil _
  unfold condition at h
  split at h
  · cases h
    refine List.forall_mem_singleton.mpr (shaped_node ⟨?_, ?_, fun _ => rfl⟩ ?_)
    · rintro _ ⟨⟩
      rfl
    · rintro _ ⟨⟩ ⟨⟩
    · intro tree hmem
      simp only [List.mem_cons, List.not_mem_nil, or_false] at hmem
      rcases hmem with rfl | rfl | rfl <;> exact hoperand _ (by simp) _ rfl (by decide)
  · cases h

/-! ## Clauses -/

theorem shaped_predicate {children parts : List Tree} (h : predicate children = .ok parts)
    (hwhere : ∀ node ∈ nodesAll children,
      node.label ≠ Label.columnDef ∧ node.label ≠ Label.constraint) :
    ∀ part ∈ parts, part.Shaped := by
  by_cases hpresent : children = []
  · rw [hpresent] at h
    cases h
    exact List.forall_mem_nil _
  · rw [predicate_eq hpresent] at h
    refine shaped_condition h fun part hpart => ?_
    rw [survivorsAll_eq] at hpart
    obtain ⟨element, helement, hpart⟩ := List.mem_flatMap.mp hpart
    have hlabels := hwhere element (mem_nodesAll_of_mem_elementsAll helement)
    exact children_of_mem_reduced hlabels.1 hlabels.2 part hpart

theorem shaped_tableName (children : List Tree) : (tableName children).Shaped := by
  cases children with
  | nil => exact shaped_of_kind "" rfl nofun (by decide) (List.forall_mem_nil _)
  | cons name _ => exact shaped_leaf _ rfl (by decide)

/-- If the node is a condition, no definition and no constraint is below it. -/
def PlainCondition (tree : Tree) : Prop :=
  tree.label = Label.optionalWhere → ∀ node ∈ nodesAll tree.children,
    node.label ≠ Label.columnDef ∧ node.label ≠ Label.constraint

/-- No row of the table gives a kind of a statement or of a token. -/
theorem kind_of_relabel {label : String} {kind : Kind} (h : ruleFor label = .relabel kind) :
    kind.isStatement = false ∧ kind.isLeafRole = false := by
  have htable : ∀ row ∈ table, ∀ kind ∈ Kind.all, row.2 = .relabel kind →
      kind.isStatement = false ∧ kind.isLeafRole = false := by
    decide
  have hmem : (label, .relabel kind) ∈ table := (ruleFor_eq_iff (by simp)).mp h
  exact htable _ hmem kind (Kind.mem_all kind) rfl

theorem shaped_clause {tree : Tree} {parts : List Tree} (h : clause tree = .ok parts)
    (hkinds : tree.Unkinded) (hplain : PlainCondition tree) : ∀ part ∈ parts, part.Shaped := by
  have hchildren : ∀ child ∈ tree.children, child.Unkinded := fun _ => hkinds.child
  unfold clause at h
  split at h
  case h_1 =>
    cases h
    exact List.forall_mem_nil _
  case h_2 =>
    cases h
    exact List.forall_mem_singleton.mpr (shaped_tableName _)
  case h_3 hrule =>
    exact shaped_predicate h (hplain ((ruleFor_eq_relabel_iff (by simp [table])).mp hrule))
  case h_4 kind _ hother hrule =>
    cases h
    obtain ⟨hstatement, hleaf⟩ := kind_of_relabel hrule
    refine List.forall_mem_singleton.mpr (shaped_of_kind "" hstatement ?_ hother ?_)
    · intro hrole
      rw [hleaf] at hrole
      cases hrole
    · exact shaped_survivorsAll kind hchildren
  case h_5 =>
    split at h
    · cases h
      exact shaped_survivorsAll .identifier hchildren
    · cases h
      exact List.forall_mem_singleton.mpr (shaped_leaf _ rfl (by decide))

theorem shaped_clauses {trees parts : List Tree} (h : clauses trees = .ok parts)
    (hkinds : ∀ tree ∈ trees, tree.Unkinded) (hplain : ∀ tree ∈ trees, PlainCondition tree) :
    ∀ part ∈ parts, part.Shaped := by
  induction trees generalizing parts with
  | nil =>
    cases h
    exact List.forall_mem_nil _
  | cons tree trees ih =>
    rw [clauses] at h
    split at h
    · cases h
    split at h
    · cases h
    rename_i first hfirst _ rest hrest
    cases h
    have htree := shaped_clause hfirst (hkinds tree List.mem_cons_self)
      (hplain tree List.mem_cons_self)
    have htrees := ih hrest (fun other hmem => hkinds other (List.mem_cons_of_mem _ hmem))
      fun other hmem => hplain other (List.mem_cons_of_mem _ hmem)
    exact List.forall_mem_append.mpr ⟨htree, htrees⟩

/-! ## The root -/

theorem isStatement_of_statementKind? {label : String} {kind : Kind}
    (h : statementKind? label = some kind) : kind.isStatement = true := by
  unfold statementKind? at h
  split at h <;> cases h <;> rfl

end Reduction

/-- The shape of every abstract tree. The root is a statement without label, and nothing below it
is a statement. A node with the kind of a token has no children, and a condition has its three parts
in order. The reduced tree may be any tree without kinds, as long as no definition or constraint is
below a condition. -/
theorem toAst_wellShaped {t a : Tree} (hkinds : ∀ node ∈ t.nodes, node.kind = none)
    (hwhere : ∀ child ∈ t.children, child.label = Label.optionalWhere →
      ∀ node ∈ Tree.nodesAll child.children,
        node.label ≠ Label.columnDef ∧ node.label ≠ Label.constraint)
    (h : t.toAst = .ok a) :
    (∃ kind, a.kind = some kind ∧ kind.isStatement = true) ∧ a.label = "" ∧
      (∀ node ∈ Tree.nodesAll a.children, ∀ kind, node.kind = some kind →
        kind.isStatement = false) ∧
      (∀ node ∈ a.nodes, ∀ kind, node.kind = some kind → kind.isLeafRole = true →
        node.children = []) ∧
      ∀ node ∈ a.nodes, node.kind = some .binaryPredicate →
        node.children.map Tree.kind =
          [some .leftOperand, some .operator, some .rightOperand] := by
  obtain ⟨kind, children, ⟨announcement, -, hkind⟩, hclauses, rfl⟩ := Tree.exists_of_toAst h
  have hstatement := Reduction.isStatement_of_statementKind? hkind
  have hunkinded : t.Unkinded := hkinds
  have hchildren := Reduction.shaped_clauses hclauses (fun _ => hunkinded.child) hwhere
  have hbelow : ∀ node ∈ Tree.nodesAll children, node.WellShaped := by
    intro node hmem
    obtain ⟨child, hchild, hnode⟩ := Tree.mem_nodesAll.mp hmem
    exact hchildren child hchild node hnode
  refine ⟨⟨kind, rfl, hstatement⟩, rfl, fun node hmem => (hbelow node hmem).notStatement,
    fun node hmem => ?_, fun node hmem => ?_⟩
  · rw [Tree.tagged, Tree.nodes] at hmem
    rcases List.mem_cons.mp hmem with rfl | hmem
    · rintro _ ⟨⟩ hrole
      cases kind <;> contradiction
    · exact (hbelow node hmem).leafRole
  · rw [Tree.tagged, Tree.nodes] at hmem
    rcases List.mem_cons.mp hmem with rfl | hmem
    · rintro ⟨⟩
      contradiction
    · exact (hbelow node hmem).operands

/-- A tree that no statement has: names of the grammar where tokens belong, a data type as an
operand, a constraint in a definition and a data type that is a child of the root. -/
theorem toAst_wellShaped_handBuilt :
    let t : Tree := .plain "<any name>"
      [.plain "<column_list>"
         [.plain "<column_def>"
            [.token "c", .plain "<constraint>" [.plain "<optional_where>" [.token "x"]]],
          .plain "<optional_where>" [.plain "<value>" [.token "y"]]],
       .plain "<data_type>" [.plain "<table_name>" []],
       .plain "INSERT" [.token "SELECT"],
       .plain "<optional_where>"
         [.plain "<data_type>" [.plain "a" [.token "b"], .token "(", .token "3"], .token ",",
          .plain "=" [.token "z"]]]
    let a : Tree := .tagged .insert
      [.tagged .columnList
         [.tagged .columnDefinition
            [.leaf "c" .identifier,
             ⟨"<constraint>", some .constraint, [.plain "<optional_where>" [.token "x"]]⟩],
          .leaf "y" .identifier],
       .tagged .dataType [],
       .tagged .binaryPredicate
         [.leaf "a" .leftOperand, .leaf "3" .operator, .leaf "=" .rightOperand]]
    t.toAst = .ok a ∧
      (∃ kind, a.kind = some kind ∧ kind.isStatement = true) ∧ a.label = "" ∧
      (∀ node ∈ Tree.nodesAll a.children, ∀ kind, node.kind = some kind →
        kind.isStatement = false) ∧
      (∀ node ∈ a.nodes, ∀ kind, node.kind = some kind → kind.isLeafRole = true →
        node.children = []) ∧
      ∀ node ∈ a.nodes, node.kind = some .binaryPredicate →
        node.children.map Tree.kind =
          [some .leftOperand, some .operator, some .rightOperand] := by
  intro t a
  have hast : t.toAst = .ok a := by decide
  exact ⟨hast, toAst_wellShaped (by decide) (by decide) hast⟩

end SqlFront
