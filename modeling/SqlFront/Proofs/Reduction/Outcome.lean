import SqlFront.Proofs.Reduction.Elements

/-!
# SqlFront.Proofs.Reduction.Outcome

When the reduction fails, on any tree.

There are two causes. Either no child of the root announces a statement, or a condition does not
have three parts; and these can be counted on the tree as it is, without reducing it.

* `partCount`, `length_survivors`: the count, and that it is the number of parts that are left.
* `clauses_of_find_some`, `exists_clauses`: the first malformed condition decides.
* `toAst_outcome`: the outcome for each tree.
-/

namespace SqlFront
namespace Reduction

/-! ## Parts of a condition -/

mutual

/-- The number of parts that a node counts for in a condition. What is below a token does not
count, nor does what is below a definition or a constraint. -/
def partCount : Tree → Nat
  | ⟨label, _, children⟩ =>
    if (label, .delete) ∈ table then 0
    else if label = Label.columnDef ∨ label = Label.constraint then 1
    else if label = Label.dataType then
      1 + (children.tail.filter fun part => part.label != "(" && part.label != ")").length
    else if Token.isNonTerminal label then partCountAll children
    else 1

def partCountAll : List Tree → Nat
  | [] => 0
  | tree :: trees => partCount tree + partCountAll trees

end

theorem length_dataType (children : List Tree) :
    (dataType children).length =
      1 + (children.tail.filter fun part => part.label != "(" && part.label != ")").length := by
  cases children with
  | nil => rfl
  | cons name rest => rw [dataType, List.length_cons, List.length_map, Nat.add_comm]; rfl

mutual

theorem length_survivors (leafKind : Kind) : ∀ tree : Tree,
    (survivors leafKind tree).length = partCount tree
  | ⟨label, kind, children⟩ => by
    have hdelete : ruleFor label = .delete ↔ (label, .delete) ∈ table := ruleFor_eq_iff (by simp)
    have hdefinition : ruleFor label = .relabel .columnDefinition ↔ label = Label.columnDef :=
      ruleFor_eq_relabel_iff (by simp [table])
    have hconstraint : ruleFor label = .relabel .constraint ↔ label = Label.constraint :=
      ruleFor_eq_relabel_iff (by simp [table])
    have htype : ruleFor label = .relabel .dataType ↔ label = Label.dataType :=
      ruleFor_eq_relabel_iff (by simp [table])
    simp only [partCount, ← hdelete, ← hdefinition, ← hconstraint, ← htype]
    rw [survivors]
    cases hrule : ruleFor label with
    | delete => simp
    | passThrough =>
      by_cases hname : Token.isNonTerminal label = true
      · simp [hname, length_survivorsAll leafKind children]
      · simp [hname]
    | relabel kind =>
      have hname := isNonTerminal_of_relabel hrule
      cases kind <;> simp [hname, length_survivorsAll leafKind children, length_dataType]

theorem length_survivorsAll (leafKind : Kind) : ∀ trees : List Tree,
    (survivorsAll leafKind trees).length = partCountAll trees
  | [] => rfl
  | tree :: trees => by
    rw [survivorsAll, partCountAll, List.length_append, length_survivors leafKind tree,
      length_survivorsAll leafKind trees]

end

/-! ## Malformed conditions -/

/-- A condition that is there and does not have three parts. -/
def Malformed (tree : Tree) : Prop :=
  tree.label = Label.optionalWhere ∧ tree.children ≠ [] ∧ partCountAll tree.children ≠ 3

instance (tree : Tree) : Decidable (Malformed tree) := by unfold Malformed; infer_instance

theorem condition_of_length_ne_three {parts : List Tree} (h : parts.length ≠ 3) :
    condition parts = .error (.malformedPredicate parts.length) := by
  unfold condition
  split
  · exact absurd rfl h
  · rfl

theorem exists_predicate {children : List Tree}
    (hparts : children ≠ [] → partCountAll children = 3) :
    ∃ parts, predicate children = .ok parts := by
  cases children with
  | nil => exact ⟨[], rfl⟩
  | cons first rest =>
    have hthree := hparts (List.cons_ne_nil first rest)
    rw [← length_survivorsAll .identifier] at hthree
    obtain ⟨left, operator, right, hsurvivors⟩ := List.length_eq_three.mp hthree
    rw [predicate_eq (List.cons_ne_nil first rest), hsurvivors]
    exact ⟨_, rfl⟩

theorem clause_of_malformed {tree : Tree} (h : Malformed tree) :
    clause tree = .error (.malformedPredicate (partCountAll tree.children)) := by
  have hrule : ruleFor tree.label = .relabel .binaryPredicate :=
    ruleFor_of_mem (by simp [h.1, table])
  have hparts := h.2.2
  rw [← length_survivorsAll .identifier] at hparts ⊢
  rw [clause, hrule]
  exact (predicate_eq h.2.1).trans (condition_of_length_ne_three hparts)

theorem exists_clause {tree : Tree} (h : ¬Malformed tree) : ∃ parts, clause tree = .ok parts := by
  unfold clause
  split
  case h_3 hrule =>
    have hlabel : tree.label = Label.optionalWhere :=
      (ruleFor_eq_relabel_iff (by simp [table])).mp hrule
    refine exists_predicate fun hpresent => ?_
    by_contra hparts
    exact h ⟨hlabel, hpresent, hparts⟩
  case h_5 => split <;> exact ⟨_, rfl⟩
  all_goals exact ⟨_, rfl⟩

theorem clauses_of_find_some {trees : List Tree} {tree : Tree}
    (h : trees.find? Malformed = some tree) :
    clauses trees = .error (.malformedPredicate (partCountAll tree.children)) := by
  induction trees with
  | nil => cases h
  | cons first trees ih =>
    by_cases hfirst : Malformed first
    · rw [List.find?_cons_of_pos (by simpa using hfirst), Option.some.injEq] at h
      rw [clauses, clause_of_malformed hfirst, h]
    · rw [List.find?_cons_of_neg (by simpa using hfirst)] at h
      obtain ⟨parts, hparts⟩ := exists_clause hfirst
      rw [clauses, hparts, ih h]

theorem exists_clauses {trees : List Tree} (h : ∀ tree ∈ trees, ¬Malformed tree) :
    ∃ parts, clauses trees = .ok parts := by
  induction trees with
  | nil => exact ⟨[], rfl⟩
  | cons first trees ih =>
    obtain ⟨parts, hfirst⟩ := exists_clause (h first List.mem_cons_self)
    obtain ⟨rest, hrest⟩ := ih fun tree htree => h tree (List.mem_cons_of_mem _ htree)
    rw [clauses, hfirst, hrest]
    exact ⟨parts ++ rest, rfl⟩

/-! ## Announcements -/

/-- The node is one of the words that statements begin with. -/
def Announces (tree : Tree) : Prop := tree.label ∈ ["SELECT", "CREATE", "INSERT"]

instance (tree : Tree) : Decidable (Announces tree) := by unfold Announces; infer_instance

theorem statementKind?_eq_some_iff {label : String} {kind : Kind} :
    statementKind? label = some kind ↔
      (label, kind) ∈ [("SELECT", Kind.select), ("CREATE", .createTable), ("INSERT", .insert)] := by
  unfold statementKind?
  split <;> simp_all [eq_comm]

theorem exists_statementKind? {tree : Tree} (h : Announces tree) :
    ∃ kind, statementKind? tree.label = some kind := by
  simp only [Announces, List.mem_cons, List.not_mem_nil, or_false] at h
  rcases h with h | h | h <;> rw [h] <;> exact ⟨_, rfl⟩

theorem statementKind?_eq_none {tree : Tree} (h : ¬Announces tree) :
    statementKind? tree.label = none := by
  cases hkind : statementKind? tree.label with
  | none => rfl
  | some kind =>
    have hmem := statementKind?_eq_some_iff.mp hkind
    refine absurd ?_ h
    simp only [List.mem_cons, Prod.mk.injEq, List.not_mem_nil, or_false] at hmem
    rcases hmem with ⟨hlabel, -⟩ | ⟨hlabel, -⟩ | ⟨hlabel, -⟩ <;> simp [Announces, hlabel]

theorem findSome_statementKind? (trees : List Tree) :
    (trees.map Tree.label).findSome? statementKind? =
      (trees.find? Announces).bind fun tree => statementKind? tree.label := by
  induction trees with
  | nil => rfl
  | cons tree trees ih =>
    rw [List.map_cons, List.findSome?_cons]
    by_cases htree : Announces tree
    · obtain ⟨kind, hkind⟩ := exists_statementKind? htree
      rw [List.find?_cons_of_pos (by simpa using htree), hkind, Option.bind_some, hkind]
    · rw [List.find?_cons_of_neg (by simpa using htree), statementKind?_eq_none htree, ih]

end Reduction

/-! ## The outcome -/

namespace Tree

open Reduction

theorem toAst_of_unannounced {tree : Tree} (h : tree.children.find? Announces = none) :
    tree.toAst = .error (.unrecognized ((tree.children.head?.map label).getD "")) := by
  rw [toAst_eq, findSome_statementKind?, h, List.head?_map]
  rfl

theorem toAst_of_malformed {tree announcement condition : Tree}
    (h : tree.children.find? Announces = some announcement)
    (hmalformed : tree.children.find? Malformed = some condition) :
    tree.toAst = .error (.malformedPredicate (partCountAll condition.children)) := by
  have hannounces : Announces announcement := by simpa using List.find?_some h
  obtain ⟨kind, hkind⟩ := exists_statementKind? hannounces
  rw [toAst_eq, findSome_statementKind?, h, Option.bind_some, hkind,
    clauses_of_find_some hmalformed]
  rfl

theorem exists_toAst {tree announcement : Tree}
    (h : tree.children.find? Announces = some announcement)
    (hmalformed : ∀ child ∈ tree.children, ¬Malformed child) :
    ∃ kind children, statementKind? announcement.label = some kind ∧
      tree.toAst = .ok (.tagged kind children) := by
  have hannounces : Announces announcement := by simpa using List.find?_some h
  obtain ⟨kind, hkind⟩ := exists_statementKind? hannounces
  obtain ⟨children, hchildren⟩ := exists_clauses hmalformed
  refine ⟨kind, children, hkind, ?_⟩
  rw [toAst_eq, findSome_statementKind?, h, Option.bind_some, hkind, hchildren]
  rfl

end Tree

/-- The outcome of the reduction, for each tree. It is refused as unrecognized exactly if no child
of the root begins a statement. If one does, it is refused for the first malformed condition, with
the number of its parts. If there is no such condition, there is an abstract tree, and its kind is
that of the first child that begins a statement. -/
theorem toAst_outcome (t : Tree) :
    (∀ l, t.toAst = .error (.unrecognized l) ↔
      (∀ child ∈ t.children, ¬Reduction.Announces child) ∧
        l = (t.children.head?.map Tree.label).getD "") ∧
    (∀ n, t.toAst = .error (.malformedPredicate n) ↔
      (∃ child ∈ t.children, Reduction.Announces child) ∧
        ∃ condition, t.children.find? Reduction.Malformed = some condition ∧
          n = Reduction.partCountAll condition.children) ∧
    ∀ kind, (∃ ast, t.toAst = .ok ast ∧ ast.kind = some kind) ↔
      (∃ announcement, t.children.find? Reduction.Announces = some announcement ∧
        (announcement.label, kind) ∈
          [("SELECT", Kind.select), ("CREATE", .createTable), ("INSERT", .insert)]) ∧
      ∀ child ∈ t.children, ¬Reduction.Malformed child := by
  cases hfind : t.children.find? Reduction.Announces with
  | none =>
    have hnone : ∀ child ∈ t.children, ¬Reduction.Announces child := by simpa using hfind
    rw [Tree.toAst_of_unannounced hfind]
    refine ⟨fun l => ⟨?_, ?_⟩, fun n => ⟨nofun, ?_⟩, fun kind => ⟨nofun, nofun⟩⟩
    · rintro ⟨⟩
      exact ⟨hnone, rfl⟩
    · rintro ⟨-, rfl⟩
      rfl
    · rintro ⟨⟨child, hchild, hannounces⟩, -⟩
      exact absurd hannounces (hnone child hchild)
  | some announcement =>
    have hmem := List.mem_of_find?_eq_some hfind
    have hannounces : Reduction.Announces announcement := by simpa using List.find?_some hfind
    have hsome : ¬∀ child ∈ t.children, ¬Reduction.Announces child :=
      fun hnone => hnone announcement hmem hannounces
    cases hmalformed : t.children.find? Reduction.Malformed with
    | some condition =>
      have hcondition : Reduction.Malformed condition := by
        simpa using List.find?_some hmalformed
      rw [Tree.toAst_of_malformed hfind hmalformed]
      refine ⟨fun l => ⟨nofun, fun h => absurd h.1 hsome⟩, fun n => ⟨?_, ?_⟩,
        fun kind => ⟨nofun, ?_⟩⟩
      · rintro ⟨⟩
        exact ⟨⟨announcement, hmem, hannounces⟩, condition, rfl, rfl⟩
      · rintro ⟨-, first, ⟨⟩, rfl⟩
        rfl
      · rintro ⟨-, hwell⟩
        exact absurd hcondition (hwell condition (List.mem_of_find?_eq_some hmalformed))
    | none =>
      have hwell : ∀ child ∈ t.children, ¬Reduction.Malformed child := by simpa using hmalformed
      obtain ⟨kind, children, hkind, hast⟩ := Tree.exists_toAst hfind hwell
      rw [hast]
      refine ⟨fun l => ⟨nofun, fun h => absurd h.1 hsome⟩, fun n => ⟨nofun, nofun⟩,
        fun other => ⟨?_, ?_⟩⟩
      · rintro ⟨ast, ⟨⟩, ⟨⟩⟩
        exact ⟨⟨announcement, rfl, Reduction.statementKind?_eq_some_iff.mp hkind⟩, hwell⟩
      · rintro ⟨⟨first, ⟨⟩, hother⟩, -⟩
        rw [Reduction.statementKind?_eq_some_iff.mpr hother] at hkind
        cases hkind
        exact ⟨_, rfl, rfl⟩

/-- A size counts beside its type, and of two malformed conditions the first is told. -/
example :
    (Tree.plain "<query>"
      [.plain "<optional_where>" [],
       .plain "<optional_where>"
         [.token "WHERE",
          .plain "<data_type>" [.token "CHAR", .token "(", .token "3", .token ")"]],
       .plain "<optional_where>" [.token "WHERE"],
       .token "INSERT"]).toAst = .error (.malformedPredicate 2) := by
  decide

end SqlFront
