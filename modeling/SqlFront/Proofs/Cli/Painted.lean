import SqlFront.Cli.Page
import SqlFront.Proofs.Reduction.Meaning
import SqlFront.Proofs.Statement.Mirror

/-!
# SqlFront.Proofs.Cli.Painted

Painted trees are indented trees in colour.

The two printers split their cases differently: by the sort of node here, by kind and empty label
there. They say the same of every node but one: a statement with a label, of which only the indented
tree shows the label. No such node is in the trees of a query.

* `unpainted`: a text without the sequences that set a style.
* `paintedTree_false`, `unpainted_paintedTree`: the two printers without and with colour, by
  induction on the tree.
* `paintedTree_eq_indented`: what holds of all trees with bare statements, and of all queries.
-/

namespace SqlFront

namespace Text.Style

/-! ## Texts without style -/

/-- A character of a sequence that sets a style, between its bracket and its end. -/
def isParameter (c : Char) : Bool := c.isDigit || c == ';'

/-- The text without all sequences that set a style. -/
def unpainted : List Char → List Char
  | '\x1b' :: '[' :: cs =>
    match _hrest : cs.dropWhile isParameter with
    | 'm' :: rest => unpainted rest
    | _ => '\x1b' :: '[' :: unpainted cs
  | c :: cs => c :: unpainted cs
  | [] => []
termination_by cs => cs.length
decreasing_by
  · have hshorter := (List.dropWhile_sublist isParameter (l := cs)).length_le
    simp only [_hrest, List.length_cons] at hshorter ⊢
    omega
  · simp only [List.length_cons]
    omega
  · simp

theorem unpainted_sequence (parameters : List Char) (h : ∀ c ∈ parameters, isParameter c = true)
    (rest : List Char) :
    unpainted ('\x1b' :: '[' :: (parameters ++ 'm' :: rest)) = unpainted rest := by
  have hdrop : (parameters ++ 'm' :: rest).dropWhile isParameter = 'm' :: rest := by
    rw [List.dropWhile_append_of_pos h]
    rfl
  rw [unpainted]
  split <;> simp_all

theorem unpainted_append {text : List Char} (h : '\x1b' ∉ text) (rest : List Char) :
    unpainted (text ++ rest) = text ++ unpainted rest := by
  induction text with
  | nil => rfl
  | cons c cs ih =>
    simp only [List.mem_cons, not_or] at h
    rw [List.cons_append, unpainted, ih h.2, List.cons_append]
    intro cs' hc
    exact absurd hc.symm h.1

theorem reopen_eq_self {start text : List Char} (h : '\x1b' ∉ text) :
    reopen start text = text := by
  induction text with
  | nil => rfl
  | cons c cs ih =>
    simp only [List.mem_cons, not_or] at h
    rw [reopen, ih h.2]
    intro cs' hc
    exact absurd hc.symm h.1

theorem unpainted_opening (style : Style) (rest : List Char) :
    unpainted (style.opening.toList ++ rest) = unpainted rest := by
  have hparameters : (String.intercalate ";" style.codes).toList.all isParameter = true := by
    obtain ⟨weight, color⟩ := style
    rcases weight with _ | _ | _ <;> rcases color with _ | _ | _ | _ | _ | _ | _ <;> decide
  simpa [opening] using unpainted_sequence _ (List.all_eq_true.mp hparameters) rest

theorem unpainted_reset (rest : List Char) : unpainted (reset.toList ++ rest) = unpainted rest :=
  unpainted_sequence ['0'] (by simp [isParameter]) rest

theorem unpainted_paint (style : Style) {text : String} (h : '\x1b' ∉ text.toList)
    (rest : List Char) :
    unpainted ((style.paint true text).toList ++ rest) = text.toList ++ unpainted rest := by
  simp only [paint, if_true, String.toList_append, String.toList_ofList, List.append_assoc,
    reopen_eq_self h]
  rw [unpainted_opening, unpainted_append h, unpainted_reset]

@[simp] theorem paint_false (style : Style) (text : String) : style.paint false text = text := rfl

end Text.Style

/-! ## Statements -/

namespace Tree

/-- A node with the kind of a statement has no label. -/
def BareStatement (node : Tree) : Prop :=
  ∀ kind, node.kind = some kind → kind.isStatement = true → node.label = ""

def StatementsBare (tree : Tree) : Prop := ∀ node ∈ tree.nodes, node.BareStatement

def NoEscape (node : Tree) : Prop := '\x1b' ∉ node.label.toList

end Tree

namespace Cli

open Text.Style (unpainted unpainted_append unpainted_paint)

variable {label : String} {kind : Option Kind}

/-! ## Captions -/

theorem paintedCaption_false {children : List Tree}
    (h : Tree.BareStatement ⟨label, kind, children⟩) :
    paintedCaption false label kind = Tree.caption label kind := by
  cases kind with
  | none => simp [paintedCaption, Tree.caption]
  | some k =>
    by_cases hstatement : k.isStatement = true
    · simp [paintedCaption, Tree.caption, hstatement, show label = "" from h k rfl hstatement]
    · by_cases hlabel : label = ""
      · simp [paintedCaption, Tree.caption, hstatement, hlabel]
      · simp [paintedCaption, Tree.caption, hstatement, hlabel, ← String.toList_inj]

theorem escape_notMem_name (kind : Kind) : '\x1b' ∉ ("[" ++ kind.name ++ "]").toList := by
  cases kind <;> decide

theorem unpainted_paintedCaption {children : List Tree}
    (h : Tree.BareStatement ⟨label, kind, children⟩)
    (hescape : Tree.NoEscape ⟨label, kind, children⟩) (rest : List Char) :
    unpainted ((paintedCaption true label kind).toList ++ rest) =
      (Tree.caption label kind).toList ++ unpainted rest := by
  cases kind with
  | none =>
    rw [paintedCaption]
    split <;> rw [unpainted_paint _ hescape, Tree.caption]
  | some k =>
    have hname := escape_notMem_name k
    by_cases hstatement : k.isStatement = true
    · rw [paintedCaption, if_pos hstatement, unpainted_paint _ hname,
        show label = "" from h k rfl hstatement]
      rfl
    · rw [paintedCaption, if_neg hstatement, String.toList_append, List.append_assoc,
        unpainted_paint _ hname]
      by_cases hlabel : label = ""
      · simp [Tree.caption, hlabel]
      · have hspace : '\x1b' ∉ " ".toList := by decide
        simp only [Tree.caption, hlabel, String.isEmpty_iff, if_false, String.toList_append,
          List.append_assoc]
        rw [unpainted_append hspace, unpainted_paint _ hescape]
        simp

/-! ## Trees -/

mutual

theorem paintedTree_false : ∀ {tree : Tree} (depth : Nat), tree.StatementsBare →
    paintedTree false depth tree = tree.indented depth
  | ⟨label, kind, children⟩, depth, h => by
    rw [Tree.StatementsBare, Tree.nodes, List.forall_mem_cons] at h
    rw [paintedTree, Tree.indented, paintedCaption_false h.1, paintedTrees_false (depth + 1) h.2]

theorem paintedTrees_false : ∀ {trees : List Tree} (depth : Nat),
    (∀ node ∈ Tree.nodesAll trees, node.BareStatement) →
    paintedTrees false depth trees = Tree.indentedAll depth trees
  | [], _, _ => rfl
  | tree :: trees, depth, h => by
    rw [Tree.nodesAll, List.forall_mem_append] at h
    rw [paintedTrees, Tree.indentedAll, paintedTree_false depth h.1, paintedTrees_false depth h.2]

end

theorem escape_notMem_margin (depth : Nat) : '\x1b' ∉ (Tree.margin depth).toList := by
  simp [Tree.margin, List.mem_replicate]

mutual

theorem unpainted_paintedTree : ∀ {tree : Tree} (depth : Nat), tree.StatementsBare →
    (∀ node ∈ tree.nodes, node.NoEscape) → ∀ rest,
    unpainted ((paintedTree true depth tree).toList ++ rest) =
      (tree.indented depth).toList ++ unpainted rest
  | ⟨label, kind, children⟩, depth, hbare, hescape, rest => by
    rw [Tree.StatementsBare, Tree.nodes, List.forall_mem_cons] at hbare
    rw [Tree.nodes, List.forall_mem_cons] at hescape
    have hline : '\x1b' ∉ "\n".toList := by decide
    simp only [paintedTree, Tree.indented, String.toList_append, List.append_assoc]
    rw [unpainted_append (escape_notMem_margin depth), unpainted_paintedCaption hbare.1 hescape.1,
      unpainted_append hline, unpainted_paintedTrees (depth + 1) hbare.2 hescape.2]

theorem unpainted_paintedTrees : ∀ {trees : List Tree} (depth : Nat),
    (∀ node ∈ Tree.nodesAll trees, node.BareStatement) →
    (∀ node ∈ Tree.nodesAll trees, node.NoEscape) → ∀ rest,
    unpainted ((paintedTrees true depth trees).toList ++ rest) =
      (Tree.indentedAll depth trees).toList ++ unpainted rest
  | [], _, _, _, _ => rfl
  | tree :: trees, depth, hbare, hescape, rest => by
    rw [Tree.nodesAll, List.forall_mem_append] at hbare hescape
    simp only [paintedTrees, Tree.indentedAll, String.toList_append, List.append_assoc]
    rw [unpainted_paintedTree depth hbare.1 hescape.1,
      unpainted_paintedTrees depth hbare.2 hescape.2]

end

end Cli

/-! ## Trees of queries -/

namespace Tree

@[simp] theorem statementsBare_tagged {kind : Kind} {children : List Tree} :
    (tagged kind children).StatementsBare ↔ ∀ child ∈ children, child.StatementsBare := by
  simp only [StatementsBare, tagged, nodes, List.forall_mem_cons, mem_nodesAll]
  constructor
  · exact fun h child hchild node hnode => h.2 node ⟨child, hchild, hnode⟩
  · rintro h
    exact ⟨fun _ _ _ => rfl, fun node ⟨child, hchild, hnode⟩ => h child hchild node hnode⟩

@[simp] theorem statementsBare_leaf {label : String} {kind : Kind} :
    (leaf label kind).StatementsBare ↔ (kind.isStatement = true → label = "") := by
  simp [StatementsBare, BareStatement, leaf, nodes, nodesAll]

theorem statementsBare_leaves {test : String → Bool} (kind : Kind) (h : kind.isStatement = false)
    (items : Listed (TokenOf test)) : ∀ child ∈ items.leaves kind, child.StatementsBare := by
  intro child hchild
  obtain ⟨item, -, rfl⟩ := List.mem_map.mp hchild
  simp [h]

end Tree

theorem Statement.bare_ast (statement : Statement) : statement.ast.StatementsBare := by
  have hcondition : ∀ condition : Condition, condition.ast.StatementsBare := by
    simp [Condition.ast, Kind.isStatement]
  have hdefinition : ∀ definition : Definition, definition.ast.StatementsBare := by
    rintro ⟨name, type, _ | size⟩ <;> simp [Definition.ast, Kind.isStatement]
  cases statement with
  | select columns table condition =>
    have hcolumns := Tree.statementsBare_leaves .identifier rfl columns
    cases condition <;> simpa [ast, hcondition, Kind.isStatement] using hcolumns
  | insert table columns values =>
    have hcolumns := Tree.statementsBare_leaves .identifier rfl columns
    have hvalues := Tree.statementsBare_leaves .value rfl values
    simpa [ast, Kind.isStatement] using And.intro hcolumns hvalues
  | createTable table definitions => simp [ast, hdefinition, Kind.isStatement]

theorem Statement.bare_tree (statement : Statement) : statement.tree.StatementsBare := by
  intro node hnode kind hkind
  rw [statement.mirrors.kinds node hnode] at hkind
  cases hkind

/-- On trees with bare statements the two printers agree at every depth: without colour their texts
are equal, and with colour they are once all style sequences are taken out, provided that no label
has an escape character of its own. Both trees of a query have bare statements. -/
theorem paintedTree_eq_indented :
    (∀ tree : Tree, tree.StatementsBare →
      (∀ depth, Cli.paintedTree false depth tree = tree.indented depth) ∧
      Cli.paintedTree false 0 tree = tree.pretty) ∧
    (∀ tree : Tree, tree.StatementsBare → (∀ node ∈ tree.nodes, node.NoEscape) → ∀ depth,
      String.ofList (Text.Style.unpainted (Cli.paintedTree true depth tree).toList) =
        tree.indented depth) ∧
    ∀ query analysis, analyze query = .ok analysis →
      analysis.cst.StatementsBare ∧ analysis.ast.StatementsBare := by
  refine ⟨fun tree hbare => ⟨?_, Cli.paintedTree_false 0 hbare⟩, ?_, ?_⟩
  · exact fun depth => Cli.paintedTree_false depth hbare
  · intro tree hbare hescape depth
    have hpainted := Cli.unpainted_paintedTree depth hbare hescape []
    simp only [List.append_nil, Text.Style.unpainted] at hpainted
    rw [hpainted, String.ofList_toList]
  · intro query analysis h
    obtain ⟨statement, -, rfl⟩ := exists_statement_of_analyze h
    exact ⟨statement.bare_tree, statement.bare_ast⟩

/-- A query with a literal that reads like the end of a style sequence. -/
theorem paintedTree_eq_indented_reset :
    ∃ analysis, analyze "SELECT * FROM t WHERE a <> '[0m\n';" = .ok analysis ∧
      analysis.ast.StatementsBare ∧ (∀ node ∈ analysis.ast.nodes, node.NoEscape) ∧
      Cli.paintedTree false 1 analysis.ast = analysis.ast.indented 1 ∧
      String.ofList (Text.Style.unpainted (Cli.paintedTree true 1 analysis.ast).toList) =
        analysis.ast.indented 1 := by
  have hescape : (analyze "SELECT * FROM t WHERE a <> '[0m\n';").map (fun analysis =>
      analysis.ast.nodes.all fun node => !node.label.toList.contains '\x1b') = .ok true := by
    decide +kernel
  cases h : analyze "SELECT * FROM t WHERE a <> '[0m\n';" with
  | error fault => rw [h] at hescape; cases hescape
  | ok analysis =>
    rw [h] at hescape
    have hbare := (paintedTree_eq_indented.2.2 _ analysis h).2
    have hnone : ∀ node ∈ analysis.ast.nodes, node.NoEscape := by
      simpa [Tree.NoEscape] using Except.ok.inj hescape
    exact ⟨analysis, rfl, hbare, hnone, (paintedTree_eq_indented.1 _ hbare).1 1,
      paintedTree_eq_indented.2.1 _ hbare hnone 1⟩

-- The label of a statement is seen in one of the two texts only.
example : Cli.paintedTree false 0 (.leaf "t" .select) ≠ (Tree.leaf "t" .select).pretty := by decide

end SqlFront
