import SqlFront.Proofs.Reduction.Content
import SqlFront.Proofs.Statement.Derivation
import SqlFront.Proofs.Tree.Nodes

/-!
# SqlFront.Proofs.Statement.Mirror

The grammar tree mirrors the tokens.

Every derivation has a node for each of its tokens, in order, and above them nodes that are named by
the grammar. The two sorts are told apart by their labels alone, because no class of tokens of the
grammar has a token that looks like one of its names.

* `Part.apart_of_mem`: the productions keep tokens and names apart.
* `Derives.mirrors`: the tree of a derivation, by induction on the derivation.
* `parse_mirrors`: the tree of a token list that is parsed.
-/

namespace SqlFront

/-- The label of a token: it is no name of the grammar. -/
def Label.isToken (label : String) : Bool := !Token.isNonTerminal label

/-! ## Nodes and tokens -/

/-- The nodes without the names of the grammar are the tokens, each a node without children, and no
node has a kind. -/
structure Tree.Mirrors (nodes : List Tree) (ts : List String) : Prop where
  tokens : nodes.filter (fun node => Label.isToken node.label) = ts.map Tree.token
  kinds : ∀ node ∈ nodes, node.kind = none

namespace Tree.Mirrors

theorem nil : Mirrors [] [] := ⟨rfl, nofun⟩

theorem token {token : String} (h : Token.isNonTerminal token = false) :
    Mirrors [.token token] [token] := by
  constructor
  · rw [List.filter_cons_of_pos (by simp [Label.isToken, Tree.token, plain, h])]
    rfl
  · intro node hnode
    rw [List.mem_singleton.mp hnode]
    rfl

theorem append {nodes nodes' : List Tree} {ts us : List String} (h : Mirrors nodes ts)
    (h' : Mirrors nodes' us) : Mirrors (nodes ++ nodes') (ts ++ us) := by
  constructor
  · rw [List.filter_append, List.map_append, h.tokens, h'.tokens]
  · intro node hnode
    rcases List.mem_append.mp hnode with hnode | hnode
    · exact h.kinds node hnode
    · exact h'.kinds node hnode

theorem plain {label : String} {children nodes : List Tree} {ts : List String}
    (hlabel : Token.isNonTerminal label = true) (h : Mirrors nodes ts) :
    Mirrors (.plain label children :: nodes) ts := by
  constructor
  · rw [List.filter_cons_of_neg (by simp [Label.isToken, Tree.plain, hlabel]), h.tokens]
  · intro node hnode
    rcases List.mem_cons.mp hnode with rfl | hnode
    · rfl
    · exact h.kinds node hnode

theorem labels {nodes : List Tree} {ts : List String} (h : Mirrors nodes ts) :
    (nodes.map label).filter Label.isToken = ts := by
  have hmap : ts.map (label ∘ Tree.token) = ts := List.map_id' ts
  rw [List.filter_map, ← hmap, ← List.map_map, ← h.tokens]
  rfl

end Tree.Mirrors

namespace Grammar

/-! ## Names and classes -/

/-- No token of the class looks like a name of the grammar. -/
def ClassApart (test : String → Bool) : Prop :=
  ∀ token, test token = true → Token.isNonTerminal token = false

/-- A list of columns may say what a column is, so it must not let names of the grammar in. -/
def Part.Apart : Part → Prop
  | .columnList column | .columnListTail column | .columnName column => ClassApart column
  | _ => True

def Symbol.Apart : Symbol → Prop
  | .word token => Token.isNonTerminal token = false
  | .oneOf test => ClassApart test
  | .part name => name.Apart

theorem isNonTerminal_label (name : Part) : Token.isNonTerminal name.label = true := by
  cases name <;> rw [Part.label] <;> decide

/-- What a production says about its symbols, with the classes of tokens that occur in one. The
words of the grammar are looked through one by one. -/
theorem Part.apart_of_mem {name : Part} (h : name.Apart) {symbols : List Symbol}
    (hsymbols : symbols ∈ name.productions) : ∀ symbol ∈ symbols, symbol.Apart := by
  have hidentifier : ClassApart Token.isIdentifier :=
    fun _ h => (Reduction.keeps_of_identifier h).2
  have hselectable : ClassApart Token.isSelectable :=
    fun _ h => (Reduction.keeps_of_selectable h).2
  have hvalue : ClassApart Token.isValue := fun _ h => (Reduction.keeps_of_value h).2
  have hoperator : ClassApart Token.isComparisonOperator :=
    fun _ h => (Reduction.keeps_of_comparisonOperator h).2
  have htype : ClassApart Token.isTypeName := fun _ h => (Reduction.keeps_of_typeName h).2
  have hsize : ClassApart Token.isNumericLiteral :=
    fun _ h => (Reduction.keeps_of_numericLiteral h).2
  have hall : ∀ symbols ∈ name.productions, ∀ symbol ∈ symbols, symbol.Apart := by
    cases name with
    | columnList | columnListTail | columnName =>
      have hcolumn : ClassApart _ := h
      simp +decide [productions, Symbol.Apart, Apart, hcolumn]
    | _ =>
      simp +decide [productions, Symbol.Apart, Apart, hidentifier, hselectable, hvalue, hoperator,
        htype, hsize]
  exact hall symbols hsymbols

/-! ## Derivations -/

mutual

theorem Derives.mirrors : ∀ {symbol : Symbol} {ts : List String} {tree : Tree},
    Derives symbol ts tree → symbol.Apart → Tree.Mirrors tree.nodes ts
  | _, _, _, .word token, h => by
    rw [Tree.nodes_token]
    exact .token h
  | _, _, _, .oneOf htest, h => by
    rw [Tree.nodes_token]
    exact .token (h _ htest)
  | _, _, _, .part hsymbols hall, h => by
    rw [Tree.nodes_plain]
    exact .plain (isNonTerminal_label _) (hall.mirrors (Part.apart_of_mem h hsymbols))

theorem DerivesAll.mirrors : ∀ {symbols : List Symbol} {ts : List String} {trees : List Tree},
    DerivesAll symbols ts trees → (∀ symbol ∈ symbols, symbol.Apart) →
    Tree.Mirrors (Tree.nodesAll trees) ts
  | _, _, _, .nil, _ => .nil
  | _, _, _, .cons hsymbol hall, h => by
    rw [Tree.nodesAll]
    have htree := hsymbol.mirrors (h _ List.mem_cons_self)
    exact htree.append (hall.mirrors fun symbol hmem => h symbol (List.mem_cons_of_mem _ hmem))

end

end Grammar

theorem Statement.mirrors (statement : Statement) :
    Tree.Mirrors statement.tree.nodes statement.tokens := by
  have hderives : Grammar.Derives (.part .query) statement.tokens statement.tree :=
    (Grammar.spells_query _ _).mpr ⟨statement, rfl, rfl⟩
  exact hderives.mirrors trivial

/-- The tokens are the labels of the grammar tree, in preorder and without the names of the
grammar. -/
theorem Statement.labels_tree (statement : Statement) :
    statement.tree.labels.filter Label.isToken = statement.tokens := by
  rw [← Tree.map_label_nodes, statement.mirrors.labels]

/-- The grammar tree is a mirror of the tokens: its labels in preorder, without the names of the
grammar, are the tokens in order; the nodes with these labels have nothing below them; no token
looks like a name of the grammar; and no node has a kind. -/
theorem parse_mirrors {ts : List String} {c : Tree} (h : parse ts = .ok c) :
    (c.nodes.map Tree.label).filter (fun label => !Token.isNonTerminal label) = ts ∧
      (∀ node ∈ c.nodes, Token.isNonTerminal node.label = false → node.children = []) ∧
      (∀ token ∈ ts, Token.isNonTerminal token = false) ∧
      ∀ node ∈ c.nodes, node.kind = none := by
  obtain ⟨statement, rfl, rfl⟩ := parse_eq_ok_iff.mp h
  have hmirrors := statement.mirrors
  refine ⟨hmirrors.labels, ?_, ?_, hmirrors.kinds⟩
  · intro node hnode hlabel
    have hmem : node ∈ statement.tree.nodes.filter fun node => Label.isToken node.label :=
      List.mem_filter.mpr ⟨hnode, by rw [Label.isToken, hlabel]; rfl⟩
    rw [hmirrors.tokens] at hmem
    obtain ⟨token, -, rfl⟩ := List.mem_map.mp hmem
    rfl
  · intro token htoken
    rw [← hmirrors.labels] at htoken
    have hkept := (List.mem_filter.mp htoken).2
    simpa [Label.isToken] using hkept

/-- Tokens that come close to names of the grammar: a sign, a name that ends like one and a literal
that holds one. -/
theorem parse_mirrors_lookalikes :
    let ts := ["SELECT", "*", "FROM", "table_name>", "WHERE", "'<value>'", "<>", "NULL", ";"]
    let c : Tree :=
      .plain "<query>"
        [.token "SELECT",
         .plain "<column_list>"
           [.plain "<column_name>" [.token "*"], .plain "<column_list_tail>" []],
         .token "FROM",
         .plain "<table_name>" [.token "table_name>"],
         .plain "<optional_where>"
           [.token "WHERE",
            .plain "<condition>" [.token "'<value>'", .token "<>", .token "NULL"]],
         .token ";"]
    parse ts = .ok c ∧
      (c.nodes.map Tree.label).filter (fun label => !Token.isNonTerminal label) = ts ∧
      (∀ node ∈ c.nodes, Token.isNonTerminal node.label = false → node.children = []) ∧
      (∀ token ∈ ts, Token.isNonTerminal token = false) ∧
      ∀ node ∈ c.nodes, node.kind = none := by
  intro ts c
  have hparse : parse ts = .ok c := by decide +kernel
  exact ⟨hparse, parse_mirrors hparse⟩

end SqlFront
