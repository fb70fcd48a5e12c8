import SqlFront.Proofs.Statement.Reading

/-!
# SqlFront.Proofs.Statement.Derivation

The grammar as a table of productions, and what it derives.

`productions` is the grammar itself, without readers and without statements: for each of its names
the sequences of symbols that may stand for it. `Derives` is the usual derivation of a token list,
together with the tree that the derivation draws.

* `spells_query`: the derivations of `<query>` are the statements, each with its tokens and its
  grammar tree.
* `parse_eq_ok_iff_derives`: what is parsed is what is derived, and no token list is derived from
  two statements.
-/

namespace SqlFront
namespace Grammar

/-- The names of the grammar that have a node of their own. Only `SELECT` has a star among its
columns, so a list of columns says what a column is. -/
inductive Part where
  | query
  | columnList (column : String → Bool)
  | columnListTail (column : String → Bool)
  | columnName (column : String → Bool)
  | tableName
  | optionalWhere
  | condition
  | valueList
  | valueListTail
  | value
  | columnDefsList
  | columnDefsListTail
  | columnDef
  | dataType

inductive Symbol where
  | word (token : String)
  | oneOf (test : String → Bool)
  | part (name : Part)

namespace Part

def label : Part → String
  | .query => Label.query
  | .columnList _ => Label.columnList
  | .columnListTail _ => Label.columnListTail
  | .columnName _ => Label.columnName
  | .tableName => Label.tableName
  | .optionalWhere => Label.optionalWhere
  | .condition => Label.condition
  | .valueList => Label.valueList
  | .valueListTail => Label.valueListTail
  | .value => Label.value
  | .columnDefsList => Label.columnDefsList
  | .columnDefsListTail => Label.columnDefsListTail
  | .columnDef => Label.columnDef
  | .dataType => Label.dataType

def productions : Part → List (List Symbol)
  | .query =>
    [[.word "SELECT", .part (.columnList Token.isSelectable), .word "FROM", .part .tableName,
      .part .optionalWhere, .word ";"],
     [.word "INSERT", .word "INTO", .part .tableName,
      .word "(", .part (.columnList Token.isIdentifier), .word ")", .word "VALUES",
      .word "(", .part .valueList, .word ")", .word ";"],
     [.word "CREATE", .word "TABLE", .part .tableName,
      .word "(", .part .columnDefsList, .word ")", .word ";"]]
  | .columnList column => [[.part (.columnName column), .part (.columnListTail column)]]
  | .columnListTail column =>
    [[.word ",", .part (.columnName column), .part (.columnListTail column)], []]
  | .columnName column => [[.oneOf column]]
  | .tableName => [[.oneOf Token.isIdentifier]]
  | .optionalWhere => [[.word "WHERE", .part .condition], []]
  | .condition =>
    [[.oneOf Token.isValue, .oneOf Token.isComparisonOperator, .oneOf Token.isValue]]
  | .valueList => [[.part .value, .part .valueListTail]]
  | .valueListTail => [[.word ",", .part .value, .part .valueListTail], []]
  | .value => [[.oneOf Token.isValue]]
  | .columnDefsList => [[.part .columnDef, .part .columnDefsListTail]]
  | .columnDefsListTail => [[.word ",", .part .columnDef, .part .columnDefsListTail], []]
  | .columnDef => [[.oneOf Token.isIdentifier, .part .dataType]]
  | .dataType =>
    [[.oneOf Token.isTypeName],
     [.oneOf Token.isTypeName, .word "(", .oneOf Token.isNumericLiteral, .word ")"]]

end Part

mutual

/-- The symbol derives the tokens, and the tree shows how. -/
inductive Derives : Symbol → List String → Tree → Prop where
  | word (token : String) : Derives (.word token) [token] (.token token)
  | oneOf {test : String → Bool} {token : String} :
      test token = true → Derives (.oneOf test) [token] (.token token)
  | part {name : Part} {symbols : List Symbol} {ts : List String} {trees : List Tree} :
      symbols ∈ name.productions → DerivesAll symbols ts trees →
      Derives (.part name) ts (.plain name.label trees)

/-- The symbols derive the tokens in order, each with a tree of its own. -/
inductive DerivesAll : List Symbol → List String → List Tree → Prop where
  | nil : DerivesAll [] [] []
  | cons {symbol : Symbol} {symbols : List Symbol} {ts us : List String} {tree : Tree}
      {trees : List Tree} :
      Derives symbol ts tree → DerivesAll symbols us trees →
      DerivesAll (symbol :: symbols) (ts ++ us) (tree :: trees)

end

theorem DerivesAll.uncons {symbol : Symbol} {symbols : List Symbol} {ts : List String}
    {trees : List Tree} (h : DerivesAll (symbol :: symbols) ts trees) :
    ∃ us vs tree rest, ts = us ++ vs ∧ trees = tree :: rest ∧ Derives symbol us tree ∧
      DerivesAll symbols vs rest := by
  cases h with
  | cons hsymbol hall => exact ⟨_, _, _, _, rfl, rfl, hsymbol, hall⟩

/-! ## What a symbol derives

A symbol spells the values of a type if its derivations are these values, each with its tokens and
its tree. Symbols in a row spell pairs of values. -/

section Spells

variable {α β : Type} {write : α → List String} {node : α → Tree}

def Spells (symbol : Symbol) (write : α → List String) (node : α → Tree) : Prop :=
  ∀ ts tree, Derives symbol ts tree ↔ ∃ a, write a = ts ∧ node a = tree

def SpellsAll (symbols : List Symbol) (write : α → List String) (nodes : α → List Tree) : Prop :=
  ∀ ts trees, DerivesAll symbols ts trees ↔ ∃ a, write a = ts ∧ nodes a = trees

def SpellsAny (rows : List (List Symbol)) (write : α → List String) (nodes : α → List Tree) :
    Prop :=
  ∀ ts trees, (∃ symbols ∈ rows, DerivesAll symbols ts trees) ↔ ∃ a, write a = ts ∧ nodes a = trees

theorem Spells.word (token : String) :
    Spells (.word token) (fun _ : Unit => [token]) fun _ => .token token := by
  intro ts tree
  constructor
  · rintro ⟨⟩; exact ⟨(), rfl, rfl⟩
  · rintro ⟨_, rfl, rfl⟩; exact .word token

theorem Spells.oneOf (test : String → Bool) :
    Spells (.oneOf test) (fun token : TokenOf test => [token.val]) fun token =>
      .token token.val := by
  intro ts tree
  constructor
  · intro h
    cases h with
    | oneOf htest => exact ⟨⟨_, htest⟩, rfl, rfl⟩
  · rintro ⟨token, rfl, rfl⟩; exact .oneOf token.property

theorem SpellsAll.nil : SpellsAll [] (fun _ : Unit => []) fun _ => [] := by
  intro ts trees
  constructor
  · rintro ⟨⟩; exact ⟨(), rfl, rfl⟩
  · rintro ⟨_, rfl, rfl⟩; exact .nil

theorem Spells.cons {symbol : Symbol} {symbols : List Symbol} {writeAll : β → List String}
    {nodes : β → List Tree} (h : Spells symbol write node)
    (hall : SpellsAll symbols writeAll nodes) :
    SpellsAll (symbol :: symbols) (fun ab : α × β => write ab.1 ++ writeAll ab.2) fun ab =>
      node ab.1 :: nodes ab.2 := by
  intro ts trees
  constructor
  · intro hderives
    cases hderives with
    | cons hsymbol hsymbols =>
      obtain ⟨a, rfl, rfl⟩ := (h _ _).mp hsymbol
      obtain ⟨b, rfl, rfl⟩ := (hall _ _).mp hsymbols
      exact ⟨(a, b), rfl, rfl⟩
  · rintro ⟨⟨a, b⟩, rfl, rfl⟩
    exact .cons ((h _ _).mpr ⟨a, rfl, rfl⟩) ((hall _ _).mpr ⟨b, rfl, rfl⟩)

/-- The same derivations, as values of another type. -/
theorem Spells.reindex {symbol : Symbol} {write' : β → List String} {node' : β → Tree}
    (h : Spells symbol write node) (f : α → β) (hf : Function.Surjective f)
    (hwrite : ∀ a, write' (f a) = write a) (hnode : ∀ a, node' (f a) = node a) :
    Spells symbol write' node' := by
  intro ts tree
  rw [h]
  constructor
  · rintro ⟨a, rfl, rfl⟩; exact ⟨f a, hwrite a, hnode a⟩
  · rintro ⟨b, rfl, rfl⟩
    obtain ⟨a, rfl⟩ := hf b
    exact ⟨a, (hwrite a).symm, (hnode a).symm⟩

theorem SpellsAny.one {symbols : List Symbol} {nodes : α → List Tree}
    (h : SpellsAll symbols write nodes) : SpellsAny [symbols] write nodes := by
  intro ts trees
  rw [← h]
  constructor
  · rintro ⟨_, hmem, hall⟩
    rwa [List.mem_singleton.mp hmem] at hall
  · intro hall; exact ⟨symbols, List.mem_singleton.mpr rfl, hall⟩

theorem SpellsAll.or {symbols : List Symbol} {rows : List (List Symbol)} {nodes : α → List Tree}
    {write' : β → List String} {nodes' : β → List Tree} (h : SpellsAll symbols write nodes)
    (h' : SpellsAny rows write' nodes') :
    SpellsAny (symbols :: rows) (Sum.elim write write') (Sum.elim nodes nodes') := by
  intro ts trees
  constructor
  · rintro ⟨_, hmem, hall⟩
    rcases List.mem_cons.mp hmem with rfl | hmem
    · obtain ⟨a, hts, htrees⟩ := (h _ _).mp hall
      exact ⟨.inl a, hts, htrees⟩
    · obtain ⟨b, hts, htrees⟩ := (h' _ _).mp ⟨_, hmem, hall⟩
      exact ⟨.inr b, hts, htrees⟩
  · rintro ⟨a | b, hts, htrees⟩
    · exact ⟨symbols, List.mem_cons_self, (h _ _).mpr ⟨a, hts, htrees⟩⟩
    · obtain ⟨row, hmem, hall⟩ := (h' _ _).mpr ⟨b, hts, htrees⟩
      exact ⟨row, List.mem_cons_of_mem _ hmem, hall⟩

theorem SpellsAny.part (name : Part) {nodes : α → List Tree}
    (h : SpellsAny name.productions write nodes) :
    Spells (.part name) write fun a => .plain name.label (nodes a) := by
  intro ts tree
  constructor
  · intro hderives
    cases hderives with
    | part hmem hall =>
      obtain ⟨a, rfl, rfl⟩ := (h _ _).mp ⟨_, hmem, hall⟩
      exact ⟨a, rfl, rfl⟩
  · rintro ⟨a, rfl, rfl⟩
    obtain ⟨symbols, hmem, hall⟩ := (h _ _).mpr ⟨a, rfl, rfl⟩
    exact .part hmem hall

end Spells

/-! ## Names and clauses -/

theorem spells_wrapped (name : Part) {test : String → Bool}
    (hname : name.productions = [[.oneOf test]]) :
    Spells (.part name) (fun token : TokenOf test => [token.val]) fun token =>
      Statement.wrapped name.label token.val := by
  have hrow := SpellsAny.one ((Spells.oneOf test).cons .nil)
  rw [← hname] at hrow
  refine (SpellsAny.part name hrow).reindex Prod.fst ?_ (fun _ => rfl) fun _ => rfl
  intro token
  exact ⟨(token, ()), rfl⟩

theorem spells_condition : Spells (.part .condition) Condition.tokens Condition.tree := by
  have hrow := SpellsAny.one <| (Spells.oneOf Token.isValue).cons <|
    (Spells.oneOf Token.isComparisonOperator).cons <| (Spells.oneOf Token.isValue).cons .nil
  refine (SpellsAny.part .condition hrow).reindex (fun (left, operator, right, _) =>
    (⟨left, operator, right⟩ : Condition)) ?_ (fun _ => rfl) fun _ => rfl
  intro condition
  exact ⟨(condition.left, condition.operator, condition.right, ()), rfl⟩

/-- The node is there in any case, empty if there is no condition. -/
def whereTree (condition : Option Condition) : Tree :=
  .plain Label.optionalWhere
    (match condition with
     | some condition => [.token "WHERE", condition.tree]
     | none => [])

theorem tree_select (columns : Listed (TokenOf Token.isSelectable)) (table : Name)
    (condition : Option Condition) :
    (Statement.select columns table condition).tree =
      .plain Label.query
        [.token "SELECT",
         columns.tree Label.columnList Label.columnListTail fun column =>
           Statement.wrapped Label.columnName column.val,
         .token "FROM", Statement.wrapped Label.tableName table.val, whereTree condition,
         .token ";"] := rfl

theorem spells_optionalWhere :
    Spells (.part .optionalWhere) (optionalTokens "WHERE" Condition.tokens) whereTree := by
  have hrows := ((Spells.word "WHERE").cons (spells_condition.cons .nil)).or (SpellsAny.one .nil)
  refine (SpellsAny.part .optionalWhere hrows).reindex (fun
    | .inl (_, condition, _) => some condition
    | .inr _ => none) ?_ ?_ ?_
  · rintro (_ | condition)
    · exact ⟨.inr (), rfl⟩
    · exact ⟨.inl ((), condition, ()), rfl⟩
  · rintro (⟨_, condition, _⟩ | _)
    · exact congrArg _ (List.append_nil _).symm
    · rfl
  · rintro (⟨_, condition, _⟩ | _) <;> rfl

theorem spells_columnDef : Spells (.part .columnDef) Definition.tokens Definition.tree := by
  have htype := Spells.oneOf Token.isTypeName
  have hsize := (Spells.word "(").cons <| (Spells.oneOf Token.isNumericLiteral).cons <|
    (Spells.word ")").cons .nil
  have hrows := (htype.cons .nil).or (SpellsAny.one (htype.cons hsize))
  have hdataType := SpellsAny.part .dataType hrows
  have hrow := SpellsAny.one <| (Spells.oneOf Token.isIdentifier).cons (hdataType.cons .nil)
  refine (SpellsAny.part .columnDef hrow).reindex (fun
    | (name, .inl (type, _), _) => (⟨name, type, none⟩ : Definition)
    | (name, .inr (type, _, size, _), _) => ⟨name, type, some size⟩) ?_ ?_ ?_
  · rintro ⟨name, type, _ | size⟩
    · exact ⟨(name, .inl (type, ()), ()), rfl⟩
    · exact ⟨(name, .inr (type, (), size, (), ()), ()), rfl⟩
  · rintro ⟨name, ⟨type, _⟩ | ⟨type, _, size, _⟩, _⟩ <;> rfl
  · rintro ⟨name, ⟨type, _⟩ | ⟨type, _, size, _⟩, _⟩ <;> rfl

/-! ## Lists -/

section Lists

variable {α : Type} {write : α → List String} {node : α → Tree} {item tail : Part}

theorem spells_tail (htail : tail.productions = [[.word ",", .part item, .part tail], []])
    (h : Spells (.part item) write node) :
    Spells (.part tail) (fun items : List α => items.flatMap fun a => "," :: write a)
      fun items => tailTree tail.label (items.map node) := by
  intro ts tree
  constructor
  · intro hderives
    -- derivations are mutual with those of rows of symbols; the tokens of the tail are not
    induction hlength : ts.length using Nat.strongRecOn generalizing ts tree with
    | ind length ih =>
      cases hderives with
      | part hmem hall =>
        rw [htail, List.mem_cons, List.mem_singleton] at hmem
        rcases hmem with rfl | rfl
        · obtain ⟨_, _, _, _, rfl, rfl, hcomma, hall⟩ := hall.uncons
          obtain ⟨_, _, _, _, rfl, rfl, hitem, hall⟩ := hall.uncons
          obtain ⟨rest, _, _, _, rfl, rfl, hrest, hend⟩ := hall.uncons
          cases hcomma
          cases hend
          have hshorter : rest.length < length := by
            simp only [List.length_append, List.length_singleton] at hlength
            omega
          obtain ⟨a, rfl, rfl⟩ := (h _ _).mp hitem
          obtain ⟨items, rfl, rfl⟩ := ih _ hshorter _ _ hrest rfl
          exact ⟨a :: items, by simp, rfl⟩
        · cases hall
          exact ⟨[], rfl, rfl⟩
  · rintro ⟨items, rfl, rfl⟩
    induction items with
    | nil => exact .part (by rw [htail]; simp) .nil
    | cons a items ih =>
      have hitem := (h _ _).mpr ⟨a, rfl, rfl⟩
      have hall := DerivesAll.cons (.word ",") (.cons hitem (.cons ih .nil))
      rw [List.append_nil] at hall
      exact .part (by rw [htail]; simp) hall

theorem spells_list (list : Part) (hlist : list.productions = [[.part item, .part tail]])
    (htail : tail.productions = [[.word ",", .part item, .part tail], []])
    (h : Spells (.part item) write node) :
    Spells (.part list) (Listed.tokens write) (Listed.tree list.label tail.label node) := by
  have hrow := SpellsAny.one (h.cons ((spells_tail htail h).cons .nil))
  rw [← hlist] at hrow
  refine (SpellsAny.part list hrow).reindex (fun (head, items, _) => (⟨head, items⟩ : Listed α))
    ?_ ?_ fun _ => rfl
  · rintro ⟨head, items⟩; exact ⟨(head, items, ()), rfl⟩
  · rintro ⟨head, items, _⟩; simp [Listed.tokens]

end Lists

/-! ## Statements -/

theorem spells_query : Spells (.part .query) Statement.tokens Statement.tree := by
  have htable := spells_wrapped .tableName rfl
  have hselected := spells_list (.columnList Token.isSelectable) rfl rfl
    (spells_wrapped (.columnName Token.isSelectable) rfl)
  have hcolumns := spells_list (.columnList Token.isIdentifier) rfl rfl
    (spells_wrapped (.columnName Token.isIdentifier) rfl)
  have hvalues := spells_list .valueList rfl rfl (spells_wrapped .value rfl)
  have hdefinitions := spells_list .columnDefsList rfl rfl spells_columnDef
  have hselect := (Spells.word "SELECT").cons <| hselected.cons <| (Spells.word "FROM").cons <|
    htable.cons <| spells_optionalWhere.cons <| (Spells.word ";").cons .nil
  have hinsert := (Spells.word "INSERT").cons <| (Spells.word "INTO").cons <| htable.cons <|
    (Spells.word "(").cons <| hcolumns.cons <| (Spells.word ")").cons <|
    (Spells.word "VALUES").cons <| (Spells.word "(").cons <| hvalues.cons <|
    (Spells.word ")").cons <| (Spells.word ";").cons .nil
  have hcreate := (Spells.word "CREATE").cons <| (Spells.word "TABLE").cons <| htable.cons <|
    (Spells.word "(").cons <| hdefinitions.cons <| (Spells.word ")").cons <|
    (Spells.word ";").cons .nil
  have hrows := hselect.or (hinsert.or (SpellsAny.one hcreate))
  refine (SpellsAny.part .query hrows).reindex (fun
    | .inl (_, columns, _, table, condition, _) => Statement.select columns table condition
    | .inr (.inl (_, _, table, _, columns, _, _, _, values, _)) => .insert table columns values
    | .inr (.inr (_, _, table, _, definitions, _)) => .createTable table definitions) ?_ ?_ ?_
  · rintro (⟨columns, table, condition⟩ | ⟨table, columns, values⟩ | ⟨table, definitions⟩)
    · exact ⟨.inl ((), columns, (), table, condition, (), ()), rfl⟩
    · exact ⟨.inr (.inl ((), (), table, (), columns, (), (), (), values, (), (), ())), rfl⟩
    · exact ⟨.inr (.inr ((), (), table, (), definitions, (), (), ())), rfl⟩
  · rintro (_ | _ | _)
    · simp [Statement.tokens_select]
    · simp [Statement.tokens_insert]
    · simp [Statement.tokens_createTable]
  · rintro (_ | _ | _) <;> rfl

end Grammar

/-- A tree is parsed from tokens exactly if it is the grammar tree of a statement written with
them, and exactly if the grammar derives them with it; and tokens write one statement at most. -/
theorem parse_eq_ok_iff_derives (ts : List String) (c : Tree) :
    (parse ts = .ok c ↔ ∃ statement : Statement, statement.tokens = ts ∧ statement.tree = c) ∧
      (parse ts = .ok c ↔ Grammar.Derives (.part .query) ts c) ∧
      Function.Injective Statement.tokens := by
  refine ⟨parse_eq_ok_iff, ?_, Statement.tokens_injective⟩
  rw [parse_eq_ok_iff, Grammar.spells_query]

end SqlFront
