import SqlFront.Proofs.Reader.Reading
import SqlFront.Proofs.Token
import SqlFront.Statement.Grammar

/-!
# SqlFront.Proofs.Statement.Reading

The rules of the grammar read what `Statement` writes, one lemma for each rule.

A list is carried on by a comma and by what carries on its last item, a definition without size by
an opening parenthesis, and an absent condition by `WHERE`. Every other rule ends by itself.

* `ofTokens_eq_ok_iff`: tokens are read as the statement that is written with them, and as no other.
* `tokens_injective`: different statements are written differently.
-/

namespace SqlFront

/-! ## Written parts -/

def Listed.last {α : Type} (items : Listed α) : α := items.tail.getLastD items.head

/-- An optional part, which starts with a token of its own. -/
def optionalTokens {α : Type} (start : String) (write : α → List String) : Option α → List String
  | some a => start :: write a
  | none => []

theorem Definition.tokens_eq (definition : Definition) :
    definition.tokens =
      definition.name.val :: definition.type.val ::
        optionalTokens "(" (fun size => [size.val, ")"]) definition.size := by
  obtain ⟨name, type, size⟩ := definition
  cases size <;> rfl

theorem Statement.tokens_select (columns : Listed (TokenOf Token.isSelectable)) (table : Name)
    (condition : Option Condition) :
    (Statement.select columns table condition).tokens =
      "SELECT" :: (columns.tokens (fun column => [column.val]) ++
        "FROM" :: table.val ::
          (optionalTokens "WHERE" Condition.tokens condition ++ [";"])) := by
  cases condition <;> simp [tokens, optionalTokens]

theorem Statement.tokens_insert (table : Name) (columns : Listed Name)
    (values : Listed (TokenOf Token.isValue)) :
    (Statement.insert table columns values).tokens =
      "INSERT" :: "INTO" :: table.val ::
        (("(" :: columns.tokens (fun column => [column.val]) ++ [")"]) ++
          "VALUES" :: (("(" :: values.tokens (fun value => [value.val]) ++ [")"]) ++ [";"])) := by
  simp [tokens]

theorem Statement.tokens_createTable (table : Name) (definitions : Listed Definition) :
    (Statement.createTable table definitions).tokens =
      "CREATE" :: "TABLE" :: table.val ::
        (("(" :: definitions.tokens Definition.tokens ++ [")"]) ++ [";"]) := by
  simp [tokens]

namespace Grammar

open Reader (Reads run_bind_eq_ok run_peek?_bind)

/-! ## Tokens -/

theorem reads_tokenOf (what : String) (test : String → Bool) :
    Reads (tokenOf what test) (fun token => [token.val]) fun _ => [] :=
  Reads.accept test (mismatch what)

theorem reads_name (what : String) : Reads (name what) (fun name => [name.val]) fun _ => [] :=
  reads_tokenOf what Token.isIdentifier

theorem reads_exactly (token : String) : Reads (exactly token) (fun _ => [token]) fun _ => [] := by
  intro c c' _
  simp only [exactly, run_bind_eq_ok, (reads_tokenOf _ _).run_eq_ok, Reader.run_pure]
  constructor
  · rintro ⟨⟨t, ht⟩, c₁, h, hpure⟩
    cases hpure
    obtain rfl := beq_iff_eq.mp ht
    exact h
  · intro h
    exact ⟨⟨token, beq_self_eq_true token⟩, c', h, rfl⟩

/-! ## Lists -/

section Lists

variable {α : Type} {item : Rule α} {write more : α → List String}

theorem reads_listed (h : Reads item write more) (hcomma : ∀ a, "," ∉ more a) :
    Reads (listed item) (Listed.tokens write) fun items => "," :: more items.last := by
  intro c c' items
  obtain ⟨head, tail⟩ := items
  simp only [listed, run_bind_eq_ok, h.run_eq_ok, Reader.run_pure, Listed.tokens, Listed.last]
  rw [Cursor.takes_append]
  constructor
  · rintro ⟨a, c₁, ⟨hhead, hstops⟩, as, c₂, hloop, hpure⟩
    cases hpure
    obtain ⟨htail, hend⟩ := (h.loop hcomma head).mp ⟨hloop, hstops⟩
    exact ⟨⟨c₁, hhead, htail⟩, hend⟩
  · rintro ⟨⟨c₁, hhead, htail⟩, hend⟩
    obtain ⟨hloop, hstops⟩ := (h.loop hcomma head).mpr ⟨htail, hend⟩
    exact ⟨head, c₁, ⟨hhead, hstops⟩, tail, c', hloop, rfl⟩

/-- Nothing is written with a closing parenthesis in front, or with nothing at all. -/
def OpensItem (write : α → List String) : Prop := ∀ a, ∃ t ts, write a = t :: ts ∧ t ≠ ")"

theorem opensItem_token {test : String → Bool} (h : test ")" = false) :
    OpensItem fun token : TokenOf test => [token.val] :=
  fun token => ⟨token.val, [], rfl, TokenOf.ne h token⟩

/-- The list before a closing parenthesis, of items that do not start with one. -/
theorem reads_enclosed (element context : String) (h : Reads item write more)
    (hcomma : ∀ a, "," ∉ more a) (hstart : OpensItem write) :
    Reads (enclosed element context item) (Listed.tokens write) fun items =>
      "," :: more items.last := by
  intro c c' items
  have hlisted := reads_listed h hcomma c c' items
  rw [enclosed, run_peek?_bind, ← hlisted]
  split
  · rename_i hclose
    constructor
    · intro hrefuse; cases hrefuse
    · intro hrun
      obtain ⟨t, ts, hwrite, hne⟩ := hstart items.head
      have htakes := (hlisted.mp hrun).1
      rw [Listed.tokens, hwrite] at htakes
      rw [htakes.head?] at hclose
      exact absurd (Option.some.inj (beq_iff_eq.mp hclose)) hne
  · exact Iff.rfl

theorem reads_parenthesized (element context : String) (h : Reads item write more)
    (hcomma : ∀ a, "," ∉ more a) (hclose : ∀ a, ")" ∉ more a) (hstart : OpensItem write) :
    Reads (parenthesized element context item)
      (fun items => "(" :: Listed.tokens write items ++ [")"]) fun _ => [] := by
  intro c c' items
  simp only [parenthesized, run_bind_eq_ok, (reads_exactly _).run_eq_ok,
    (reads_enclosed element context h hcomma hstart).run_eq_ok, Reader.run_pure,
    Cursor.stops_nil, and_true]
  constructor
  · rintro ⟨_, c₁, hopen, items', c₂, ⟨hitems, -⟩, _, c₃, hend, hpure⟩
    cases hpure
    exact (hopen.cons hitems).append hend
  · intro htakes
    obtain ⟨c₂, hitems, hend⟩ := Cursor.takes_append.mp htakes
    obtain ⟨c₁, hopen, hitems⟩ := Cursor.takes_cons.mp hitems
    have hstops : c₂.Stops ("," :: more items.last) :=
      hend.stops (by simpa using hclose items.last)
    exact ⟨(), c₁, hopen, items, c₂, ⟨hitems, hstops⟩, (), c', hend, rfl⟩

/-- The columns of a `SELECT`, none of which is the word `FROM`. -/
theorem reads_selectColumns :
    Reads selectColumns (Listed.tokens fun column => [column.val]) fun _ => [","] := by
  intro c c' columns
  have hlisted := reads_listed (reads_tokenOf "column name" Token.isSelectable) nofun c c' columns
  rw [selectColumns, run_peek?_bind, ← hlisted]
  split
  · rename_i hnone
    constructor
    · intro hrefuse; cases hrefuse
    · intro hrun
      rw [(hlisted.mp hrun).1.head?] at hnone
      cases hnone
  · rename_i hfrom
    constructor
    · intro hrefuse; cases hrefuse
    · intro hrun
      rw [(hlisted.mp hrun).1.head?] at hfrom
      have hclass : Token.isSelectable "FROM" = false := by
        simp [Token.isSelectable, Token.isIdentifier, Token.isKeyword, Vocabulary.keywords]
      exact absurd (Option.some.inj hfrom) (TokenOf.ne hclass columns.head)
  · exact Iff.rfl

end Lists

/-! ## Clauses -/

theorem reads_condition : Reads condition Condition.tokens fun _ => [] := by
  intro c c' condition
  simp only [Grammar.condition, run_bind_eq_ok, (reads_tokenOf _ _).run_eq_ok, Reader.run_pure,
    Cursor.stops_nil, and_true]
  constructor
  · rintro ⟨left, c₁, hleft, operator, c₂, hoperator, right, c₃, hright, hpure⟩
    cases hpure
    exact hleft.cons (hoperator.cons hright)
  · intro htakes
    obtain ⟨c₁, hleft, htakes⟩ := Cursor.takes_cons.mp htakes
    obtain ⟨c₂, hoperator, hright⟩ := Cursor.takes_cons.mp htakes
    exact ⟨_, c₁, hleft, _, c₂, hoperator, _, c', hright, rfl⟩

/-! ## Optional parts -/

/-- What would carry on an optional part: its first token, as long as the part is absent. -/
def optionalMore {α : Type} (start : String) : Option α → List String
  | some _ => []
  | none => [start]

theorem notMem_optionalMore {α : Type} {start token : String} (h : token ≠ start)
    (found : Option α) : token ∉ optionalMore start found := by
  cases found <;> simp [optionalMore, h]

/-- A part that is there exactly if the next token is its first one. -/
theorem reads_optional {α : Type} {start : String} {write : α → List String}
    {part : Rule (Option α)}
    (h : ∀ c c' found, part.run c = .ok (found, c') ↔
      ∃ a, found = some a ∧ c.Takes (start :: write a) c') :
    Reads (do if (← Reader.peek?) == some start then part else return none)
      (optionalTokens start write) (optionalMore start) := by
  intro c c' found
  rw [run_peek?_bind]
  split
  · rename_i hstart
    rw [h]
    constructor
    · rintro ⟨a, rfl, htakes⟩; exact ⟨htakes, Cursor.stops_nil c'⟩
    · rintro ⟨htakes, hstops⟩
      cases found with
      | some a => exact ⟨a, rfl, htakes⟩
      | none =>
        obtain rfl := Cursor.takes_nil.mp htakes
        exact absurd (beq_iff_eq.mp hstart) (hstops start (List.mem_singleton.mpr rfl))
  · rename_i hstart
    have hstart : c.rest.head? ≠ some start := fun h => hstart (beq_iff_eq.mpr h)
    constructor
    · intro hpure
      cases hpure
      exact ⟨Cursor.takes_nil.mpr rfl, Cursor.stops_cons.mpr ⟨hstart, Cursor.stops_nil c⟩⟩
    · rintro ⟨htakes, -⟩
      cases found with
      | some a => exact absurd htakes.head? hstart
      | none => obtain rfl := Cursor.takes_nil.mp htakes; rfl

theorem reads_optionalWhere :
    Reads optionalWhere (optionalTokens "WHERE" Condition.tokens) (optionalMore "WHERE") := by
  refine reads_optional fun c c' found => ?_
  simp only [run_bind_eq_ok, (reads_exactly _).run_eq_ok, reads_condition.run_eq_ok,
    Reader.run_pure, Cursor.stops_nil, and_true]
  constructor
  · rintro ⟨_, c₁, hword, condition, c₂, hcondition, hpure⟩
    cases hpure
    exact ⟨condition, rfl, hword.cons hcondition⟩
  · rintro ⟨condition, rfl, htakes⟩
    obtain ⟨c₁, hword, hcondition⟩ := Cursor.takes_cons.mp htakes
    exact ⟨(), c₁, hword, condition, c', hcondition, rfl⟩

theorem reads_size :
    Reads size (optionalTokens "(" fun size => [size.val, ")"]) (optionalMore "(") := by
  refine reads_optional fun c c' found => ?_
  simp only [run_bind_eq_ok, (reads_exactly _).run_eq_ok, (reads_tokenOf _ _).run_eq_ok,
    Reader.run_pure, Cursor.stops_nil, and_true]
  constructor
  · rintro ⟨_, c₁, hopen, size, c₂, hsize, _, c₃, hclose, hpure⟩
    cases hpure
    exact ⟨size, rfl, hopen.cons (hsize.cons hclose)⟩
  · rintro ⟨size, rfl, htakes⟩
    obtain ⟨c₁, hopen, htakes⟩ := Cursor.takes_cons.mp htakes
    obtain ⟨c₂, hsize, hclose⟩ := Cursor.takes_cons.mp htakes
    exact ⟨(), c₁, hopen, size, c₂, hsize, (), c', hclose, rfl⟩

theorem reads_definition :
    Reads definition Definition.tokens fun definition => optionalMore "(" definition.size := by
  intro c c' definition
  simp only [Grammar.definition, run_bind_eq_ok, (reads_name _).run_eq_ok,
    (reads_tokenOf _ _).run_eq_ok, reads_size.run_eq_ok, Reader.run_pure, Cursor.stops_nil,
    and_true, Definition.tokens_eq]
  constructor
  · rintro ⟨name, c₁, hname, type, c₂, htype, size, c₃, ⟨hsize, hstops⟩, hpure⟩
    cases hpure
    exact ⟨hname.cons (htype.cons hsize), hstops⟩
  · rintro ⟨htakes, hstops⟩
    obtain ⟨c₁, hname, htakes⟩ := Cursor.takes_cons.mp htakes
    obtain ⟨c₂, htype, hsize⟩ := Cursor.takes_cons.mp htakes
    exact ⟨_, c₁, hname, _, c₂, htype, _, c', ⟨hsize, hstops⟩, rfl⟩

/-! ## Lists in parentheses -/

theorem opensItem_name : OpensItem fun name : Name => [name.val] :=
  opensItem_token (Token.isIdentifier_of_symbol (by simp [Vocabulary.symbols]))

theorem opensItem_value : OpensItem fun value : TokenOf Token.isValue => [value.val] :=
  opensItem_token (Token.isValue_of_symbol (by simp [Vocabulary.symbols]))

theorem opensItem_definition : OpensItem Definition.tokens := by
  intro definition
  obtain ⟨t, ts, hname, hne⟩ := opensItem_name definition.name
  cases hname
  exact ⟨_, _, definition.tokens_eq, hne⟩

theorem reads_columnNames :
    Reads (parenthesized "column name" "in INSERT" (name "column name"))
      (fun columns => "(" :: columns.tokens (fun column => [column.val]) ++ [")"]) fun _ => [] :=
  reads_parenthesized _ _ (reads_name _) nofun nofun opensItem_name

theorem reads_values :
    Reads (parenthesized "value" "in VALUES" (tokenOf "value" Token.isValue))
      (fun values => "(" :: values.tokens (fun value => [value.val]) ++ [")"]) fun _ => [] :=
  reads_parenthesized _ _ (reads_tokenOf _ _) nofun nofun opensItem_value

theorem reads_definitions :
    Reads (parenthesized "column definition" "in CREATE TABLE" definition)
      (fun definitions => "(" :: definitions.tokens Definition.tokens ++ [")"]) fun _ => [] := by
  refine reads_parenthesized _ _ reads_definition ?_ ?_ opensItem_definition
  · exact fun definition => notMem_optionalMore (by decide) definition.size
  · exact fun definition => notMem_optionalMore (by decide) definition.size

/-! ## Statements -/

theorem run_select_eq_ok {c c' : Cursor String} {statement : Statement} :
    select.run c = .ok (statement, c') ↔
      ∃ ts, statement.tokens = "SELECT" :: ts ∧ c.Takes ts c' := by
  simp only [select, run_bind_eq_ok, reads_selectColumns.run_eq_ok, (reads_exactly _).run_eq_ok,
    (reads_name _).run_eq_ok, reads_optionalWhere.run_eq_ok, Reader.run_pure, Cursor.stops_nil,
    and_true]
  constructor
  · rintro ⟨columns, c₁, ⟨hcolumns, -⟩, _, c₂, hfrom, table, c₃, htable, condition, c₄,
      ⟨hcondition, -⟩, _, c₅, hend, hpure⟩
    cases hpure
    exact ⟨_, Statement.tokens_select columns table condition,
      hcolumns.append (hfrom.cons (htable.cons (hcondition.append hend)))⟩
  · rintro ⟨ts, htokens, htakes⟩
    cases statement with
    | select columns table condition =>
      rw [Statement.tokens_select] at htokens
      cases htokens
      obtain ⟨c₁, hcolumns, htakes⟩ := Cursor.takes_append.mp htakes
      obtain ⟨c₂, hfrom, htakes⟩ := Cursor.takes_cons.mp htakes
      obtain ⟨c₃, htable, htakes⟩ := Cursor.takes_cons.mp htakes
      obtain ⟨c₄, hcondition, hend⟩ := Cursor.takes_append.mp htakes
      have hcomma : c₁.Stops [","] := hfrom.stops (by decide)
      have hwhere : c₄.Stops (optionalMore "WHERE" condition) :=
        hend.stops (notMem_optionalMore (by decide) condition)
      exact ⟨columns, c₁, ⟨hcolumns, hcomma⟩, (), c₂, hfrom, table, c₃, htable, condition, c₄,
        ⟨hcondition, hwhere⟩, (), c', hend, rfl⟩
    | insert => simp [Statement.tokens_insert] at htokens
    | createTable => simp [Statement.tokens_createTable] at htokens

theorem run_insert_eq_ok {c c' : Cursor String} {statement : Statement} :
    insert.run c = .ok (statement, c') ↔
      ∃ ts, statement.tokens = "INSERT" :: ts ∧ c.Takes ts c' := by
  simp only [insert, run_bind_eq_ok, (reads_exactly _).run_eq_ok, (reads_name _).run_eq_ok,
    reads_columnNames.run_eq_ok, reads_values.run_eq_ok, Reader.run_pure, Cursor.stops_nil,
    and_true]
  constructor
  · rintro ⟨_, c₁, hinto, table, c₂, htable, columns, c₃, hcolumns, _, c₄, hword, values, c₅,
      hvalues, _, c₆, hend, hpure⟩
    cases hpure
    exact ⟨_, Statement.tokens_insert table columns values,
      hinto.cons (htable.cons (hcolumns.append (hword.cons (hvalues.append hend))))⟩
  · rintro ⟨ts, htokens, htakes⟩
    cases statement with
    | insert table columns values =>
      rw [Statement.tokens_insert] at htokens
      cases htokens
      obtain ⟨c₁, hinto, htakes⟩ := Cursor.takes_cons.mp htakes
      obtain ⟨c₂, htable, htakes⟩ := Cursor.takes_cons.mp htakes
      obtain ⟨c₃, hcolumns, htakes⟩ := Cursor.takes_append.mp htakes
      obtain ⟨c₄, hword, htakes⟩ := Cursor.takes_cons.mp htakes
      obtain ⟨c₅, hvalues, hend⟩ := Cursor.takes_append.mp htakes
      exact ⟨(), c₁, hinto, table, c₂, htable, columns, c₃, hcolumns, (), c₄, hword, values, c₅,
        hvalues, (), c', hend, rfl⟩
    | select => simp [Statement.tokens_select] at htokens
    | createTable => simp [Statement.tokens_createTable] at htokens

theorem run_createTable_eq_ok {c c' : Cursor String} {statement : Statement} :
    createTable.run c = .ok (statement, c') ↔
      ∃ ts, statement.tokens = "CREATE" :: ts ∧ c.Takes ts c' := by
  simp only [createTable, run_bind_eq_ok, (reads_exactly _).run_eq_ok, (reads_name _).run_eq_ok,
    reads_definitions.run_eq_ok, Reader.run_pure, Cursor.stops_nil, and_true]
  constructor
  · rintro ⟨_, c₁, hword, table, c₂, htable, definitions, c₃, hdefinitions, _, c₄, hend, hpure⟩
    cases hpure
    exact ⟨_, Statement.tokens_createTable table definitions,
      hword.cons (htable.cons (hdefinitions.append hend))⟩
  · rintro ⟨ts, htokens, htakes⟩
    cases statement with
    | createTable table definitions =>
      rw [Statement.tokens_createTable] at htokens
      cases htokens
      obtain ⟨c₁, hword, htakes⟩ := Cursor.takes_cons.mp htakes
      obtain ⟨c₂, htable, htakes⟩ := Cursor.takes_cons.mp htakes
      obtain ⟨c₃, hdefinitions, hend⟩ := Cursor.takes_append.mp htakes
      exact ⟨(), c₁, hword, table, c₂, htable, definitions, c₃, hdefinitions, (), c', hend, rfl⟩
    | select => simp [Statement.tokens_select] at htokens
    | insert => simp [Statement.tokens_insert] at htokens

/-- After its first word a statement is read as it is written, and nothing else is. -/
theorem run_statementFrom_eq_ok {leading : String} {c c' : Cursor String} {statement : Statement} :
    (statementFrom leading).run c = .ok (statement, c') ↔
      ∃ ts, statement.tokens = leading :: ts ∧ c.Takes ts c' := by
  unfold statementFrom
  split
  · exact run_select_eq_ok
  · exact run_insert_eq_ok
  · exact run_createTable_eq_ok
  · rename_i hselect hinsert hcreate
    constructor
    · intro hrefuse; cases hrefuse
    · rintro ⟨ts, htokens, -⟩
      cases statement with
      | select =>
        rw [Statement.tokens_select] at htokens
        exact absurd (List.cons.inj htokens).1.symm hselect
      | insert =>
        rw [Statement.tokens_insert] at htokens
        exact absurd (List.cons.inj htokens).1.symm hinsert
      | createTable =>
        rw [Statement.tokens_createTable] at htokens
        exact absurd (List.cons.inj htokens).1.symm hcreate

theorem run_finish_eq_ok {c c' : Cursor String} {u : Unit} :
    finish.run c = .ok (u, c') ↔ c.rest = [] ∧ c' = c := by
  obtain ⟨position, rest⟩ := c
  rw [finish, run_peek?_bind]
  cases rest with
  | nil => exact ⟨fun h => by cases h; exact ⟨rfl, rfl⟩, fun h => by rw [h.2]; rfl⟩
  | cons t rest => exact ⟨nofun, nofun⟩

end Grammar

namespace Statement

/-- Tokens are read as the statement that is written with them, and as no other. -/
theorem ofTokens_eq_ok_iff {ts : List String} {statement : Statement} :
    ofTokens ts = .ok statement ↔ statement.tokens = ts := by
  cases ts with
  | nil =>
    constructor
    · intro h; cases h
    · intro h; cases statement <;> cases h
  | cons leading rest =>
    have hread : (∃ c', (do
        let statement ← Grammar.statementFrom leading
        Grammar.finish
        return statement : Grammar.Rule Statement).run ⟨1, rest⟩ = .ok (statement, c')) ↔
        statement.tokens = leading :: rest := by
      simp only [Reader.run_bind_eq_ok, Grammar.run_statementFrom_eq_ok, Grammar.run_finish_eq_ok]
      constructor
      · rintro ⟨c', read, c₁, ⟨ts, htokens, htakes⟩, _, c₂, ⟨hend, -⟩, hpure⟩
        cases hpure
        have hrest : rest = ts ++ c₁.rest := htakes.1
        rw [htokens, hrest, hend, List.append_nil]
      · intro htokens
        have htakes : Cursor.Takes ⟨1, rest⟩ rest ⟨1 + rest.length, []⟩ :=
          ⟨(List.append_nil rest).symm, rfl⟩
        exact ⟨_, statement, _, ⟨rest, htokens, htakes⟩, (), _, ⟨rfl, rfl⟩, rfl⟩
    rw [← hread, ofTokens, ofTokensLogged]
    split
    · rename_i heq; rw [heq]; simp
    · rename_i heq; rw [heq]; simp

theorem tokens_injective : Function.Injective tokens := by
  intro s s' h
  have hs : ofTokens s.tokens = .ok s := ofTokens_eq_ok_iff.mpr rfl
  rw [h, ofTokens_eq_ok_iff.mpr rfl] at hs
  cases hs; rfl

end Statement

theorem parse_eq_ok_iff {ts : List String} {c : Tree} :
    parse ts = .ok c ↔ ∃ statement : Statement, statement.tokens = ts ∧ statement.tree = c := by
  simp only [parse, ← Statement.ofTokens_eq_ok_iff]
  cases Statement.ofTokens ts with
  | error fault => simp [Except.map]
  | ok statement => simp [Except.map]

end SqlFront
