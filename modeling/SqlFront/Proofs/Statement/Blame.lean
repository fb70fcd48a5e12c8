import SqlFront.Proofs.Reader.Blame
import SqlFront.Proofs.Statement.Reading

/-!
# SqlFront.Proofs.Statement.Blame

A refusal that names a token is about the first token that is wrong.

Each rule blames a token only after what could still become one of the things the rule reads, one
lemma for each rule, and in the end after what could still become a statement.

* `parse_blames_first`: the tokens before the blamed one begin a statement, those up to it begin
  none, and those after it have no say.
-/

namespace SqlFront

/-- The token that a refusal names and its place, if it names one. -/
def Refusal.blame (refusal : Refusal) : Option (Option String × Nat) :=
  match refusal.fault with
  | .expected _ found position => some (found, position)
  | _ => none

namespace Grammar

open Reader (Reads Blames BlamesAt Written)

/-! ## Tokens -/

theorem blames_tokenOf (what : String) (test : String → Bool) [Inhabited (TokenOf test)] :
    Blames Refusal.blame (tokenOf what test) (Written fun token : TokenOf test => [token.val]) := by
  refine .accept (fun c => rfl) fun c d hagree => ?_
  rw [mismatch, mismatch, hagree.head?, hagree.1]

theorem blames_name (what : String) :
    Blames Refusal.blame (name what) (Written fun name : Name => [name.val]) :=
  blames_tokenOf what Token.isIdentifier

theorem blames_exactly (token : String) :
    Blames Refusal.blame (exactly token) (Written fun _ : Unit => [token]) := by
  have hitself : Inhabited (TokenOf (· == token)) := ⟨⟨token, beq_self_eq_true token⟩⟩
  have htoken := blames_tokenOf token (· == token)
  refine ⟨⟨[token], (), rfl⟩, fun c => ((htoken.blamesAt c).mono ?_).map fun _ => ()⟩
  rintro us ⟨⟨t, ht⟩, rfl⟩
  exact ⟨[], (), by simp [beq_iff_eq.mp ht]⟩

theorem blames_refuse {α : Type} {fault : Fault} {wanted : List String → Prop}
    (hcompletes : ∃ us, wanted us) (h : Refusal.blame ⟨fault, []⟩ = none) :
    Blames Refusal.blame (refuse fault : Rule α) wanted :=
  .fail hcompletes fun _ => h

/-! ## Lists -/

section Lists

variable {α : Type} {item : Rule α} {write more : α → List String}

theorem blames_listed (hreads : Reads item write more)
    (h : Blames Refusal.blame item (Written write)) :
    Blames Refusal.blame (listed item) (Written (Listed.tokens write)) := by
  refine .bind hreads h fun head => ⟨⟨[], ⟨head, []⟩, by simp [Listed.tokens]⟩, fun c => ?_⟩
  refine (((Blames.loop hreads h).blamesAt c).mono ?_).map (Listed.mk head)
  rintro us ⟨tail, rfl⟩
  exact ⟨[], ⟨head, tail⟩, by simp [Listed.tokens]⟩

theorem blames_enclosed (element context : String) (hreads : Reads item write more)
    (h : Blames Refusal.blame item (Written write)) :
    Blames Refusal.blame (enclosed element context item) (Written (Listed.tokens write)) := by
  have hlisted := blames_listed hreads h
  refine ⟨hlisted.completes, fun c => .peek ?_⟩
  split
  · exact (blames_refuse hlisted.completes rfl).blamesAt c
  · exact hlisted.blamesAt c

theorem blames_parenthesized (element context : String) (hreads : Reads item write more)
    (hcomma : ∀ a, "," ∉ more a) (hstart : OpensItem write)
    (h : Blames Refusal.blame item (Written write)) :
    Blames Refusal.blame (parenthesized element context item)
      (Written fun items => "(" :: Listed.tokens write items ++ [")"]) := by
  refine .bind (reads_exactly "(") (blames_exactly "(") fun _ => ?_
  refine .bind (reads_enclosed element context hreads hcomma hstart)
    (blames_enclosed element context hreads h) fun items => ?_
  refine .bind (reads_exactly ")") (blames_exactly ")") fun _ => ?_
  exact .pure ⟨[], items, by simp⟩ items

theorem blames_selectColumns :
    Blames Refusal.blame selectColumns
      (Written (Listed.tokens fun column : TokenOf Token.isSelectable => [column.val])) := by
  have hlisted := blames_listed (reads_tokenOf "column name" Token.isSelectable)
    (blames_tokenOf _ _)
  refine ⟨hlisted.completes, fun c => .peek ?_⟩
  split
  · exact (blames_refuse hlisted.completes rfl).blamesAt c
  · exact (blames_refuse hlisted.completes rfl).blamesAt c
  · exact hlisted.blamesAt c

end Lists

/-! ## Clauses -/

theorem blames_condition : Blames Refusal.blame condition (Written Condition.tokens) := by
  refine .bind (reads_tokenOf _ _) (blames_tokenOf _ _) fun left => ?_
  refine .bind (reads_tokenOf _ _) (blames_tokenOf _ _) fun operator => ?_
  refine .bind (reads_tokenOf _ _) (blames_tokenOf _ _) fun right => ?_
  exact .pure ⟨[], ⟨left, operator, right⟩, rfl⟩ _

theorem blames_optional {α : Type} {start : String} {write : α → List String}
    {part : Rule (Option α)}
    (h : Blames Refusal.blame part (Written (optionalTokens start write))) :
    Blames Refusal.blame (do if (← Reader.peek?) == some start then part else return none)
      (Written (optionalTokens start write)) := by
  refine ⟨h.completes, fun c => .peek ?_⟩
  split
  · exact h.blamesAt c
  · exact .of_ok rfl

theorem blames_optionalWhere :
    Blames Refusal.blame optionalWhere (Written (optionalTokens "WHERE" Condition.tokens)) := by
  refine blames_optional ?_
  refine .bind (reads_exactly "WHERE") (blames_exactly "WHERE") fun _ => ?_
  refine .bind reads_condition blames_condition fun condition => ?_
  exact .pure ⟨[], some condition, by simp [optionalTokens]⟩ _

theorem blames_size :
    Blames Refusal.blame size
      (Written
        (optionalTokens "(" fun size : TokenOf Token.isNumericLiteral => [size.val, ")"])) := by
  refine blames_optional ?_
  refine .bind (reads_exactly "(") (blames_exactly "(") fun _ => ?_
  refine .bind (reads_tokenOf _ _) (blames_tokenOf _ _) fun size => ?_
  refine .bind (reads_exactly ")") (blames_exactly ")") fun _ => ?_
  exact .pure ⟨[], some size, rfl⟩ _

theorem blames_definition : Blames Refusal.blame definition (Written Definition.tokens) := by
  refine .bind (reads_name _) (blames_name _) fun name => ?_
  refine .bind (reads_tokenOf _ _) (blames_tokenOf _ _) fun type => ?_
  refine .bind reads_size blames_size fun size => ?_
  exact .pure ⟨[], ⟨name, type, size⟩, by simp [Definition.tokens_eq]⟩ _

/-! ## Lists in parentheses -/

theorem blames_columnNames :
    Blames Refusal.blame (parenthesized "column name" "in INSERT" (name "column name"))
      (Written fun columns : Listed Name =>
        "(" :: columns.tokens (fun column => [column.val]) ++ [")"]) :=
  blames_parenthesized _ _ (reads_name _) nofun opensItem_name (blames_name _)

theorem blames_values :
    Blames Refusal.blame (parenthesized "value" "in VALUES" (tokenOf "value" Token.isValue))
      (Written fun values : Listed (TokenOf Token.isValue) =>
        "(" :: values.tokens (fun value => [value.val]) ++ [")"]) :=
  blames_parenthesized _ _ (reads_tokenOf _ _) nofun opensItem_value (blames_tokenOf _ _)

theorem blames_definitions :
    Blames Refusal.blame (parenthesized "column definition" "in CREATE TABLE" definition)
      (Written fun definitions : Listed Definition =>
        "(" :: definitions.tokens Definition.tokens ++ [")"]) := by
  refine blames_parenthesized _ _ reads_definition ?_ opensItem_definition blames_definition
  exact fun definition => notMem_optionalMore (by decide) definition.size

/-! ## Statements -/

theorem blames_select :
    Blames Refusal.blame select
      fun us => ∃ statement : Statement, statement.tokens = "SELECT" :: us := by
  refine .bind reads_selectColumns blames_selectColumns fun columns => ?_
  refine .bind (reads_exactly "FROM") (blames_exactly "FROM") fun _ => ?_
  refine .bind (reads_name _) (blames_name _) fun table => ?_
  refine .bind reads_optionalWhere blames_optionalWhere fun condition => ?_
  refine .bind (reads_exactly ";") (blames_exactly ";") fun _ => ?_
  exact .pure ⟨[], .select columns table condition, by simp [Statement.tokens_select]⟩ _

theorem blames_insert :
    Blames Refusal.blame insert
      fun us => ∃ statement : Statement, statement.tokens = "INSERT" :: us := by
  refine .bind (reads_exactly "INTO") (blames_exactly "INTO") fun _ => ?_
  refine .bind (reads_name _) (blames_name _) fun table => ?_
  refine .bind reads_columnNames blames_columnNames fun columns => ?_
  refine .bind (reads_exactly "VALUES") (blames_exactly "VALUES") fun _ => ?_
  refine .bind reads_values blames_values fun values => ?_
  refine .bind (reads_exactly ";") (blames_exactly ";") fun _ => ?_
  exact .pure ⟨[], .insert table columns values, by simp [Statement.tokens_insert]⟩ _

theorem blames_createTable :
    Blames Refusal.blame createTable
      fun us => ∃ statement : Statement, statement.tokens = "CREATE" :: us := by
  refine .bind (reads_exactly "TABLE") (blames_exactly "TABLE") fun _ => ?_
  refine .bind (reads_name _) (blames_name _) fun table => ?_
  refine .bind reads_definitions blames_definitions fun definitions => ?_
  refine .bind (reads_exactly ";") (blames_exactly ";") fun _ => ?_
  exact .pure ⟨[], .createTable table definitions, by simp [Statement.tokens_createTable]⟩ _

theorem blamesAt_statementFrom (leading : String) (c : Cursor String) :
    BlamesAt Refusal.blame (statementFrom leading)
      (fun us => ∃ statement : Statement, statement.tokens = leading :: us) c := by
  unfold statementFrom
  split
  · exact blames_select.blamesAt c
  · exact blames_insert.blamesAt c
  · exact blames_createTable.blamesAt c
  · intro e he hblame
    cases he
    cases hblame

theorem blamesAt_finish {wanted : List String → Prop} (hcompletes : ∃ us, wanted us)
    (c : Cursor String) : BlamesAt Refusal.blame finish wanted c := by
  refine .peek ?_
  split
  · refine .here hcompletes fun e he _ => ?_
    cases he
    refine ⟨rfl, fun d hd => ?_⟩
    rw [Reader.run_fail, leftover, leftover, hd.head?, hd.1]
  · exact .of_ok rfl

theorem blamesAt_ofTokens (leading : String) (c : Cursor String) :
    BlamesAt Refusal.blame
      (do let statement ← statementFrom leading; finish; return statement)
      (fun us => ∃ statement : Statement, statement.tokens = leading :: us) c := by
  cases hrun : (statementFrom leading).run c with
  | error e => exact (blamesAt_statementFrom leading c).of_error _ hrun
  | ok read =>
    obtain ⟨statement, c'⟩ := read
    obtain ⟨ts, htokens, htakes⟩ := run_statementFrom_eq_ok.mp hrun
    refine .after htakes (fun d d' e _ hd => ?_)
      ((blamesAt_finish ⟨[], statement, by simpa using htokens⟩ c').map fun _ => statement)
    have hd : (statementFrom leading).run d = .ok (statement, d') :=
      run_statementFrom_eq_ok.mpr ⟨ts, htokens, hd⟩
    rw [Reader.run_bind, hd]

end Grammar

namespace Statement

theorem ofTokens_cons_eq_error {leading : String} {rest : List String} {fault : Fault} :
    ofTokens (leading :: rest) = .error fault ↔
      ∃ e : Refusal, e.fault = fault ∧
        (do let statement ← Grammar.statementFrom leading
            Grammar.finish
            return statement : Grammar.Rule Statement).run ⟨1, rest⟩ = .error e := by
  rw [ofTokens, ofTokensLogged]
  split
  · rename_i heq
    rw [heq]
    simp
  · rename_i e heq
    rw [heq]
    simp

end Statement

theorem parse_eq_error_iff {ts : List String} {fault : Fault} :
    parse ts = .error fault ↔ Statement.ofTokens ts = .error fault := by
  rw [parse]
  cases Statement.ofTokens ts <;> simp [Except.map]

theorem exists_split_of_parse_eq_expected {leading what : String} {rest : List String}
    {found : Option String} {p : Nat}
    (h : parse (leading :: rest) = .error (.expected what found p)) :
    ∃ before after, rest = before ++ after ∧ p = before.length + 1 ∧ found = after.head? ∧
      (∃ us c, parse (leading :: before ++ us) = .ok c) ∧
      ∀ rest', rest'.take p = rest.take p →
        parse (leading :: rest') = .error (.expected what found p) := by
  obtain ⟨e, he, hrun⟩ := Statement.ofTokens_cons_eq_error.mp (parse_eq_error_iff.mp h)
  have hblame : e.blame = some (found, p) := by rw [Refusal.blame, he]
  obtain ⟨before, c', htakes, hnext, ⟨us, statement, htokens⟩, hagree⟩ :=
    Grammar.blamesAt_ofTokens leading ⟨1, rest⟩ e hrun (by rw [hblame]; rfl)
  rw [hblame, Option.some.injEq, Prod.mk.injEq] at hnext
  obtain ⟨hfound, hp⟩ := hnext
  have hp : p = before.length + 1 := by rw [hp, htakes.2, Nat.add_comm]
  refine ⟨before, c'.rest, htakes.1, hp, hfound, ⟨us, statement.tree, ?_⟩, ?_⟩
  · exact parse_eq_ok_iff.mpr ⟨statement, htokens, rfl⟩
  · intro rest' hrest'
    rw [hp] at hrest'
    exact parse_eq_error_iff.mpr
      (Statement.ofTokens_cons_eq_error.mpr ⟨e, he, hagree ⟨1, rest'⟩ ⟨rfl, hrest'⟩⟩)

/-- A refusal that names a token names the first wrong one: the tokens before it begin a statement,
those up to it begin none, and the later ones have no say. -/
theorem parse_blames_first {ts : List String} {what : String} {found : Option String} {p : Nat}
    (h : parse ts = .error (.expected what found p)) :
    (1 ≤ p ∧ p ≤ ts.length) ∧
    (∀ hp : p < ts.length, found = some ts[p]) ∧
    (p = ts.length → found = none ∧ found.getD Fault.endOfInput = "end of input") ∧
    (∃ us c, parse (ts.take p ++ us) = .ok c) ∧
    (∀ us, us.take (p + 1) = ts.take (p + 1) → parse us = .error (.expected what found p)) ∧
    (p < ts.length → ∀ us c, parse (ts.take (p + 1) ++ us) ≠ .ok c) := by
  cases ts with
  | nil => cases h
  | cons leading rest =>
    obtain ⟨before, after, rfl, rfl, rfl, hcompletes, hagree⟩ :=
      exists_split_of_parse_eq_expected h
    have hlocal : ∀ us, us.take (before.length + 1 + 1) =
        (leading :: (before ++ after)).take (before.length + 1 + 1) →
        parse us = .error (.expected what after.head? (before.length + 1)) := by
      intro us hus
      cases us with
      | nil => cases hus
      | cons first us =>
        rw [List.take_succ_cons, List.take_succ_cons, List.cons.injEq] at hus
        obtain ⟨rfl, hus⟩ := hus
        exact hagree us hus
    refine ⟨⟨?_, ?_⟩, ?_, ?_, ?_, hlocal, ?_⟩
    · omega
    · simp
    · intro hp
      cases after with
      | nil => simp at hp
      | cons t after => simp
    · intro hp
      have hafter : after = [] := by
        simp only [List.length_cons, List.length_append] at hp
        exact List.eq_nil_of_length_eq_zero (by omega)
      rw [hafter]
      exact ⟨rfl, rfl⟩
    · rw [List.take_succ_cons, List.take_left]
      exact hcompletes
    · intro hp us c hok
      have hlength : ((leading :: (before ++ after)).take (before.length + 1 + 1)).length =
          before.length + 1 + 1 := by
        rw [List.length_take]
        omega
      rw [hlocal _ (List.take_left' hlength)] at hok
      cases hok

theorem parse_blames_first_reserved_operand :
    parse ["SELECT", "a", "FROM", "t", "WHERE", "a", "=", "FROM", ";"] =
        .error (.expected "right operand" (some "FROM") 7) ∧
      (∃ us c, parse (["SELECT", "a", "FROM", "t", "WHERE", "a", "="] ++ us) = .ok c) ∧
      ∀ us, us.take 8 = ["SELECT", "a", "FROM", "t", "WHERE", "a", "=", "FROM"] →
        parse us = .error (.expected "right operand" (some "FROM") 7) := by
  have hparse : parse ["SELECT", "a", "FROM", "t", "WHERE", "a", "=", "FROM", ";"] =
      .error (.expected "right operand" (some "FROM") 7) := by decide +kernel
  obtain ⟨-, -, -, hcompletes, hagree, -⟩ := parse_blames_first hparse
  exact ⟨hparse, hcompletes, hagree⟩

end SqlFront
