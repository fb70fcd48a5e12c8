import SqlFront.Proofs.Reduction.Meaning
import SqlFront.Proofs.Segment.Blank
import SqlFront.Proofs.Segment.Written
import SqlFront.Proofs.Statement.Blame

/-!
# SqlFront.Proofs.Analysis.Single

A query is one statement, with nothing after it.

A statement ends with a semicolon, so an accepted query leaves no literal open, and what is written
after it and some blanks is cut by itself. No statement is the beginning of another: the reading is
over with the semicolon, and the first token after it is refused at its place.

* `ofTokens_append`: the tokens of a statement with another token after them.
* `analyze_append`: an accepted query with blanks and any text after it.
-/

namespace SqlFront

namespace Statement

theorem getLast?_tokens (statement : Statement) : statement.tokens.getLast? = some ";" := by
  cases statement with
  | select columns table condition => exact List.getLast?_concat
  | insert table columns values => rw [tokens, List.getLast?_append]; rfl
  | createTable table definitions => rw [tokens, List.getLast?_append]; rfl

/-- Once a statement is read, the next token is refused, whatever it is. -/
theorem ofTokens_append (statement : Statement) (token : String) (tokens : List String) :
    ofTokens (statement.tokens ++ token :: tokens) =
      .error (.expected Fault.endOfInput (some token) statement.tokens.length) := by
  obtain ⟨leading, rest, htokens⟩ : ∃ leading rest, statement.tokens = leading :: rest := by
    apply List.exists_cons_of_ne_nil
    intro hnil
    have hlast := statement.getLast?_tokens
    rw [hnil] at hlast
    cases hlast
  have hread : (Grammar.statementFrom leading).run ⟨1, rest ++ token :: tokens⟩ =
      .ok (statement, ⟨1 + rest.length, token :: tokens⟩) :=
    Grammar.run_statementFrom_eq_ok.mpr ⟨rest, htokens, rfl, rfl⟩
  have hrefuse : (do
      let statement ← Grammar.statementFrom leading
      Grammar.finish
      return statement : Grammar.Rule Statement).run ⟨1, rest ++ token :: tokens⟩ =
        .error (Grammar.leftover ⟨1 + rest.length, token :: tokens⟩) := by
    rw [Reader.run_bind, hread]
    rfl
  rw [htokens, List.cons_append]
  refine ofTokens_cons_eq_error.mpr ⟨_, ?_, hrefuse⟩
  rw [Grammar.leftover, List.length_cons, Nat.add_comm rest.length 1]
  rfl

end Statement

/-- One call reads one statement. After an accepted query and some blanks, a text without tokens
changes nothing; of any other text the first token is refused, where the query ended. -/
theorem analyze_append {query blanks : String} {analysis : Analysis}
    (hquery : analyze query = .ok analysis) (hne : blanks ≠ "")
    (hblanks : ∀ c ∈ blanks.toList, Text.isBlank c = true) (text : String) :
    (tokenize text = [] → analyze (query ++ blanks ++ text) = .ok analysis) ∧
    ∀ token, (tokenize text).head? = some token →
      analyze (query ++ blanks ++ text) =
        .error (.expected "end of input" (some token) (tokenize query).length) := by
  obtain ⟨statement, hstatement⟩ : ∃ statement : Statement, statement.tokens = tokenize query := by
    rw [analyze_eq_map] at hquery
    cases hread : Statement.ofTokens (tokenize query) with
    | error fault => rw [hread] at hquery; cases hquery
    | ok statement => exact ⟨statement, Statement.ofTokens_eq_ok_iff.mp hread⟩
  have hlast : (tokenize query).getLast? = some ";" := hstatement ▸ statement.getLast?_tokens
  have hquotes := even_quotes_of_getLast? hlast (by decide)
  obtain ⟨b, bs, hcs⟩ : ∃ b bs, blanks.toList = b :: bs := by
    apply List.exists_cons_of_ne_nil
    simpa using hne
  have htokens : tokenize (query ++ blanks ++ text) = tokenize query ++ tokenize text := by
    have hb : Text.isBlank b = true := hblanks b (by simp [hcs])
    have happend := (Segment.covers_cut query.toList).tokens_append_blank hquotes hb
      (bs ++ text.toList)
    rw [← List.cons_append, ← hcs, Segment.tokens_blank_append hblanks] at happend
    rw [tokenize, String.toList_append, String.toList_append, List.append_assoc]
    exact happend
  constructor
  · intro hnone
    rw [hnone, List.append_nil] at htokens
    rw [analyze_congr htokens, hquery]
  · intro token htoken
    obtain ⟨tokens, htext⟩ := List.head?_eq_some_iff.mp htoken
    rw [analyze_eq_map, htokens, htext, ← hstatement, statement.ofTokens_append]
    rfl

/-- A whole statement followed by part of another one, with a literal that is left open. -/
theorem analyze_append_unclosed :
    let query := "select a from t;"
    let analysis : Analysis :=
      { tokens := ["SELECT", "a", "FROM", "t", ";"]
        cst := .plain "<query>"
          [.token "SELECT",
           .plain "<column_list>"
             [.plain "<column_name>" [.token "a"], .plain "<column_list_tail>" []],
           .token "FROM", .plain "<table_name>" [.token "t"], .plain "<optional_where>" [],
           .token ";"]
        ast := .tagged .select
          [.tagged .columnList [.leaf "a" .identifier], .leaf "t" .tableName] }
    (analyze query = .ok analysis ∧ "\u3000\n" ≠ "" ∧
        ∀ c ∈ "\u3000\n".toList, Text.isBlank c = true) ∧
      analyze (query ++ "\u3000\n" ++ "!\t") = .ok analysis ∧
      analyze (query ++ "\u3000\n" ++ "; insert into 't") =
        .error (.expected "end of input" (some ";") 5) := by
  intro query analysis
  have hquery : analyze query = .ok analysis := by decide +kernel
  have hne : "\u3000\n" ≠ "" := by decide
  have hall : "\u3000\n".toList.all Text.isBlank = true := by decide
  have hblanks : ∀ c ∈ "\u3000\n".toList, Text.isBlank c = true := List.all_eq_true.mp hall
  have hnone : tokenize "!\t" = [] := by decide +kernel
  have hlength : (tokenize query).length = 5 := by decide +kernel
  have hfirst : (tokenize "; insert into 't").head? = some ";" := by decide +kernel
  refine ⟨⟨hquery, hne, hblanks⟩, (analyze_append hquery hne hblanks "!\t").1 hnone, ?_⟩
  rw [← hlength]
  exact (analyze_append hquery hne hblanks "; insert into 't").2 ";" hfirst

end SqlFront
