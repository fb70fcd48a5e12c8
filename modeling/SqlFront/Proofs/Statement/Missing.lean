import SqlFront.Proofs.Statement.Blame
import SqlFront.Proofs.Statement.Refusal

/-!
# SqlFront.Proofs.Statement.Missing

Which token lists are refused for a list without elements, and which for how they start.

A list in parentheses lacks its elements where the closing parenthesis follows the opening one at
once; the columns of a `SELECT` are in no parentheses and lack where `FROM` follows or nothing at
all. Everything before that place must have been read, and nothing after it is looked at.

* `failsAt_parenthesized`, `failsAt_selectColumns`: the two sorts of lists.
* `failsAt_select`, `failsAt_insert`, `failsAt_createTable`: the statements.
* `ofTokens_eq_missing_iff`: whole token lists.
* `parse_missing_iff`: the same, element by element, with the refusals for the first token.
-/

namespace SqlFront

/-- The refusal is for a list without such elements. -/
def Refusal.Lacks (element context : String) (refusal : Refusal) : Prop :=
  refusal.fault = .missing element context

/-- The tokens begin a statement up to a list that should have such elements here, and this list has
none. -/
def Statement.Lacks (element context : String) (ts : List String) : Prop :=
  (("column name" = element ∧ "after SELECT" = context) ∧
    (ts = ["SELECT"] ∨ ["SELECT", "FROM"] <+: ts)) ∨
  (("column name" = element ∧ "in INSERT" = context) ∧
    ∃ table : Name, ["INSERT", "INTO", table.val, "(", ")"] <+: ts) ∨
  (("value" = element ∧ "in VALUES" = context) ∧
    ∃ (table : Name) (columns : Listed Name),
      ["INSERT", "INTO", table.val, "("] ++ columns.tokens (fun column => [column.val]) ++
        [")", "VALUES", "(", ")"] <+: ts) ∨
  (("column definition" = element ∧ "in CREATE TABLE" = context) ∧
    ∃ table : Name, ["CREATE", "TABLE", table.val, "(", ")"] <+: ts)

namespace Grammar

open Reader (FailsOnly FailsAt)

variable {α : Type} {element context : String}

/-! ## Rules that are refused for other reasons only -/

theorem admitsMismatch_not_lacks :
    AdmitsMismatch fun refusal => ¬refusal.Lacks element context := by
  intro what c _ h
  cases h

theorem never_lacks_tokenOf {what : String} (h : what ≠ Fault.endOfInput)
    (test : String → Bool) :
    FailsOnly (fun refusal => ¬refusal.Lacks element context) (tokenOf what test) :=
  failsOnly_tokenOf admitsMismatch_not_lacks h test

theorem never_lacks_exactly {token : String} (h : token ≠ Fault.endOfInput) :
    FailsOnly (fun refusal => ¬refusal.Lacks element context) (exactly token) :=
  failsOnly_exactly admitsMismatch_not_lacks h

theorem never_lacks_last {token : String} (h : token ≠ Fault.endOfInput) (a : α) :
    FailsOnly (fun refusal => ¬refusal.Lacks element context)
      (do exactly token; return a : Rule α) :=
  (never_lacks_exactly h).bind fun _ => .pure

/-! ## Lists -/

theorem failsAt_refuse (fault fault' : Fault) :
    FailsAt (fun refusal => refusal.fault = fault') (refuse fault : Rule α)
      fun _ => fault = fault' := by
  intro c
  constructor
  · rintro ⟨e, hfault, he⟩
    cases he
    exact hfault
  · rintro rfl
    exact ⟨⟨fault, []⟩, rfl, rfl⟩

/-- A list in parentheses is looked at once, before its first element. -/
theorem failsAt_enclosed (element' context' : String) {item : Rule α}
    (h : FailsOnly (fun refusal => ¬refusal.Lacks element context) item) :
    FailsAt (Refusal.Lacks element context) (enclosed element' context' item) fun ts =>
      (element' = element ∧ context' = context) ∧ ts.head? = some ")" := by
  refine FailsAt.peek (w := fun next _ => (element' = element ∧ context' = context) ∧
    next = some ")") fun next => ?_
  split
  · rename_i hclose
    exact (failsAt_refuse _ _).congr fun _ => by simp [beq_iff_eq.mp hclose]
  · rename_i hclose
    rw [beq_iff_eq] at hclose
    exact (failsOnly_listed h).failsAt.congr fun _ => by simp [hclose]

theorem failsAt_parenthesized (element' context' : String) {item : Rule α}
    (h : FailsOnly (fun refusal => ¬refusal.Lacks element context) item) :
    FailsAt (Refusal.Lacks element context) (parenthesized element' context' item) fun ts =>
      (element' = element ∧ context' = context) ∧ ["(", ")"] <+: ts := by
  have hitems := (failsAt_enclosed element' context' h).bind_never
    (never_lacks_last (by decide : ")" ≠ Fault.endOfInput))
  refine (FailsAt.after (reads_exactly "(") (never_lacks_exactly (by decide)) fun _ =>
    hitems).congr fun ts => ?_
  constructor
  · rintro ⟨_, us, rfl, hlacks, hhead⟩
    obtain ⟨us, rfl⟩ := List.head?_eq_some_iff.mp hhead
    exact ⟨hlacks, us, rfl⟩
  · rintro ⟨hlacks, us, rfl⟩
    exact ⟨(), ")" :: us, rfl, hlacks, rfl⟩

/-- The columns of a `SELECT` have no end of their own, so there the end of the tokens counts as one
too. -/
theorem failsAt_selectColumns :
    FailsAt (Refusal.Lacks element context) selectColumns fun ts =>
      ("column name" = element ∧ "after SELECT" = context) ∧ (ts = [] ∨ ["FROM"] <+: ts) := by
  have hlist : FailsOnly (fun refusal => ¬refusal.Lacks element context)
      (listed (tokenOf "column name" Token.isSelectable)) :=
    failsOnly_listed (never_lacks_tokenOf (by decide) _)
  have hnext : FailsAt (Refusal.Lacks element context) selectColumns fun ts =>
      ("column name" = element ∧ "after SELECT" = context) ∧
        (ts.head? = none ∨ ts.head? = some "FROM") := by
    refine FailsAt.peek (w := fun next _ => ("column name" = element ∧ "after SELECT" = context) ∧
      (next = none ∨ next = some "FROM")) fun next => ?_
    split
    · exact (failsAt_refuse _ _).congr fun _ => by simp
    · exact (failsAt_refuse _ _).congr fun _ => by simp
    · rename_i token hfrom
      exact hlist.failsAt.congr fun _ => by simpa using fun _ _ => hfrom
  refine hnext.congr fun ts => ?_
  cases ts with
  | nil => simp
  | cons t ts => simp [List.cons_prefix_cons, eq_comm]

/-! ## Statements -/

theorem failsAt_select :
    FailsAt (Refusal.Lacks element context) select fun ts =>
      ("column name" = element ∧ "after SELECT" = context) ∧ (ts = [] ∨ ["FROM"] <+: ts) :=
  failsAt_selectColumns.bind_never (failsOnly_afterColumns admitsMismatch_not_lacks)

theorem failsAt_insert :
    FailsAt (Refusal.Lacks element context) insert fun ts =>
      (("column name" = element ∧ "in INSERT" = context) ∧
        ∃ table : Name, ["INTO", table.val, "(", ")"] <+: ts) ∨
      (("value" = element ∧ "in VALUES" = context) ∧
        ∃ (table : Name) (columns : Listed Name),
          ["INTO", table.val, "("] ++ columns.tokens (fun column => [column.val]) ++
            [")", "VALUES", "(", ")"] <+: ts) := by
  have hcolumns : FailsAt (Refusal.Lacks element context)
      (parenthesized "column name" "in INSERT" (name "column name")) _ :=
    failsAt_parenthesized _ _ (never_lacks_tokenOf (by decide) _)
  have hvalues : FailsAt (Refusal.Lacks element context)
      (parenthesized "value" "in VALUES" (tokenOf "value" Token.isValue)) _ :=
    failsAt_parenthesized _ _ (never_lacks_tokenOf (by decide) _)
  -- what stands before a list is read to its end, so only the two lists are places to fail
  refine (FailsAt.after (reads_exactly "INTO") (never_lacks_exactly (by decide)) fun _ =>
    .after (reads_name "table name") (never_lacks_tokenOf (by decide) _) fun table =>
    .bind reads_columnNames hcolumns fun columns =>
    .after (reads_exactly "VALUES") (never_lacks_exactly (by decide)) fun _ =>
    hvalues.bind_never fun values => never_lacks_last (by decide) _).congr fun ts => ?_
  constructor
  · rintro ⟨_, _, rfl, table, _, rfl, ⟨hlacks, us, rfl⟩ |
      ⟨columns, _, rfl, -, _, _, rfl, hlacks, us, rfl⟩⟩
    · exact .inl ⟨hlacks, table, us, rfl⟩
    · exact .inr ⟨hlacks, table, columns, us, by simp⟩
  · rintro (⟨hlacks, table, us, rfl⟩ | ⟨hlacks, table, columns, us, rfl⟩)
    · exact ⟨(), _, rfl, table, _, rfl, .inl ⟨hlacks, us, rfl⟩⟩
    · refine ⟨(), _, rfl, table, _, rfl, .inr ⟨columns, "VALUES" :: "(" :: ")" :: us, ?_, nofun,
        (), _, rfl, hlacks, us, rfl⟩⟩
      simp

theorem failsAt_createTable :
    FailsAt (Refusal.Lacks element context) createTable fun ts =>
      ("column definition" = element ∧ "in CREATE TABLE" = context) ∧
        ∃ table : Name, ["TABLE", table.val, "(", ")"] <+: ts := by
  have hdefinitions : FailsAt (Refusal.Lacks element context)
      (parenthesized "column definition" "in CREATE TABLE" definition) _ :=
    failsAt_parenthesized _ _ (failsOnly_definition admitsMismatch_not_lacks)
  refine (FailsAt.after (reads_exactly "TABLE") (never_lacks_exactly (by decide)) fun _ =>
    .after (reads_name "table name") (never_lacks_tokenOf (by decide) _) fun table =>
    hdefinitions.bind_never fun definitions => never_lacks_last (by decide) _).congr fun ts => ?_
  constructor
  · rintro ⟨_, _, rfl, table, _, rfl, hlacks, us, rfl⟩
    exact ⟨hlacks, table, us, rfl⟩
  · rintro ⟨hlacks, table, us, rfl⟩
    exact ⟨(), _, rfl, table, _, rfl, hlacks, us, rfl⟩

/-! ## Whole token lists -/

theorem failsAt_statementFrom (leading : String) :
    FailsAt (Refusal.Lacks element context) (statementFrom leading) fun rest =>
      Statement.Lacks element context (leading :: rest) := by
  unfold statementFrom
  split
  · exact failsAt_select.congr fun ts => by simp [Statement.Lacks, List.cons_prefix_cons]
  · exact failsAt_insert.congr fun ts => by simp [Statement.Lacks, List.cons_prefix_cons]
  · exact failsAt_createTable.congr fun ts => by simp [Statement.Lacks, List.cons_prefix_cons]
  · rename_i hselect hinsert hcreate
    have hselect : "SELECT" ≠ leading := fun h => hselect h.symm
    have hinsert : "INSERT" ≠ leading := fun h => hinsert h.symm
    have hcreate : "CREATE" ≠ leading := fun h => hcreate h.symm
    refine (failsAt_refuse _ _).congr fun ts => ?_
    simp [Statement.Lacks, List.cons_prefix_cons, hselect, hinsert, hcreate, hselect.symm]

/-- Only the first token can be none of those that start a statement. -/
theorem failsAt_statementFrom_unrecognized (leading token : String) :
    FailsAt (fun refusal => refusal.fault = .unrecognized token) (statementFrom leading) fun _ =>
      leading = token ∧ leading ∉ ["SELECT", "INSERT", "CREATE"] := by
  have hmismatch : AdmitsMismatch fun refusal => ¬refusal.fault = .unrecognized token := nofun
  have hmissing : AdmitsMissing fun refusal => ¬refusal.fault = .unrecognized token := nofun
  unfold statementFrom
  split
  · exact (failsOnly_select hmismatch hmissing).failsAt.congr fun _ => by simp
  · exact (failsOnly_insert hmismatch hmissing).failsAt.congr fun _ => by simp
  · exact (failsOnly_createTable hmismatch hmissing).failsAt.congr fun _ => by simp
  · rename_i hselect hinsert hcreate
    refine (failsAt_refuse _ _).congr fun _ => ?_
    have hother : leading ∉ ["SELECT", "INSERT", "CREATE"] := by
      simpa using ⟨hselect, hinsert, hcreate⟩
    simp only [Fault.unrecognized.injEq, hother, not_false_eq_true, and_true]

end Grammar

namespace Statement

/-- Tokens are refused for a reason that no end of a statement gives exactly where the statement
that they start is. -/
theorem ofTokens_cons_eq_error_iff {leading : String} {rest : List String} {fault : Fault}
    {w : List String → Prop} (hfault : ∀ c, (Grammar.leftover c).fault ≠ fault)
    (h : Reader.FailsAt (fun refusal => refusal.fault = fault) (Grammar.statementFrom leading) w) :
    ofTokens (leading :: rest) = .error fault ↔ w rest := by
  have hfinish : ∀ statement : Statement,
      Reader.FailsOnly (fun refusal => ¬refusal.fault = fault)
        (do Grammar.finish; return statement : Grammar.Rule Statement) :=
    fun statement => (Grammar.failsOnly_finish hfault).bind fun _ => .pure
  rw [ofTokens_cons_eq_error]
  exact h.bind_never hfinish ⟨1, rest⟩

theorem ofTokens_eq_missing_iff {element context : String} {ts : List String} :
    ofTokens ts = .error (.missing element context) ↔ Lacks element context ts := by
  cases ts with
  | nil => simp [ofTokens, ofTokensLogged, Logged.silent, Lacks]
  | cons leading rest =>
    have hleading : Reader.FailsAt (Refusal.Lacks element context)
        (Grammar.statementFrom leading) _ :=
      Grammar.failsAt_statementFrom leading
    exact ofTokens_cons_eq_error_iff (fun _ => Fault.noConfusion) hleading

theorem ofTokens_eq_unrecognized_iff {token : String} {ts : List String} :
    ofTokens ts = .error (.unrecognized token) ↔
      ts.head? = some token ∧ token ∉ ["SELECT", "INSERT", "CREATE"] := by
  cases ts with
  | nil => simp [ofTokens, ofTokensLogged, Logged.silent]
  | cons leading rest =>
    have hleading := Grammar.failsAt_statementFrom_unrecognized leading token
    rw [ofTokens_cons_eq_error_iff (fun _ => Fault.noConfusion) hleading, List.head?_cons,
      Option.some.injEq]
    exact and_congr_right fun h => by rw [h]

theorem ofTokens_eq_empty_iff {ts : List String} : ofTokens ts = .error .empty ↔ ts = [] := by
  cases ts with
  | nil => exact ⟨fun _ => rfl, fun _ => rfl⟩
  | cons leading rest =>
    have hnever : Reader.FailsOnly (fun refusal => ¬refusal.fault = .empty)
        (Grammar.statementFrom leading) :=
      Grammar.failsOnly_statementFrom (fun _ _ _ => Fault.noConfusion)
        (fun _ _ => Fault.noConfusion) Fault.noConfusion
    rw [ofTokens_cons_eq_error_iff (fun _ => Fault.noConfusion) hnever.failsAt]
    simp

end Statement

/-- A list without elements is the fault exactly where its end follows its beginning, after tokens
that a statement may begin with; there are four such lists. There is nothing to parse exactly if
there are no tokens, and the first token is at fault exactly if no statement starts with it. -/
theorem parse_missing_iff (ts : List String) :
    (parse ts = .error (.missing "column name" "after SELECT") ↔
      ts = ["SELECT"] ∨ ["SELECT", "FROM"] <+: ts) ∧
    (parse ts = .error (.missing "column name" "in INSERT") ↔
      ∃ table : Name, ["INSERT", "INTO", table.val, "(", ")"] <+: ts) ∧
    (parse ts = .error (.missing "value" "in VALUES") ↔
      ∃ (table : Name) (columns : Listed Name),
        ["INSERT", "INTO", table.val, "("] ++ columns.tokens (fun column => [column.val]) ++
          [")", "VALUES", "(", ")"] <+: ts) ∧
    (parse ts = .error (.missing "column definition" "in CREATE TABLE") ↔
      ∃ table : Name, ["CREATE", "TABLE", table.val, "(", ")"] <+: ts) ∧
    (∀ element context, parse ts = .error (.missing element context) →
      (element, context) ∈ [("column name", "after SELECT"), ("column name", "in INSERT"),
        ("value", "in VALUES"), ("column definition", "in CREATE TABLE")]) ∧
    (parse ts = .error .empty ↔ ts = []) ∧
    ∀ token, parse ts = .error (.unrecognized token) ↔
      ts.head? = some token ∧ token ∉ ["SELECT", "INSERT", "CREATE"] := by
  have hmissing : ∀ element context, parse ts = .error (.missing element context) ↔
      Statement.Lacks element context ts :=
    fun _ _ => parse_eq_error_iff.trans Statement.ofTokens_eq_missing_iff
  refine ⟨?_, ?_, ?_, ?_, ?_, ?_, ?_⟩
  · rw [hmissing]; simp [Statement.Lacks]
  · rw [hmissing]; simp [Statement.Lacks]
  · rw [hmissing]; simp [Statement.Lacks]
  · rw [hmissing]; simp [Statement.Lacks]
  · intro element context h
    rcases (hmissing element context).mp h with
      ⟨⟨rfl, rfl⟩, -⟩ | ⟨⟨rfl, rfl⟩, -⟩ | ⟨⟨rfl, rfl⟩, -⟩ | ⟨⟨rfl, rfl⟩, -⟩
    all_goals simp
  · exact parse_eq_error_iff.trans Statement.ofTokens_eq_empty_iff
  · intro token
    exact parse_eq_error_iff.trans Statement.ofTokens_eq_unrecognized_iff

end SqlFront
