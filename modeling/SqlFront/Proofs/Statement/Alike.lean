import SqlFront.Proofs.Reader.Alike
import SqlFront.Proofs.Statement.Labels

/-!
# SqlFront.Proofs.Statement.Alike

Two lists of tokens that correspond one by one, read as statements.

`R` is any relation between tokens that are alike. A rule is `Blind` to `R` if it cannot tell
corresponding tokens apart: it accepts both lists or refuses both, for faults alike. Every rule of
the grammar is, and so is the reading of a whole statement.

* `ofTokens_alike`: the statements that corresponding tokens write, or the faults, are alike.
-/

namespace SqlFront

variable {R : String → String → Prop}

/-! ## Faults and statements that are alike -/

/-- The same cause, at the same place and for the same want; the tokens found correspond. -/
inductive Fault.Alike (R : String → String → Prop) : Fault → Fault → Prop where
  | empty : Fault.Alike R .empty .empty
  | unrecognized {s t : String} : R s t → Fault.Alike R (.unrecognized s) (.unrecognized t)
  | expected {what : String} {found found' : Option String} {position : Nat} :
      Option.Rel R found found' →
      Fault.Alike R (.expected what found position) (.expected what found' position)
  | missing {element context : String} :
      Fault.Alike R (.missing element context) (.missing element context)

/-- Tokens of one class that correspond. -/
def TokenOf.Alike (R : String → String → Prop) {test : String → Bool} (s t : TokenOf test) : Prop :=
  R s.val t.val

structure Listed.Alike {α : Type} (A : α → α → Prop) (items items' : Listed α) : Prop where
  head : A items.head items'.head
  tail : List.Forall₂ A items.tail items'.tail

structure Condition.Alike (R : String → String → Prop) (condition condition' : Condition) :
    Prop where
  left : condition.left.Alike R condition'.left
  operator : condition.operator.Alike R condition'.operator
  right : condition.right.Alike R condition'.right

structure Definition.Alike (R : String → String → Prop) (definition definition' : Definition) :
    Prop where
  name : definition.name.Alike R definition'.name
  type : definition.type.Alike R definition'.type
  size : Option.Rel (TokenOf.Alike R) definition.size definition'.size

/-- The same kind of statement with as many parts, and tokens that correspond. -/
inductive Statement.Alike (R : String → String → Prop) : Statement → Statement → Prop where
  | select {columns columns' : Listed (TokenOf Token.isSelectable)} {table table' : Name}
      {condition condition' : Option Condition} :
      columns.Alike (TokenOf.Alike R) columns' → table.Alike R table' →
      Option.Rel (Condition.Alike R) condition condition' →
      Statement.Alike R (.select columns table condition) (.select columns' table' condition')
  | insert {table table' : Name} {columns columns' : Listed Name}
      {values values' : Listed (TokenOf Token.isValue)} :
      table.Alike R table' → columns.Alike (TokenOf.Alike R) columns' →
      values.Alike (TokenOf.Alike R) values' →
      Statement.Alike R (.insert table columns values) (.insert table' columns' values')
  | createTable {table table' : Name} {definitions definitions' : Listed Definition} :
      table.Alike R table' → definitions.Alike (Definition.Alike R) definitions' →
      Statement.Alike R (.createTable table definitions) (.createTable table' definitions')

namespace Grammar

/-- The rules read values alike from corresponding tokens, or refuse them for faults alike. -/
def RulesAlike (R : String → String → Prop) {α β : Type} (A : α → β → Prop) (rule : Rule α)
    (rule' : Rule β) : Prop :=
  Reader.Alike R (fun refusal refusal' => refusal.fault.Alike R refusal'.fault) A rule rule'

/-- The rule cannot tell corresponding tokens apart. -/
def Blind (R : String → String → Prop) {α : Type} (A : α → α → Prop) (rule : Rule α) : Prop :=
  RulesAlike R A rule rule

theorem mismatch_alike (what : String) (c d : Cursor String) (h : c.Alike R d) :
    (mismatch what c).fault.Alike R (mismatch what d).fault := by
  rw [mismatch, mismatch, h.position]
  exact .expected h.head?

theorem leftover_alike (c d : Cursor String) (h : c.Alike R d) :
    (leftover c).fault.Alike R (leftover d).fault := by
  rw [leftover, leftover, h.position]
  exact .expected h.head?

theorem refuse_alike {α β : Type} {A : α → β → Prop} {fault fault' : Fault}
    (h : fault.Alike R fault') :
    RulesAlike R A (refuse fault) (refuse fault') :=
  Reader.Alike.fail fun _ _ _ => h

/-! ## Tokens -/

section

variable (hR : ∀ s t, R s t → Token.Alike s t)
include hR

theorem blind_tokenOf (what : String) {test : String → Bool}
    (htest : ∀ {s t}, Token.Alike s t → test s = test t) :
    Blind R (TokenOf.Alike R) (tokenOf what test) :=
  .accept (fun s t h => htest (hR s t h)) (mismatch_alike what)

theorem blind_exactly {token : String}
    (h : Token.isKeyword token = true ∨ Token.isSymbol token = true) :
    Blind R (fun _ _ => True) (exactly token) :=
  .map (blind_tokenOf hR token fun halike => halike.beq h) fun _ _ _ => trivial

theorem blind_name (what : String) : Blind R (TokenOf.Alike R) (name what) :=
  blind_tokenOf hR what Token.Alike.isIdentifier

/-- Whether a reserved token comes next is answered alike. -/
theorem isNext_alike {x y : Option String} (h : Option.Rel R x y) {token : String}
    (htoken : Token.isKeyword token = true ∨ Token.isSymbol token = true) :
    (x == some token) = (y == some token) := by
  cases h with
  | none => rfl
  | some h => exact (hR _ _ h).beq htoken

/-! ## Lists -/

variable {α : Type} {A : α → α → Prop} {item : Rule α}

theorem blind_listed (h : Blind R A item) : Blind R (Listed.Alike A) (listed item) := by
  refine .bind h fun head head' hhead => ?_
  have hcomma : ∀ s t, R s t → (s == ",") = (t == ",") :=
    fun s t hst => (hR s t hst).beq (by decide)
  exact .map (.loop hcomma h) fun tail tail' htail => ⟨hhead, htail⟩

theorem blind_enclosed (element context : String) (h : Blind R A item) :
    Blind R (Listed.Alike A) (enclosed element context item) := by
  refine .peek fun x y hxy => ?_
  rw [isNext_alike hR hxy (by decide)]
  split
  · exact refuse_alike .missing
  · exact blind_listed hR h

theorem blind_parenthesized (element context : String) (h : Blind R A item) :
    Blind R (Listed.Alike A) (parenthesized element context item) := by
  refine .bind (blind_exactly hR (by decide)) fun _ _ _ => ?_
  refine .bind (blind_enclosed hR element context h) fun items items' hitems => ?_
  exact .map (blind_exactly hR (by decide)) fun _ _ _ => hitems

theorem blind_selectColumns : Blind R (Listed.Alike (TokenOf.Alike R)) selectColumns := by
  have hword : Token.isKeyword "FROM" = true ∨ Token.isSymbol "FROM" = true := by decide
  refine .peek fun x y hxy => ?_
  cases hxy with
  | none => exact refuse_alike .missing
  | @some s t hst =>
    have hboth := (hR s t hst).eq_iff hword
    split
    · contradiction
    · rename_i hs
      obtain rfl := hboth.mp (Option.some.inj hs)
      exact refuse_alike .missing
    · rename_i hs hval
      obtain rfl := Option.some.inj hval
      split
      · contradiction
      · rename_i ht
        exact absurd (hboth.mpr (Option.some.inj ht)) hs
      · exact blind_listed hR (blind_tokenOf hR _ Token.Alike.isSelectable)

/-! ## Clauses -/

theorem blind_condition : Blind R (Condition.Alike R) condition := by
  refine .bind (blind_tokenOf hR _ Token.Alike.isValue) fun left left' hleft => ?_
  refine .bind (blind_tokenOf hR _ Token.Alike.isComparisonOperator) fun op op' hoperator => ?_
  exact .map (blind_tokenOf hR _ Token.Alike.isValue) fun right right' hright =>
    ⟨hleft, hoperator, hright⟩

theorem blind_optionalWhere : Blind R (Option.Rel (Condition.Alike R)) optionalWhere := by
  refine .peek fun x y hxy => ?_
  rw [isNext_alike hR hxy (by decide)]
  split
  · refine .bind (blind_exactly hR (by decide)) fun _ _ _ => ?_
    exact .map (blind_condition hR) fun _ _ hcondition => .some hcondition
  · exact .pure .none

theorem blind_size : Blind R (Option.Rel (TokenOf.Alike R)) size := by
  refine .peek fun x y hxy => ?_
  rw [isNext_alike hR hxy (by decide)]
  split
  · refine .bind (blind_exactly hR (by decide)) fun _ _ _ => ?_
    refine .bind (blind_tokenOf hR _ Token.Alike.isNumericLiteral) fun size size' hsize => ?_
    exact .map (blind_exactly hR (by decide)) fun _ _ _ => .some hsize
  · exact .pure .none

theorem blind_definition : Blind R (Definition.Alike R) definition := by
  refine .bind (blind_name hR _) fun name name' hname => ?_
  refine .bind (blind_tokenOf hR _ Token.Alike.isTypeName) fun type type' htype => ?_
  exact .map (blind_size hR) fun size size' hsize => ⟨hname, htype, hsize⟩

/-! ## Statements -/

theorem blind_select : Blind R (Statement.Alike R) select := by
  refine .bind (blind_selectColumns hR) fun columns columns' hcolumns => ?_
  refine .bind (blind_exactly hR (by decide)) fun _ _ _ => ?_
  refine .bind (blind_name hR _) fun table table' htable => ?_
  refine .bind (blind_optionalWhere hR) fun condition condition' hcondition => ?_
  exact .map (blind_exactly hR (by decide)) fun _ _ _ => .select hcolumns htable hcondition

theorem blind_insert : Blind R (Statement.Alike R) insert := by
  have hname := blind_name hR "column name"
  have hvalue := blind_tokenOf hR "value" Token.Alike.isValue
  refine .bind (blind_exactly hR (by decide)) fun _ _ _ => ?_
  refine .bind (blind_name hR _) fun table table' htable => ?_
  refine .bind (blind_parenthesized hR _ _ hname) fun columns columns' hcolumns => ?_
  refine .bind (blind_exactly hR (by decide)) fun _ _ _ => ?_
  refine .bind (blind_parenthesized hR _ _ hvalue) fun values values' hvalues => ?_
  exact .map (blind_exactly hR (by decide)) fun _ _ _ => .insert htable hcolumns hvalues

theorem blind_createTable : Blind R (Statement.Alike R) createTable := by
  have hitem := blind_definition hR
  refine .bind (blind_exactly hR (by decide)) fun _ _ _ => ?_
  refine .bind (blind_name hR _) fun table table' htable => ?_
  refine .bind (blind_parenthesized hR _ _ hitem) fun definitions definitions' hdefinitions => ?_
  exact .map (blind_exactly hR (by decide)) fun _ _ _ => .createTable htable hdefinitions

omit hR in
theorem statementFrom_of_not_keyword {leading : String} (h : Token.isKeyword leading = false) :
    statementFrom leading = refuse (.unrecognized leading) := by
  unfold statementFrom
  split
  · cases h
  · cases h
  · cases h
  · rfl

theorem statementFrom_alike {s t : String} (h : R s t) :
    RulesAlike R (Statement.Alike R) (statementFrom s) (statementFrom t) := by
  rcases hR s t h with rfl | ⟨hs, ht, -⟩
  · unfold statementFrom
    split
    · exact blind_select hR
    · exact blind_insert hR
    · exact blind_createTable hR
    · exact refuse_alike (.unrecognized h)
  · rw [statementFrom_of_not_keyword hs.1, statementFrom_of_not_keyword ht.1]
    exact refuse_alike (.unrecognized h)

end

theorem blind_finish : Blind R (fun _ _ => True) finish := by
  refine .peek fun x y hxy => ?_
  cases hxy with
  | none => exact .pure trivial
  | some _ => exact .fail leftover_alike

end Grammar

/-! ## Reading a statement -/

theorem Statement.ofTokens_cons (leading : String) (rest : List String) :
    ofTokens (leading :: rest) =
      (((do let statement ← Grammar.statementFrom leading
            Grammar.finish
            return statement : Grammar.Rule Statement).run ⟨1, rest⟩).mapError
        Refusal.fault).map Prod.fst := by
  rw [ofTokens, ofTokensLogged]
  split
  · rename_i heq
    rw [heq]
    rfl
  · rename_i heq
    rw [heq]
    rfl

/-- Corresponding tokens write statements alike, or are refused alike. -/
theorem Statement.ofTokens_alike (hR : ∀ s t, R s t → Token.Alike s t) {ts us : List String}
    (h : List.Forall₂ R ts us) :
    OutcomesAlike (Fault.Alike R) (Statement.Alike R) (ofTokens ts) (ofTokens us) := by
  cases h with
  | nil => exact .error .empty
  | @cons leading leading' rest rest' hleading hrest =>
    have hread := Reader.Alike.bind (Grammar.statementFrom_alike hR hleading)
      fun statement statement' hstatement =>
        (Grammar.blind_finish (R := R)).map fun _ _ _ => hstatement
    have hrun := hread ⟨1, rest⟩ ⟨1, rest'⟩ ⟨rfl, hrest⟩
    rw [ofTokens_cons, ofTokens_cons]
    exact (hrun.mapError fun _ _ hfault => hfault).map fun _ _ hstatements => hstatements.1

end SqlFront
