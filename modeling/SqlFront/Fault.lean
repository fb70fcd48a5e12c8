import SqlFront.Files

/-!
# SqlFront.Fault

Everything that can go wrong, by cause, and the one place where causes are put into words.
-/

namespace SqlFront

inductive Fault where
  /-- There is no token at all. -/
  | empty
  /-- The first token starts no statement. -/
  | unrecognized (token : String)
  /-- Something else was wanted at this place; `found` is absent when the tokens have run out. -/
  | expected (what : String) (found : Option String) (position : Nat)
  /-- A list that needs an element has none. -/
  | missing (element context : String)
  /-- The parts of a condition are not three. -/
  | malformedPredicate (count : Nat)
  /-- The configuration does not make sense. -/
  | config (text : String)
  /-- A file could not be read. -/
  | io (failure : ReadFailure)
deriving DecidableEq, Repr

namespace Fault

/-- What is said to be found, or wanted, after the last token. -/
def endOfInput : String := "end of input"

def message : Fault → String
  | .empty => "nothing to parse: the query is empty"
  | .unrecognized token =>
    "could not determine the query type! must be one of: SELECT, INSERT, CREATE (got '" ++
      token ++ "')"
  | .expected what found position =>
    "expected '" ++ what ++ "' but got '" ++ found.getD endOfInput ++ "' (token " ++
      Nat.repr position ++ ")"
  | .missing element context => "missing at least one " ++ element ++ " " ++ context ++ "!"
  | .malformedPredicate count =>
    "where clause must reduce to exactly 3 parts (left operand, operator, right operand), found " ++
      Nat.repr count
  | .config text => "Configuration error: " ++ text
  | .io failure => "IO error: " ++ failure.message

end Fault

/-- Two outcomes are compared by what they hold. -/
instance decideOutcomeEq {α : Type} [DecidableEq α] : DecidableEq (Except Fault α)
  | .ok a, .ok b => decidable_of_iff (a = b) (by simp)
  | .error e, .error f => decidable_of_iff (e = f) (by simp)
  | .ok _, .error _ => isFalse nofun
  | .error _, .ok _ => isFalse nofun

end SqlFront
