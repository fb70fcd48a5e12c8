import SqlFront.Reduction
import SqlFront.Segment
import SqlFront.Statement.Grammar
import SqlFront.Tree.Encoded

/-!
# SqlFront.Analysis

All stages of one query: tokens, grammar tree and abstract tree.
-/

namespace SqlFront

structure Analysis where
  tokens : List String
  cst : Tree
  ast : Tree
deriving DecidableEq

/-- Cuts a query into tokens and notes what was dropped. -/
def tokenizeLogged (query : String) : Logged (List String) where
  value := tokenize query
  events := (strays query).map .dropped ++ [.tokenized (tokenize query).length]

/-- Reads tokens as one statement. -/
def parseLogged (tokens : List String) : Logged (Except Fault Tree) :=
  let reading := Statement.ofTokensLogged tokens
  ⟨reading.value.map Statement.tree, reading.events⟩

/-- Takes a query through all stages. -/
def analyzeLogged (query : String) : Logged (Except Fault Analysis) :=
  let scanned := tokenizeLogged query
  let analysis :=
    (parseLogged scanned.value).andThen fun cst =>
      cst.toAstLogged.andThen fun ast =>
        .silent (.ok { tokens := scanned.value, cst, ast })
  ⟨analysis.value, scanned.events ++ analysis.events⟩

/-- All stages of a query, or the first fault. -/
def analyze (query : String) : Except Fault Analysis := (analyzeLogged query).value

/-- Without the log, a query is cut, parsed and reduced. -/
theorem analyze_eq (query : String) :
    analyze query = do
      let cst ← parse (tokenize query)
      let ast ← cst.toAst
      return { tokens := tokenize query, cst, ast } := by
  simp only [analyze, analyzeLogged, Logged.value_andThen]
  rfl

namespace Analysis

/-- The analysis as a JSON object. -/
def toJson (analysis : Analysis) : Json :=
  .object
    [("tokens", .array (analysis.tokens.map .text)),
     ("cst", analysis.cst.toJson),
     ("ast", analysis.ast.toJson)]

end Analysis
end SqlFront
