import SqlFront.Analysis
import SqlFront.Config
import SqlFront.Text.Style
import SqlFront.Tree.Indented

/-!
# SqlFront.Cli.Page

What is shown to the user, in colour or without.
-/

namespace SqlFront
namespace Cli

open Text (Style)

/-- What is written to the two output streams. -/
structure Output where
  stdout : String := ""
  stderr : String := ""
deriving DecidableEq, Repr

namespace Output

/-- One output after the other. -/
def append (first second : Output) : Output where
  stdout := first.stdout ++ second.stdout
  stderr := first.stderr ++ second.stderr

instance : Append Output := ⟨append⟩

def out (text : String) : Output := { stdout := text }

def err (text : String) : Output := { stderr := text }

end Output

/-- How things are shown: with colours, and with the log. -/
structure Display where
  color : Bool
  verbose : Bool
deriving DecidableEq, Repr

namespace Display

/-- The events of the log that are shown. -/
def log (display : Display) (events : List Event) : Output :=
  if display.verbose then
    .err (String.join ((events.filter fun event => event.level == .debug).map fun event =>
      event.line ++ "\n"))
  else {}

/-- A fault after the word that announces it. -/
def fault (display : Display) (heading : String) (fault : Fault) : Output :=
  .err ((Style.bold .red).paint display.color heading ++ " " ++ fault.message ++ "\n")

end Display

/-! ## Trees -/

/-- What a line of a painted tree shows of its node. The kind of a statement stands alone. -/
def paintedCaption (color : Bool) (label : String) : Option Kind → String
  | some kind =>
    if kind.isStatement then (Style.bold .magenta).paint color ("[" ++ kind.name ++ "]")
    else
      (Style.colored .cyan).paint color ("[" ++ kind.name ++ "]") ++
        if label.isEmpty then "" else " " ++ (Style.bold .white).paint color label
  | none =>
    if Token.isNonTerminal label then Style.dim.paint color label
    else (Style.colored .yellow).paint color label

mutual

/-- The painted lines of a tree whose root has the given depth. -/
def paintedTree (color : Bool) (depth : Nat) : Tree → String
  | ⟨label, kind, children⟩ =>
    Tree.margin depth ++ paintedCaption color label kind ++ "\n" ++
      paintedTrees color (depth + 1) children

def paintedTrees (color : Bool) (depth : Nat) : List Tree → String
  | [] => ""
  | tree :: trees => paintedTree color depth tree ++ paintedTrees color depth trees

end

/-! ## Analyses -/

/-- The stages of an analysis that the settings select, as one object. -/
def selectedStages (config : Config) (analysis : Analysis) : Json :=
  .object
    ((if config.showTokens then [("tokens", .array (analysis.tokens.map .text))] else []) ++
     (if config.showCst then [("cst", analysis.cst.toJson)] else []) ++
     (if config.showAst then [("ast", analysis.ast.toJson)] else []))

/-- A heading and what it is about. -/
def block (color : Bool) (heading body : String) : String :=
  (Style.bold .green).paint color heading ++ "\n" ++ body

/-- The selected stages as text. -/
def textReport (color : Bool) (config : Config) (analysis : Analysis) : String :=
  (if config.showTokens then
    block color "Tokens:"
      (String.join (analysis.tokens.map fun token =>
        "  " ++ (Style.colored .yellow).paint color token ++ "\n"))
   else "") ++
  (if config.showCst then block color "CST:" (paintedTree color 1 analysis.cst) else "") ++
  (if config.showAst then block color "AST:" (paintedTree color 1 analysis.ast) else "")

/-- The selected stages in the chosen format. -/
def report (color : Bool) (config : Config) (analysis : Analysis) : String :=
  match config.format with
  | .text => textReport color config analysis
  | .json => (selectedStages config analysis).sorted.indented 0 ++ "\n"

/-- What a query gives: a report, or its fault. -/
def answer (display : Display) (config : Config) (query : String) : Output :=
  let analysis := analyzeLogged query
  display.log analysis.events ++
    match analysis.value with
    | .ok analysis => .out (report display.color config analysis)
    | .error fault => display.fault "Error:" fault

/-! ## Explanations -/

/-- A token in the colour of its class. -/
def paintedToken (color : Bool) (token : String) : String :=
  if Token.isKeyword token then (Style.colored .cyan).paint color token
  else if Token.isSymbol token then Style.dim.paint color token
  else (Style.colored .white).paint color token

/-- A heading with the number of nodes of the tree below it, and the tree. -/
def treeBlock (color : Bool) (heading : String) (tree : Tree) : String :=
  (Style.bold .green).paint color heading ++ " " ++
    Style.dim.paint color ("(" ++ Nat.repr tree.size ++ " nodes)") ++ "\n" ++
    paintedTree color 1 tree

/-- The stages of an analysis one by one. -/
def walkthrough (color : Bool) (analysis : Analysis) : String :=
  block color "1. Tokens"
    ("  " ++ String.intercalate " │ " (analysis.tokens.map (paintedToken color)) ++ "\n\n") ++
  treeBlock color "2. Concrete syntax tree" analysis.cst ++ "\n" ++
  treeBlock color "3. Abstract syntax tree" analysis.ast

/-- A query and its stages. -/
def explanation (display : Display) (query : String) : Output :=
  let analysis := analyzeLogged query
  .out ((Style.bold .cyan).paint display.color "tinysql Query Explanation" ++ "\n\n" ++
    Style.dim.paint display.color "Query:" ++ " " ++
    (Style.colored .yellow).paint display.color query ++ "\n\n") ++
  display.log analysis.events ++
    match analysis.value with
    | .ok analysis => .out (walkthrough display.color analysis)
    | .error fault => display.fault "Parse Error:" fault

/-! ## Lists of words -/

/-- The items in rows of the given width. -/
def rowsOf {α : Type} (width : Nat) (items : List α) : List (List α) :=
  (List.range ((items.length + width - 1) / width)).map fun i =>
    (items.drop (width * i)).take width

/-- The word with spaces after it, up to the width of a column. -/
def cell (word : String) : String :=
  word ++ String.ofList (List.replicate (10 - word.length) ' ')

/-- A heading above a line. -/
def ruled (color : Bool) (heading : String) : String :=
  (Style.bold .white).paint color heading ++ "\n" ++
    Style.dim.paint color (String.ofList (List.replicate 60 '─')) ++ "\n"

/-- The words in rows of six. -/
def wordTable (color : Bool) (style : Style) (words : List String) : String :=
  String.join ((rowsOf 6 words).map fun row =>
    style.paint color (String.intercalate " " (row.map cell)) ++ "\n")

/-- The words and signs of the language. -/
def vocabularyPage (color : Bool) : String :=
  (Style.bold .cyan).paint color "tinysql Reserved Words" ++ "\n\n" ++
  ruled color "Keywords" ++ wordTable color (.colored .cyan) Vocabulary.keywords ++ "\n" ++
  ruled color "Data types (not reserved)" ++
    wordTable color (.colored .green) Vocabulary.dataTypes ++ "\n" ++
  ruled color "Symbols" ++
    (Style.colored .yellow).paint color (String.intercalate "  " Vocabulary.symbols) ++ "\n\n" ++
  Style.dim.paint color "Comparison operators:" ++ " " ++
    (Style.colored .white).paint color (String.intercalate " " Vocabulary.comparisonOperators) ++
    "\n"

/-! ## Fixed texts -/

def versionLine : String := "tinysql 0.1.0\n"

/-- What is said when there is nothing to do. -/
def usagePage (color : Bool) : String :=
  (Style.bold .cyan).paint color "tinysql — a tiny SQL front-end" ++ "\n\n" ++
  "Usage: tinysql <QUERY> [OPTIONS]\n\nTry: tinysql --help\n"

def helpPage : String :=
  "Tokenize, parse and transform tiny SQL statements\n\n" ++
  "Usage: tinysql [OPTIONS] [QUERY] [COMMAND]\n\n" ++
  "Commands:\n" ++
  "  explain   Walk through every stage for one statement\n" ++
  "  repl      Interactive REPL mode\n" ++
  "  keywords  Show the reserved keywords, data types and symbols\n\n" ++
  "Options:\n" ++
  "      --tokens           Print the token list\n" ++
  "      --cst              Print the concrete syntax tree\n" ++
  "      --ast              Print the abstract syntax tree\n" ++
  "  -f, --format <FORMAT>  Output format, text or json (overrides the config file)\n" ++
  "  -c, --config <CONFIG>  Config file path\n" ++
  "      --no-color         Disable colored output\n" ++
  "  -v, --verbose          Verbose output (debug logging on stderr)\n" ++
  "  -h, --help             Print help\n" ++
  "  -V, --version          Print version\n"

end Cli
end SqlFront
