import SqlFront.Cli.Page
import SqlFront.Text.Backspace

/-!
# SqlFront.Cli.Session

The interactive session: one line, one answer. What a line gives depends on this line and the
settings only.
-/

namespace SqlFront
namespace Cli

open Text (Style)

namespace Session

/-! ## Lines -/

/-- The bytes by line, with a mark on those that end with a line feed, which is left out. Nothing
after the last line feed is no line. -/
def splitLines : List UInt8 → List (List UInt8 × Bool)
  | [] => []
  | b :: bytes =>
    if b == 10 then ([], true) :: splitLines bytes
    else
      match splitLines bytes with
      | [] => [([b], false)]
      | (line, ended) :: lines => (b :: line, ended) :: lines

/-- A line as it was typed, or nothing if it is no text. A carriage return before the line feed
belongs to the end of the line. -/
def typed? (line : List UInt8 × Bool) : Option String :=
  (String.fromUTF8? ⟨line.1.toArray⟩).map fun text =>
    let cs := text.toList
    let cs := if line.2 && cs.getLast? == some '\r' then cs.dropLast else cs
    String.ofList (Text.applyBackspaces cs)

/-- The lines of an input. -/
def linesOf (input : ByteArray) : List (Option String) :=
  (splitLines input.data.toList).map typed?

/-! ## Answers -/

/-- What a line asks for. -/
inductive Ask where
  | nothing
  | leave
  | help
  | clear
  | query (text : String)
deriving DecidableEq, Repr

/-- Blanks around a line do not matter. -/
def Ask.ofLine (line : String) : Ask :=
  match String.ofList (Text.trim line.toList) with
  | "" => .nothing
  | ".exit" | ".quit" | "exit" | "quit" => .leave
  | ".help" | "help" => .help
  | ".clear" | "clear" => .clear
  | text => .query text

def banner (color : Bool) : String :=
  (Style.bold .cyan).paint color "tinysql REPL — Interactive Mode" ++ "\n" ++
  Style.dim.paint color "Type a statement to see its trees. Commands:" ++ "\n" ++
  "  " ++ (Style.colored .yellow).paint color ".exit" ++ "  - Exit the REPL\n" ++
  "  " ++ (Style.colored .yellow).paint color ".help" ++ "  - Show this help\n" ++
  "  " ++ (Style.colored .yellow).paint color ".clear" ++ " - Clear screen\n\n"

def prompt (color : Bool) : String := (Style.bold .cyan).paint color "tinysql> "

def goodbye (color : Bool) : String := (Style.colored .green).paint color "Goodbye!" ++ "\n"

def helpText (color : Bool) : String :=
  (Style.bold .white).paint color "Statements:" ++ "\n" ++
  "  SELECT a, b FROM t [WHERE x = y];\n" ++
  "  INSERT INTO t (a, b) VALUES (1, 'x');\n" ++
  "  CREATE TABLE t (a INT, b VARCHAR(255));\n" ++
  (Style.bold .white).paint color "Commands:" ++ "\n" ++
  "  .exit  .help  .clear\n"

/-- The sequence that empties the screen. -/
def clearScreen : String := "\x1b[2J\x1b[1;1H"

/-- What is said about a line that is no text. -/
def unreadable (color : Bool) : Output :=
  .err ((Style.colored .red).paint color "Error:" ++ " " ++ ReadFailure.notText.message ++ "\n")

/-- The answer to a line that does not end the session. -/
def reply (display : Display) (config : Config) : Ask → Output
  | .nothing | .leave => {}
  | .help => .out (helpText display.color)
  | .clear => .out clearScreen
  | .query text => answer display config text

/-! ## Turns -/

/-- What is written in answer to a line, and whether the session goes on after it. -/
structure Turn where
  output : Output
  goesOn : Bool
deriving DecidableEq, Repr

variable (display : Display) (config : Config)

/-- The answer to the next line. Where the input ends, `none`, leave is taken as if the user had
asked for it; a line that is no text, `some none`, ends the session without a farewell. -/
def turn : Option (Option String) → Turn
  | none => ⟨.out (goodbye display.color), false⟩
  | some none => ⟨unreadable display.color, false⟩
  | some (some line) =>
    match Ask.ofLine line with
    | .leave => ⟨.out (goodbye display.color), false⟩
    | ask => ⟨reply display config ask, true⟩

/-- One turn at a terminal: a prompt, the next line, the answer. Tells whether the session goes
on. -/
def step {m : Type → Type} [Monad m] (next : m (Option (Option String)))
    (write : Output → m Unit) : m Bool := do
  write (.out (prompt display.color))
  let turn := turn display config (← next)
  write turn.output
  return turn.goesOn

/-! ## The whole session -/

/-- The session from a line on: a prompt and an answer to each line, until one ends the session or
the input does. -/
def converse : List (Option String) → Output
  | [] => .out (prompt display.color) ++ (turn display config none).output
  | line :: lines =>
    let turn := turn display config (some line)
    .out (prompt display.color) ++ turn.output ++ if turn.goesOn then converse lines else {}

/-- The session with all its input. -/
def run (lines : List (Option String)) : Output :=
  .out (banner display.color) ++ converse display config lines

end Session
end Cli
end SqlFront
