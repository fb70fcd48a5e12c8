import SqlFront.Cli.Args
import SqlFront.Cli.Session

/-!
# SqlFront.Cli.Run

A run of the program as a function of its surroundings.
-/

namespace SqlFront
namespace Cli

/-- What a run finds. -/
structure Surroundings where
  files : Files
  /-- The directory of the user's settings. -/
  configDir : Option String
  /-- The configuration file named outside the command line. -/
  configVariable : Option String
  /-- Colours can be shown. -/
  color : Bool

/-- What there is to do. -/
inductive Plan where
  | reject
  | finish (exitCode : Nat) (output : Output)
  | converse (display : Display) (config : Config) (before : Output)

/-- The settings of a run: the options stand above the file. If one of the stages is asked for,
only those that are asked for are shown. -/
def Options.overlay (options : Options) (config : Config) : Config :=
  let chosen := options.tokens || options.cst || options.ast
  { config with
    format := options.format.getD config.format
    showTokens := if chosen then options.tokens else config.showTokens
    showCst := if chosen then options.cst else config.showCst
    showAst := if chosen then options.ast else config.showAst
    color := if options.noColor then false else config.color }

/-- The settings of a run, from the file that the options or the surroundings name or from the
first candidate. -/
def resolve (surroundings : Surroundings) (options : Options) : Logged (Except Fault Config) :=
  let loaded :=
    Config.load surroundings.files surroundings.configDir
      (options.config <|> surroundings.configVariable)
  ⟨loaded.value.map options.overlay, loaded.events⟩

/-- The paths that a run with these arguments may look at. -/
def pathsFor (configDir configVariable : Option String) (args : List String) : List String :=
  (match Request.ofArgs args with
   | .run options => options.config.toList
   | _ => []) ++ configVariable.toList ++ Config.candidates configDir

/-- A single query. -/
def oneShot (display : Display) (config : Config) (query : String) : Nat × Output :=
  (match analyze query with
    | .ok _ => 0
    | .error _ => 1,
   display.log [.analyzing query] ++ answer display config query)

/-- What the options ask for, under the settings. -/
def perform (display : Display) (config : Config) (options : Options) (before : Output) : Plan :=
  match options.command with
  | some (.explain query) => .finish 0 (before ++ explanation display query)
  | some .keywords => .finish 0 (before ++ .out (vocabularyPage display.color))
  | some .repl => .converse display config before
  | none =>
    match options.query with
    | some query =>
      let (exitCode, output) := oneShot display config query
      .finish exitCode (before ++ output)
    | none => .finish 0 (before ++ .out (usagePage display.color))

/-- A run with these options. A fault of the settings is shown before they can switch colours
off. -/
def runOptions (surroundings : Surroundings) (options : Options) : Plan :=
  if options.config.isNone && surroundings.configVariable == some "" then .reject
  else
    let settings := resolve surroundings options
    let plain : Display := { color := surroundings.color, verbose := options.verbose }
    let before := plain.log settings.events
    match settings.value with
    | .error fault => .finish 1 (before ++ plain.fault "Error:" fault)
    | .ok config =>
      perform { plain with color := surroundings.color && config.color } config options before

/-- What a run with these arguments does. -/
def plan (surroundings : Surroundings) (args : List String) : Plan :=
  match Request.ofArgs args with
  | .reject => .reject
  | .version => .finish 0 (.out versionLine)
  | .help => .finish 0 (.out helpPage)
  | .run options => runOptions surroundings options

/-- A whole run with all its input: the exit code and the output, or nothing if the arguments are
rejected. -/
def run? (surroundings : Surroundings) (args : List String) (input : ByteArray) :
    Option (Nat × Output) :=
  match plan surroundings args with
  | .reject => none
  | .finish exitCode output => some (exitCode, output)
  | .converse display config before =>
    some (0, before ++ Session.run display config (Session.linesOf input))

end Cli
end SqlFront
