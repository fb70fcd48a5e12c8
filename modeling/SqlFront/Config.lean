import SqlFront.Event
import SqlFront.Toml.Document

/-!
# SqlFront.Config

The settings of the program and where they come from: a file that the user names, else the file
`tinysql.toml` in the working directory, else the user's own file, else the defaults. Only one file
is ever read; a file that is there but cannot be used is a fault.
-/

namespace SqlFront

inductive OutputFormat where
  | text | json
deriving DecidableEq, Repr

namespace OutputFormat

def name : OutputFormat → String
  | .text => "text"
  | .json => "json"

def ofName? : String → Option OutputFormat
  | "text" => some .text
  | "json" => some .json
  | _ => none

end OutputFormat

structure Config where
  format : OutputFormat := .text
  showTokens : Bool := true
  showCst : Bool := true
  showAst : Bool := true
  color : Bool := true
  historyFile : Option String := none
deriving DecidableEq, Repr

namespace Config

/-! ## From a text -/

/-- An array or a table without content. -/
def isEmptyValue : Toml.Value → Bool
  | .array items => items.isEmpty
  | .table _ entries => entries.isEmpty
  | .tables items => items.isEmpty
  | _ => false

/-- A format is its name, or a table with its name as the only key and nothing below it. -/
def formatOf? : Toml.Value → Option OutputFormat
  | .text name => OutputFormat.ofName? name
  | .table _ [(name, value)] => if isEmptyValue value then OutputFormat.ofName? name else none
  | _ => none

def booleanOf? : Toml.Value → Option Bool
  | .boolean b => some b
  | _ => none

def textOf? : Toml.Value → Option String
  | .text s => some s
  | _ => none

/-- The value of a key, or the default if the key is absent. -/
def setting {α : Type} (entries : Toml.Entries) (key wanted : String)
    (decode : Toml.Value → Option α) (default : α) : Except Toml.Problem α :=
  match entries.lookup key with
  | none => .ok default
  | some value =>
    match decode value with
    | some a => .ok a
    | none => .error (.wrongValue key wanted)

/-- The settings that the entries give. Keys that are no settings are passed over. -/
def ofEntries (entries : Toml.Entries) : Except Toml.Problem Config := do
  let format ← setting entries "format" "text or json" formatOf? .text
  let showTokens ← setting entries "show_tokens" "true or false" booleanOf? true
  let showCst ← setting entries "show_cst" "true or false" booleanOf? true
  let showAst ← setting entries "show_ast" "true or false" booleanOf? true
  let color ← setting entries "color" "true or false" booleanOf? true
  let historyFile ← setting entries "history_file" "a path" (fun v => (textOf? v).map some) none
  return { format, showTokens, showCst, showAst, color, historyFile }

/-- The settings that a text gives. -/
def ofText (text : String) : Except Fault Config :=
  match Toml.read text >>= ofEntries with
  | .ok config => .ok config
  | .error problem => .error (.config problem.message)

/-! ## From a file -/

/-- The settings in a file, which must be there. A fault of the text names the file. -/
def ofFile (files : Files) (path : String) : Except Fault Config :=
  match files.readText path with
  | .error failure => .error (.io failure)
  | .ok text =>
    match ofText text with
    | .ok config => .ok config
    | .error fault => .error (.config (path ++ ": " ++ fault.message))

/-- The file in the working directory. -/
def localFile : String := "tinysql.toml"

/-- A path below a directory. -/
def below (directory path : String) : String :=
  if directory.isEmpty || directory.endsWith "/" then directory ++ path
  else directory ++ "/" ++ path

/-- The files to look for when the user names none, in order. -/
def candidates (configDir : Option String) : List String :=
  localFile :: (configDir.map fun directory => below directory "tinysql/config.toml").toList

/-- The settings for a run: of the file that the user names, else of the first candidate that is
there, else the defaults. -/
def load (files : Files) (configDir named : Option String) : Logged (Except Fault Config) :=
  match named with
  | some path => .silent (ofFile files path)
  | none =>
    match (candidates configDir).find? files.holds with
    | some path => ⟨ofFile files path, [.loadingConfig path]⟩
    | none => .silent (.ok {})

/-- Where lines typed in a session are kept. -/
def historyPath (config : Config) (home : Option String) : String :=
  match config.historyFile, home with
  | some path, _ => path
  | none, some home => below home ".tinysql_history"
  | none, none => ""

end Config
end SqlFront
