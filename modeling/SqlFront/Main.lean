import SqlFront.Cli.Run

/-!
# SqlFront.Main

The program: collects what a run needs to know and carries out its plan.
-/

namespace SqlFront
namespace Program

open Cli

/-- The number of a system error, which may be given with its sign turned. -/
def systemCode (code : UInt32) : Nat :=
  if code.toNat < 0x80000000 then code.toNat else 0x100000000 - code.toNat

/-- Why a path could not be read. -/
def failureOf : IO.Error → ReadFailure
  | .noFileOrDirectory .. => .notFound
  | .inappropriateType _ code text =>
    match systemCode code with
    | 20 => .notDirectory
    | 21 => .isDirectory
    | _ => .other text
  | .permissionDenied _ code _ =>
    .other ("Permission denied (os error " ++ Nat.repr (systemCode code) ++ ")")
  | e => .other (toString e)

/-- What is at a path. -/
def fetch (path : String) : IO (Except ReadFailure ByteArray) := do
  if path.isEmpty then return .error .notFound
  try return .ok (← IO.FS.readBinFile path)
  catch e => return .error (failureOf e)

/-- An environment variable that is set to something. -/
def setting? (name : String) : IO (Option String) := do
  return (← IO.getEnv name).filter fun value => !value.isEmpty

/-- Colours are shown if they are forced, or else on a terminal unless they are unwanted. -/
def wantsColor : IO Bool := do
  if ((← IO.getEnv "CLICOLOR_FORCE").getD "0") != "0" then return true
  if (← IO.getEnv "NO_COLOR").isSome then return false
  if ((← IO.getEnv "CLICOLOR").getD "1") == "0" then return false
  (← IO.getStdout).isTty

/-- The directory of the user's settings. -/
def findConfigDir (home : Option String) : IO (Option String) := do
  match (← setting? "XDG_CONFIG_HOME").filter fun path => path.startsWith "/" with
  | some path => return some path
  | none => return home.map fun directory => Config.below directory ".config"

def emit (output : Output) : IO Unit := do
  IO.print output.stdout
  (← IO.getStdout).flush
  IO.eprint output.stderr

/-- The next line of the input, with a mark on a complete one. -/
partial def readLine (input : IO.FS.Stream) (line : Array UInt8) : IO (List UInt8 × Bool) := do
  match (← input.read 1).data[0]? with
  | none => return (line.toList, false)
  | some b => if b == 10 then return (line.toList, true) else readLine input (line.push b)

/-- The next line of the input, or nothing at its end. -/
def nextLine (input : IO.FS.Stream) : IO (Option (Option String)) := do
  match ← readLine input #[] with
  | ([], false) => return none
  | line => return some (Session.typed? line)

/-- A session, turn by turn. -/
partial def converse (display : Display) (config : Config) (input : IO.FS.Stream) : IO Unit := do
  if ← Session.step display config (nextLine input) emit then converse display config input

end Program
end SqlFront

open SqlFront SqlFront.Cli in
def main (args : List String) : IO UInt32 := do
  let configDir ← Program.findConfigDir (← Program.setting? "HOME")
  let configVariable ← IO.getEnv "TINYSQL_CONFIG"
  let found ← (pathsFor configDir configVariable args).mapM fun path =>
    return (path, ← Program.fetch path)
  let surroundings : Surroundings :=
    { files := Files.ofList found, configDir, configVariable, color := ← Program.wantsColor }
  match plan surroundings args with
  | .reject =>
    IO.eprint "error: these arguments make no sense\n\nFor more information, try '--help'.\n"
    return 2
  | .finish exitCode output =>
    Program.emit output
    return exitCode.toUInt32
  | .converse display config before =>
    Program.emit before
    IO.print (Session.banner display.color)
    Program.converse display config (← IO.getStdin)
    return 0
