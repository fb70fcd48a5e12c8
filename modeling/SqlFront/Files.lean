/-!
# SqlFront.Files

What the program sees of the file system: which paths hold something, and what reading a path
gives.
-/

namespace SqlFront

/-- Why a file could not be read as text. -/
inductive ReadFailure where
  | notFound
  | notDirectory
  | isDirectory
  | notText
  | badPath
  /-- Any other reason, in the words of the system. -/
  | other (text : String)
deriving DecidableEq, Repr

def ReadFailure.message : ReadFailure → String
  | .notFound => "No such file or directory (os error 2)"
  | .notDirectory => "Not a directory (os error 20)"
  | .isDirectory => "Is a directory (os error 21)"
  | .notText => "stream did not contain valid UTF-8"
  | .badPath => "file name contained an unexpected NUL byte"
  | .other text => text

/-- A view of the file system by path. -/
structure Files where
  /-- Something is there, a file or a directory. -/
  holds : String → Bool
  /-- The bytes of the file. -/
  read : String → Except ReadFailure ByteArray

namespace Files

/-- The file as text. -/
def readText (files : Files) (path : String) : Except ReadFailure String :=
  match files.read path with
  | .error failure => .error failure
  | .ok bytes =>
    match String.fromUTF8? bytes with
    | some text => .ok text
    | none => .error .notText

/-- The view of paths that were looked at before. -/
def ofList (found : List (String × Except ReadFailure ByteArray)) : Files where
  holds path :=
    match found.lookup path with
    | some (.error .notFound) | some (.error .notDirectory) | none => false
    | _ => true
  read path := (found.lookup path).getD (.error .notFound)

end Files
end SqlFront
