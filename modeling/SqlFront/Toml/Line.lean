import SqlFront.Reader
import SqlFront.Toml.Scalar
import SqlFront.Toml.Table

/-!
# SqlFront.Toml.Line

A TOML document as the list of what its lines say: keys with their values, and headers. What the
lines mean together is not looked at here.
-/

namespace SqlFront
namespace Toml

/-- What a line of a document says. -/
inductive Line where
  /-- The table `parents` has an entry. -/
  | entry (parents : List String) (key : String) (value : Value)
  /-- The entries that follow belong to the table of this name. -/
  | header (parents : List String) (key : String)
  /-- The entries that follow belong to a new table in the array of this name. -/
  | arrayHeader (parents : List String) (key : String)

namespace Line

/-- A reader of characters. -/
abbrev Scan (α : Type) : Type := Reader Char Problem α

/-! ## Characters -/

def unreadable (c : Cursor Char) : Problem := .unreadable c.position

def stop {α : Type} : Scan α := .fail unreadable

/-- The next character, which must be there. -/
def next : Scan Char := do
  let c ← .accept (fun _ => true) unreadable
  return c.val

/-- The next character, which must be this one. -/
def char (wanted : Char) : Scan Unit := do
  let _ ← .accept (· == wanted) unreadable

/-- Exactly `count` characters of the class. -/
def exactly (test : Char → Bool) : Nat → Scan (List Char)
  | 0 => return []
  | count + 1 => do
    let c ← .accept test unreadable
    let cs ← exactly test count
    return c.val :: cs

def isSpace (c : Char) : Bool := c == ' ' || c == '\t'

/-- A character that may stand in a comment. -/
def isPlain (c : Char) : Bool := c == '\t' || (0x20 ≤ c.toNat && c.toNat != 0x7F)

/-- Spaces and tabs. -/
def spaces : Scan Unit := do
  let _ ← .takeWhile isSpace

/-- The rest of a line end that starts with `c`. -/
def lineEndFrom (c : Char) : Scan Unit :=
  if c == '\n' then return ()
  else if c == '\r' then char '\n'
  else stop

/-- The end of a line or of the text. -/
def lineEnd : Scan Unit := do
  match ← Reader.peek? with
  | none => return ()
  | some _ => lineEndFrom (← next)

/-- The rest of a line of which everything was said: at most a comment. -/
def endOfLine : Scan Unit := do
  spaces
  if (← Reader.peek?) == some '#' then
    let _ ← .takeWhile isPlain
    lineEnd
  else lineEnd

/-! ## Texts in quotes -/

def quotation : Char := '\x22'
def apostrophe : Char := '\x27'

/-- The character with the number that the digits spell. -/
def numbered (digits : List Char) : Scan Char :=
  let point := numberOf 16 digits
  if point.isValidChar then return Char.ofNat point else stop

/-- The character that the escape after a backslash stands for. -/
def escape (c : Char) : Scan Char :=
  match c with
  | 'b' => return '\x08'
  | 't' => return '\t'
  | 'n' => return '\n'
  | 'f' => return '\x0c'
  | 'r' => return '\r'
  | '\\' => return '\\'
  | '\x22' => return '\x22'
  | 'u' => do numbered (← exactly isHexDigit 4)
  | 'U' => do numbered (← exactly isHexDigit 8)
  | _ => stop

/-- The rest of a one-line text with escapes, whose opening quote was read. -/
def basicText : Scan String := do
  let body ← .loop (·.head? != some quotation) fun c =>
    if c == '\\' then do escape (← next)
    else if isPlain c then return c
    else stop
  char quotation
  return String.ofList body

/-- The rest of a one-line text without escapes. -/
def literalText : Scan String := do
  let body ← .takeWhile fun c => isPlain c && c != apostrophe
  char apostrophe
  return String.ofList body

/-- A line end directly after the opening quotes does not belong to the text. -/
def firstLineEnd : Scan Unit := do
  match ← Reader.ahead with
  | '\n' :: _ => char '\n'
  | '\r' :: '\n' :: _ => lineEndFrom (← next)
  | _ => return ()

/-- The rest of a text of several lines, whose opening quotes were read. `escaped` reads on after
a backslash. Up to two quotes may stand before the closing ones. -/
def longText (quote : Char) (escaped : Scan (List Char)) : Scan String := do
  firstLineEnd
  let body ← .loop (fun rest => rest.take 3 != [quote, quote, quote]) fun c =>
    if c == '\\' then escaped
    else if c == '\n' || c == '\r' then do
      lineEndFrom c
      return ['\n']
    else if isPlain c then return [c]
    else stop
  let quotes ← .takeWhile (· == quote)
  if 3 ≤ quotes.length && quotes.length ≤ 5 then
    return String.ofList (body.flatten ++ quotes.drop 3)
  else stop

/-- After a backslash at the end of a line, all blanks up to the next text are passed over. -/
def continuation : Scan (List Char) := do
  spaces
  lineEndFrom (← next)
  let _ ← .loop (fun rest => rest.head?.any fun c => isSpace c || c == '\n' || c == '\r') fun c =>
    if isSpace c then return () else lineEndFrom c
  return []

/-- What follows a backslash in a text of several lines. -/
def longEscape : Scan (List Char) := do
  match ← Reader.peek? with
  | some c =>
    if isSpace c || c == '\n' || c == '\r' then continuation
    else
      let c ← escape (← next)
      return [c]
  | none => stop

/-- The rest of a text that starts with a quotation mark. -/
def quotationValue : Scan String := do
  match ← Reader.ahead with
  | '\x22' :: '\x22' :: _ =>
    char quotation
    char quotation
    longText quotation longEscape
  | _ => basicText

/-- The rest of a text that starts with an apostrophe. -/
def apostropheValue : Scan String := do
  match ← Reader.ahead with
  | '\x27' :: '\x27' :: _ =>
    char apostrophe
    char apostrophe
    longText apostrophe (return ['\\'])
  | _ => literalText

/-! ## Keys -/

def isBareKey (c : Char) : Bool := c.isAlphanum || c == '-' || c == '_'

/-- The rest of a part of a key that starts with `c`. -/
def keyPartFrom (c : Char) : Scan String :=
  if c == quotation then basicText
  else if c == apostrophe then literalText
  else if isBareKey c then do
    let cs ← .takeWhile isBareKey
    return String.ofList (c :: cs)
  else stop

/-- How many parts a key may have, and how many values may be nested, plus one. -/
def depthLimit : Nat := 80

/-- The rest of a dotted key that starts with `c`: the parts before the last, and the last. -/
def keyFrom (c : Char) : Scan (List String × String) := do
  let first ← keyPartFrom c
  spaces
  let others ← .loop (·.head? == some '.') fun _ => do
    spaces
    let part ← keyPartFrom (← next)
    spaces
    return part
  if depthLimit ≤ others.length + 1 then .fail fun c => .tooDeep c.position
  else return ((first :: others).dropLast, others.getLastD first)

/-! ## Values -/

/-- Blanks, line ends and comments. -/
def gap : Scan Unit := do
  let _ ← .loop
    (fun rest => rest.head?.any fun c => isSpace c || c == '\n' || c == '\r' || c == '#') fun c =>
    if isSpace c then return ()
    else if c == '#' then do
      let _ ← .takeWhile isPlain
      lineEndFrom (← next)
    else lineEndFrom c

/-- The rest of an array, whose elements are read by `value` from their first character on. A comma
may follow the last one. -/
def arrayFrom (value : Char → Scan Value) : Scan Value := do
  let element : Scan (Option Value) := do
    gap
    if (← Reader.peek?) == some ']' then return none
    else
      let v ← value (← next)
      gap
      return some v
  match ← element with
  | none =>
    char ']'
    return .array []
  | some first =>
    let others ← .loop (·.head? == some ',') fun _ => element
    char ']'
    return .array (first :: others.filterMap id)

/-- The rest of an entry whose key starts with `c`. -/
def entryFrom (value : Char → Scan Value) (c : Char) :
    Scan ((List String × String) × Value) := do
  let key ← keyFrom c
  char '='
  spaces
  let v ← value (← next)
  return (key, v)

/-- The rest of a table in braces. -/
def bracesFrom (value : Char → Scan Value) : Scan Value := do
  spaces
  if (← Reader.peek?) == some '\x7d' then
    char '\x7d'
    return .table .closed []
  else
    let entry : Scan ((List String × String) × Value) := do
      let found ← entryFrom value (← next)
      spaces
      return found
    let first ← entry
    let others ← .loop (·.head? == some ',') fun _ => do
      spaces
      entry
    char '\x7d'
    match (first :: others).foldlM (fun entries e => Entries.assign e.1.1 e.1.2 e.2 entries) [] with
    | .ok entries => return .table .closed entries
    | .error problem => .fail fun _ => problem

/-- A time after a date, with a space between them, if there is one. -/
def timeAfter (run : List Char) : Scan (List Char) := do
  match ← Reader.ahead with
  | ' ' :: d :: _ =>
    if isDate run && d.isDigit then
      char ' '
      let time ← .takeWhile isBareValue
      return ' ' :: time
    else return []
  | _ => return []

/-- The rest of a value that is a bare run. -/
def bareFrom (c : Char) : Scan Value := do
  let run ← .takeWhile isBareValue
  let time ← timeAfter (c :: run)
  match scalar? (c :: run ++ time) with
  | some value => return value
  | none => stop

/-- The rest of a value that holds no other. -/
def simpleFrom (c : Char) : Scan Value :=
  if c == quotation then do return .text (← quotationValue)
  else if c == apostrophe then do return .text (← apostropheValue)
  else if isBareValue c then bareFrom c
  else stop

/-- The rest of a value that starts with `c` and nests less than `depth` deep. -/
def valueFrom : Nat → Char → Scan Value
  | 0, c => if c == '[' || c == '\x7b' then .fail fun c => .tooDeep c.position else simpleFrom c
  | depth + 1, c =>
    if c == '[' then arrayFrom (valueFrom depth)
    else if c == '\x7b' then bracesFrom (valueFrom depth)
    else simpleFrom c

/-! ## Lines -/

/-- The rest of a header whose first bracket was read. -/
def headerFrom : Scan Line := do
  if (← Reader.peek?) == some '[' then
    char '['
    spaces
    let (parents, key) ← keyFrom (← next)
    char ']'
    char ']'
    return .arrayHeader parents key
  else
    spaces
    let (parents, key) ← keyFrom (← next)
    char ']'
    return .header parents key

/-- Reads on from the first character of a line, or of what is left of one. -/
def lineFrom (c : Char) : Scan (Option Line) :=
  if isSpace c then return none
  else if c == '\n' || c == '\r' then do
    lineEndFrom c
    return none
  else if c == '#' then do
    let _ ← .takeWhile isPlain
    lineEnd
    return none
  else if c == '[' then do
    let line ← headerFrom
    endOfLine
    return some line
  else do
    let ((parents, key), value) ← entryFrom (valueFrom (depthLimit - 1)) c
    endOfLine
    return some (.entry parents key value)

/-- The characters without the mark that may stand before them all. -/
def withoutMark : List Char → List Char
  | '\ufeff' :: cs => cs
  | cs => cs

/-- What the lines of a text say. -/
def ofText (text : String) : Except Problem (List Line) :=
  match (Reader.loop (fun _ => true) lineFrom).run ⟨0, withoutMark text.toList⟩ with
  | .ok (lines, _) => .ok (lines.filterMap id)
  | .error problem => .error problem

end Line
end Toml
end SqlFront
