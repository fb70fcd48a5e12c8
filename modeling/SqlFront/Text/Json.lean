/-!
# SqlFront.Text.Json

JSON values built from texts, arrays and objects, and two layouts of them: `compact`, without any
white space, and `indented`, with one item to a line and two spaces to a level. Fields are written
in the order in which the object holds them; `sorted` puts them in the order of their keys.
-/

namespace SqlFront

inductive Json where
  | text (value : String)
  | array (items : List Json)
  | object (fields : List (String × Json))

namespace Json

/-- One character of a quoted text. Only the quote, the backslash and the control characters below
U+0020 are escaped. -/
def escape (c : Char) : String :=
  match c with
  | '\x22' => "\\\""
  | '\\' => "\\\\"
  | '\x08' => "\\b"
  | '\t' => "\\t"
  | '\n' => "\\n"
  | '\x0c' => "\\f"
  | '\r' => "\\r"
  | _ =>
    if c.toNat < 0x20 then
      "\\u00" ++ String.ofList [Nat.digitChar (c.toNat / 16), Nat.digitChar (c.toNat % 16)]
    else c.toString

/-- A text between quotes. -/
def quote (text : String) : String :=
  "\"" ++ String.join (text.toList.map escape) ++ "\""

/-! ## Order of fields -/

mutual

/-- The same value with the fields of every object sorted by key. -/
def sorted : Json → Json
  | .text value => .text value
  | .array items => .array (sortedItems items)
  | .object fields => .object ((sortedFields fields).mergeSort fun a b => decide (a.1 ≤ b.1))

def sortedItems : List Json → List Json
  | [] => []
  | item :: items => sorted item :: sortedItems items

def sortedFields : List (String × Json) → List (String × Json)
  | [] => []
  | (key, value) :: fields => (key, sorted value) :: sortedFields fields

end

/-! ## Without white space -/

mutual

def compact : Json → String
  | .text value => quote value
  | .array items => "[" ++ compactItems items ++ "]"
  | .object fields => "\x7b" ++ compactFields fields ++ "\x7d"

def compactItems : List Json → String
  | [] => ""
  | [item] => compact item
  | item :: items => compact item ++ "," ++ compactItems items

def compactFields : List (String × Json) → String
  | [] => ""
  | [(key, value)] => quote key ++ ":" ++ compact value
  | (key, value) :: fields => quote key ++ ":" ++ compact value ++ "," ++ compactFields fields

end

/-! ## One item to a line -/

/-- A new line that starts at the given level. -/
def newLine (level : Nat) : String :=
  "\n" ++ String.ofList (List.replicate (2 * level) ' ')

mutual

/-- The layout of a value that starts on a line of the given level. An empty array or object is
written without a line of its own. -/
def indented (level : Nat) : Json → String
  | .text value => quote value
  | .array [] => "[]"
  | .array items => "[" ++ indentedItems (level + 1) items ++ newLine level ++ "]"
  | .object [] => "\x7b\x7d"
  | .object fields => "\x7b" ++ indentedFields (level + 1) fields ++ newLine level ++ "\x7d"

def indentedItems (level : Nat) : List Json → String
  | [] => ""
  | [item] => newLine level ++ indented level item
  | item :: items => newLine level ++ indented level item ++ "," ++ indentedItems level items

def indentedFields (level : Nat) : List (String × Json) → String
  | [] => ""
  | [(key, value)] => newLine level ++ quote key ++ ": " ++ indented level value
  | (key, value) :: fields =>
    newLine level ++ quote key ++ ": " ++ indented level value ++ "," ++
      indentedFields level fields

end

end Json
end SqlFront
