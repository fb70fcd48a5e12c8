/-!
# SqlFront.Toml.Value

The values of a TOML document, and what can be wrong with a document.
-/

namespace SqlFront
namespace Toml

/-- How a table came into the document. It decides what may still be added to the table. -/
inductive Form where
  /-- It has a header of its own. -/
  | headed
  /-- It was named on the way to a table with a longer header. -/
  | implied
  /-- It was named on the way to a value with a dotted key. -/
  | dotted
  /-- It was written in braces and is complete. -/
  | closed
deriving DecidableEq, Repr

inductive Value where
  | text (value : String)
  | integer (value : Int)
  /-- A number with a fraction or an exponent, or one that is not finite, as it is written. -/
  | float (written : String)
  | boolean (value : Bool)
  /-- A date, a time, or both, as it is written. -/
  | moment (written : String)
  | array (items : List Value)
  | table (form : Form) (entries : List (String × Value))
  /-- The tables of the headers in double brackets, in order. -/
  | tables (items : List (List (String × Value)))

/-- The entries of a table. No two have the same key. -/
abbrev Entries : Type := List (String × Value)

inductive Problem where
  /-- The text is no TOML from here on. -/
  | unreadable (position : Nat)
  /-- Values or keys are nested too deeply. -/
  | tooDeep (position : Nat)
  /-- The key has a value or a table already. -/
  | redefined (key : String)
  /-- Something is put below a key whose value holds nothing. -/
  | notTable (key : String)
  /-- The value of the key is of the wrong sort. -/
  | wrongValue (key wanted : String)
deriving DecidableEq, Repr

def Problem.message : Problem → String
  | .unreadable position => "TOML parse error at character " ++ Nat.repr position
  | .tooDeep position =>
    "TOML parse error at character " ++ Nat.repr position ++ ": nested too deeply"
  | .redefined key => "TOML parse error: '" ++ key ++ "' is defined twice"
  | .notTable key => "TOML parse error: '" ++ key ++ "' is not a table"
  | .wrongValue key wanted => "TOML parse error: '" ++ key ++ "' must be " ++ wanted

end Toml
end SqlFront
