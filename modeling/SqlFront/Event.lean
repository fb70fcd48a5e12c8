import SqlFront.Fault
import SqlFront.Kind
import SqlFront.Text.Quoted

/-!
# SqlFront.Event

The log: what happens on the way from a query to its trees, event by event, and a value together
with the events that led to it.
-/

namespace SqlFront

inductive Event where
  | dropped (c : Char)
  | tokenized (count : Nat)
  | parsing (statement : String) (tokens : Nat)
  | ruleFailed (expected : String) (found : Option String) (position : Nat)
  | trailing (found : Option String) (position : Nat)
  | parseFailed (fault : Fault)
  | builtAst (kind : Kind) (children : Nat)
  | loadingConfig (path : String)
  | analyzing (query : String)
deriving DecidableEq, Repr

namespace Event

/-- Events of the level `trace` are too many for a reader who only wants to see the outline. -/
inductive Level where
  | trace | debug
deriving DecidableEq, Repr

def Level.name : Level → String
  | .trace => "TRACE"
  | .debug => "DEBUG"

def level : Event → Level
  | .dropped _ | .tokenized _ | .ruleFailed .. | .trailing .. => .trace
  | .parsing .. | .parseFailed _ | .builtAst .. | .loadingConfig _ | .analyzing _ => .debug

/-- A token that may be absent. -/
def shownToken : Option String → String
  | some token => "Some(" ++ Text.quoted token ++ ")"
  | none => "None"

/-- The message of the event and its fields. -/
def text : Event → String
  | .dropped c => "dropping unrecognized character skipped=Some(" ++ Text.quotedChar c ++ ")"
  | .tokenized count => "tokenized input count=" ++ Nat.repr count
  | .parsing statement tokens =>
    "parsing statement statement=" ++ Text.quoted statement ++ " tokens=" ++ Nat.repr tokens
  | .ruleFailed expected found position =>
    "rule failed expected=" ++ Text.quoted expected ++ " found=" ++ shownToken found ++
      " position=" ++ Nat.repr position
  | .trailing found position =>
    "trailing tokens after statement found=" ++ shownToken found ++ " position=" ++
      Nat.repr position
  | .parseFailed fault => "parse failed error=" ++ fault.message
  | .builtAst kind children => "built AST kind=" ++ kind.name ++ " children=" ++ Nat.repr children
  | .loadingConfig path => "loading config path=" ++ path
  | .analyzing query => "analyzing query=" ++ Text.quoted query

/-- The line of the event in the log. -/
def line (event : Event) : String := event.level.name ++ " " ++ event.text

end Event

/-- A value and the events on the way to it, in order. -/
structure Logged (α : Type) where
  value : α
  events : List Event

namespace Logged

variable {α β ε : Type}

/-- A value that nothing led to. -/
def silent (value : α) : Logged α := ⟨value, []⟩

/-- Goes on from a value, unless it is a failure. -/
def andThen (first : Logged (Except ε α)) (next : α → Logged (Except ε β)) :
    Logged (Except ε β) :=
  match first.value with
  | .error e => ⟨.error e, first.events⟩
  | .ok a => ⟨(next a).value, first.events ++ (next a).events⟩

theorem value_andThen (first : Logged (Except ε α)) (next : α → Logged (Except ε β)) :
    (first.andThen next).value = first.value >>= fun a => (next a).value := by
  unfold andThen
  cases first.value <;> rfl

end Logged
end SqlFront
