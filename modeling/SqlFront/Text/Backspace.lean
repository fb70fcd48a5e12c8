import SqlFront.Text.Cluster

/-!
# SqlFront.Text.Backspace

Typed text with backspaces in it. A backspace takes back what was typed last: a letter goes with its
marks, a flag with both its letters. What belongs together is settled by the text as it was typed,
so a mark typed after a backspace is a cluster of its own.
-/

namespace SqlFront
namespace Text

/-- The typed text so far. -/
structure Typed where
  /-- The characters, the last one first. -/
  text : List Char := []
  /-- The sizes in bytes of the clusters, the last one first. A size is kept in one byte: of a
  cluster of 256 bytes or more only a part is taken back. -/
  sizes : List UInt8 := []
deriving DecidableEq, Repr

namespace Typed

/-- The size of a text in UTF-8. -/
def byteSize : List Char → Nat
  | [] => 0
  | c :: cs => c.utf8Size + byteSize cs

/-- Leaves out characters from the start until their bytes reach the given number. -/
def dropBytes : Nat → List Char → List Char
  | 0, cs => cs
  | _ + 1, [] => []
  | n + 1, c :: cs => dropBytes (n + 1 - c.utf8Size) cs

def push (typed : Typed) (cluster : List Char) : Typed :=
  { text := cluster.reverse ++ typed.text, sizes := (byteSize cluster).toUInt8 :: typed.sizes }

/-- Takes back the last cluster. -/
def takeBack (typed : Typed) : Typed :=
  match typed.sizes with
  | [] => typed
  | size :: sizes => { text := dropBytes size.toNat typed.text, sizes }

/-- One more cluster: a backspace or some text. -/
def enter (typed : Typed) (cluster : List Char) : Typed :=
  if cluster = ['\x08'] then typed.takeBack else typed.push cluster

end Typed

/-- What is left of a text that may hold backspaces. -/
def applyBackspaces (cs : List Char) : List Char :=
  ((clusters cs).foldl Typed.enter {}).text.reverse

end Text
end SqlFront
