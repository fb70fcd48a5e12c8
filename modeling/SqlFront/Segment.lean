import SqlFront.Token

/-!
# SqlFront.Segment

The cut of a query into consecutive segments, from left to right and each as long as its sort
allows. Tokens are read off the segments: blanks and strays give none.

`cut_flatten` says that the segments put together are the query: nothing is lost or added.
-/

namespace SqlFront

/-- A piece of a query, with its characters. -/
inductive Segment where
  | blank (run : List Char)
  | literal (text : List Char)
  | symbol (text : List Char)
  | word (text : List Char)
  | number (digits : List Char)
  /-- A character at which nothing else starts. -/
  | stray (c : Char)
deriving DecidableEq, Repr

namespace Segment

def chars : Segment → List Char
  | .blank cs | .literal cs | .symbol cs | .word cs | .number cs => cs
  | .stray c => [c]

/-- The token that the segment stands for. -/
def token? : Segment → Option String
  | .literal cs | .symbol cs | .number cs => some (String.ofList cs)
  | .word cs => some (Token.ofWord (String.ofList cs))
  | .blank _ | .stray _ => none

/-- The character that is dropped here. -/
def stray? : Segment → Option Char
  | .stray c => some c
  | _ => none

/-! ## The first segment -/

/-- A literal whose opening quote is followed by `cs`: it ends with the next quote, or with the
text if there is none. -/
def literalFrom (cs : List Char) : Segment × List Char :=
  let body := cs.takeWhile (· != Token.quote)
  match cs.dropWhile (· != Token.quote) with
  | [] => (.literal (Token.quote :: body), [])
  | close :: rest => (.literal (Token.quote :: body ++ [close]), rest)

/-- The symbol that `c :: cs` starts with, one of two characters before one of one. -/
def symbolFrom? (c : Char) (cs : List Char) : Option (Segment × List Char) :=
  match cs with
  | d :: rest =>
    if Token.isSymbol (String.ofList [c, d]) then some (.symbol [c, d], rest)
    else if Token.isSymbol (String.ofList [c]) then some (.symbol [c], cs)
    else none
  | [] => if Token.isSymbol (String.ofList [c]) then some (.symbol [c], []) else none

/-- The first segment of `c :: cs`, and the characters after it. -/
def first (c : Char) (cs : List Char) : Segment × List Char :=
  if Text.isBlank c then
    (.blank (c :: cs.takeWhile Text.isBlank), cs.dropWhile Text.isBlank)
  else if c = Token.quote then literalFrom cs
  else
    match symbolFrom? c cs with
    | some found => found
    | none =>
      if Token.startsWord c then
        (.word (c :: cs.takeWhile Token.continuesWord), cs.dropWhile Token.continuesWord)
      else if c.isDigit then
        (.number (c :: cs.takeWhile Char.isDigit), cs.dropWhile Char.isDigit)
      else (.stray c, cs)

theorem literalFrom_append (cs : List Char) :
    (literalFrom cs).1.chars ++ (literalFrom cs).2 = Token.quote :: cs := by
  have h := List.takeWhile_append_dropWhile (p := (· != Token.quote)) (l := cs)
  unfold literalFrom
  split
  · rename_i hd; rw [hd, List.append_nil] at h; simp [chars, h]
  · rename_i hd; rw [hd] at h; simp [chars, h]

theorem symbolFrom?_append {c : Char} {cs : List Char} {found : Segment × List Char}
    (h : symbolFrom? c cs = some found) : found.1.chars ++ found.2 = c :: cs := by
  unfold symbolFrom? at h
  split at h <;> split at h
  · cases h; rfl
  · split at h
    · cases h; rfl
    · cases h
  · cases h; rfl
  · cases h

/-- The first segment and the rest are the whole. -/
theorem first_append (c : Char) (cs : List Char) :
    (first c cs).1.chars ++ (first c cs).2 = c :: cs := by
  unfold first
  split
  · simp [chars]
  · split
    · rename_i h; rw [literalFrom_append, h]
    · split
      · rename_i h; exact symbolFrom?_append h
      · split
        · simp [chars]
        · split <;> simp [chars]

theorem literalFrom_chars_ne_nil (cs : List Char) : (literalFrom cs).1.chars ≠ [] := by
  unfold literalFrom
  split <;> simp [chars]

theorem symbolFrom?_chars_ne_nil {c : Char} {cs : List Char} {found : Segment × List Char}
    (h : symbolFrom? c cs = some found) : found.1.chars ≠ [] := by
  unfold symbolFrom? at h
  split at h <;> split at h
  · cases h; simp [chars]
  · split at h
    · cases h; simp [chars]
    · cases h
  · cases h; simp [chars]
  · cases h

/-- No segment is empty. -/
theorem first_chars_ne_nil (c : Char) (cs : List Char) : (first c cs).1.chars ≠ [] := by
  unfold first
  split
  · simp [chars]
  · split
    · exact literalFrom_chars_ne_nil cs
    · split
      · rename_i h; exact symbolFrom?_chars_ne_nil h
      · split
        · simp [chars]
        · split <;> simp [chars]

theorem first_rest_length (c : Char) (cs : List Char) : (first c cs).2.length ≤ cs.length := by
  have happend := congrArg List.length (first_append c cs)
  have hpos := List.length_pos_iff.mpr (first_chars_ne_nil c cs)
  simp only [List.length_append, List.length_cons] at happend
  omega

/-! ## The whole cut -/

/-- The segments of a text. -/
def cut : List Char → List Segment
  | [] => []
  | c :: cs => (first c cs).1 :: cut (first c cs).2
termination_by cs => cs.length
decreasing_by
  have := first_rest_length c cs
  simp only [List.length_cons]
  omega

theorem cut_flatten (cs : List Char) : ((cut cs).map chars).flatten = cs := by
  fun_induction cut cs with
  | case1 => rfl
  | case2 c cs ih => rw [List.map_cons, List.flatten_cons, ih, first_append]

end Segment

/-- The tokens of a query, in order. -/
def tokenize (query : String) : List String :=
  (Segment.cut query.toList).filterMap Segment.token?

/-- The characters of a query that are part of no token and are not blank either, in order. -/
def strays (query : String) : List Char :=
  (Segment.cut query.toList).filterMap Segment.stray?

end SqlFront
