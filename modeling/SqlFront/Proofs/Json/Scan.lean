import SqlFront.Text.Json
import SqlFront.Toml.Scalar

/-!
# SqlFront.Proofs.Json.Scan

JSON texts as lists of tokens.

White space outside of texts says nothing, so both layouts of a value are the same list of tokens.
What a text is like inside does not matter either: a quote, a backslash or a line break of its own
is written as an escape, and the scanner undoes it.

* `Spells`: what a piece of a layout says, whatever follows it.
* `spells_quote`: a text between quotes, by one lemma on escapes.
* `spells_compact`, `spells_indented`: both layouts, by induction on the value.
-/

namespace SqlFront
namespace Json

/-! ## The scanner -/

/-- A mark of punctuation, or a text that stood between quotes. -/
inductive Token where
  | mark (c : Char)
  | text (value : String)
deriving DecidableEq

def isBlank (c : Char) : Bool := c == ' ' || c == '\t' || c == '\n' || c == '\r'

def isMark (c : Char) : Bool := ['[', ']', '\x7b', '\x7d', ',', ':'].contains c

/-- The character that a backslash and a letter stand for. -/
def unescape? : Char → Option Char
  | '\x22' => some '\x22'
  | '\\' => some '\\'
  | '/' => some '/'
  | 'b' => some '\x08'
  | 'f' => some '\x0c'
  | 'n' => some '\n'
  | 'r' => some '\r'
  | 't' => some '\t'
  | _ => none

/-- The character with this number in hexadecimal digits. The halves of a pair of surrogates are
no characters. -/
def charOf? (digits : List Char) : Option Char :=
  let number := Toml.numberOf 16 digits
  if digits.all Toml.isHexDigit && number.isValidChar then some (Char.ofNat number) else none

mutual

/-- The tokens of a text, unless it has something else outside of quotes. -/
def scan? : List Char → Option (List Token)
  | [] => some []
  | '\x22' :: cs => scanText? [] cs
  | c :: cs =>
    if isBlank c then scan? cs
    else if isMark c then (scan? cs).map (.mark c :: ·)
    else none

/-- The tokens from inside a text on, of which `done` is read. -/
def scanText? (done : List Char) : List Char → Option (List Token)
  | [] => none
  | '\x22' :: cs => (scan? cs).map (.text (String.ofList done) :: ·)
  | '\\' :: 'u' :: c₁ :: c₂ :: c₃ :: c₄ :: cs =>
    match charOf? [c₁, c₂, c₃, c₄] with
    | some c => scanText? (done ++ [c]) cs
    | none => none
  | '\\' :: c :: cs =>
    match unescape? c with
    | some c => scanText? (done ++ [c]) cs
    | none => none
  | c :: cs => if c.toNat < 0x20 then none else scanText? (done ++ [c]) cs

end

/-! ## Pieces -/

/-- The text says these tokens, whatever follows it. -/
def Spells (text : String) (tokens : List Token) : Prop :=
  ∀ rest, scan? (text.toList ++ rest) = (scan? rest).map (tokens ++ ·)

theorem Spells.append {text text' : String} {tokens tokens' : List Token} (h : Spells text tokens)
    (h' : Spells text' tokens') : Spells (text ++ text') (tokens ++ tokens') := by
  intro rest
  rw [String.toList_append, List.append_assoc, h, h', Option.map_map]
  congr 1
  funext more
  exact (List.append_assoc tokens tokens' more).symm

theorem spells_empty : Spells "" [] := by
  intro rest
  simp

theorem Spells.scan_eq {text : String} {tokens : List Token} (h : Spells text tokens) :
    scan? text.toList = some tokens := by
  simpa [scan?] using h []

theorem spells_mark {c : Char} (h : isMark c = true) : Spells c.toString [.mark c] := by
  intro rest
  have hquote : c ≠ '\x22' := by rintro rfl; cases h
  have hblank : ¬ isBlank c = true := by
    simp only [isMark, List.contains_iff_mem, List.mem_cons, List.not_mem_nil, or_false] at h
    rcases h with rfl | rfl | rfl | rfl | rfl | rfl <;> decide
  rw [Char.toString_eq_singleton, String.toList_singleton, List.singleton_append, scan?,
    if_neg hblank, if_pos h]
  · rfl
  · exact hquote

/-! ## Texts -/

theorem charOf?_control : ∀ n < 0x20,
    charOf? ['0', '0', Nat.digitChar (n / 16), Nat.digitChar (n % 16)] = some (Char.ofNat n) := by
  decide

/-- The scanner undoes the escapes, and only these. -/
theorem scanText?_escape (done : List Char) (c : Char) (rest : List Char) :
    scanText? done ((escape c).toList ++ rest) = scanText? (done ++ [c]) rest := by
  unfold escape
  split
  iterate 7 · simp [scanText?, unescape?]
  · rename_i hquote hbackslash _ _ _ _ _
    split
    · rename_i hcontrol
      simp [scanText?, charOf?_control _ hcontrol]
    · rename_i hcontrol
      rw [Char.toString_eq_singleton, String.toList_singleton, List.singleton_append, scanText?,
        if_neg hcontrol]
      · exact hquote
      · exact fun _ _ _ _ _ heq => absurd heq hbackslash
      · exact fun _ _ heq => absurd heq hbackslash

theorem scanText?_escapes (done cs rest : List Char) :
    scanText? done ((String.join (cs.map escape)).toList ++ rest) =
      scanText? (done ++ cs) rest := by
  induction cs generalizing done with
  | nil => simp
  | cons c cs ih =>
    rw [List.map_cons, String.join_cons, String.toList_append, List.append_assoc,
      scanText?_escape, ih, List.append_assoc, List.singleton_append]

theorem spells_quote (text : String) : Spells (quote text) [.text text] := by
  intro rest
  have hquote : "\"".toList = ['\x22'] := rfl
  simp only [quote, String.toList_append, List.append_assoc, hquote, List.singleton_append]
  simp only [List.cons_append, scan?]
  rw [scanText?_escapes, List.nil_append, scanText?, String.ofList_toList]

/-! ## Both layouts -/

mutual

/-- The tokens of a value. -/
def tokens : Json → List Token
  | .text value => [.text value]
  | .array items => .mark '[' :: List.intercalate [.mark ','] (itemTokens items) ++ [.mark ']']
  | .object fields =>
    .mark '\x7b' :: List.intercalate [.mark ','] (fieldTokens fields) ++ [.mark '\x7d']

/-- The tokens of each item. -/
def itemTokens : List Json → List (List Token)
  | [] => []
  | item :: items => tokens item :: itemTokens items

/-- The tokens of each field. -/
def fieldTokens : List (String × Json) → List (List Token)
  | [] => []
  | (key, value) :: fields => (.text key :: .mark ':' :: tokens value) :: fieldTokens fields

end

theorem spells_newLine (level : Nat) : Spells (newLine level) [] := by
  have hspaces : ∀ n rest, scan? (List.replicate n ' ' ++ rest) = scan? rest := by
    intro n rest
    induction n with
    | zero => rfl
    | succ n ih =>
      rw [List.replicate_succ, List.cons_append, scan?, if_pos (by rfl), ih]
      simp
  intro rest
  simp [newLine, scan?, isBlank, hspaces]

/-! ### What both layouts are made of -/

section Parts

variable {text more : String} {tokens tokens' : List Token} {parts : List (List Token)}

theorem Spells.newLine (h : Spells text tokens) (level : Nat) :
    Spells (newLine level ++ text) tokens :=
  (spells_newLine level).append h

theorem Spells.enclosed (h : Spells text tokens) (opening closing : Char)
    (hopening : isMark opening = true) (hclosing : isMark closing = true) :
    Spells (opening.toString ++ text ++ closing.toString)
      (.mark opening :: tokens ++ [.mark closing]) :=
  ((spells_mark hopening).append h).append (spells_mark hclosing)

theorem Spells.enclosedLines (h : Spells text tokens) (level : Nat) (opening closing : Char)
    (hopening : isMark opening = true) (hclosing : isMark closing = true) :
    Spells (opening.toString ++ text ++ Json.newLine level ++ closing.toString)
      (.mark opening :: tokens ++ [.mark closing]) := by
  have hend := ((spells_mark hopening).append h).append (spells_newLine level)
  rw [List.append_nil] at hend
  exact hend.append (spells_mark hclosing)

theorem Spells.comma (h : Spells text tokens)
    (hmore : Spells more (List.intercalate [.mark ','] (tokens' :: parts))) :
    Spells (text ++ "," ++ more) (List.intercalate [.mark ','] (tokens :: tokens' :: parts)) := by
  have hcomma : Spells "," [.mark ','] := spells_mark (c := ',') (by rfl)
  rw [List.intercalate_cons_cons]
  exact (h.append hcomma).append hmore

theorem spells_compactField (key : String) (h : Spells text tokens) :
    Spells (quote key ++ ":" ++ text) (.text key :: .mark ':' :: tokens) := by
  have hcolon : Spells ":" [.mark ':'] := spells_mark (c := ':') (by rfl)
  exact ((spells_quote key).append hcolon).append h

theorem spells_indentedField (level : Nat) (key : String) (h : Spells text tokens) :
    Spells (Json.newLine level ++ quote key ++ ": " ++ text)
      (.text key :: .mark ':' :: tokens) := by
  have hcolon : Spells ": " [.mark ':'] := by
    intro rest
    simp [scan?, isBlank, isMark]
  exact (((spells_newLine level).append (spells_quote key)).append hcolon).append h

end Parts

/-! ### The two layouts -/

mutual

theorem spells_compact : ∀ json : Json, Spells json.compact json.tokens
  | .text value => spells_quote value
  | .array items => (spells_compactItems items).enclosed '[' ']' (by rfl) (by rfl)
  | .object fields => (spells_compactFields fields).enclosed '\x7b' '\x7d' (by rfl) (by rfl)

theorem spells_compactItems : ∀ items : List Json,
    Spells (compactItems items) (List.intercalate [.mark ','] (itemTokens items))
  | [] => spells_empty
  | [item] => by simpa [compactItems, itemTokens] using spells_compact item
  | item :: next :: items => (spells_compact item).comma (spells_compactItems (next :: items))

theorem spells_compactFields : ∀ fields : List (String × Json),
    Spells (compactFields fields) (List.intercalate [.mark ','] (fieldTokens fields))
  | [] => spells_empty
  | [(key, value)] => by
    simpa [compactFields, fieldTokens] using spells_compactField key (spells_compact value)
  | (key, value) :: next :: fields =>
    (spells_compactField key (spells_compact value)).comma
      (spells_compactFields (next :: fields))

end

mutual

theorem spells_indented (level : Nat) : ∀ json : Json, Spells (json.indented level) json.tokens
  | .text value => spells_quote value
  | .array [] => spells_empty.enclosed '[' ']' (by rfl) (by rfl)
  | .array (item :: items) =>
    (spells_indentedItems (level + 1) (item :: items)).enclosedLines level '[' ']' (by rfl)
      (by rfl)
  | .object [] => spells_empty.enclosed '\x7b' '\x7d' (by rfl) (by rfl)
  | .object (field :: fields) =>
    (spells_indentedFields (level + 1) (field :: fields)).enclosedLines level '\x7b' '\x7d' (by rfl)
      (by rfl)

theorem spells_indentedItems (level : Nat) : ∀ items : List Json,
    Spells (indentedItems level items) (List.intercalate [.mark ','] (itemTokens items))
  | [] => spells_empty
  | [item] => by
    simpa [indentedItems, itemTokens] using (spells_indented level item).newLine level
  | item :: next :: items =>
    ((spells_indented level item).newLine level).comma
      (spells_indentedItems level (next :: items))

theorem spells_indentedFields (level : Nat) : ∀ fields : List (String × Json),
    Spells (indentedFields level fields) (List.intercalate [.mark ','] (fieldTokens fields))
  | [] => spells_empty
  | [(key, value)] => by
    simpa [indentedFields, fieldTokens] using
      spells_indentedField level key (spells_indented level value)
  | (key, value) :: next :: fields =>
    (spells_indentedField level key (spells_indented level value)).comma
      (spells_indentedFields level (next :: fields))

end

end Json
end SqlFront
