import SqlFront.Text.Extending
import SqlFront.Text.Unprintable

/-!
# SqlFront.Text.Quoted

Texts and characters as the log shows them: between quotes, with the quote itself, the backslash
and everything that cannot be seen on its own written as an escape.
-/

namespace SqlFront
namespace Text

/-- The half-width Katakana voicing marks. They join the letter before them, but are drawn in a
space of their own. -/
def voicingRanges : Ranges := [(0xFF9E, 0xFF9F)]

/-- The Korean fillers: letters that stand for a missing one and are drawn as nothing. -/
def fillerRanges : Ranges := [(0x115F, 0x1160), (0x3164, 0x3164), (0xFFA0, 0xFFA0)]

/-- A mark that is drawn on the character before it, so that alone it cannot be seen. -/
def isOverlaid (c : Char) : Bool := isExtending c && !voicingRanges.covers c.toNat

/-- A character that is drawn as nothing or in no settled way. -/
def isUnseen (c : Char) : Bool := isUnprintable c || fillerRanges.covers c.toNat

/-- The number of a character in braces, as in `\u{301}`. -/
def numberEscape (c : Char) : String :=
  "\\u\x7b" ++ String.ofList (Nat.toDigits 16 c.toNat) ++ "\x7d"

/-- One character between quotes of the given sort. -/
def escapeWithin (quote c : Char) : String :=
  match c with
  | '\x00' => "\\0"
  | '\t' => "\\t"
  | '\r' => "\\r"
  | '\n' => "\\n"
  | '\\' => "\\\\"
  | _ =>
    if c = quote then "\\" ++ c.toString
    else if isOverlaid c || isUnseen c then numberEscape c
    else c.toString

/-- A text between double quotes. -/
def quoted (text : String) : String :=
  "\"" ++ String.join (text.toList.map (escapeWithin '\x22')) ++ "\""

/-- A character between single quotes. -/
def quotedChar (c : Char) : String :=
  "'" ++ escapeWithin '\x27' c ++ "'"

end Text
end SqlFront
