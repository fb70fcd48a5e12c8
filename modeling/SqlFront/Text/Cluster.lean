import SqlFront.Text.Joining

/-!
# SqlFront.Text.Cluster

What a reader counts as one character: a letter with its marks, a syllable, a flag, a pictograph
made of several. These are the extended grapheme clusters of Unicode Standard Annex 29.

A text is read from left to right. What has been read of the present cluster matters only through
its end, an `Ending`, which says of the next character whether it still joins.
-/

namespace SqlFront
namespace Text

/-- What the end of a cluster lets join. -/
inductive Ending where
  /-- Marks only. -/
  | plain
  /-- Nothing. -/
  | closed
  /-- A line feed only. -/
  | carriageReturn
  /-- Whatever is no control. -/
  | prepended
  /-- A leading consonant of a Korean syllable: any part of a syllable but a trailing consonant. -/
  | leading
  /-- A vowel of a Korean syllable: another vowel or a trailing consonant. -/
  | vowel
  /-- A trailing consonant of a Korean syllable: another one. -/
  | trailing
  /-- The first letter of a flag: the second one. -/
  | flagLetter
  /-- A pictograph with its marks, which a joiner can tie to another. -/
  | pictograph
  /-- A pictograph and a joiner: another pictograph. -/
  | joinedPictograph
  /-- A consonant with its marks, which a linker can tie to another. -/
  | consonant
  /-- A consonant and a linker: another consonant. -/
  | linkedConsonant
deriving DecidableEq, Repr

namespace Ending

/-- The end of a cluster of one character. -/
def ofFirst : Joining → Ending
  | .carriageReturn => .carriageReturn
  | .lineFeed | .control => .closed
  | .prepended => .prepended
  | .leading => .leading
  | .vowel | .openSyllable => .vowel
  | .trailing | .closedSyllable => .trailing
  | .flagLetter => .flagLetter
  | .pictograph => .pictograph
  | .consonant => .consonant
  | .plain | .extend | .separator | .joiner | .linker | .spacing => .plain

/-- The end after a mark of the given class. Marks do not part a pictograph from its joiner, nor a
consonant from its linker. -/
def afterMark : Ending → Joining → Ending
  | .pictograph, .joiner => .joinedPictograph
  | .pictograph, .spacing => .plain
  | .pictograph, _ => .pictograph
  | .consonant, .linker => .linkedConsonant
  | .consonant, .extend | .consonant, .joiner => .consonant
  | .linkedConsonant, .linker | .linkedConsonant, .extend | .linkedConsonant, .joiner =>
    .linkedConsonant
  | _, _ => .plain

/-- The end after one more character, if that character joins. -/
def join? : Ending → Joining → Option Ending
  | .carriageReturn, .lineFeed => some .closed
  | .closed, _ | .carriageReturn, _ => none
  | _, .carriageReturn | _, .lineFeed | _, .control => none
  | ending, .extend => some (ending.afterMark .extend)
  | ending, .separator => some (ending.afterMark .separator)
  | ending, .joiner => some (ending.afterMark .joiner)
  | ending, .linker => some (ending.afterMark .linker)
  | ending, .spacing => some (ending.afterMark .spacing)
  | .prepended, next => some (ofFirst next)
  | .leading, .leading => some .leading
  | .leading, .vowel | .leading, .openSyllable => some .vowel
  | .leading, .closedSyllable => some .trailing
  | .vowel, .vowel => some .vowel
  | .vowel, .trailing | .trailing, .trailing => some .trailing
  | .flagLetter, .flagLetter => some .plain
  | .joinedPictograph, .pictograph => some .pictograph
  | .linkedConsonant, .consonant => some .consonant
  | _, _ => none

end Ending

/-- The characters up to the end of a cluster that has begun, and those after it. -/
def spanCluster (ending : Ending) : List Char → List Char × List Char
  | [] => ([], [])
  | c :: cs =>
    match ending.join? (.ofChar c) with
    | some next => (spanCluster next cs).map (c :: ·) id
    | none => ([], c :: cs)

theorem spanCluster_append (ending : Ending) (cs : List Char) :
    (spanCluster ending cs).1 ++ (spanCluster ending cs).2 = cs := by
  induction cs generalizing ending with
  | nil => rfl
  | cons c cs ih =>
    rw [spanCluster]
    split
    · exact congrArg (c :: ·) (ih _)
    · rfl

theorem spanCluster_rest_length (ending : Ending) (cs : List Char) :
    (spanCluster ending cs).2.length ≤ cs.length := by
  have h := congrArg List.length (spanCluster_append ending cs)
  rw [List.length_append] at h
  omega

/-- The clusters of a text, in order. -/
def clusters : List Char → List (List Char)
  | [] => []
  | c :: cs =>
    let cut := spanCluster (.ofFirst (.ofChar c)) cs
    (c :: cut.1) :: clusters cut.2
termination_by cs => cs.length
decreasing_by
  have := spanCluster_rest_length (.ofFirst (.ofChar c)) cs
  simp only [List.length_cons]
  omega

end Text
end SqlFront
