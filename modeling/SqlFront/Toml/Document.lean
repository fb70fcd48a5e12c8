import SqlFront.Toml.Line

/-!
# SqlFront.Toml.Document

The meaning of a document: the entries of its outermost table.
-/

namespace SqlFront
namespace Toml

/-- A header, if there is one, and the entries that follow it. -/
structure Section where
  opening : Option Line
  entries : List (List String × String × Value)

/-- The lines by section; `current` collects the entries of the section that is open. -/
def sectionsFrom (opening : Option Line) (current : List (List String × String × Value)) :
    List Line → List Section
  | [] => [⟨opening, current⟩]
  | .entry parents key value :: lines =>
    sectionsFrom opening (current ++ [(parents, key, value)]) lines
  | header :: lines => ⟨opening, current⟩ :: sectionsFrom (some header) [] lines

namespace Section

/-- Puts the entries of the section into its table. -/
def fill (part : Section) (table : Entries) : Except Problem Entries :=
  part.entries.foldlM (fun table e => table.assign e.1 e.2.1 e.2.2) table

/-- Puts the section into the document. -/
def addTo (part : Section) (document : Entries) : Except Problem Entries :=
  match part.opening with
  | some (.header parents key) => document.openTable parents key part.fill
  | some (.arrayHeader parents key) => document.appendTable parents key part.fill
  | _ => part.fill document

end Section

/-- The entries of a document. -/
def read (text : String) : Except Problem Entries := do
  let lines ← Line.ofText text
  (sectionsFrom none [] lines).foldlM (fun document part => part.addTo document) []

end Toml
end SqlFront
