import SqlFront.Toml.Value

/-!
# SqlFront.Toml.Table

How entries and headers are put into the tables of a document. A key is never defined twice, and a
table is only added to in the way it was begun: one that has a header, or stands in braces, gets no
entries through dotted keys from outside.
-/

namespace SqlFront
namespace Toml

namespace Entries

/-- The entries with the key set to the value. -/
def put (key : String) (value : Value) : Entries → Entries
  | [] => [(key, value)]
  | (k, v) :: entries => if k == key then (k, value) :: entries else (k, v) :: put key value entries

/-- Changes the table at the end of a path, from a table of the given form down. Tables that are
missing on the way are made, in the form `made`; a path of an array of tables goes on in its last
table. `passes` says which forms of table the path may lead through. -/
def within (made : Form) (passes : Form → Bool)
    (change : Form → Entries → Except Problem Entries) :
    List String → Form → Entries → Except Problem Entries
  | [], form, entries => change form entries
  | key :: path, _, entries =>
    match entries.lookup key with
    | none => do
      let inner ← within made passes change path made []
      return put key (.table made inner) entries
    | some (.table form inner) =>
      if passes form then do
        let inner ← within made passes change path form inner
        return put key (.table form inner) entries
      else .error (.redefined key)
    | some (.tables items) => do
      let inner ← within made passes change path .headed (items.getLastD [])
      return put key (.tables (items.dropLast ++ [inner])) entries
    | some _ => .error (.notTable key)

/-- Adds an entry under a dotted key. -/
def assign (parents : List String) (key : String) (value : Value) (entries : Entries) :
    Except Problem Entries :=
  within .dotted (fun form => form == .dotted || form == .implied)
    (fun form inner =>
      if (!parents.isEmpty && form != .dotted) || (inner.lookup key).isSome then
        .error (.redefined key)
      else .ok (put key value inner))
    parents .headed entries

/-- Changes the table that a header names, through tables of every form that is not complete. -/
def belowHeader (parents : List String) (change : Entries → Except Problem Entries)
    (entries : Entries) : Except Problem Entries :=
  within .implied (· != .closed) (fun _ inner => change inner) parents .headed entries

/-- Begins the table of a header, or goes on with one that was only implied so far, and fills it
in. -/
def openTable (parents : List String) (key : String) (fill : Entries → Except Problem Entries)
    (entries : Entries) : Except Problem Entries :=
  belowHeader parents
    (fun inner =>
      match inner.lookup key with
      | none => do return put key (.table .headed (← fill [])) inner
      | some (.table .implied begun) => do return put key (.table .headed (← fill begun)) inner
      | some _ => .error (.redefined key))
    entries

/-- Adds a table to the array of tables that a header in double brackets names, and fills it in. -/
def appendTable (parents : List String) (key : String) (fill : Entries → Except Problem Entries)
    (entries : Entries) : Except Problem Entries :=
  belowHeader parents
    (fun inner =>
      match inner.lookup key with
      | none => do return put key (.tables [← fill []]) inner
      | some (.tables items) => do return put key (.tables (items ++ [← fill []])) inner
      | some _ => .error (.redefined key))
    entries

end Entries
end Toml
end SqlFront
