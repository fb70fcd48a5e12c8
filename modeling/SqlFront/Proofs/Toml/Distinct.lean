import Mathlib.Data.List.Nodup
import SqlFront.Proofs.Reader.Giving
import SqlFront.Toml.Document

/-!
# SqlFront.Proofs.Toml.Distinct

No table of a document has a key twice.

A key is only ever put where it replaces an entry or where there was none, so every step that
changes a table keeps its keys apart: an entry, a header, and a header in double brackets. The
values that are read from the text have it too, since braces are filled in entry by entry in the
same way. So what is looked up under a key is all that the document says of it.

* `Distinct.lookup_eq_some_iff`: what is looked up.
* `within_keeps`: a change below a path, by induction on the path.
* `distinct_valueFrom`: the values that are read, by induction on the nesting.
* `distinct_read`: whole documents.
-/

namespace SqlFront
namespace Toml

theorem bind_eq_ok_iff {α β ε : Type} {x : Except ε α} {f : α → Except ε β} {b : β} :
    x >>= f = .ok b ↔ ∃ a, x = .ok a ∧ f a = .ok b := by
  cases x <;> simp [bind, Except.bind]

/-! ## Tables without a key twice -/

/-- No table in the value has a key twice, and so on for the values in them. -/
inductive Value.Distinct : Value → Prop where
  | text (value : String) : Distinct (.text value)
  | integer (value : Int) : Distinct (.integer value)
  | float (written : String) : Distinct (.float written)
  | boolean (value : Bool) : Distinct (.boolean value)
  | moment (written : String) : Distinct (.moment written)
  | array {items : List Value} : (∀ item ∈ items, Distinct item) → Distinct (.array items)
  | table {form : Form} {entries : List (String × Value)} : (entries.map Prod.fst).Nodup →
      (∀ entry ∈ entries, Distinct entry.2) → Distinct (.table form entries)
  | tables {items : List (List (String × Value))} :
      (∀ entries ∈ items, (entries.map Prod.fst).Nodup) →
      (∀ entries ∈ items, ∀ entry ∈ entries, Distinct entry.2) → Distinct (.tables items)

namespace Entries

/-- The keys are different, and no table in the values has a key twice. -/
structure Distinct (entries : Entries) : Prop where
  keys : (entries.map Prod.fst).Nodup
  values : ∀ entry ∈ entries, entry.2.Distinct

/-- The change keeps keys apart where it is possible. -/
def Keeps (change : Entries → Except Problem Entries) : Prop :=
  ∀ entries result, Distinct entries → change entries = .ok result → Distinct result

variable {entries : Entries} {key : String} {value : Value}

theorem distinct_nil : Distinct [] := ⟨List.nodup_nil, nofun⟩

theorem Distinct.table (h : Distinct entries) (form : Form) : (Value.table form entries).Distinct :=
  .table h.keys h.values

/-- What is looked up under a key is all that there is under it. -/
theorem Distinct.lookup_eq_some_iff (h : Distinct entries) :
    entries.lookup key = some value ↔ (key, value) ∈ entries := by
  rw [List.lookup_eq_some_iff]
  constructor
  · rintro ⟨before, after, rfl, -⟩
    simp
  · intro hmem
    obtain ⟨before, after, rfl⟩ := List.append_of_mem hmem
    refine ⟨before, after, rfl, fun entry hentry => ?_⟩
    have hkeys := h.keys
    rw [List.map_append, List.map_cons] at hkeys
    have hne : entry.1 ≠ key := by
      rintro rfl
      exact List.disjoint_of_nodup_append hkeys (List.mem_map_of_mem hentry) List.mem_cons_self
    simpa using hne.symm

theorem Distinct.lookup (h : Distinct entries) (hvalue : entries.lookup key = some value) :
    value.Distinct :=
  h.values (key, value) (h.lookup_eq_some_iff.mp hvalue)

theorem mem_put {entry : String × Value} (h : entry ∈ put key value entries) :
    entry = (key, value) ∨ entry ∈ entries := by
  induction entries with
  | nil => exact .inl (List.mem_singleton.mp h)
  | cons first entries ih =>
    rw [put] at h
    split at h
    · rename_i hkey
      rcases List.mem_cons.mp h with rfl | h
      · exact .inl (by rw [beq_iff_eq.mp hkey])
      · exact .inr (List.mem_cons_of_mem _ h)
    · rcases List.mem_cons.mp h with rfl | h
      · exact .inr List.mem_cons_self
      · exact (ih h).imp id (List.mem_cons_of_mem _)

theorem keys_put_nodup (h : (entries.map Prod.fst).Nodup) :
    ((put key value entries).map Prod.fst).Nodup := by
  induction entries with
  | nil => simp [put]
  | cons first entries ih =>
    rw [List.map_cons, List.nodup_cons] at h
    rw [put]
    split
    · exact List.nodup_cons.mpr h
    · rename_i hkey
      refine List.nodup_cons.mpr ⟨fun hmem => ?_, ih h.2⟩
      obtain ⟨entry, hentry, hfirst⟩ := List.mem_map.mp hmem
      rcases mem_put hentry with rfl | hentry
      · exact hkey (beq_iff_eq.mpr hfirst.symm)
      · exact h.1 (hfirst ▸ List.mem_map_of_mem hentry)

theorem Distinct.put (h : Distinct entries) (hvalue : value.Distinct) :
    Distinct (put key value entries) where
  keys := keys_put_nodup h.keys
  values entry hentry := by
    rcases mem_put hentry with rfl | hentry
    · exact hvalue
    · exact h.values entry hentry

/-! ## Changes -/

/-- A table at the end of an array of tables. -/
theorem Distinct.putLast {items : List Entries} {last : Entries} (h : Distinct entries)
    (hitems : ∀ inner ∈ items, Distinct inner) (hlast : Distinct last) :
    Distinct (Entries.put key (.tables (items ++ [last])) entries) := by
  have hall : ∀ inner ∈ items ++ [last], Distinct inner :=
    List.forall_mem_append.mpr ⟨hitems, List.forall_mem_singleton.mpr hlast⟩
  exact h.put (.tables (fun inner hinner => (hall inner hinner).keys)
    fun inner hinner => (hall inner hinner).values)

theorem Distinct.of_table {form : Form} (h : (Value.table form entries).Distinct) :
    Distinct entries := by
  cases h with
  | table hkeys hvalues => exact ⟨hkeys, hvalues⟩

theorem Distinct.of_mem_tables {items : List Entries} (h : (Value.tables items).Distinct)
    (hmem : entries ∈ items) : Distinct entries := by
  cases h with
  | tables hkeys hvalues => exact ⟨hkeys entries hmem, hvalues entries hmem⟩

theorem distinct_getLastD {items : List Entries} (h : (Value.tables items).Distinct) :
    Distinct (items.getLastD []) := by
  rw [List.getLastD_eq_getLast?]
  cases hlast : items.getLast? with
  | none => exact distinct_nil
  | some entries => exact .of_mem_tables h (List.mem_of_getLast? hlast)

/-- A change below a path keeps keys apart if it does so where the path ends. -/
theorem within_keeps {made : Form} {passes : Form → Bool}
    {change : Form → Entries → Except Problem Entries} (h : ∀ form, Keeps (change form))
    (path : List String) (form : Form) : Keeps (within made passes change path form) := by
  induction path generalizing form with
  | nil => exact h form
  | cons key path ih =>
    intro entries result hentries hrun
    rw [within] at hrun
    split at hrun
    · obtain ⟨inner, hinner, ⟨⟩⟩ := bind_eq_ok_iff.mp hrun
      exact hentries.put ((ih made _ _ distinct_nil hinner).table made)
    · rename_i form inner hlookup
      split at hrun
      · obtain ⟨changed, hchanged, ⟨⟩⟩ := bind_eq_ok_iff.mp hrun
        have hinner := Distinct.of_table (hentries.lookup hlookup)
        exact hentries.put ((ih form _ _ hinner hchanged).table form)
      · cases hrun
    · -- the path goes on in the last table, and the others stay
      rename_i items hlookup
      have hvalue := hentries.lookup hlookup
      obtain ⟨changed, hchanged, ⟨⟩⟩ := bind_eq_ok_iff.mp hrun
      refine hentries.putLast (fun inner hinner => ?_)
        (ih .headed _ _ (distinct_getLastD hvalue) hchanged)
      exact .of_mem_tables hvalue ((List.dropLast_sublist items).subset hinner)
    · cases hrun

theorem assign_keeps (parents : List String) (key : String) (hvalue : value.Distinct) :
    Keeps (assign parents key value) := by
  refine within_keeps (fun form entries result hentries hrun => ?_) parents .headed
  split at hrun
  · cases hrun
  · cases hrun
    exact hentries.put hvalue

theorem openTable_keeps (parents : List String) (key : String)
    {fill : Entries → Except Problem Entries} (hfill : Keeps fill) :
    Keeps (openTable parents key fill) := by
  refine within_keeps (fun form entries result hentries hrun => ?_) parents .headed
  dsimp only at hrun
  split at hrun
  · obtain ⟨filled, hfilled, ⟨⟩⟩ := bind_eq_ok_iff.mp hrun
    exact hentries.put ((hfill _ _ distinct_nil hfilled).table .headed)
  · rename_i begun hlookup
    obtain ⟨filled, hfilled, ⟨⟩⟩ := bind_eq_ok_iff.mp hrun
    have hbegun := Distinct.of_table (hentries.lookup hlookup)
    exact hentries.put ((hfill _ _ hbegun hfilled).table .headed)
  · cases hrun

theorem appendTable_keeps (parents : List String) (key : String)
    {fill : Entries → Except Problem Entries} (hfill : Keeps fill) :
    Keeps (appendTable parents key fill) := by
  refine within_keeps (fun form entries result hentries hrun => ?_) parents .headed
  dsimp only at hrun
  split at hrun
  · obtain ⟨filled, hfilled, ⟨⟩⟩ := bind_eq_ok_iff.mp hrun
    exact hentries.putLast (List.forall_mem_nil _) (hfill _ _ distinct_nil hfilled)
  · rename_i items hlookup
    obtain ⟨filled, hfilled, ⟨⟩⟩ := bind_eq_ok_iff.mp hrun
    exact hentries.putLast (fun inner hinner => .of_mem_tables (hentries.lookup hlookup) hinner)
      (hfill _ _ distinct_nil hfilled)
  · cases hrun

/-- Changes that keep keys apart, one after the other. -/
theorem foldlM_keeps {α : Type} {change : Entries → α → Except Problem Entries} {steps : List α}
    (h : ∀ step ∈ steps, Keeps (change · step)) :
    Keeps (fun entries => steps.foldlM change entries) := by
  induction steps with
  | nil =>
    intro entries result hentries hrun
    cases hrun
    exact hentries
  | cons step steps ih =>
    intro entries result hentries hrun
    dsimp only at hrun
    rw [List.foldlM_cons] at hrun
    obtain ⟨changed, hstep, hsteps⟩ := bind_eq_ok_iff.mp hrun
    have hchanged := h step List.mem_cons_self _ _ hentries hstep
    exact ih (fun other hother => h other (List.mem_cons_of_mem _ hother)) _ _ hchanged hsteps

end Entries

/-! ## Values of the text -/

theorem distinct_scalar? {cs : List Char} {value : Value} (h : scalar? cs = some value) :
    value.Distinct := by
  rw [scalar?] at h
  split at h
  · cases h; exact .boolean true
  · split at h
    · cases h; exact .boolean false
    · split at h
      · rename_i n _; cases h; exact .integer n
      · split at h
        · cases h; exact .float _
        · split at h
          · cases h; exact .moment _
          · cases h

namespace Line

open Reader (GivesOnly)

variable {value : Char → Scan Value}

theorem distinct_bareFrom (c : Char) : GivesOnly Value.Distinct (bareFrom c) := by
  refine .after fun run => .after fun time => ?_
  split
  · rename_i value hvalue; exact .pure (distinct_scalar? hvalue)
  · exact .fail

theorem distinct_simpleFrom (c : Char) : GivesOnly Value.Distinct (simpleFrom c) := by
  rw [simpleFrom]
  split
  · exact .after fun text => .pure (.text text)
  · split
    · exact .after fun text => .pure (.text text)
    · split
      · exact distinct_bareFrom c
      · exact .fail

theorem distinct_arrayFrom (h : ∀ c, GivesOnly Value.Distinct (value c)) :
    GivesOnly Value.Distinct (arrayFrom value) := by
  delta arrayFrom
  extract_lets element
  -- what stands before the first comma and between commas, or nothing after the last one
  have helement : GivesOnly (fun found => ∀ v, found = some v → v.Distinct) element := by
    refine .after fun _ => .after fun c => ?_
    split
    · exact .pure nofun
    · refine .after fun c => (h c).bind fun v hv => .after fun _ => .pure fun w hw => ?_
      cases hw
      exact hv
  refine helement.bind fun found hfirst => ?_
  cases found with
  | none => exact .after fun _ => .pure (.array nofun)
  | some first =>
    refine (GivesOnly.loop fun _ => helement).bind fun others hothers => .after fun _ => .pure ?_
    refine .array fun item hitem => ?_
    rcases List.mem_cons.mp hitem with rfl | hitem
    · exact hfirst item rfl
    · obtain ⟨found, hfound, rfl⟩ := List.mem_filterMap.mp hitem
      exact hothers _ hfound item rfl

theorem distinct_entryFrom (h : ∀ c, GivesOnly Value.Distinct (value c)) (c : Char) :
    GivesOnly (fun found => found.2.Distinct) (entryFrom value c) :=
  .after fun _ => .after fun _ => .after fun _ => .after fun c =>
    (h c).bind fun _ hv => .pure hv

theorem distinct_bracesFrom (h : ∀ c, GivesOnly Value.Distinct (value c)) :
    GivesOnly Value.Distinct (bracesFrom value) := by
  rw [bracesFrom]
  refine .after fun _ => .after fun c => ?_
  split
  · exact .after fun _ => .pure (Entries.distinct_nil.table .closed)
  · extract_lets entry
    have hentry : GivesOnly (fun found => found.2.Distinct) entry :=
      .after fun c => (distinct_entryFrom h c).bind fun _ hfound => .after fun _ => .pure hfound
    refine hentry.bind fun first hfirst => ?_
    refine (GivesOnly.loop fun _ => .after fun _ => hentry).bind fun others hothers =>
      .after fun _ => ?_
    split
    · rename_i entries hfold
      refine .pure (Entries.Distinct.table ?_ .closed)
      refine Entries.foldlM_keeps (fun step hstep => ?_) _ _ Entries.distinct_nil hfold
      rcases List.mem_cons.mp hstep with rfl | hstep
      · exact Entries.assign_keeps _ _ hfirst
      · exact Entries.assign_keeps _ _ (hothers step hstep)
    · exact .fail

theorem distinct_valueFrom (depth : Nat) (c : Char) :
    GivesOnly Value.Distinct (valueFrom depth c) := by
  induction depth generalizing c with
  | zero =>
    rw [valueFrom]
    split
    · exact .fail
    · exact distinct_simpleFrom c
  | succ depth ih =>
    rw [valueFrom]
    split
    · exact distinct_arrayFrom ih
    · split
      · exact distinct_bracesFrom ih
      · exact distinct_simpleFrom c

/-- What an entry says is a value that was read. -/
def Distinct : Line → Prop
  | .entry _ _ value => value.Distinct
  | .header _ _ => True
  | .arrayHeader _ _ => True

theorem distinct_headerFrom : GivesOnly Distinct headerFrom := by
  refine .after fun c => ?_
  split
  · exact .after fun _ => .after fun _ => .after fun _ => .after fun _ => .after fun _ =>
      .after fun _ => .pure True.intro
  · exact .after fun _ => .after fun _ => .after fun _ => .after fun _ => .pure True.intro

theorem distinct_lineFrom (c : Char) :
    GivesOnly (fun found => ∀ line, found = some line → line.Distinct) (lineFrom c) := by
  rw [lineFrom]
  split
  · exact .pure nofun
  · split
    · exact .after fun _ => .pure nofun
    · split
      · exact .after fun _ => .after fun _ => .pure nofun
      · split
        · refine distinct_headerFrom.bind fun line hline => .after fun _ => .pure ?_
          rintro _ ⟨⟩
          exact hline
        · have hentry := distinct_entryFrom (distinct_valueFrom (depthLimit - 1)) c
          refine hentry.bind fun found hfound => .after fun _ => .pure ?_
          rintro _ ⟨⟩
          exact hfound

theorem distinct_ofText {text : String} {lines : List Line} (h : ofText text = .ok lines) :
    ∀ line ∈ lines, line.Distinct := by
  rw [ofText] at h
  split at h
  · rename_i found _ hrun
    cases h
    intro line hline
    obtain ⟨given, hgiven, rfl⟩ := List.mem_filterMap.mp hline
    exact GivesOnly.loop distinct_lineFrom _ _ _ hrun _ hgiven line rfl
  · cases h

end Line

/-! ## Documents -/

namespace Section

theorem fill_keeps {part : Section} (h : ∀ e ∈ part.entries, e.2.2.Distinct) :
    Entries.Keeps part.fill :=
  Entries.foldlM_keeps fun e he => Entries.assign_keeps e.1 e.2.1 (h e he)

theorem addTo_keeps {part : Section} (h : ∀ e ∈ part.entries, e.2.2.Distinct) :
    Entries.Keeps part.addTo := by
  intro document result hdocument hrun
  rw [addTo] at hrun
  split at hrun
  · exact Entries.openTable_keeps _ _ (fill_keeps h) _ _ hdocument hrun
  · exact Entries.appendTable_keeps _ _ (fill_keeps h) _ _ hdocument hrun
  · exact fill_keeps h _ _ hdocument hrun

end Section

theorem distinct_sectionsFrom {lines : List Line} (h : ∀ line ∈ lines, line.Distinct)
    (opening : Option Line) {current : List (List String × String × Value)}
    (hcurrent : ∀ e ∈ current, e.2.2.Distinct) :
    ∀ part ∈ sectionsFrom opening current lines, ∀ e ∈ part.entries, e.2.2.Distinct := by
  fun_induction sectionsFrom opening current lines with
  | case1 => simpa using hcurrent
  | case2 opening current parents key value lines ih =>
    rw [List.forall_mem_cons] at h
    refine ih h.2 fun e he => ?_
    rcases List.mem_append.mp he with he | he
    · exact hcurrent e he
    · rw [List.mem_singleton.mp he]
      exact h.1
  | case3 opening current header lines _ ih =>
    rw [List.forall_mem_cons] at h ⊢
    exact ⟨hcurrent, ih h.2 nofun⟩

/-- No table of a document has a key twice. -/
theorem distinct_read {text : String} {entries : Entries} (h : read text = .ok entries) :
    entries.Distinct := by
  obtain ⟨lines, hlines, hparts⟩ := bind_eq_ok_iff.mp h
  have hlines := Line.distinct_ofText hlines
  refine Entries.foldlM_keeps (fun part hpart => ?_) _ _ Entries.distinct_nil hparts
  exact Section.addTo_keeps (distinct_sectionsFrom hlines none (by simp) part hpart)

end Toml
end SqlFront
