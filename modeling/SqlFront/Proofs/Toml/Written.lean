import Mathlib.Data.List.Nodup
import SqlFront.Proofs.Reader.Giving
import SqlFront.Toml.Document

/-!
# SqlFront.Proofs.Toml.Written

Lines of the form `key = value` are read back as they were written.

Between quotation marks every text can be written, with the characters that may not stand there as
their numbers. A run without quotes is whatever value it is found to be. Where no key is used twice
the entries of the document are those of its lines, in order.

* `gives_basicText`: a text between quotation marks, character by character.
* `gives_simpleFrom`: both sorts of values, before the end of their line.
* `read_lines`: whole documents, by induction on the lines.
-/

namespace SqlFront
namespace Toml

/-! ## Numbers of characters -/

/-- The last digits of a number to the base sixteen. -/
def hexDigits : Nat → Nat → List Char
  | 0, _ => []
  | count + 1, n => hexDigits count (n / 16) ++ [Nat.digitChar (n % 16)]

theorem digitChar_hex : ∀ d < 16, isHexDigit (Nat.digitChar d) = true ∧
    Nat.digitChar d ≠ '_' ∧ digitValue (Nat.digitChar d) = d := by
  decide

theorem length_hexDigits (count n : Nat) : (hexDigits count n).length = count := by
  induction count generalizing n with
  | zero => rfl
  | succ count ih => rw [hexDigits, List.length_append, ih, List.length_singleton]

theorem isHexDigit_of_mem_hexDigits {count n : Nat} {c : Char} (h : c ∈ hexDigits count n) :
    isHexDigit c = true := by
  induction count generalizing n with
  | zero => cases h
  | succ count ih =>
    rcases List.mem_append.mp h with h | h
    · exact ih h
    · rw [List.mem_singleton.mp h]
      exact (digitChar_hex _ (Nat.mod_lt n (by decide))).1

theorem numberOf_append_singleton (base : Nat) (cs : List Char) {c : Char} (h : c ≠ '_') :
    numberOf base (cs ++ [c]) = base * numberOf base cs + digitValue c := by
  simp [numberOf, List.filter_append, h]

theorem numberOf_hexDigits (count n : Nat) :
    numberOf 16 (hexDigits count n) = n % Nat.pow 16 count := by
  induction count generalizing n with
  | zero => simp [hexDigits, numberOf, Nat.mod_one]
  | succ count ih =>
    obtain ⟨-, hbar, hvalue⟩ := digitChar_hex (n % 16) (Nat.mod_lt n (by decide))
    have hpow : Nat.pow 16 (count + 1) = 16 * Nat.pow 16 count := Nat.pow_succ'
    rw [hexDigits, numberOf_append_singleton 16 _ hbar, hvalue, ih, hpow, Nat.mod_mul,
      Nat.add_comm]

theorem toNat_lt (c : Char) : c.toNat < Nat.pow 16 8 := by
  have h : c.toNat < 0x110000 := by
    rcases c.valid with h | h
    · exact Nat.lt_trans h (by decide)
    · exact h.2
  exact Nat.lt_trans h (by decide)

namespace Line

open Reader (GivesBefore)

variable {after : List Char → Prop}

/-! ## Characters -/

/-- A character of a class is none that is outside of the class. -/
theorem beq_eq_false {test : Char → Bool} {c d : Char} (hc : test c = true) (hd : test d = false) :
    (c == d) = false := by
  rw [beq_eq_false_iff_ne]
  rintro rfl
  rw [hc] at hd
  cases hd

theorem gives_next (c : Char) : GivesBefore next [c] after c :=
  .last (.accept rfl) (.pure c)

theorem gives_char (c : Char) : GivesBefore (char c) [c] after () :=
  .last (.accept (by simp)) (.pure ())

theorem gives_spaces {items : List Char} {c : Char} (h : ∀ d ∈ items, isSpace d = true)
    (hc : isSpace c = false) : GivesBefore spaces items (·.head? = some c) () :=
  .last (.takeWhile h hc) (.pure ())

theorem gives_exactly {test : Char → Bool} {cs : List Char} {count : Nat}
    (hlength : cs.length = count) (h : ∀ c ∈ cs, test c = true) :
    GivesBefore (exactly test count) cs after cs := by
  subst hlength
  induction cs with
  | nil => exact .pure []
  | cons c cs ih =>
    rw [List.forall_mem_cons] at h
    exact .cons (.accept h.1) (.last (ih h.2) (.pure (c :: cs)))

/-! ## Texts -/

/-- How a character is written between quotation marks: as it is, or as its number. -/
def spelling (c : Char) : List Char :=
  if isPlain c && c != quotation && c != '\\' then [c] else '\\' :: 'U' :: hexDigits 8 c.toNat

/-- A text in quotation marks, without the one that opens it. -/
def closed (text : String) : List Char := text.toList.flatMap spelling ++ [quotation]

theorem gives_numbered (c : Char) : GivesBefore (numbered (hexDigits 8 c.toNat)) [] after c := by
  have hnumber : numberOf 16 (hexDigits 8 c.toNat) = c.toNat := by
    rw [numberOf_hexDigits, Nat.mod_eq_of_lt (toNat_lt c)]
  have hvalid : c.toNat.isValidChar := c.valid
  rw [numbered, hnumber, if_pos hvalid, Char.ofNat_toNat]
  exact .pure c

theorem gives_escape (c : Char) : GivesBefore (escape 'U') (hexDigits 8 c.toNat) after c :=
  .last (gives_exactly (length_hexDigits 8 _) fun _ hd => isHexDigit_of_mem_hexDigits hd)
    (gives_numbered c)

/-- A character starts with itself or with a backslash, never with a quotation mark. -/
theorem gives_spelled (c : Char) : ∃ t others, spelling c = t :: others ∧ t ≠ quotation ∧
    GivesBefore (if t == '\\' then do escape (← next) else if isPlain t then return t else stop)
      others after c := by
  rw [spelling]
  split
  · rename_i h
    simp only [Bool.and_eq_true, bne_iff_ne] at h
    refine ⟨c, [], rfl, h.1.2, ?_⟩
    rw [if_neg (by simpa using h.2), if_pos h.1.1]
    exact .pure c
  · exact ⟨_, _, rfl, by decide, .cons (gives_next 'U') (gives_escape c)⟩

theorem gives_basicText (text : String) : GivesBefore basicText (closed text) after text := by
  refine .bind (.loop id fun c _ => ?_) ?_ fun _ _ => .inr (by simp)
  · obtain ⟨t, others, hspelling, ht, hgives⟩ := gives_spelled c
    exact ⟨t, others, hspelling, fun rest => by simpa using ht, hgives⟩
  · rw [List.map_id, String.ofList_toList]
    exact .cons (gives_char quotation) (.pure text)

/-! ## Values -/

/-- The characters write the value, in one of the two simple ways. -/
inductive Spells : List Char → Value → Prop where
  | text (text : String) : Spells (quotation :: closed text) (.text text)
  | bare {c : Char} {run : List Char} {value : Value} (hrun : (c :: run).all isBareValue = true)
      (h : scalar? (c :: run) = some value) : Spells (c :: run) value

theorem gives_quotationValue (text : String) :
    GivesBefore quotationValue (closed text) (·.head? = some '\n') text := by
  refine .ahead fun rest hrest => ?_
  split
  · rename_i heq
    rw [closed] at heq
    -- two quotation marks in a row would be those of an empty text, before a third
    cases htext : text.toList with
    | nil =>
      rw [htext] at heq
      cases heq
      cases hrest
    | cons c cs =>
      obtain ⟨t, others, hspelling, ht, -⟩ := @gives_spelled (fun _ => True) c
      rw [htext, List.flatMap_cons, hspelling] at heq
      exact absurd (List.cons.inj heq).1 ht
  · exact gives_basicText text

theorem gives_timeAfter (run : List Char) :
    GivesBefore (timeAfter run) [] (·.head? = some '\n') [] := by
  refine .ahead fun rest hrest => ?_
  split
  · rename_i heq
    cases heq
    cases hrest
  · exact .pure []

theorem gives_bareFrom {c : Char} {run : List Char} {value : Value}
    (hrun : ∀ d ∈ run, isBareValue d = true) (h : scalar? (c :: run) = some value) :
    GivesBefore (bareFrom c) run (·.head? = some '\n') value := by
  refine .last (.takeWhile hrun rfl) (.last (gives_timeAfter _) ?_)
  rw [List.append_nil, h]
  exact .pure value

theorem gives_simpleFrom {c : Char} {run : List Char} {value : Value}
    (h : Spells (c :: run) value) :
    GivesBefore (simpleFrom c) run (·.head? = some '\n') value := by
  cases h with
  | text text => exact .last (gives_quotationValue text) (.pure _)
  | bare hrun h =>
    rw [List.all_eq_true, List.forall_mem_cons] at hrun
    have hquotation : (c == quotation) = false := beq_eq_false hrun.1 rfl
    have hapostrophe : (c == apostrophe) = false := beq_eq_false hrun.1 rfl
    simp only [simpleFrom, hquotation, hapostrophe, hrun.1]
    exact gives_bareFrom hrun.2 h

/-- The first character opens neither an array nor a table, and is no blank. -/
theorem Spells.exists_cons {written : List Char} {value : Value} (h : Spells written value) :
    ∃ c run, written = c :: run ∧ isSpace c = false ∧
      ∀ depth, valueFrom depth c = simpleFrom c := by
  have hsimple : ∀ c : Char, (c == '[') = false → (c == '\x7b') = false →
      ∀ depth, valueFrom depth c = simpleFrom c := by
    intro c hbracket hbrace depth
    cases depth <;> simp [valueFrom, hbracket, hbrace]
  cases h with
  | text => exact ⟨_, _, rfl, rfl, hsimple _ rfl rfl⟩
  | @bare c run _ hrun _ =>
    have hc := List.all_eq_true.mp hrun c List.mem_cons_self
    refine ⟨c, run, rfl, ?_, hsimple c (beq_eq_false hc rfl) (beq_eq_false hc rfl)⟩
    rw [isSpace, beq_eq_false hc rfl, beq_eq_false hc rfl, Bool.or_false]

/-! ## Lines -/

theorem gives_keyPartFrom {c : Char} {cs : List Char} (h : ∀ d ∈ c :: cs, isBareKey d = true) :
    GivesBefore (keyPartFrom c) cs (·.head? = some ' ') (String.ofList (c :: cs)) := by
  rw [List.forall_mem_cons] at h
  have hquotation : (c == quotation) = false := beq_eq_false h.1 rfl
  have hapostrophe : (c == apostrophe) = false := beq_eq_false h.1 rfl
  simp only [keyPartFrom, hquotation, hapostrophe, h.1]
  exact .last (.takeWhile h.2 rfl) (.pure _)

theorem gives_keyFrom {c : Char} {cs : List Char} (h : ∀ d ∈ c :: cs, isBareKey d = true) :
    GivesBefore (keyFrom c) (cs ++ [' ']) (·.head? = some '=') ([], String.ofList (c :: cs)) := by
  refine .bind (gives_keyPartFrom h) (.last (gives_spaces (by simp [isSpace]) rfl) ?_)
    fun _ _ => rfl
  -- no dot follows, so that the key has one part
  exact .bind .loop_nil (.pure _) fun rest hrest => .inr (by simp [hrest])

theorem gives_entryFrom {c : Char} {cs written : List Char} {value : Value}
    (h : ∀ d ∈ c :: cs, isBareKey d = true) (hvalue : Spells written value) (depth : Nat) :
    GivesBefore (entryFrom (valueFrom depth) c) (cs ++ [' '] ++ '=' :: ' ' :: written)
      (·.head? = some '\n') (([], String.ofList (c :: cs)), value) := by
  obtain ⟨first, run, rfl, hfirst, hsimple⟩ := hvalue.exists_cons
  have hrun := gives_simpleFrom hvalue
  rw [← hsimple depth] at hrun
  have hspaces : GivesBefore spaces [' '] (·.head? = some first) () :=
    gives_spaces (by simp [isSpace]) hfirst
  refine .bind (gives_keyFrom h) (.cons (gives_char '=') ?_) fun _ _ => rfl
  exact .bind hspaces (.cons (gives_next first) (.last hrun (.pure _))) fun _ _ => rfl

theorem gives_endOfLine : GivesBefore endOfLine ['\n'] after () := by
  have hspaces : GivesBefore spaces [] (·.head? = some '\n') () := gives_spaces (by simp) rfl
  have hend : GivesBefore lineEnd ['\n'] after () := .peek (.cons (gives_next '\n') (.pure ()))
  exact .bind hspaces (.peek hend) fun _ _ => rfl

theorem gives_lineFrom {c : Char} {cs written : List Char} {value : Value}
    (h : ∀ d ∈ c :: cs, isBareKey d = true) (hvalue : Spells written value) :
    GivesBefore (lineFrom c) (cs ++ [' '] ++ '=' :: ' ' :: written ++ ['\n']) after
      (some (.entry [] (String.ofList (c :: cs)) value)) := by
  have hc (d : Char) (hd : isBareKey d = false) : (c == d) = false :=
    beq_eq_false (h c List.mem_cons_self) hd
  simp only [lineFrom, isSpace, hc ' ' rfl, hc '\t' rfl, hc '\n' rfl, hc '\r' rfl, hc '#' rfl,
    hc '[' rfl]
  exact .bind (gives_entryFrom h hvalue _) (.last gives_endOfLine (.pure _)) fun _ _ => rfl

end Line

/-! ## Documents -/

/-- A line `key = value`, with a bare key and a value in one of the simple ways. -/
structure Assignment where
  key : String
  value : Value
  written : List Char
  nonempty : key ≠ ""
  bare : key.toList.all Line.isBareKey = true
  spells : Line.Spells written value

namespace Assignment

section

variable (key : String) (nonempty : key ≠ "") (bare : key.toList.all Line.isBareKey = true)

def ofText (text : String) : Assignment :=
  ⟨key, .text text, _, nonempty, bare, .text text⟩

def ofBool (b : Bool) : Assignment where
  key := key
  value := .boolean b
  written := (cond b "true" "false").toList
  nonempty := nonempty
  bare := bare
  spells := by
    cases b
    · exact .bare rfl rfl
    · exact .bare rfl rfl

end

def line (a : Assignment) : List Char :=
  a.key.toList ++ [' '] ++ '=' :: ' ' :: a.written ++ ['\n']

/-- What the line says. -/
def entry (a : Assignment) : String × Value := (a.key, a.value)

theorem exists_key (a : Assignment) :
    ∃ c cs, a.key.toList = c :: cs ∧ ∀ d ∈ c :: cs, Line.isBareKey d = true := by
  have hne : a.key.toList ≠ [] := fun h => a.nonempty (String.toList_eq_nil_iff.mp h)
  obtain ⟨c, cs, hkey⟩ := List.exists_cons_of_ne_nil hne
  exact ⟨c, cs, hkey, List.all_eq_true.mp (hkey ▸ a.bare)⟩

theorem withoutMark_lines (as : List Assignment) :
    Line.withoutMark (as.flatMap line) = as.flatMap line := by
  cases as with
  | nil => rfl
  | cons a as =>
    obtain ⟨c, cs, hkey, hbare⟩ := a.exists_key
    have hc := hbare c List.mem_cons_self
    rw [List.flatMap_cons, line, hkey]
    simp only [List.cons_append, Line.withoutMark]
    split
    · rename_i heq
      cases heq
      cases hc
    · rfl

end Assignment

theorem ofText_lines (as : List Assignment) :
    Line.ofText (String.ofList (as.flatMap Assignment.line)) =
      .ok (as.map fun a => .entry [] a.key a.value) := by
  have hloop : Reader.GivesBefore (Reader.loop (fun _ => true) Line.lineFrom)
      (as.flatMap Assignment.line) (fun rest => rest = [] ∨ true = false)
      (as.map fun a => some (.entry [] a.key a.value)) := by
    refine .loop _ fun a _ => ?_
    obtain ⟨c, cs, hkey, hbare⟩ := a.exists_key
    have hgives := @Line.gives_lineFrom (fun _ => True) c cs _ _ hbare a.spells
    rw [← hkey, String.ofList_toList] at hgives
    exact ⟨c, _, by rw [Assignment.line, hkey]; rfl, fun _ => rfl, hgives⟩
  have hrun := hloop ⟨0, as.flatMap Assignment.line⟩ ⟨_, []⟩
    ⟨(List.append_nil _).symm, rfl⟩ (.inl rfl)
  rw [Line.ofText, String.toList_ofList, Assignment.withoutMark_lines, hrun]
  simp

/-- Without a header all entries belong to the document itself. -/
theorem sectionsFrom_entries (entries : List (String × Value))
    (current : List (List String × String × Value)) :
    sectionsFrom none current (entries.map fun e => .entry [] e.1 e.2) =
      [⟨none, current ++ entries.map fun e => ([], e.1, e.2)⟩] := by
  induction entries generalizing current with
  | nil => simp [sectionsFrom]
  | cons e entries ih => simp [sectionsFrom, ih]

namespace Entries

theorem put_eq_append {entries : Entries} {key : String} (h : key ∉ entries.map Prod.fst)
    (value : Value) : put key value entries = entries ++ [(key, value)] := by
  induction entries with
  | nil => rfl
  | cons e entries ih =>
    rw [List.map_cons, List.mem_cons, not_or] at h
    rw [put, if_neg (by simpa using Ne.symm h.1), ih h.2, List.cons_append]

theorem assign_new {entries : Entries} {key : String} (h : key ∉ entries.map Prod.fst)
    (value : Value) : assign [] key value entries = .ok (entries ++ [(key, value)]) := by
  have hlookup : entries.lookup key = none := by
    rw [List.lookup_eq_none_iff]
    intro e he
    have hkey : e.1 ≠ key := by rintro rfl; exact h (List.mem_map_of_mem he)
    simpa using hkey.symm
  rw [assign, within, hlookup]
  simp [put_eq_append h]

/-- Keys that are new and different are added in order. -/
theorem foldlM_assign (table : Entries) {entries : Entries}
    (h : ((table ++ entries).map Prod.fst).Nodup) :
    entries.foldlM (fun table e => assign [] e.1 e.2 table) table = .ok (table ++ entries) := by
  induction entries generalizing table with
  | nil => rw [List.append_nil]; rfl
  | cons e entries ih =>
    have hnew : e.1 ∉ table.map Prod.fst := by
      rw [List.map_append, List.map_cons] at h
      exact fun hmem => List.disjoint_of_nodup_append h hmem List.mem_cons_self
    rw [List.append_cons] at h ⊢
    rw [List.foldlM_cons, assign_new hnew]
    exact ih _ h

end Entries

theorem addTo_entries {entries : Entries} (h : (entries.map Prod.fst).Nodup) :
    Section.addTo ⟨none, entries.map fun e => ([], e.1, e.2)⟩ [] = .ok entries := by
  simp only [Section.addTo, Section.fill, List.foldlM_map]
  exact Entries.foldlM_assign [] h

/-- What is written in lines is read back, in order, if no key is used twice. -/
theorem read_lines {as : List Assignment} (h : (as.map Assignment.key).Nodup) :
    read (String.ofList (as.flatMap Assignment.line)) = .ok (as.map Assignment.entry) := by
  have hentries : (as.map fun a => Line.entry [] a.key a.value) =
      (as.map Assignment.entry).map fun e => .entry [] e.1 e.2 := by simp [Assignment.entry]
  have hkeys : ((as.map Assignment.entry).map Prod.fst).Nodup := by
    simpa [Assignment.entry, Function.comp_def] using h
  rw [read, ofText_lines, hentries]
  dsimp only [bind, Except.bind]
  rw [sectionsFrom_entries, List.nil_append, List.foldlM_cons, addTo_entries hkeys]
  rfl

end Toml
end SqlFront
