import Mathlib.Data.List.Forall2
import SqlFront.Proofs.Json.Scan
import SqlFront.Proofs.Reader.Reading

/-!
# SqlFront.Proofs.Json.Read

Values from JSON texts.

The reader works on tokens and knows no layout, so it gives a value back from either of its two
layouts.

* `Gives`: the reader reads these tokens as this value.
* `gives_value`: the tokens of a value, by induction on the value.
* `ofText?_of_spells`: any text with the tokens of a value.
-/

namespace SqlFront
namespace Json

/-! ## The reader -/

abbrev Rule (α : Type) : Type := Reader Token Unit α

def exactly (c : Char) : Rule Unit := do
  let _ ← Reader.accept (· == .mark c) fun _ => ()

def Token.text? : Token → Option String
  | .text value => some value
  | .mark _ => none

def anyText : Rule String := do
  let ⟨token, h⟩ ← Reader.accept (fun token => token.text?.isSome) fun _ => ()
  return token.text?.get h

/-- Items with commas between them, up to the closing mark. -/
def listed {α : Type} (closing : Char) (item : Rule α) : Rule (List α) := do
  if (← Reader.peek?) == some (.mark closing) then
    exactly closing
    return []
  else
    let first ← item
    let rest ← Reader.loop (fun rest => rest.head? == some (.mark ',')) fun _ => item
    exactly closing
    return first :: rest

def field (value : Rule Json) : Rule (String × Json) := do
  let key ← anyText
  exactly ':'
  let value ← value
  return (key, value)

/-- A value of fewer levels than that. -/
def value : Nat → Rule Json
  | 0 => Reader.fail fun _ => ()
  | levels + 1 => do
    match ← Reader.peek? with
    | some (.mark '[') =>
      exactly '['
      let items ← listed ']' (value levels)
      return .array items
    | some (.mark '\x7b') =>
      exactly '\x7b'
      let fields ← listed '\x7d' (field (value levels))
      return .object fields
    | _ => return .text (← anyText)

/-- The value of a text. A value has at least as many tokens as levels. -/
def ofText? (text : String) : Option Json := do
  let tokens ← scan? text.toList
  match (value tokens.length).run ⟨0, tokens⟩ with
  | .ok (json, ⟨_, []⟩) => some json
  | _ => none

/-! ## Reading back -/

/-- Where these tokens follow, the reader takes them and gives the value. -/
def Gives {α : Type} (r : Rule α) (tokens : List Token) (a : α) : Prop :=
  ∀ c c' : Cursor Token, c.Takes tokens c' → r.run c = .ok (a, c')

/-- What an item looks like where a list could also be closed. -/
def Opens (closing : Char) (part : List Token) : Prop :=
  ∃ t ts, part = t :: ts ∧ t ≠ .mark closing

section

variable {α β : Type} {r : Rule α} {a : α} {b : β} {tokens tokens' : List Token}

theorem gives_pure (a : α) : Gives (pure a) [] a := by
  intro c c' h
  rw [Cursor.takes_nil.mp h, Reader.run_pure]

theorem Gives.bind {f : α → Rule β} (h : Gives r tokens a) (hf : Gives (f a) tokens' b) :
    Gives (r >>= f) (tokens ++ tokens') b := by
  intro c c'' htakes
  obtain ⟨c', hfirst, hrest⟩ := Cursor.takes_append.mp htakes
  exact Reader.run_bind_eq_ok.mpr ⟨a, c', h c c' hfirst, hf c' c'' hrest⟩

theorem gives_exactly (c : Char) : Gives (exactly c) [.mark c] () := by
  intro c₁ c₂ h
  have haccept : (Reader.accept (· == Token.mark c) fun _ => ()).run c₁ =
      .ok (⟨.mark c, by simp⟩, c₂) :=
    Reader.run_accept_eq_ok.mpr h
  exact Reader.run_bind_eq_ok.mpr ⟨_, c₂, haccept, rfl⟩

theorem gives_anyText (text : String) : Gives anyText [.text text] text := by
  intro c₁ c₂ h
  have haccept : (Reader.accept (fun token : Token => token.text?.isSome) fun _ => ()).run c₁ =
      .ok (⟨.text text, rfl⟩, c₂) :=
    Reader.run_accept_eq_ok.mpr h
  exact Reader.run_bind_eq_ok.mpr ⟨_, c₂, haccept, rfl⟩

/-! ### Items -/

theorem intercalate_cons (sep part : List Token) (parts : List (List Token)) :
    List.intercalate sep (part :: parts) = part ++ parts.flatMap (sep ++ ·) := by
  induction parts generalizing part with
  | nil => simp
  | cons next parts ih =>
    rw [List.intercalate_cons_cons, ih, List.flatMap_cons]
    simp only [List.append_assoc]

theorem length_le_intercalate (sep : List Token) {part : List Token} {parts : List (List Token)}
    (h : part ∈ parts) : part.length ≤ (List.intercalate sep parts).length := by
  cases parts with
  | nil => cases h
  | cons first parts =>
    rw [intercalate_cons, List.length_append]
    rcases List.mem_cons.mp h with rfl | hmem
    · exact Nat.le_add_right _ _
    · have hsublist := List.sublist_flatten_of_mem (List.mem_map_of_mem (f := (sep ++ ·)) hmem)
      have hlength := hsublist.length_le
      rw [← List.flatMap_def, List.length_append] at hlength
      omega

theorem length_le_of_mem {opening closing : Token} {parts : List (List Token)} {levels : Nat}
    (h : (opening :: List.intercalate [.mark ','] parts ++ [closing]).length ≤ levels + 1) :
    ∀ part ∈ parts, part.length ≤ levels := by
  intro part hpart
  have hlength := length_le_intercalate [.mark ','] hpart
  simp only [List.cons_append, List.length_cons, List.length_append] at h
  omega

theorem run_loop_of_gives {item : Rule α} {parts : List (List Token)} {as : List α}
    (h : List.Forall₂ (Gives item) parts as) {c c' : Cursor Token}
    (htakes : c.Takes (parts.flatMap ([.mark ','] ++ ·)) c')
    (hend : c'.rest.head? ≠ some (.mark ',')) :
    (Reader.loop (fun rest => rest.head? == some (.mark ',')) fun _ => item).run c =
      .ok (as, c') := by
  induction h generalizing c with
  | nil =>
    rw [Cursor.takes_nil.mp htakes] at hend ⊢
    exact Reader.run_loop_of_ne hend
  | cons hitem _ ih =>
    rw [List.flatMap_cons, List.append_assoc, Cursor.takes_append] at htakes
    obtain ⟨c₁, hcomma, htakes⟩ := htakes
    obtain ⟨c₂, hpart, hparts⟩ := Cursor.takes_append.mp htakes
    exact Reader.run_loop_eq_ok_cons.mpr ⟨c₁, c₂, hcomma, hitem c₁ c₂ hpart, ih hparts⟩

theorem gives_listed {closing : Char} (hclosing : closing ≠ ',') {item : Rule α}
    {parts : List (List Token)} {as : List α} (h : List.Forall₂ (Gives item) parts as)
    (hopens : ∀ part ∈ parts, Opens closing part) :
    Gives (listed closing item) (List.intercalate [.mark ','] parts ++ [.mark closing]) as := by
  intro c c' htakes
  rw [listed, Reader.run_peek?_bind]
  cases h with
  | nil =>
    rw [if_pos (by simpa using htakes.head?)]
    exact (gives_exactly closing).bind (gives_pure []) c c' htakes
  | @cons part a parts as hitem hrest =>
    obtain ⟨t, ts, rfl, ht⟩ := hopens part List.mem_cons_self
    rw [intercalate_cons, List.append_assoc] at htakes
    rw [if_neg (by simpa [Cursor.Takes.head? htakes] using ht)]
    obtain ⟨c₁, hfirst, htakes⟩ := Cursor.takes_append.mp htakes
    obtain ⟨c₂, hparts, hclose⟩ := Cursor.takes_append.mp htakes
    have hend : c₂.rest.head? ≠ some (.mark ',') := by
      rw [hclose.head?]
      simpa using hclosing
    exact Reader.run_bind_eq_ok.mpr ⟨a, c₁, hitem c c₁ hfirst,
      Reader.run_bind_eq_ok.mpr ⟨as, c₂, run_loop_of_gives hrest hparts hend,
        (gives_exactly closing).bind (gives_pure (a :: as)) c₂ c' hclose⟩⟩

/-- An array or an object, from its items. -/
theorem gives_enclosed {opening closing : Char} (hclosing : closing ≠ ',') {item : Rule α}
    {parts : List (List Token)} {as : List α} (make : List α → Json)
    (h : List.Forall₂ (Gives item) parts as)
    (hopens : ∀ part ∈ parts, Opens closing part) :
    Gives (do exactly opening; let items ← listed closing item; return make items)
      (.mark opening :: List.intercalate [.mark ','] parts ++ [.mark closing]) (make as) := by
  have hmake := (gives_listed hclosing h hopens).bind (f := fun items => pure (make items))
    (gives_pure (make as))
  rw [List.append_nil] at hmake
  exact (gives_exactly opening).bind hmake

theorem gives_field {r : Rule Json} {json : Json} (key : String) (h : Gives r tokens json) :
    Gives (field r) (.text key :: .mark ':' :: tokens) (key, json) := by
  have hpair := h.bind (f := fun json => pure (key, json)) (gives_pure (key, json))
  rw [List.append_nil] at hpair
  exact (gives_anyText key).bind ((gives_exactly ':').bind hpair)

end

/-! ### Values -/

theorem opens_tokens (json : Json) : Opens ']' json.tokens := by
  cases json <;> simp [Opens, tokens]

theorem opens_itemTokens (items : List Json) : ∀ part ∈ itemTokens items, Opens ']' part := by
  induction items with
  | nil => nofun
  | cons item items ih => exact List.forall_mem_cons.mpr ⟨opens_tokens item, ih⟩

theorem opens_fieldTokens (fields : List (String × Json)) :
    ∀ part ∈ fieldTokens fields, Opens '\x7d' part := by
  induction fields with
  | nil => nofun
  | cons field fields ih => exact List.forall_mem_cons.mpr ⟨by simp [Opens], ih⟩

mutual

theorem gives_value : ∀ (json : Json) {levels : Nat}, json.tokens.length ≤ levels →
    Gives (value levels) json.tokens json
  | json, 0, h => by
    obtain ⟨t, ts, htokens, -⟩ := opens_tokens json
    simp [htokens] at h
  | .text content, levels + 1, _ => by
    intro c c' htakes
    rw [value, Reader.run_peek?_bind, htakes.head?]
    exact (gives_anyText content).bind (gives_pure (Json.text content)) c c' htakes
  | .array items, levels + 1, h => by
    have hitems := gives_items items (length_le_of_mem h)
    intro c c' htakes
    rw [value, Reader.run_peek?_bind, htakes.head?]
    exact gives_enclosed (by decide) .array hitems (opens_itemTokens items) c c' htakes
  | .object fields, levels + 1, h => by
    have hfields := gives_fields fields (length_le_of_mem h)
    intro c c' htakes
    rw [value, Reader.run_peek?_bind, htakes.head?]
    exact gives_enclosed (by decide) .object hfields (opens_fieldTokens fields) c c' htakes

theorem gives_items : ∀ (items : List Json) {levels : Nat},
    (∀ part ∈ itemTokens items, part.length ≤ levels) →
    List.Forall₂ (Gives (value levels)) (itemTokens items) items
  | [], _, _ => .nil
  | item :: items, levels, h => by
    rw [itemTokens, List.forall_mem_cons] at h
    exact .cons (gives_value item h.1) (gives_items items h.2)

theorem gives_fields : ∀ (fields : List (String × Json)) {levels : Nat},
    (∀ part ∈ fieldTokens fields, part.length ≤ levels) →
    List.Forall₂ (Gives (field (value levels))) (fieldTokens fields) fields
  | [], _, _ => .nil
  | (key, json) :: fields, levels, h => by
    rw [fieldTokens, List.forall_mem_cons, List.length_cons, List.length_cons] at h
    have hvalue : Gives (value levels) json.tokens json := gives_value json (by omega)
    exact .cons (gives_field key hvalue) (gives_fields fields h.2)

end

theorem ofText?_of_spells {text : String} {json : Json} (h : Spells text json.tokens) :
    ofText? text = some json := by
  have hgives := gives_value json (Nat.le_refl _) ⟨0, json.tokens⟩ ⟨json.tokens.length, []⟩
    ⟨by simp, by simp⟩
  simp [ofText?, h.scan_eq, hgives]

@[simp] theorem ofText?_compact (json : Json) : ofText? json.compact = some json :=
  ofText?_of_spells (spells_compact json)

end Json
end SqlFront
