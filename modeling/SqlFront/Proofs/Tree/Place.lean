import SqlFront.Proofs.Tree.Alike

/-!
# SqlFront.Proofs.Tree.Place

A tree with one label left open.

* `Tree.Place.fill` puts a label in; two trees filled from one place differ in that label only.
* `exists_place`: trees alike whose labels in preorder differ at one index come from one place.
-/

namespace SqlFront

/-- An item of two lists put together is one of the first or one of the second. -/
theorem exists_of_append_eq {α : Type} {xs ys before after : List α} {x : α}
    (h : xs ++ ys = before ++ x :: after) :
    (∃ rest, before = xs ++ rest ∧ ys = rest ++ x :: after) ∨
      ∃ rest, xs = before ++ x :: rest ∧ after = rest ++ ys := by
  rcases List.append_eq_append_iff.mp h with ⟨rest, hbefore, hys⟩ | ⟨rest, hxs, hafter⟩
  · exact .inl ⟨rest, hbefore, hys⟩
  · cases rest with
    | nil => exact .inl ⟨[], by rw [hxs, List.append_nil, List.append_nil], hafter.symm⟩
    | cons y rest =>
      rw [List.cons_append, List.cons.injEq] at hafter
      obtain ⟨rfl, rfl⟩ := hafter
      exact .inr ⟨rest, hxs, rfl⟩

/-! ## Lists that agree apart from items of one kind

`L` relates the items of two lists. It keeps their kind, as the test `keep` tells it, and leaves the
items of the other kind as they are. -/

section Filter

variable {L : String → String → Prop} {keep : String → Bool} {xs ys : List String}

/-- Related labels are of one kind, and equal if they are not of the kind to keep. -/
def FixesOthers (keep : String → Bool) (L : String → String → Prop) : Prop :=
  ∀ x y, L x y → keep x = keep y ∧ (keep x = false → x = y)

theorem FixesOthers.eq_of_filter_eq (hL : FixesOthers keep L) (h : List.Forall₂ L xs ys)
    (heq : xs.filter keep = ys.filter keep) : xs = ys := by
  induction h with
  | nil => rfl
  | @cons x y xs ys hxy _ ih =>
    obtain ⟨hkeep, hfixed⟩ := hL x y hxy
    by_cases hx : keep x = true
    · rw [List.filter_cons_of_pos hx, List.filter_cons_of_pos (hkeep ▸ hx), List.cons.injEq] at heq
      rw [heq.1, ih heq.2]
    · have hy : ¬keep y = true := by rwa [← hkeep]
      rw [List.filter_cons_of_neg hx, List.filter_cons_of_neg hy] at heq
      rw [hfixed (Bool.eq_false_iff.mpr hx), ih heq]

theorem FixesOthers.exists_of_filter_eq (hL : FixesOthers keep L) (h : List.Forall₂ L xs ys)
    {before after : List String} {x y : String} (hx : xs.filter keep = before ++ x :: after)
    (hy : ys.filter keep = before ++ y :: after) :
    ∃ left right, xs = left ++ x :: right ∧ ys = left ++ y :: right ∧
      left.filter keep = before := by
  induction h generalizing before with
  | nil => simp at hx
  | @cons a b xs ys hab hrest ih =>
    obtain ⟨hkeep, hfixed⟩ := hL a b hab
    by_cases ha : keep a = true
    · rw [List.filter_cons_of_pos ha] at hx
      rw [List.filter_cons_of_pos (hkeep ▸ ha)] at hy
      cases before with
      | nil =>
        rw [List.nil_append, List.cons.injEq] at hx hy
        have hequal := hL.eq_of_filter_eq hrest (hx.2.trans hy.2.symm)
        exact ⟨[], ys, by rw [hx.1, hequal, List.nil_append], by rw [hy.1, List.nil_append], rfl⟩
      | cons c before =>
        rw [List.cons_append, List.cons.injEq] at hx hy
        obtain ⟨left, right, rfl, rfl, hleft⟩ := ih hx.2 hy.2
        refine ⟨a :: left, right, rfl, ?_, ?_⟩
        · rw [hx.1, hy.1, List.cons_append]
        · rw [List.filter_cons_of_pos ha, hleft, hx.1]
    · have hb : ¬keep b = true := by rwa [← hkeep]
      rw [List.filter_cons_of_neg ha] at hx
      rw [List.filter_cons_of_neg hb] at hy
      obtain ⟨left, right, rfl, rfl, hleft⟩ := ih hx hy
      refine ⟨a :: left, right, rfl, ?_, ?_⟩
      · rw [hfixed (Bool.eq_false_iff.mpr ha), List.cons_append]
      · rw [List.filter_cons_of_neg ha, hleft]

end Filter

namespace Tree

/-- A tree without the label of one node: of the root, or of a node below a child of it. -/
inductive Place where
  | root (kind : Option Kind) (children : List Tree)
  | child (label : String) (kind : Option Kind) (left : List Tree) (place : Place)
      (right : List Tree)

namespace Place

def fill (label : String) : Place → Tree
  | .root kind children => ⟨label, kind, children⟩
  | .child above kind left place right => ⟨above, kind, left ++ place.fill label :: right⟩

/-- The labels that come before the open one in preorder. -/
def before : Place → List String
  | .root _ _ => []
  | .child above _ left place _ => above :: (labelsAll left ++ place.before)

end Place

variable {L : String → String → Prop} {x y : String}

mutual

theorem Alike.exists_place : ∀ {s t : Tree} {before after : List String}, Alike L s t →
    s.labels = before ++ x :: after → t.labels = before ++ y :: after →
    ∃ place : Place, s = place.fill x ∧ t = place.fill y ∧ place.before = before
  | ⟨label, kind, children⟩, ⟨label', _, children'⟩, before, after, .node _ hchildren, hs, ht => by
    rw [labels] at hs ht
    cases before with
    | nil =>
      rw [List.nil_append, List.cons.injEq] at hs ht
      obtain ⟨rfl, hs⟩ := hs
      obtain ⟨rfl, ht⟩ := ht
      obtain rfl := eq_of_labelsAll hchildren (hs.trans ht.symm)
      exact ⟨.root kind children, rfl, rfl, rfl⟩
    | cons above before =>
      rw [List.cons_append, List.cons.injEq] at hs ht
      obtain ⟨left, place, right, hss, hts, hbefore⟩ := exists_place_all hchildren hs.2 ht.2
      refine ⟨.child above kind left place right, ?_, ?_, ?_⟩
      · rw [Place.fill, hs.1, hss]
      · rw [Place.fill, ht.1, hts]
      · rw [Place.before, hbefore]

theorem exists_place_all : ∀ {ss ts : List Tree} {before after : List String},
    List.Forall₂ (Alike L) ss ts →
    labelsAll ss = before ++ x :: after → labelsAll ts = before ++ y :: after →
    ∃ left place right, ss = left ++ Place.fill x place :: right ∧
      ts = left ++ Place.fill y place :: right ∧ labelsAll left ++ place.before = before
  | [], [], before, after, _, hs, _ => by simp [labelsAll] at hs
  | s :: ss, t :: ts, before, after, .cons htree htrees, hs, ht => by
    rw [labelsAll] at hs ht
    have hlength := htree.labels.length_eq
    rcases exists_of_append_eq hs with ⟨rest, rfl, hss⟩ | ⟨rest, hhead, rfl⟩
    · -- the open label comes after the first tree, which is the same on both sides
      rw [List.append_assoc] at ht
      obtain ⟨hhead, hts⟩ := List.append_inj ht hlength.symm
      obtain ⟨left, place, right, hss, hts, hbefore⟩ := exists_place_all htrees hss hts
      refine ⟨s :: left, place, right, ?_, ?_, ?_⟩
      · rw [hss, List.cons_append]
      · rw [← htree.eq_of_labels hhead.symm, hts, List.cons_append]
      · rw [← hbefore, labelsAll, List.append_assoc]
    · -- it is in the first tree, and the others are the same on both sides
      have hhead' : t.labels ++ labelsAll ts = (before ++ y :: rest) ++ labelsAll ss := by
        rw [ht, List.append_assoc, List.cons_append]
      have hlength' : t.labels.length = (before ++ y :: rest).length := by
        rw [← hlength, hhead]
        simp
      obtain ⟨hhead', htail⟩ := List.append_inj hhead' hlength'
      obtain ⟨place, hs, ht, hbefore⟩ := htree.exists_place hhead hhead'
      refine ⟨[], place, ss, ?_, ?_, ?_⟩
      · rw [List.nil_append, hs]
      · rw [List.nil_append, ht, eq_of_labelsAll htrees htail.symm]
      · exact hbefore

end

/-- It is enough that the labels of one kind differ at one index. -/
theorem Alike.exists_place_of_filter {keep : String → Bool} {s t : Tree}
    {before after : List String} (h : Alike L s t) (hL : FixesOthers keep L)
    (hs : s.labels.filter keep = before ++ x :: after)
    (ht : t.labels.filter keep = before ++ y :: after) :
    ∃ place : Place, s = place.fill x ∧ t = place.fill y ∧
      place.before.filter keep = before := by
  obtain ⟨left, right, hs, ht, hleft⟩ := hL.exists_of_filter_eq h.labels hs ht
  obtain ⟨place, rfl, rfl, rfl⟩ := h.exists_place hs ht
  exact ⟨place, rfl, rfl, hleft⟩

end Tree
end SqlFront
