import Mathlib

/-! Relations without cycles, and what adding pairs does to them. -/
namespace LegalForge.Acyclicity
open Relation

variable {α β : Type*} {r s : α → α → Prop} {a b x y : α}

/-- No node is reached from itself. -/
def Acyclic (r : α → α → Prop) : Prop :=
  ∀ x, ¬TransGen r x x

theorem Acyclic.mono (h : ∀ x y, r x y → s x y) (hs : Acyclic s) : Acyclic r :=
  fun x hx => hs x (TransGen.mono h x x hx)

theorem acyclic_congr (h : ∀ x y, r x y ↔ s x y) : Acyclic r ↔ Acyclic s :=
  ⟨Acyclic.mono fun x y => (h x y).mpr, Acyclic.mono fun x y => (h x y).mp⟩

/-- The relation with one more pair. -/
def withEdge (r : α → α → Prop) (a b : α) (x y : α) : Prop :=
  r x y ∨ (x = a ∧ y = b)

theorem transGen_withEdge (h : TransGen (withEdge r a b) x y) :
    TransGen r x y ∨ (ReflTransGen r x a ∧ ReflTransGen r b y) := by
  induction h with
  | single h =>
    rcases h with h | ⟨rfl, rfl⟩
    · exact Or.inl (.single h)
    · exact Or.inr ⟨.refl, .refl⟩
  | tail _ h ih =>
    rcases h with h | ⟨rfl, rfl⟩
    · rcases ih with ih | ⟨hxa, hby⟩
      · exact Or.inl (ih.tail h)
      · exact Or.inr ⟨hxa, hby.tail h⟩
    · rcases ih with ih | ⟨hxa, -⟩
      · exact Or.inr ⟨ih.to_reflTransGen, .refl⟩
      · exact Or.inr ⟨hxa, .refl⟩

/-- A new pair closes a cycle exactly when its start is reached from its end. -/
theorem acyclic_withEdge_iff (h : Acyclic r) : Acyclic (withEdge r a b) ↔ ¬ReflTransGen r b a := by
  constructor
  · intro hacyclic hback
    have hedge : withEdge r a b a b := Or.inr ⟨rfl, rfl⟩
    have hback' : ReflTransGen (withEdge r a b) b a := ReflTransGen.mono (fun _ _ => Or.inl) b a hback
    exact hacyclic a (TransGen.head' hedge hback')
  · intro hback x hx
    rcases transGen_withEdge hx with hx | ⟨hxa, hbx⟩
    · exact h x hx
    · exact hback (hbx.trans hxa)

/-- Two relations on disjoint sets of nodes. -/
theorem acyclic_or_iff {p : α → Prop} (hr : ∀ x y, r x y → p x ∧ p y)
    (hs : ∀ x y, s x y → ¬p x ∧ ¬p y) :
    Acyclic (fun x y => r x y ∨ s x y) ↔ Acyclic r ∧ Acyclic s := by
  constructor
  · intro h
    exact ⟨h.mono fun _ _ => Or.inl, h.mono fun _ _ => Or.inr⟩
  · rintro ⟨hacyclic, hacyclic'⟩ x hx
    have hsplit : ∀ y, TransGen (fun x y => r x y ∨ s x y) x y →
        (TransGen r x y ∧ p y) ∨ (TransGen s x y ∧ ¬p y) := by
      intro y hy
      induction hy with
      | single h =>
        rcases h with h | h
        · exact Or.inl ⟨.single h, (hr _ _ h).2⟩
        · exact Or.inr ⟨.single h, (hs _ _ h).2⟩
      | tail _ h ih =>
        rcases ih with ⟨hpath, hp⟩ | ⟨hpath, hp⟩
        · rcases h with h | h
          · exact Or.inl ⟨hpath.tail h, (hr _ _ h).2⟩
          · exact absurd hp (hs _ _ h).1
        · rcases h with h | h
          · exact absurd (hr _ _ h).1 hp
          · exact Or.inr ⟨hpath.tail h, (hs _ _ h).2⟩
    rcases hsplit x hx with ⟨hx, -⟩ | ⟨hx, -⟩
    · exact hacyclic x hx
    · exact hacyclic' x hx

/-- Naming the nodes anew does not make a cycle if different nodes keep different names. -/
theorem acyclic_map_iff {t : β → β → Prop} {f : β → α} {nodes : Set β} (hinj : Set.InjOn f nodes)
    (hnodes : ∀ a b, t a b → a ∈ nodes ∧ b ∈ nodes) : Acyclic (Relation.Map t f f) ↔ Acyclic t := by
  constructor
  · intro h a ha
    have hmap : ∀ a b, t a b → Relation.Map t f f (f a) (f b) := fun a b hab => ⟨a, b, hab, rfl, rfl⟩
    exact h (f a) (TransGen.lift f hmap a a ha)
  · intro h x hx
    have hlift : ∀ y, TransGen (Relation.Map t f f) x y →
        ∃ a b, f a = x ∧ f b = y ∧ a ∈ nodes ∧ b ∈ nodes ∧ TransGen t a b := by
      intro y hy
      induction hy with
      | single h =>
        obtain ⟨a, b, hab, rfl, rfl⟩ := h
        exact ⟨a, b, rfl, rfl, (hnodes a b hab).1, (hnodes a b hab).2, .single hab⟩
      | tail _ h ih =>
        obtain ⟨a, b, ha, hb, hma, hmb, hpath⟩ := ih
        obtain ⟨b', c, hbc, hb', rfl⟩ := h
        obtain rfl := hinj (hnodes b' c hbc).1 hmb (hb'.trans hb.symm)
        exact ⟨a, c, ha, rfl, hma, (hnodes b' c hbc).2, hpath.tail hbc⟩
    obtain ⟨a, b, ha, hb, hma, hmb, hpath⟩ := hlift x hx
    obtain rfl := hinj hma hmb (ha.trans hb.symm)
    exact h a hpath

end LegalForge.Acyclicity
