import LegalForge.KeyedTable

/-! Tables no two rows of which clash. -/
namespace LegalForge.Table

variable {α κ : Type*} {key : α → κ} {clash : α → α → Prop}

/-- Rows with different keys do not clash. -/
def ConflictFree (key : α → κ) (clash : α → α → Prop) (rows : List α) : Prop :=
  ∀ x ∈ rows, ∀ y ∈ rows, key x ≠ key y → ¬clash x y

theorem ConflictFree.nil : ConflictFree key clash [] := by
  intro x hx
  cases hx

theorem ConflictFree.of_subset {rows rows' : List α} (h : ConflictFree key clash rows)
    (hsub : rows' ⊆ rows) : ConflictFree key clash rows' :=
  fun x hx y hy => h x (hsub hx) y (hsub hy)

/-- To add rows of one key, compare them with those of the other keys. -/
theorem ConflictFree.add [Std.Symm clash] {rows rows' : List α} {k : κ}
    (h : ConflictFree key clash rows) (hrows : ∀ x ∈ rows', key x ≠ k → x ∈ rows)
    (hnew : ∀ x ∈ rows', key x = k → ∀ y ∈ rows', key y ≠ k → ¬clash x y) :
    ConflictFree key clash rows' := by
  intro x hx y hy hne
  by_cases hxk : key x = k
  · have hyk : key y ≠ k := fun hyk => hne (hxk.trans hyk.symm)
    exact hnew x hx hxk y hy hyk
  · by_cases hyk : key y = k
    · exact fun hclash => hnew y hy hyk x hx hxk (Std.Symm.symm x y hclash)
    · exact h x (hrows x hx hxk) y (hrows y hy hyk) hne

theorem ConflictFree.append_singleton [Std.Symm clash] {rows : List α} {row : α}
    (h : ConflictFree key clash rows) (hfresh : ∀ x ∈ rows, key x ≠ key row)
    (hrow : ∀ x ∈ rows, ¬clash row x) : ConflictFree key clash (rows++[row]) := by
  have hmem {x : α} (hx : x ∈ rows++[row]) : x ∈ rows ∨ x = row := by
    rwa [List.mem_append, List.mem_singleton] at hx
  refine h.add (k := key row) ?_ ?_
  · intro x hx hne
    rcases hmem hx with hold | rfl
    · exact hold
    · exact absurd rfl hne
  · intro x hx hkey y hy hne
    rcases hmem hy with hyold | rfl
    · rcases hmem hx with hxold | rfl
      · exact absurd hkey (hfresh x hxold)
      · exact hrow y hyold
    · exact absurd rfl hne

theorem ConflictFree.alter [DecidableEq κ] [Std.Symm clash] {rows : List α} {row : α}
    (h : ConflictFree key clash rows) (hrow : ∀ x ∈ rows, key x ≠ key row → ¬clash row x) :
    ConflictFree key clash (alter key (key row) (fun _ => row) rows) := by
  have hmem {x : α} (hx : x ∈ Table.alter key (key row) (fun _ => row) rows) :
      x = row ∨ x ∈ rows ∧ key x ≠ key row := by
    obtain ⟨y, hy, rfl⟩ := mem_alter.mp hx
    split_ifs with hkey
    · exact Or.inl rfl
    · exact Or.inr ⟨hy, hkey⟩
  refine h.add (k := key row) ?_ ?_
  · intro x hx hne
    rcases hmem hx with rfl | ⟨hold, -⟩
    · exact absurd rfl hne
    · exact hold
  · intro x hx hkey y hy hne
    rcases hmem hx with rfl | ⟨-, hxne⟩
    · rcases hmem hy with rfl | ⟨hyold, -⟩
      · exact absurd rfl hne
      · exact hrow y hyold hne
    · exact absurd hkey hxne

end LegalForge.Table
