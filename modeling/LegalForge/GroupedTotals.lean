import LegalForge.JoinedRows

/-! Sums of the groups of a query, and the shares that come of them: what the groups have in sum,
and where a share of all rows lies among those of the groups. -/
namespace LegalForge.Rows

variable {α β κ M : Type*}

section
variable [AddCommMonoid M] [DecidableEq κ] {f : α → M} {key : α → κ} {rows : List α}

/-- Every row is in one group. -/
theorem total_groupBy (f : α → M) (key : α → κ) (rows : List α) :
    total (fun g : κ × List α => total f g.2) (groupBy key rows) = total f rows := by
  have hall : rows.filter (fun r => key r ∈ (rows.map key).dedup) = rows := by
    apply List.filter_eq_self.mpr
    intro r hr
    exact decide_eq_true (List.mem_dedup.mpr (List.mem_map_of_mem hr))
  have hkeys := total_of_keys f key (List.nodup_dedup (rows.map key)) rows
  rw [groupBy, total_map]
  refine hkeys.trans ?_
  rw [hall]

/-- The groups whose keys satisfy `p` hold the rows whose keys do. -/
theorem total_groupBy_filter (f : α → M) (key : α → κ) (p : κ → Bool) (rows : List α) :
    total (fun g : κ × List α => total f g.2) ((groupBy key rows).filter fun g => p g.1) =
      total f (rows.filter fun r => p (key r)) := by
  have hgroup : ∀ g ∈ groupBy key rows,
      (if p g.1 then total f g.2 else 0) = total (fun r => if p (key r) then f r else 0) g.2 := by
    intro g hg
    obtain ⟨-, hrows⟩ := mem_groupBy.mp hg
    have hkey : ∀ r ∈ g.2, key r = g.1 := by
      intro r hr
      rw [hrows] at hr
      exact of_decide_eq_true (List.mem_filter.mp hr).2
    cases hp : p g.1 with
    | true => exact total_congr fun r hr => by rw [hkey r hr, hp]; rfl
    | false =>
      have hzero : total (fun r => if p (key r) then f r else 0) g.2 = total (fun _ => 0) g.2 :=
        total_congr fun r hr => by rw [hkey r hr, hp]; rfl
      rw [hzero, total_zero]
      rfl
  rw [total_filter, total_congr hgroup, total_groupBy, total_filter]

/-- A join with the table of a foreign key repeats no row and loses none. -/
theorem total_join_key {ys : List β} {keyOf : β → κ} (hnodup : (ys.map keyOf).Nodup)
    (hforeign : ∀ r ∈ rows, key r ∈ ys.map keyOf) :
    total (fun r : α × β => f r.1) (join (fun x y => key x = keyOf y) rows ys) = total f rows := by
  rw [total_join]
  apply total_congr
  intro r hr
  rw [total_filter]
  refine Eq.trans ?_ (total_ite_key hnodup (hforeign r hr) (f r))
  apply total_congr
  exact fun y _ => if_congr (decide_eq_true_iff.trans eq_comm) rfl rfl

end

theorem intCast_total (f : α → ℤ) (rows : List α) :
    ((total f rows : ℤ) : ℚ) = total (fun r => (f r : ℚ)) rows := by
  induction rows with
  | nil => exact Int.cast_zero
  | cons r rows ih => rw [total_cons, total_cons, Int.cast_add, ih]

/-- The order of the rows does not matter to a sum. -/
theorem total_perm [AddCommMonoid M] {f : α → M} {rows others : List α} (h : rows.Perm others) :
    total f rows = total f others :=
  (h.map f).sum_eq

section
variable {K : Type*} [Field K] [LinearOrder K] [IsStrictOrderedRing K]
  {part whole : α → K} {rows : List α}

theorem total_pos (hpos : ∀ r ∈ rows, 0 < whole r) (hne : rows ≠ []) : 0 < total whole rows :=
  List.sum_pos _ (fun x hx => by
    obtain ⟨r, hr, rfl⟩ := List.mem_map.mp hx
    exact hpos r hr) fun hnil => hne (List.map_eq_nil_iff.mp hnil)

theorem total_lt_total {f g : α → K} (h : ∀ r ∈ rows, f r < g r) (hne : rows ≠ []) :
    total f rows < total g rows := by
  obtain ⟨r, hr⟩ := List.exists_mem_of_ne_nil rows hne
  exact List.sum_lt_sum f g (fun x hx => (h x hx).le) ⟨r, hr, h r hr⟩

omit [LinearOrder K] [IsStrictOrderedRing K] in
theorem total_mul_left (c : K) (f : α → K) (rows : List α) :
    total (fun r => c*f r) rows = c*total f rows :=
  List.sum_map_mul_left ..

/-- The share of all rows is not below that of every row. -/
theorem exists_share_le (hpos : ∀ r ∈ rows, 0 < whole r) (hne : rows ≠ []) :
    ∃ r ∈ rows, part r/whole r ≤ total part rows/total whole rows := by
  by_contra hall
  push Not at hall
  have hwhole : 0 < total whole rows := total_pos hpos hne
  have hparts : ∀ r ∈ rows, total part rows/total whole rows*whole r < part r := by
    intro r hr
    exact (lt_div_iff₀ (hpos r hr)).mp (hall r hr)
  have hlt := total_lt_total hparts hne
  rw [total_mul_left, div_mul_cancel₀ _ hwhole.ne'] at hlt
  exact lt_irrefl _ hlt

theorem exists_le_share (hpos : ∀ r ∈ rows, 0 < whole r) (hne : rows ≠ []) :
    ∃ r ∈ rows, total part rows/total whole rows ≤ part r/whole r := by
  have hshare : ∃ r ∈ rows, -part r/whole r ≤ total (fun r => -part r) rows/total whole rows :=
    exists_share_le hpos hne
  obtain ⟨r, hr, hle⟩ := hshare
  refine ⟨r, hr, ?_⟩
  have hneg : total (fun r => -part r) rows = -total part rows := by
    rw [← neg_one_mul, ← total_mul_left]
    exact total_congr fun r _ => (neg_one_mul _).symm
  rw [hneg, neg_div, neg_div] at hle
  exact neg_le_neg_iff.mp hle

end

end LegalForge.Rows
