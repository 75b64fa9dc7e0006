import Mathlib

/-! Texts of fields between separators, and rows that a mark of two letters ends. Nothing is
escaped, so a field comes back only if it holds no delimiter. -/
namespace LegalForge.Delimited

variable {α : Type*} [DecidableEq α] {sep : α}

/-- `sep.join(fields)` -/
def join (sep : α) (fields : List (List α)) : List α :=
  [sep].intercalate fields

omit [DecidableEq α] in
theorem join_cons {field : List α} {fields : List (List α)} (h : fields ≠ []) :
    join sep (field :: fields) = field++sep :: join sep fields := by
  rw [join, List.intercalate_cons_of_ne_nil h]
  simp [join]

omit [DecidableEq α] in
/-- A separator after the last field is one before an empty field. -/
theorem join_concat_nil {fields : List (List α)} (h : fields ≠ []) :
    join sep (fields++[[]]) = join sep fields++[sep] := by
  induction fields with
  | nil => exact absurd rfl h
  | cons field fields ih =>
    cases hrest : fields with
    | nil => simp [join]
    | cons next rest =>
      rw [hrest] at ih
      have hne : next :: rest ≠ [] := List.cons_ne_nil _ _
      rw [List.cons_append, join_cons (by simp), ih hne, join_cons hne, List.append_assoc,
        List.cons_append]

/-- The split undoes the join up to the separators inside the fields. -/
theorem splitOn_join {fields : List (List α)} (h : fields ≠ []) :
    (join sep fields).splitOn sep = fields.flatMap (List.splitOn sep) := by
  induction fields with
  | nil => exact absurd rfl h
  | cons field fields ih =>
    cases hrest : fields with
    | nil => simp [join]
    | cons next rest =>
      have hne : next :: rest ≠ [] := List.cons_ne_nil _ _
      rw [hrest] at ih
      rw [join_cons hne, List.splitOn_append_cons_self, ih hne, List.flatMap_cons (x := field)]

theorem length_splitOn (l : List α) : (l.splitOn sep).length = l.count sep+1 := by
  induction l with
  | nil => simp
  | cons x l ih =>
    rw [List.splitOn_cons_eq_if_modifyHead, List.count_cons]
    by_cases h : x = sep
    · simp [h, ih]
    · simp [h, ih]

/-- The pieces are as many as the fields only if the separator is in none of them. -/
theorem length_splitOn_join_iff {fields : List (List α)} (h : fields ≠ []) :
    ((join sep fields).splitOn sep).length = fields.length ↔ ∀ field ∈ fields, sep ∉ field := by
  have hsum : ∀ fs : List (List α), (fs.flatMap (List.splitOn sep)).length =
      (fs.map (List.count sep)).sum+fs.length := by
    intro fs
    induction fs with
    | nil => rfl
    | cons field fs ih =>
      rw [List.flatMap_cons, List.length_append, ih, length_splitOn]
      simp only [List.map_cons, List.sum_cons, List.length_cons]
      omega
  rw [splitOn_join h, hsum]
  constructor
  · intro heq field hfield
    have hzero : (fields.map (List.count sep)).sum = 0 := by omega
    have hcount := List.sum_eq_zero_iff.mp hzero _ (List.mem_map_of_mem hfield)
    exact List.count_eq_zero.mp hcount
  · intro hclean
    have hzero : (fields.map (List.count sep)).sum = 0 := by
      apply List.sum_eq_zero
      intro n hn
      obtain ⟨field, hfield, rfl⟩ := List.mem_map.mp hn
      exact List.count_eq_zero.mpr (hclean field hfield)
    omega

theorem splitOn_join_of_clean {fields : List (List α)} (h : fields ≠ [])
    (hclean : ∀ field ∈ fields, sep ∉ field) : (join sep fields).splitOn sep = fields :=
  List.splitOn_intercalate sep hclean h

omit [DecidableEq α] in
theorem mem_join_iff {x : α} {fields : List (List α)} (hx : x ≠ sep) :
    x ∈ join sep fields ↔ ∃ field ∈ fields, x ∈ field := by
  induction fields with
  | nil => simp [join]
  | cons field fields ih =>
    cases hrest : fields with
    | nil => simp [join]
    | cons next rest =>
      rw [hrest] at ih
      rw [join_cons (List.cons_ne_nil _ _), List.mem_append, List.mem_cons, ih]
      simp [hx]

/-! Other fields with the same text. -/

theorem append_cons_inj {xs ys xs' ys' : List α} (hcount : xs.count sep = ys.count sep)
    (h : xs++sep :: xs' = ys++sep :: ys') : xs = ys ∧ xs' = ys' := by
  induction xs generalizing ys with
  | nil =>
    cases ys with
    | nil => exact ⟨rfl, (List.cons.inj h).2⟩
    | cons y ys =>
      have hy : sep = y := (List.cons.inj h).1
      rw [← hy, List.count_nil, List.count_cons_self] at hcount
      omega
  | cons x xs ih =>
    cases ys with
    | nil =>
      have hx : x = sep := (List.cons.inj h).1
      rw [hx, List.count_nil, List.count_cons_self] at hcount
      omega
    | cons y ys =>
      obtain ⟨rfl, htail⟩ := List.cons.inj h
      have hrest : xs.count sep = ys.count sep := by
        rw [List.count_cons, List.count_cons] at hcount
        omega
      obtain ⟨rfl, rfl⟩ := ih hrest htail
      exact ⟨rfl, rfl⟩

/-- The text tells the fields if one knows how often the separator is in each. -/
theorem eq_of_join_eq {fields others : List (List α)}
    (hcounts : fields.map (List.count sep) = others.map (List.count sep))
    (h : join sep fields = join sep others) : fields = others := by
  induction fields generalizing others with
  | nil => exact (List.map_eq_nil_iff.mp hcounts.symm).symm
  | cons field fields ih =>
    cases others with
    | nil => cases hcounts
    | cons other others =>
      obtain ⟨hcount, hrest⟩ := List.cons.inj hcounts
      have hlength : fields.length = others.length := by
        simpa only [List.length_map] using congrArg List.length hrest
      cases hfields : fields with
      | nil =>
        rw [hfields] at hlength h
        rw [List.length_eq_zero_iff.mp hlength.symm] at h ⊢
        simpa [join] using h
      | cons next more =>
        have hne : fields ≠ [] := hfields ▸ List.cons_ne_nil _ _
        have hne' : others ≠ [] := by
          intro hnil
          rw [hnil, List.length_nil] at hlength
          exact hne (List.length_eq_zero_iff.mp hlength)
        rw [join_cons hne, join_cons hne'] at h
        obtain ⟨rfl, htail⟩ := append_cons_inj hcount h
        rw [← hfields, ih hrest htail]

omit [DecidableEq α] in
theorem join_append (xs ys : List α) (fields : List (List α)) :
    join sep ((xs++ys) :: fields) = xs++join sep (ys :: fields) := by
  cases fields with
  | nil => simp [join]
  | cons field fields =>
    rw [join_cons (List.cons_ne_nil _ _), join_cons (List.cons_ne_nil _ _), List.append_assoc]

omit [DecidableEq α] in
/-- A separator within a field may as well stand between two fields. -/
theorem join_shift (xs ys next : List α) (fields : List (List α)) :
    join sep ((xs++sep :: ys) :: next :: fields) = join sep (xs :: (ys++sep :: next) :: fields) := by
  have hlast : join sep ((sep :: next) :: fields) = sep :: join sep (next :: fields) :=
    join_append [sep] next fields
  calc join sep ((xs++sep :: ys) :: next :: fields)
      = (xs++sep :: ys)++sep :: join sep (next :: fields) := join_cons (List.cons_ne_nil _ _)
    _ = xs++sep :: (ys++join sep ((sep :: next) :: fields)) := by
        rw [hlast, List.append_assoc, List.cons_append]
    _ = xs++sep :: join sep ((ys++sep :: next) :: fields) := by rw [join_append]
    _ = join sep (xs :: (ys++sep :: next) :: fields) := (join_cons (List.cons_ne_nil _ _)).symm

omit [DecidableEq α] in
theorem shift_ne (xs ys next : List α) (fields : List (List α)) :
    (xs++sep :: ys) :: next :: fields ≠ xs :: (ys++sep :: next) :: fields := by
  intro heq
  have hsame := congrArg List.length (List.cons.inj heq).1
  rw [List.length_append, List.length_cons] at hsame
  omega

theorem exists_join_eq {fields : List (List α)} (hlength : 2 ≤ fields.length)
    (h : ∃ field ∈ fields, sep ∈ field) : ∃ others : List (List α),
      others.length = fields.length ∧ others ≠ fields ∧ join sep others = join sep fields := by
  induction fields with
  | nil => cases hlength
  | cons field fields ih =>
    cases hfields : fields with
    | nil =>
      rw [hfields] at hlength
      simp at hlength
    | cons next rest =>
      by_cases hfield : sep ∈ field
      · -- the field ends at a separator, and the next one begins there
        obtain ⟨xs, ys, rfl⟩ := List.append_of_mem hfield
        exact ⟨xs :: (ys++sep :: next) :: rest, rfl, (shift_ne xs ys next rest).symm,
          (join_shift xs ys next rest).symm⟩
      · have hrest : ∃ field ∈ fields, sep ∈ field := by
          obtain ⟨other, hmem, hsep⟩ := h
          have hne : other ≠ field := fun heq => hfield (heq ▸ hsep)
          exact ⟨other, (List.mem_cons.mp hmem).resolve_left hne, hsep⟩
        cases rest with
        | nil =>
          -- the last of two fields: the first one takes what is before the separator
          rw [hfields] at hrest
          obtain ⟨other, hmem, hsep⟩ := hrest
          rw [List.mem_singleton.mp hmem] at hsep
          obtain ⟨xs, ys, rfl⟩ := List.append_of_mem hsep
          exact ⟨[field++sep :: xs, ys], rfl, shift_ne field xs ys [], join_shift field xs ys []⟩
        | cons last more =>
          have htwo : 2 ≤ fields.length := by
            rw [hfields]
            simp
          obtain ⟨others, hlen, hne, hjoin⟩ := ih htwo hrest
          have hnonempty : fields ≠ [] := hfields ▸ List.cons_ne_nil _ _
          have hothers : others ≠ [] := by
            intro hnil
            rw [hnil, hfields] at hlen
            cases hlen
          rw [← hfields]
          refine ⟨field :: others, by rw [List.length_cons, List.length_cons, hlen], ?_, ?_⟩
          · exact fun heq => hne (List.cons.inj heq).2
          · rw [join_cons hothers, join_cons hnonempty, hjoin]

/-- No other fields have the same text only if the separator is in none. -/
theorem join_unique_iff {fields : List (List α)} (hlength : 2 ≤ fields.length) :
    (∀ others : List (List α), others.length = fields.length →
        join sep others = join sep fields → others = fields) ↔ ∀ field ∈ fields, sep ∉ field := by
  constructor
  · intro hunique field hfield hsep
    obtain ⟨others, hlen, hne, hjoin⟩ := exists_join_eq hlength ⟨field, hfield, hsep⟩
    exact hne (hunique others hlen hjoin)
  · intro hclean others hlen hjoin
    have hfields : fields ≠ [] := by
      rintro rfl
      cases hlength
    have hothers : others ≠ [] := by
      rintro rfl
      exact hfields (List.length_eq_zero_iff.mp hlen.symm)
    have hcount := (length_splitOn_join_iff hfields).mpr hclean
    rw [← hjoin, ← hlen] at hcount
    have hclean' := (length_splitOn_join_iff hothers).mp hcount
    rw [← splitOn_join_of_clean hothers hclean', hjoin, splitOn_join_of_clean hfields hclean]

/-! A mark of two letters that ends a row. -/

variable {a b : α}

omit [DecidableEq α] in
theorem pair_infix_cons_iff {x : α} {l : List α} :
    [a, b] <:+: x :: l ↔ (a = x ∧ l.head? = some b) ∨ [a, b] <:+: l := by
  rw [List.infix_cons_iff, List.cons_prefix_cons, List.singleton_prefix_iff_head?_eq_some]

omit [DecidableEq α] in
/-- Rewriting other letters makes no mark. -/
theorem pair_infix_map_iff {f : α → α} (ha : ∀ x, f x = a ↔ x = a) (hb : ∀ x, f x = b ↔ x = b)
    {l : List α} : [a, b] <:+: l.map f ↔ [a, b] <:+: l := by
  induction l with
  | nil => simp
  | cons x l ih =>
    rw [List.map_cons, pair_infix_cons_iff, pair_infix_cons_iff, ih, eq_comm, ha, eq_comm (a := x),
      List.head?_map, Option.map_eq_some_iff]
    simp only [hb, exists_eq_right]

omit [DecidableEq α] in
/-- A mark does not reach over a separator. -/
theorem pair_infix_append_cons_iff (ha : a ≠ sep) (hb : b ≠ sep) {xs ys : List α} :
    [a, b] <:+: xs++sep :: ys ↔ [a, b] <:+: xs ∨ [a, b] <:+: ys := by
  induction xs with
  | nil =>
    rw [List.nil_append, pair_infix_cons_iff]
    simp [ha]
  | cons x xs ih =>
    rw [List.cons_append, pair_infix_cons_iff, pair_infix_cons_iff, ih, or_assoc]
    cases xs with
    | nil => simp [hb.symm]
    | cons y xs => simp

omit [DecidableEq α] in
/-- A mark inside a joined row is inside one of its fields. -/
theorem pair_infix_join_iff (ha : a ≠ sep) (hb : b ≠ sep) {fields : List (List α)} :
    [a, b] <:+: join sep fields ↔ ∃ field ∈ fields, [a, b] <:+: field := by
  induction fields with
  | nil => simp [join]
  | cons field fields ih =>
    cases hrest : fields with
    | nil => simp [join]
    | cons next rest =>
      rw [hrest] at ih
      rw [join_cons (List.cons_ne_nil _ _), pair_infix_append_cons_iff ha hb, ih]
      simp

/-- The letters before the first mark, if nothing follows it. -/
def cutEnd (a b : α) : List α → Option (List α)
  | x :: y :: rest =>
    if x = a ∧ y = b then (if rest = [] then some [] else none)
    else (cutEnd a b (y :: rest)).map (x :: ·)
  | _ => none

/-- A marked row ends where it should exactly if no other mark is before. -/
theorem cutEnd_append_iff (hab : a ≠ b) {body out : List α} :
    cutEnd a b (body++[a, b]) = some out ↔ ¬[a, b] <:+: body ∧ out = body := by
  induction body generalizing out with
  | nil =>
    have hnone : ¬[a, b] <:+: ([] : List α) := by simp
    simp only [List.nil_append, cutEnd, and_self, if_true, Option.some.injEq]
    rw [and_iff_right hnone, eq_comm]
  | cons x body ih =>
    rw [pair_infix_cons_iff]
    obtain ⟨y, rest, hbody⟩ : ∃ y rest, body++[a, b] = y :: rest := by
      cases body with
      | nil => exact ⟨a, [b], rfl⟩
      | cons y body => exact ⟨y, body++[a, b], rfl⟩
    have hhead : y = b ↔ body.head? = some b := by
      cases body with
      | nil =>
        obtain ⟨rfl, -⟩ := List.cons.inj hbody
        simp [hab]
      | cons z body =>
        obtain ⟨rfl, -⟩ := List.cons.inj hbody
        simp
    have hrest : rest ≠ [] := by
      intro hnil
      have hlen := congrArg List.length hbody
      rw [hnil] at hlen
      simp at hlen
    rw [hbody] at ih
    rw [List.cons_append, hbody, cutEnd, ← hhead]
    by_cases hmark : x = a ∧ y = b
    · -- the mark is met at the front
      rw [if_pos hmark, if_neg hrest]
      simp [hmark.1, hmark.2]
    · rw [if_neg hmark, Option.map_eq_some_iff]
      have hfront : ¬(a = x ∧ y = b) := fun h => hmark ⟨h.1.symm, h.2⟩
      constructor
      · rintro ⟨tail, htail, rfl⟩
        obtain ⟨hclean, rfl⟩ := ih.mp htail
        exact ⟨fun h => h.elim hfront hclean, rfl⟩
      · rintro ⟨hclean, rfl⟩
        exact ⟨body, ih.mpr ⟨fun h => hclean (Or.inr h), rfl⟩, rfl⟩

/-! Rows of fields. -/

/-- One row as it is written. -/
def renderRow (sep a b : α) (fields : List (List α)) : List α :=
  join sep fields++[a, b]

/-- The fields of a row of given width. -/
def parseRow (sep a b : α) (width : ℕ) (line : List α) : Option (List (List α)) :=
  (cutEnd a b line).bind fun body =>
    if (body.splitOn sep).length = width then some (body.splitOn sep) else none

/-- The field contains no delimiter of its row. -/
def Clean (sep a b : α) (field : List α) : Prop :=
  sep ∉ field ∧ ¬[a, b] <:+: field

theorem parseRow_renderRow_iff (hab : a ≠ b) (ha : a ≠ sep) (hb : b ≠ sep)
    {fields out : List (List α)} (hne : fields ≠ []) :
    parseRow sep a b fields.length (renderRow sep a b fields) = some out ↔
      (∀ field ∈ fields, Clean sep a b field) ∧ out = fields := by
  unfold parseRow renderRow
  rw [Option.bind_eq_some_iff]
  constructor
  · rintro ⟨body, hbody, hout⟩
    obtain ⟨hmark, rfl⟩ := (cutEnd_append_iff hab).mp hbody
    split_ifs at hout with hlen
    have hsep := (length_splitOn_join_iff hne).mp hlen
    rw [splitOn_join_of_clean hne hsep] at hout
    refine ⟨fun field hfield => ⟨hsep field hfield, ?_⟩, (Option.some.inj hout).symm⟩
    exact fun h => hmark ((pair_infix_join_iff ha hb).mpr ⟨field, hfield, h⟩)
  · rintro ⟨hclean, rfl⟩
    have hsplit := splitOn_join_of_clean hne fun field hfield => (hclean field hfield).1
    refine ⟨join sep out, (cutEnd_append_iff hab).mpr ⟨?_, rfl⟩, ?_⟩
    · intro h
      obtain ⟨field, hfield, hmark⟩ := (pair_infix_join_iff ha hb).mp h
      exact (hclean field hfield).2 hmark
    · rw [hsplit, if_pos rfl]

omit [DecidableEq α] in
/-- A letter that is no delimiter is in a written row only if it is in a field. -/
theorem mem_renderRow_iff {x : α} (ha : x ≠ a) (hb : x ≠ b) (hx : x ≠ sep)
    {fields : List (List α)} :
    x ∈ renderRow sep a b fields ↔ ∃ field ∈ fields, x ∈ field := by
  rw [renderRow, List.mem_append, mem_join_iff hx]
  simp [ha, hb]

/-! Files of rows that are read one after the other. -/

theorem mapM_eq_some_iff {β γ : Type*} {f : β → Option γ} {xs : List β} {ys : List γ} :
    xs.mapM f = some ys ↔ List.Forall₂ (fun x y => f x = some y) xs ys := by
  induction xs generalizing ys with
  | nil => simp [eq_comm]
  | cons x xs ih =>
    rw [List.mapM_cons, Option.bind_eq_bind, Option.bind_eq_some_iff, List.forall₂_cons_left_iff]
    constructor
    · rintro ⟨y, hy, hrest⟩
      obtain ⟨ys', hys', hcons⟩ := Option.bind_eq_some_iff.mp hrest
      exact ⟨y, ys', hy, ih.mp hys', (Option.some.inj hcons).symm⟩
    · rintro ⟨y, ys', hy, hys', rfl⟩
      exact ⟨y, hy, Option.bind_eq_some_iff.mpr ⟨ys', ih.mpr hys', rfl⟩⟩

theorem forall₂_and_iff {β γ : Type*} {R S : β → γ → Prop} {xs : List β} {ys : List γ} :
    List.Forall₂ (fun x y => R x y ∧ S x y) xs ys ↔ List.Forall₂ R xs ys ∧ List.Forall₂ S xs ys := by
  simp only [List.forall₂_iff_zip]
  constructor
  · rintro ⟨hlen, h⟩
    exact ⟨⟨hlen, fun hmem => (h hmem).1⟩, hlen, fun hmem => (h hmem).2⟩
  · rintro ⟨⟨hlen, hR⟩, -, hS⟩
    exact ⟨hlen, fun hmem => ⟨hR hmem, hS hmem⟩⟩

/-- A list of results, one for each element. -/
theorem exists_forall₂_iff {β γ : Type*} {R : β → γ → Prop} {xs : List β} :
    (∃ ys, List.Forall₂ R xs ys) ↔ ∀ x ∈ xs, ∃ y, R x y := by
  induction xs with
  | nil => simp
  | cons x xs ih =>
    rw [List.forall_mem_cons, ← ih]
    constructor
    · rintro ⟨_, h⟩
      obtain ⟨y, ys, hy, hys, rfl⟩ := List.forall₂_cons_left_iff.mp h
      exact ⟨⟨y, hy⟩, ys, hys⟩
    · rintro ⟨⟨y, hy⟩, ys, hys⟩
      exact ⟨y :: ys, List.Forall₂.cons hy hys⟩

end LegalForge.Delimited
