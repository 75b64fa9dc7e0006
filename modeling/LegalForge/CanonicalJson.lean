import LegalForge.JsonRoundTrip

/-! JSON with its dictionaries in the order of their keys, as `sort_keys` writes it. Two values
have one such text when they differ in the order of their fields alone. -/
namespace LegalForge.JsonText

variable {v w : Value}

/-- Fields in the order of the code points of their keys. -/
def fieldLe (f g : Str × Value) : Bool :=
  decide (f.1 ≤ g.1)

mutual

/-- The value with the fields of every dictionary in order. -/
def sortKeys : Value → Value
  | .null => .null
  | .bool b => .bool b
  | .num text => .num text
  | .str s => .str s
  | .arr items => .arr (sortItems items)
  | .obj fields => .obj ((sortFields fields).mergeSort fieldLe)

def sortItems : List Value → List Value
  | [] => []
  | v :: items => sortKeys v :: sortItems items

def sortFields : List (Str × Value) → List (Str × Value)
  | [] => []
  | (key, v) :: fields => (key, sortKeys v) :: sortFields fields

end

/-- `json.dumps(value, sort_keys=True)` -/
def dumpsSorted (v : Value) : String :=
  dumps (sortKeys v)

mutual

/-- One value up to the order of the fields. Dictionaries agree when they have equally many
fields, and each of the first has its partner in the second. -/
def SameUpToOrder : Value → Value → Prop
  | .null, .null => True
  | .bool b, .bool c => b = c
  | .num text, .num text' => text = text'
  | .str s, .str t => s = t
  | .arr items, .arr others => SameItems items others
  | .obj fields, .obj others => fields.length = others.length ∧ SameFields fields others
  | _, _ => False

def SameItems : List Value → List Value → Prop
  | [], [] => True
  | v :: items, w :: others => SameUpToOrder v w ∧ SameItems items others
  | _, _ => False

def SameFields : List (Str × Value) → List (Str × Value) → Prop
  | [], _ => True
  | (key, v) :: fields, others =>
    (∃ w, (key, w) ∈ others ∧ SameUpToOrder v w) ∧ SameFields fields others

end

/-! The order of the fields. -/

theorem fieldLe_trans (f g k : Str × Value) (hfg : fieldLe f g = true) (hgk : fieldLe g k = true) :
    fieldLe f k = true := by
  rw [fieldLe, decide_eq_true_eq] at hfg hgk ⊢
  exact le_trans hfg hgk

theorem fieldLe_total (f g : Str × Value) : (fieldLe f g || fieldLe g f) = true := by
  rw [Bool.or_eq_true]
  unfold fieldLe
  rw [decide_eq_true_eq, decide_eq_true_eq]
  exact le_total f.1 g.1

theorem pairwise_sorted (fields : List (Str × Value)) :
    (fields.mergeSort fieldLe).Pairwise fun f g => fieldLe f g = true :=
  List.pairwise_mergeSort fieldLe_trans fieldLe_total fields

/-- With distinct keys, the sorted list forgets the order and nothing else. -/
theorem mergeSort_eq_iff_perm {fields others : List (Str × Value)}
    (hnodup : (fields.map Prod.fst).Nodup) :
    fields.mergeSort fieldLe = others.mergeSort fieldLe ↔ fields.Perm others := by
  have hfields := List.mergeSort_perm fields fieldLe
  have hothers := List.mergeSort_perm others fieldLe
  constructor
  · intro heq
    calc fields.Perm (fields.mergeSort fieldLe) := hfields.symm
      _ = others.mergeSort fieldLe := heq
      List.Perm _ others := hothers
  · intro hperm
    refine List.Perm.eq_of_pairwise ?_ (pairwise_sorted fields) (pairwise_sorted others)
      ((hfields.trans hperm).trans hothers.symm)
    intro f g hf hg hfg hgf
    rw [fieldLe, decide_eq_true_eq] at hfg hgf
    have hg' : g ∈ fields := hperm.mem_iff.mpr (List.mem_mergeSort.mp hg)
    exact List.inj_on_of_nodup_map hnodup (List.mem_mergeSort.mp hf) hg' (le_antisymm hfg hgf)

/-! Sorting keeps what the keys are. -/

theorem sortFields_eq_map (fields : List (Str × Value)) :
    sortFields fields = fields.map fun f => (f.1, sortKeys f.2) := by
  induction fields with
  | nil => rfl
  | cons f fields ih => rw [sortFields, ih, List.map_cons]

theorem map_fst_sortFields (fields : List (Str × Value)) :
    (sortFields fields).map Prod.fst = fields.map Prod.fst := by
  rw [sortFields_eq_map, List.map_map]
  rfl

theorem length_sortFields (fields : List (Str × Value)) :
    (sortFields fields).length = fields.length := by
  rw [sortFields_eq_map, List.length_map]

theorem mem_sortFields {key : Str} {fields : List (Str × Value)} :
    (key, w) ∈ sortFields fields ↔ ∃ v, (key, v) ∈ fields ∧ sortKeys v = w := by
  rw [sortFields_eq_map, List.mem_map]
  constructor
  · rintro ⟨f, hf, heq⟩
    obtain ⟨hkey, hvalue⟩ := Prod.mk.inj heq
    exact ⟨f.2, hkey ▸ hf, hvalue⟩
  · rintro ⟨v, hv, hvalue⟩
    exact ⟨(key, v), hv, Prod.ext rfl hvalue⟩

theorem wellFormedFields_iff {fields : List (Str × Value)} :
    WellFormedFields fields ↔ ∀ f ∈ fields, (∀ n ∈ f.1, Scalar n) ∧ WellFormed f.2 := by
  induction fields with
  | nil =>
    rw [WellFormedFields]
    exact ⟨fun _ f hf => absurd hf List.not_mem_nil, fun _ => trivial⟩
  | cons f fields ih => rw [WellFormedFields, ih, List.forall_mem_cons, and_assoc]

mutual

theorem wellFormed_sortKeys : ∀ v : Value, WellFormed v → WellFormed (sortKeys v)
  | .null, h => h
  | .bool _, h => h
  | .num _, h => h
  | .str _, h => h
  | .arr items, h => wellFormedItems_sortItems items h
  | .obj fields, h => by
    rw [WellFormed] at h
    have hperm := List.mergeSort_perm (sortFields fields) fieldLe
    rw [sortKeys, WellFormed]
    refine ⟨(hperm.map Prod.fst).nodup_iff.mpr ?_, ?_⟩
    · rw [map_fst_sortFields]
      exact h.1
    · rw [wellFormedFields_iff]
      intro f hf
      exact wellFormedFields_iff.mp (wellFormedFields_sortFields fields h.2) f (hperm.mem_iff.mp hf)

theorem wellFormedItems_sortItems : ∀ items : List Value, WellFormedItems items →
    WellFormedItems (sortItems items)
  | [], h => h
  | v :: items, h => ⟨wellFormed_sortKeys v h.1, wellFormedItems_sortItems items h.2⟩

theorem wellFormedFields_sortFields : ∀ fields : List (Str × Value), WellFormedFields fields →
    WellFormedFields (sortFields fields)
  | [], h => h
  | (_, v) :: fields, h => ⟨h.1, wellFormed_sortKeys v h.2.1, wellFormedFields_sortFields fields h.2.2⟩

end

/-- What is written with sorted keys reads back as the value in order. -/
theorem loads_dumpsSorted (h : WellFormed v) : loads (dumpsSorted v) = some (sortKeys v) :=
  loads_dumps (wellFormed_sortKeys v h)

mutual

theorem sortKeys_sortKeys : ∀ v : Value, sortKeys (sortKeys v) = sortKeys v
  | .null => rfl
  | .bool _ => rfl
  | .num _ => rfl
  | .str _ => rfl
  | .arr items => by rw [sortKeys, sortKeys, sortItems_sortItems items]
  | .obj fields => by
    have hfixed : ∀ f ∈ (sortFields fields).mergeSort fieldLe, (f.1, sortKeys f.2) = f := by
      intro f hf
      exact sortKeys_of_mem_sortFields fields f (List.mem_mergeSort.mp hf)
    rw [sortKeys, sortKeys, sortFields_eq_map, List.map_congr_left hfixed, List.map_id',
      List.mergeSort_of_pairwise (pairwise_sorted _)]

theorem sortItems_sortItems : ∀ items : List Value, sortItems (sortItems items) = sortItems items
  | [] => rfl
  | v :: items => by
    rw [sortItems, sortItems, sortKeys_sortKeys v, sortItems_sortItems items]

theorem sortKeys_of_mem_sortFields : ∀ fields : List (Str × Value), ∀ f ∈ sortFields fields,
    (f.1, sortKeys f.2) = f
  | [], f, hf => absurd hf List.not_mem_nil
  | (key, v) :: fields, f, hf => by
    rw [sortFields, List.mem_cons] at hf
    rcases hf with rfl | hf
    · exact Prod.ext rfl (sortKeys_sortKeys v)
    · exact sortKeys_of_mem_sortFields fields f hf

end

/-! One text is one value, up to the order of the fields. -/

/-- Distinct keys that are all among the others, and equally many, are a rearrangement. -/
theorem perm_sortFields {fields others : List (Str × Value)} (hnodup : (fields.map Prod.fst).Nodup)
    (hlength : fields.length = others.length)
    (hmem : ∀ f ∈ sortFields fields, f ∈ sortFields others) :
    (sortFields fields).Perm (sortFields others) := by
  have hdistinct : (sortFields fields).Nodup := by
    apply List.Nodup.of_map Prod.fst
    rw [map_fst_sortFields]
    exact hnodup
  have hsubperm : (sortFields fields).Subperm (sortFields others) :=
    List.subperm_of_subset hdistinct hmem
  apply hsubperm.perm_of_length_le
  rw [length_sortFields, length_sortFields, hlength]

theorem perm_sortFields_iff {fields others : List (Str × Value)}
    (hnodup : (fields.map Prod.fst).Nodup) :
    (sortFields fields).Perm (sortFields others) ↔
      fields.length = others.length ∧ ∀ f ∈ sortFields fields, f ∈ sortFields others := by
  constructor
  · intro hperm
    refine ⟨?_, fun f hf => hperm.mem_iff.mp hf⟩
    rw [← length_sortFields fields, ← length_sortFields others]
    exact hperm.length_eq
  · rintro ⟨hlength, hmem⟩
    exact perm_sortFields hnodup hlength hmem

mutual

theorem sortKeys_eq_iff : ∀ v w : Value, WellFormed v → WellFormed w →
    (sortKeys v = sortKeys w ↔ SameUpToOrder v w)
  | .null, w, _, _ => by cases w <;> simp [sortKeys, SameUpToOrder]
  | .bool b, w, _, _ => by cases w <;> simp [sortKeys, SameUpToOrder]
  | .num text, w, _, _ => by cases w <;> simp [sortKeys, SameUpToOrder]
  | .str s, w, _, _ => by cases w <;> simp [sortKeys, SameUpToOrder]
  | .arr items, w, hv, hw => by
    cases w with
    | arr others =>
      rw [sortKeys, sortKeys, SameUpToOrder, Value.arr.injEq]
      exact sortItems_eq_iff items others hv hw
    | _ => simp [sortKeys, SameUpToOrder]
  | .obj fields, w, hv, hw => by
    cases w with
    | obj others =>
      have hnodup : ((sortFields fields).map Prod.fst).Nodup := by
        rw [map_fst_sortFields]
        exact hv.1
      rw [sortKeys, sortKeys, SameUpToOrder, Value.obj.injEq, mergeSort_eq_iff_perm hnodup,
        perm_sortFields_iff hv.1]
      exact and_congr_right fun _ => subset_sortFields_iff fields others hv.2 hw.2
    | _ => simp [sortKeys, SameUpToOrder]

theorem sortItems_eq_iff : ∀ items others : List Value, WellFormedItems items →
    WellFormedItems others → (sortItems items = sortItems others ↔ SameItems items others)
  | [], [], _, _ => by simp [SameItems]
  | [], w :: others, _, _ => by simp [sortItems, SameItems]
  | v :: items, [], _, _ => by simp [sortItems, SameItems]
  | v :: items, w :: others, hv, hw => by
    rw [sortItems, sortItems, SameItems, List.cons.injEq]
    exact and_congr (sortKeys_eq_iff v w hv.1 hw.1) (sortItems_eq_iff items others hv.2 hw.2)

theorem subset_sortFields_iff : ∀ fields others : List (Str × Value), WellFormedFields fields →
    WellFormedFields others →
    ((∀ f ∈ sortFields fields, f ∈ sortFields others) ↔ SameFields fields others)
  | [], others, _, _ => by simp [sortFields, SameFields]
  | (key, v) :: fields, others, hv, hw => by
    rw [sortFields, SameFields, List.forall_mem_cons, mem_sortFields]
    refine and_congr (exists_congr fun w => and_congr_right fun hmem => ?_)
      (subset_sortFields_iff fields others hv.2.2 hw)
    rw [eq_comm]
    exact sortKeys_eq_iff v w hv.2.1 (wellFormedFields_iff.mp hw (key, w) hmem).2

end

theorem sameUpToOrder_sortKeys (h : WellFormed v) : SameUpToOrder v (sortKeys v) :=
  (sortKeys_eq_iff v (sortKeys v) h (wellFormed_sortKeys v h)).mp (sortKeys_sortKeys v).symm

/-- The sorted text is canonical. -/
theorem dumpsSorted_eq_iff (hv : WellFormed v) (hw : WellFormed w) :
    dumpsSorted v = dumpsSorted w ↔ SameUpToOrder v w := by
  rw [← sortKeys_eq_iff v w hv hw]
  constructor
  · intro htext
    have hloads := congrArg loads htext
    rw [loads_dumpsSorted hv, loads_dumpsSorted hw] at hloads
    exact Option.some.inj hloads
  · exact fun heq => congrArg dumps heq

end LegalForge.JsonText
