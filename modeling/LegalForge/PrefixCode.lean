import Mathlib

/-! Encodings whose texts can be read back from the front of a longer text, and
the zero-padded numerals that timestamps and identifiers are made of. -/
namespace LegalForge.Encoding

variable {α β : Type*}

/-- A text of `f` can be split off the front of any longer text. -/
def PrefixCode (f : α → List β) : Prop :=
  ∀ ⦃a b s t⦄, f a++s = f b++t → a = b ∧ s = t

/-- Texts of one length need no end mark. -/
theorem prefixCode_of_length {f : α → List β} {k : ℕ} (hlen : ∀ a, (f a).length = k)
    (hf : Function.Injective f) : PrefixCode f := by
  intro a b s t h
  have heq : (f a).length = (f b).length := (hlen a).trans (hlen b).symm
  obtain ⟨hab, hst⟩ := List.append_inj h heq
  exact ⟨hf hab, hst⟩

/-- The `k` lowest digits of `n`, the highest first. -/
def digits (base : ℕ) : ℕ → ℕ → List ℕ
  | 0, _ => []
  | k+1, n => digits base k (n/base)++[n%base]

@[simp] theorem length_digits (base k n : ℕ) : (digits base k n).length = k := by
  induction k generalizing n with
  | zero => rfl
  | succ k ih => simp [digits, ih]

theorem digits_lt {base : ℕ} (hbase : 0 < base) {k n d : ℕ} (h : d ∈ digits base k n) :
    d < base := by
  induction k generalizing n with
  | zero => cases h
  | succ k ih =>
    rcases List.mem_append.mp h with h | h
    · exact ih h
    · rw [List.mem_singleton.mp h]
      exact Nat.mod_lt n hbase

theorem digits_inj {base k m n : ℕ} (hm : m < base^k) (hn : n < base^k)
    (h : digits base k m = digits base k n) : m = n := by
  induction k generalizing m n with
  | zero =>
    rw [Nat.pow_zero] at hm hn
    omega
  | succ k ih =>
    obtain ⟨hhigh, hlow⟩ := List.append_inj h (by simp)
    have hmod : m%base = n%base := (List.cons.inj hlow).1
    have hdiv : m/base = n/base := by
      rw [Nat.pow_succ'] at hm hn
      exact ih (Nat.div_lt_of_lt_mul hm) (Nat.div_lt_of_lt_mul hn) hhigh
    calc m = base*(m/base)+m%base := (Nat.div_add_mod m base).symm
      _ = base*(n/base)+n%base := by rw [hdiv, hmod]
      _ = n := Nat.div_add_mod n base

theorem digitChar_inj : ∀ i < 16, ∀ j < 16, Nat.digitChar i = Nat.digitChar j → i = j := by
  decide

/-- `n` as a numeral of exactly `k` digits. -/
def padded (base k n : ℕ) : List Char :=
  (digits base k n).map Nat.digitChar

@[simp] theorem length_padded (base k n : ℕ) : (padded base k n).length = k := by
  simp [padded]

theorem map_digitChar_inj {xs ys : List ℕ} (hx : ∀ d ∈ xs, d < 16) (hy : ∀ d ∈ ys, d < 16)
    (h : xs.map Nat.digitChar = ys.map Nat.digitChar) : xs = ys := by
  induction xs generalizing ys with
  | nil => exact (List.map_eq_nil_iff.mp h.symm).symm
  | cons x xs ih =>
    cases ys with
    | nil => cases h
    | cons y ys =>
      obtain ⟨hhead, htail⟩ := List.cons.inj h
      have hxy := digitChar_inj x (hx x List.mem_cons_self) y (hy y List.mem_cons_self) hhead
      have hrest := ih (fun d hd => hx d (List.mem_cons_of_mem x hd))
        (fun d hd => hy d (List.mem_cons_of_mem y hd)) htail
      rw [hxy, hrest]

/-- A padded numeral can be read off the front of a text. -/
theorem padded_append_inj {base k m n : ℕ} {s t : List Char} (hpos : 0 < base) (hle : base ≤ 16)
    (hm : m < base^k) (hn : n < base^k) (h : padded base k m++s = padded base k n++t) :
    m = n ∧ s = t := by
  obtain ⟨hchars, hrest⟩ := List.append_inj h (by simp)
  have hdigits : digits base k m = digits base k n := by
    apply map_digitChar_inj _ _ hchars
    · exact fun d hd => Nat.lt_of_lt_of_le (digits_lt hpos hd) hle
    · exact fun d hd => Nat.lt_of_lt_of_le (digits_lt hpos hd) hle
  exact ⟨digits_inj hm hn hdigits, hrest⟩

end LegalForge.Encoding
