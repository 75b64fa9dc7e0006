import LegalForge.BaseModels
import LegalForge.DoubleArithmetic

/-! Numbers as decimal text: whole numbers, amounts with two places as `:.2f` prints them, and
calendar days as `strftime` prints them. -/
namespace LegalForge.Decimal
open Encoding

/-- The sign of a numeral and the digits after it. -/
def signed (body : ℕ → List Char) (n : ℤ) : List Char :=
  if n < 0 then '-' :: body n.natAbs else body n.natAbs

/-- `str(n)` -/
def intText : ℤ → List Char :=
  signed (Nat.toDigits 10)

def hundredthsText (n : ℕ) : List Char :=
  Nat.toDigits 10 (n/100)++ '.' :: padded 10 2 (n%100)

/-- So many hundredths, with two places. -/
def centsText : ℤ → List Char :=
  signed hundredthsText

/-- `f"{x:.2f}"` -/
def twoDecimals (x : ℚ) : List Char :=
  centsText (Double.roundEven (100*x))

/-- `_days_before_month` -/
def daysBeforeMonth (year month : ℕ) : ℕ :=
  ((List.range (month-1)).map (fun m => daysInMonth year (m+1))).sum

/-- Year, month and day by `_ord2ymd`. -/
def yearMonthDay (date : Date) : ℕ × ℕ × ℕ :=
  let n := date.toNat-1
  let n400 := n/146097
  let n100 := n%146097/36524
  let n4 := n%146097%36524/1461
  let n1 := n%146097%36524%1461/365
  let year := n400*400+1+n100*100+n4*4+n1
  if n1 = 4 ∨ n100 = 4 then (year-1, 12, 31)
  else
    let dayOfYear := n%146097%36524%1461%365
    -- the estimate is the month itself or the one after
    let month := (dayOfYear+50)/32
    let month := if dayOfYear < daysBeforeMonth year month then month-1 else month
    (year, month, dayOfYear-daysBeforeMonth year month+1)

example : yearMonthDay 738945 = (2024, 2, 29) := by decide

/-- `d.strftime("%Y%m%d")`. The year is not padded. -/
def compactDate (date : Date) : List Char :=
  match yearMonthDay date with
  | (year, month, day) => Nat.toDigits 10 year++padded 10 2 month++padded 10 2 day

/-- `d.strftime("%m/%d/%Y")` -/
def slashedDate (date : Date) : List Char :=
  match yearMonthDay date with
  | (year, month, day) =>
    padded 10 2 month++ '/' :: padded 10 2 day++ '/' :: Nat.toDigits 10 year

/-- Division of the cents by 100 and printing do not change the amount. -/
def PrintsExactly (cents : ℤ) : Prop :=
  Double.roundEven (100*Double.div cents 100) = cents

/-- Up to here the doubles are less than a hundredth apart. -/
theorem printsExactly_of_lt {cents : ℤ} (h : |cents| < 100*2^46) : PrintsExactly cents := by
  have hcast : |(cents:ℚ)| < 100*2^46 := by exact_mod_cast h
  have hquot : |(cents:ℚ)/100| < 2^(46:ℤ) := by
    rw [abs_div, abs_of_pos (by norm_num : (0:ℚ) < 100), div_lt_iff₀ (by norm_num), mul_comm]
    exact_mod_cast hcast
  have herr : |Double.div cents 100-cents/100| ≤ 2^(46-54:ℤ) := Double.abs_round_sub_le_of_lt hquot
  apply Double.roundEven_eq
  have hsplit : 100*Double.div cents 100-cents = 100*(Double.div cents 100-cents/100) := by ring
  calc |100*Double.div cents 100-cents| = 100*|Double.div cents 100-cents/100| := by
        rw [hsplit, abs_mul, abs_of_pos (by norm_num : (0:ℚ) < 100)]
    _ ≤ 100*2^(46-54:ℤ) := by gcongr
    _ < 1/2 := by norm_num

/-- A whole part and two places. -/
def readHundredths (text : List Char) : Option ℕ :=
  match text.splitOn '.' with
  | [whole, [d, e]] =>
    if whole ≠ [] ∧ (whole++[d, e]).all Char.isDigit then
      some (Nat.ofDigitChars 10 (whole++[d, e]) 0)
    else none
  | _ => none

/-- The hundredths a decimal numeral with two places stands for. -/
def readCents (text : List Char) : Option ℤ :=
  if text.head? = some '-' then (readHundredths text.tail).map (fun n : ℕ => -(n : ℤ))
  else (readHundredths text).map (fun n : ℕ => (n : ℤ))

theorem isDigit_of_mem_toDigits {c : Char} {n : ℕ} (h : c ∈ Nat.toDigits 10 n) :
    c.isDigit = true :=
  Nat.isDigit_of_mem_toDigits (by decide) (by decide) h

theorem isDigit_of_mem_padded {c : Char} {k n : ℕ} (h : c ∈ padded 10 k n) : c.isDigit = true := by
  obtain ⟨d, hd, rfl⟩ := List.mem_map.mp h
  rw [Nat.isDigit_digitChar]
  exact decide_eq_true (digits_lt (by decide) hd)

theorem padded_two (n : ℕ) :
    padded 10 2 n = [Nat.digitChar (n/10%10), Nat.digitChar (n%10)] := by
  simp [padded, digits]

theorem readHundredths_hundredthsText (n : ℕ) : readHundredths (hundredthsText n) = some n := by
  have hdot : '.' ∉ Nat.toDigits 10 (n/100) := by
    intro h
    have hdigit := isDigit_of_mem_toDigits h
    revert hdigit
    decide
  have hplaces : '.' ∉ padded 10 2 (n%100) := by
    intro h
    have hdigit := isDigit_of_mem_padded h
    revert hdigit
    decide
  have hsplit : (hundredthsText n).splitOn '.' = [Nat.toDigits 10 (n/100), padded 10 2 (n%100)] := by
    rw [hundredthsText, List.splitOn_append_cons_self_of_not_mem hdot,
      List.splitOn_eq_singleton hplaces]
  have hall : (Nat.toDigits 10 (n/100)++padded 10 2 (n%100)).all Char.isDigit = true := by
    rw [List.all_eq_true]
    intro c hc
    rcases List.mem_append.mp hc with hc | hc
    · exact isDigit_of_mem_toDigits hc
    · exact isDigit_of_mem_padded hc
  have hvalue : Nat.ofDigitChars 10 (Nat.toDigits 10 (n/100)++padded 10 2 (n%100)) 0 = n := by
    rw [Nat.ofDigitChars_append, Nat.ofDigitChars_ten_toDigits, padded_two,
      Nat.ofDigitChars_cons_digitChar_of_lt_ten (by omega),
      Nat.ofDigitChars_cons_digitChar_of_lt_ten (by omega), Nat.ofDigitChars_nil]
    omega
  rw [padded_two] at hsplit hall hvalue
  simp only [readHundredths, hsplit]
  rw [if_pos ⟨Nat.toDigits_ne_nil, hall⟩, hvalue]

theorem head_hundredthsText (n : ℕ) : (hundredthsText n).head? ≠ some '-' := by
  intro h
  cases hdigits : Nat.toDigits 10 (n/100) with
  | nil => exact Nat.toDigits_ne_nil hdigits
  | cons c rest =>
    rw [hundredthsText, hdigits] at h
    have hdigit : c.isDigit = true :=
      isDigit_of_mem_toDigits (hdigits ▸ List.mem_cons_self)
    rw [Option.some.inj h] at hdigit
    revert hdigit
    decide

/-- A printed amount can be read back. -/
theorem readCents_centsText (n : ℤ) : readCents (centsText n) = some n := by
  unfold centsText signed
  split_ifs with hneg
  · have habs : -(n.natAbs : ℤ) = n := by omega
    rw [readCents, List.head?_cons, if_pos rfl, List.tail_cons, readHundredths_hundredthsText, Option.map_some, habs]
  · have habs : (n.natAbs : ℤ) = n := by omega
    rw [readCents, if_neg (head_hundredthsText _), readHundredths_hundredthsText, Option.map_some,
      habs]

/-! The letters of a numeral. -/

/-- A letter that a numeral may contain. -/
def IsNumeric (c : Char) : Prop :=
  c.isDigit = true ∨ c = '-' ∨ c = '.'

theorem isNumeric_signed {body : ℕ → List Char} (hbody : ∀ n, ∀ c ∈ body n, IsNumeric c) {n : ℤ}
    {c : Char} (h : c ∈ signed body n) : IsNumeric c := by
  unfold signed at h
  split_ifs at h
  · rcases List.mem_cons.mp h with hsign | h
    · exact Or.inr (Or.inl hsign)
    · exact hbody _ c h
  · exact hbody _ c h

theorem isNumeric_intText {n : ℤ} {c : Char} (h : c ∈ intText n) : IsNumeric c :=
  isNumeric_signed (fun _ _ hc => Or.inl (isDigit_of_mem_toDigits hc)) h

theorem isNumeric_centsText {n : ℤ} {c : Char} (h : c ∈ centsText n) : IsNumeric c := by
  apply isNumeric_signed _ h
  intro m d hd
  rcases List.mem_append.mp hd with hd | hd
  · exact Or.inl (isDigit_of_mem_toDigits hd)
  · rcases List.mem_cons.mp hd with hdot | hd
    · exact Or.inr (Or.inr hdot)
    · exact Or.inl (isDigit_of_mem_padded hd)

theorem isDigit_compactDate {date : Date} {c : Char} (h : c ∈ compactDate date) :
    c.isDigit = true := by
  unfold compactDate at h
  rcases List.mem_append.mp h with h | h
  · rcases List.mem_append.mp h with h | h
    · exact isDigit_of_mem_toDigits h
    · exact isDigit_of_mem_padded h
  · exact isDigit_of_mem_padded h

theorem isDigit_or_slash_slashedDate {date : Date} {c : Char} (h : c ∈ slashedDate date) :
    c.isDigit = true ∨ c = '/' := by
  unfold slashedDate at h
  simp only [List.mem_append, List.mem_cons] at h
  rcases h with (h | h | h) | h | h
  · exact Or.inl (isDigit_of_mem_padded h)
  · exact Or.inr h
  · exact Or.inl (isDigit_of_mem_padded h)
  · exact Or.inr h
  · exact Or.inl (isDigit_of_mem_toDigits h)

end LegalForge.Decimal
