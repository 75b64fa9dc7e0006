import LegalForge.PrefixCode

/-! Column types the tables share. -/
namespace LegalForge
open Encoding

/-- Primary and foreign keys. -/
abbrev Uuid := BitVec 128

/-- Equality of keys is the one that membership in a list of keys decides. -/
instance : LawfulBEq Uuid := inferInstance

/-- A calendar day by its day number. -/
abbrev Date := ℤ

/-- A response other than success, with its detail text. -/
structure HttpError where
  status : ℕ
  detail : String
  deriving DecidableEq

/-- An exception no handler turns into a response. The session is rolled back. -/
def HttpError.internal : HttpError := ⟨500, "Internal Server Error"⟩

/-- `str(id)`: 32 hexadecimal digits in five groups. -/
def uuidText (id : Uuid) : List Char :=
  let hex := padded 16 32 id.toNat
  hex.take 8++ '-' :: (hex.drop 8).take 4++ '-' :: (hex.drop 12).take 4++
    '-' :: (hex.drop 16).take 4++ '-' :: hex.drop 20

theorem length_uuidText (id : Uuid) : (uuidText id).length = 36 := by
  simp [uuidText]

theorem uuid_groups (l : List Char) : l = l.take 8++((l.drop 8).take 4++((l.drop 12).take 4++
    ((l.drop 16).take 4++l.drop 20))) := by
  have hdrop : ∀ k, (l.drop k).take 4++l.drop (k+4) = l.drop k := fun k => by
    rw [← List.drop_drop]
    exact List.take_append_drop 4 (l.drop k)
  rw [hdrop 16, hdrop 12, hdrop 8, List.take_append_drop]

theorem uuidText_injective : Function.Injective uuidText := by
  intro a b h
  simp only [uuidText, List.append_assoc, List.cons_append] at h
  -- the five groups have fixed places
  obtain ⟨h0, h⟩ := List.append_inj h (by simp)
  obtain ⟨h1, h⟩ := List.append_inj (List.cons.inj h).2 (by simp)
  obtain ⟨h2, h⟩ := List.append_inj (List.cons.inj h).2 (by simp)
  obtain ⟨h3, h⟩ := List.append_inj (List.cons.inj h).2 (by simp)
  have h4 := (List.cons.inj h).2
  have hpad : padded 16 32 a.toNat = padded 16 32 b.toNat := by
    rw [uuid_groups (padded 16 32 a.toNat), h0, h1, h2, h3, h4, ← uuid_groups]
  have hnil : padded 16 32 a.toNat++[] = padded 16 32 b.toNat++[] := by rw [hpad]
  have hlt : ∀ id : Uuid, id.toNat < 16^32 := fun id => Nat.lt_of_lt_of_eq id.isLt (by decide)
  exact BitVec.eq_of_toNat_eq
    (padded_append_inj (by decide) (by decide) (hlt a) (hlt b) hnil).1

theorem uuidText_prefixCode : PrefixCode uuidText :=
  prefixCode_of_length length_uuidText uuidText_injective

def daysInMonth (year month : ℕ) : ℕ :=
  if month = 2 then if year%4 = 0 ∧ (year%100 ≠ 0 ∨ year%400 = 0) then 29 else 28
  else if month = 4 ∨ month = 6 ∨ month = 9 ∨ month = 11 then 30 else 31

theorem daysInMonth_le (year month : ℕ) : daysInMonth year month ≤ 31 := by
  unfold daysInMonth
  split_ifs <;> omega

/-- An aware `datetime` in UTC. -/
structure Datetime where
  year : ℕ
  month : ℕ
  day : ℕ
  hour : ℕ
  minute : ℕ
  second : ℕ
  microsecond : ℕ
  year_mem : 1 ≤ year ∧ year ≤ 9999
  month_mem : 1 ≤ month ∧ month ≤ 12
  day_mem : 1 ≤ day ∧ day ≤ daysInMonth year month
  hour_lt : hour < 24
  minute_lt : minute < 60
  second_lt : second < 60
  microsecond_lt : microsecond < 1000000
  deriving DecidableEq

namespace Datetime

/-- Orders datetimes by their fields, the year first. -/
def moment (d : Datetime) : ℕ :=
  (((((d.year*13+d.month)*32+d.day)*24+d.hour)*60+d.minute)*60+d.second)*1000000+d.microsecond

theorem moment_injective : Function.Injective moment := by
  intro a b h
  have hda := a.day_mem.2.trans (daysInMonth_le _ _)
  have hdb := b.day_mem.2.trans (daysInMonth_le _ _)
  obtain ⟨_, _, _, _, _, _, _, _, hma, _, _, _, _, _⟩ := a
  obtain ⟨_, _, _, _, _, _, _, _, hmb, _, _, _, _, _⟩ := b
  simp only [moment] at h hda hdb
  simp only [mk.injEq]
  omega

instance : LinearOrder Datetime :=
  LinearOrder.lift' moment moment_injective

/-- `d.isoformat()`. The microseconds are left out when they are zero. -/
def isoText (d : Datetime) : List Char :=
  padded 10 4 d.year++('-' :: (padded 10 2 d.month++('-' :: (padded 10 2 d.day++
    ('T' :: (padded 10 2 d.hour++(':' :: (padded 10 2 d.minute++(':' :: (padded 10 2 d.second++
      ((if d.microsecond = 0 then [] else '.' :: padded 10 6 d.microsecond)++
        ['+', '0', '0', ':', '0', '0'])))))))))))

theorem isoText_injective : Function.Injective isoText := by
  intro a b h
  have hda := a.day_mem.2.trans (daysInMonth_le _ _)
  have hdb := b.day_mem.2.trans (daysInMonth_le _ _)
  have hread : ∀ {k m n : ℕ} {c : Char} {s t : List Char}, m < 10^k → n < 10^k →
      c :: (padded 10 k m++s) = c :: (padded 10 k n++t) → m = n ∧ s = t :=
    fun hm hn h => padded_append_inj (by decide) (by decide) hm hn (List.cons.inj h).2
  obtain ⟨ya, ma, da, ha, mia, sa, ua, hya, hma, _, hha, hmia, hsa, hua⟩ := a
  obtain ⟨yb, mb, db, hb, mib, sb, ub, hyb, hmb, _, hhb, hmib, hsb, hub⟩ := b
  simp only [isoText] at h hda hdb
  obtain ⟨rfl, hmonth⟩ := padded_append_inj (by decide) (by decide) (by omega) (by omega) h
  obtain ⟨rfl, hday⟩ := hread (by omega) (by omega) hmonth
  obtain ⟨rfl, hhour⟩ := hread (by omega) (by omega) hday
  obtain ⟨rfl, hminute⟩ := hread (by omega) (by omega) hhour
  obtain ⟨rfl, hsecond⟩ := hread (by omega) (by omega) hminute
  obtain ⟨rfl, hmicro⟩ := hread (by omega) (by omega) hsecond
  -- after the seconds comes either the offset or the point of the microseconds
  have hu : ua = ub := by
    split_ifs at hmicro with hua0 hub0 hub0
    · omega
    · cases hmicro
    · cases hmicro
    · exact (hread (by omega) (by omega) hmicro).1
  subst hu
  rfl

end Datetime

end LegalForge
