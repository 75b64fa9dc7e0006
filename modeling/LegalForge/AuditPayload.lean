import LegalForge.AuditLog
import LegalForge.DelimitedText

/-! The text that `compute_integrity_hash` hashes, and which arguments it tells apart. -/
namespace LegalForge.Audit
open Delimited (join join_cons eq_of_join_eq join_unique_iff)

/-- The arguments of `compute_integrity_hash`. -/
structure IntegrityArguments where
  eventId : String
  timestamp : String
  userId : Option String
  action : String
  entityType : String
  entityId : String
  changesJson : Option String
  previousHash : Option String
  deriving DecidableEq

namespace IntegrityArguments

def payload (a : IntegrityArguments) : String :=
  Audit.payload a.eventId a.timestamp a.userId a.action a.entityType a.entityId a.changesJson
    a.previousHash

/-- The fields of the text. -/
def fields (a : IntegrityArguments) : List String :=
  [a.eventId, a.timestamp, orEmpty a.userId, a.action, a.entityType, a.entityId,
    orEmpty a.changesJson, orEmpty a.previousHash]

/-- An absent argument is written like an empty one. -/
def written (a : IntegrityArguments) : IntegrityArguments :=
  { a with
    userId := some (orEmpty a.userId)
    changesJson := some (orEmpty a.changesJson)
    previousHash := some (orEmpty a.previousHash) }

/-- How often the separator is in each field. -/
def bars (a : IntegrityArguments) : List ℕ :=
  a.fields.map fun field => field.toList.count '|'

variable {a b : IntegrityArguments}

theorem toList_payload (a : IntegrityArguments) :
    a.payload.toList = join '|' (a.fields.map String.toList) := by
  simp only [payload, Audit.payload, fields, String.toList_append, List.map_cons, List.map_nil]
  repeat rw [join_cons (List.cons_ne_nil _ _)]
  simp [join]

theorem payload_eq_iff : a.payload = b.payload ↔
    join '|' (a.fields.map String.toList) = join '|' (b.fields.map String.toList) := by
  rw [← String.toList_inj, toList_payload, toList_payload]

theorem fields_eq_iff : a.fields = b.fields ↔ a.written = b.written := by
  simp [fields, written]

theorem length_fields (a : IntegrityArguments) : a.fields.length = 8 := rfl

/-- Every eight texts are the fields of some arguments. -/
theorem exists_fields {texts : List String} (h : texts.length = 8) :
    ∃ a : IntegrityArguments, a.fields = texts := by
  match texts, h with
  | [eventId, timestamp, userId, action, entityType, entityId, changesJson, previousHash], _ =>
    exact ⟨⟨eventId, timestamp, some userId, action, entityType, entityId, some changesJson,
      some previousHash⟩, rfl⟩

theorem map_toList_inj {xs ys : List String} : xs.map String.toList = ys.map String.toList ↔ xs = ys :=
  (List.map_injective_iff.mpr fun _ _ h => String.toList_inj.mp h).eq_iff

theorem bars_eq (a : IntegrityArguments) :
    a.bars = (a.fields.map String.toList).map (List.count '|') := by
  rw [bars, List.map_map]
  rfl

theorem written_eq_iff : a.written = b.written ↔ a.payload = b.payload ∧ a.bars = b.bars := by
  rw [← fields_eq_iff, payload_eq_iff, bars_eq, bars_eq]
  constructor
  · intro h
    rw [h]
    exact ⟨rfl, rfl⟩
  · rintro ⟨hjoin, hbars⟩
    exact map_toList_inj.mp (eq_of_join_eq hbars hjoin)

theorem payload_unique_iff : (∀ b : IntegrityArguments, b.payload = a.payload → b.written = a.written) ↔
    ∀ field ∈ a.fields, '|' ∉ field.toList := by
  have hlength : 2 ≤ (a.fields.map String.toList).length := by
    rw [List.length_map, length_fields]
    omega
  have hclean : (∀ field ∈ a.fields, '|' ∉ field.toList) ↔
      ∀ field ∈ a.fields.map String.toList, '|' ∉ field := by
    rw [List.forall_mem_map]
  rw [hclean, ← join_unique_iff hlength]
  constructor
  · intro hunique others hlen hjoin
    -- the other fields are texts too
    have hothers : (others.map String.ofList).map String.toList = others := by
      rw [List.map_map]
      exact List.map_id'' (fun _ => String.toList_ofList) _
    have height : (others.map String.ofList).length = 8 := by
      rw [List.length_map, hlen, List.length_map, length_fields]
    obtain ⟨b, hb⟩ := exists_fields height
    rw [← hothers, ← hb] at hjoin ⊢
    rw [fields_eq_iff.mpr (hunique b (payload_eq_iff.mpr hjoin))]
  · intro hunique b hpayload
    have hlen : (b.fields.map String.toList).length = (a.fields.map String.toList).length := by
      rw [List.length_map, List.length_map, length_fields, length_fields]
    have hsame := hunique _ hlen (payload_eq_iff.mp hpayload)
    exact fields_eq_iff.mp (map_toList_inj.mp hsame)

/-- Equal texts have equal arguments if `|` is as often in each, and the text tells the
arguments alone exactly if `|` is in none. -/
theorem payload_determines (a : IntegrityArguments) :
    (∀ b : IntegrityArguments, a.written = b.written ↔ a.payload = b.payload ∧ a.bars = b.bars) ∧
      ((∀ b : IntegrityArguments, b.payload = a.payload → b.written = a.written) ↔
        ∀ field ∈ a.fields, '|' ∉ field.toList) :=
  ⟨fun _ => written_eq_iff, payload_unique_iff⟩

end IntegrityArguments

/-- A change of the setting with this key, where nothing was stored before. -/
def settingChange (key : String) (changesJson : Option String) : IntegrityArguments where
  eventId := "e1"
  timestamp := "2025-06-15T12:00:00"
  userId := some "u1"
  action := "settings_change"
  entityType := "system_setting"
  entityId := key
  changesJson := changesJson
  previousHash := none

/-- What stands behind `|` in the key may as well begin the changes. Where `|` is nowhere, no changes
and empty changes are still the same. -/
theorem payload_not_injective :
    (¬∀ a b : IntegrityArguments, a.payload = b.payload → a = b) ∧
      ¬∀ a b : IntegrityArguments, a.bars = b.bars → a.payload = b.payload → a = b := by
  constructor
  · intro h
    have hshift := h (settingChange "theme|dark" (some "\x7b\x7d"))
      (settingChange "theme" (some "dark|\x7b\x7d")) (by decide +kernel)
    revert hshift
    decide +kernel
  · intro h
    have habsent := h (settingChange "theme" none) (settingChange "theme" (some ""))
      (by decide +kernel) (by decide +kernel)
    revert habsent
    decide +kernel

end LegalForge.Audit
