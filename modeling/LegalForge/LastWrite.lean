import Mathlib

/-! Loops that may fail and whose steps overwrite each other: the value that stands after the loop
is the last one that was written. -/
namespace LegalForge.LastWrite

variable {σ α β : Type*} {step : σ → α → Option σ}

/-- The last value that is written, where `write` is what one step writes. -/
def last (write : α → Option β) (as : List α) : Option β :=
  (as.filterMap write).getLast?

@[simp] theorem last_nil (write : α → Option β) : last write [] = none := rfl

theorem last_cons (write : α → Option β) (a : α) (as : List α) :
    last write (a :: as) = (last write as).or (write a) := by
  unfold last
  cases hwrite : write a with
  | none => rw [List.filterMap_cons_none hwrite, Option.or_none]
  | some b =>
    rw [List.filterMap_cons_some hwrite, List.getLast?_cons]
    cases (as.filterMap write).getLast? with
    | none => rfl
    | some c => rfl

/-- What stood before the loop stays where nothing is written. -/
theorem last_cons_or (write : α → Option β) (a : α) (as : List α) (before : Option β) :
    (last write (a :: as)).or before = (last write as).or ((write a).or before) := by
  rw [last_cons, Option.or_assoc]

/-- Steps that are made from keys. -/
theorem last_filterMap {κ : Type*} (write : α → Option β) (make : κ → Option α) (keys : List κ) :
    last write (keys.filterMap make) = last (fun key => (make key).bind write) keys := by
  unfold last
  rw [List.filterMap_filterMap]

theorem mem_of_last {write : α → Option β} {as : List α} {b : β} (h : last write as = some b) :
    ∃ a ∈ as, write a = some b :=
  List.mem_filterMap.mp (List.mem_of_getLast? h)

/-- Whether a step succeeds depends on what is read only: the loop succeeds if every step does. -/
theorem isSome_foldlM_iff {ok : α → Prop} (h : ∀ s a, (step s a).isSome ↔ ok a) (as : List α)
    (s : σ) : (as.foldlM step s).isSome ↔ ∀ a ∈ as, ok a := by
  induction as generalizing s with
  | nil => simp
  | cons a as ih =>
    rw [List.foldlM_cons, List.forall_mem_cons, ← h s a]
    cases step s a with
    | none => simp
    | some next => simpa using ih next

end LegalForge.LastWrite
