import Mathlib

/-! Accounts that can be closed, and the ones that have a session. Each event is
judged by what it does to a closed account. -/
namespace LegalForge.Access

/-- An account that was never registered has no flag. -/
@[ext] structure Accounts (κ : Type*) where
  active : κ → Option Bool
  live : Set κ

inductive Event (κ : Type*) where
  | keep
  /-- A session for an account. -/
  | signIn (k : κ)
  /-- A new account, without a session. -/
  | register (k : κ) (active : Bool)
  /-- A new account with a session. -/
  | enroll (k : κ)
  | setActive (k : κ) (active : Bool)
  /-- Closed, and its sessions ended. -/
  | shutOut (k : κ)

variable {κ : Type*} [DecidableEq κ]

namespace Accounts

def after (A : Accounts κ) : Event κ → Accounts κ
  | .keep => A
  | .signIn k => ⟨A.active, insert k A.live⟩
  | .register k active => ⟨Function.update A.active k (some active), A.live⟩
  | .enroll k => ⟨Function.update A.active k (some true), insert k A.live⟩
  | .setActive k active => ⟨Function.update A.active k (some active), A.live⟩
  | .shutOut k => ⟨Function.update A.active k (some false), A.live \ {k}⟩

/-- No closed account has a session. -/
def Ended (A : Accounts κ) : Prop :=
  ∀ k ∈ A.live, A.active k ≠ some false

/-- Only registered accounts have sessions. -/
def Known (A : Accounts κ) : Prop :=
  ∀ k ∈ A.live, A.active k ≠ none

/-- The event concerns a registered account, or registers a new one. -/
def Meets (A : Accounts κ) : Event κ → Prop
  | .keep => True
  | .signIn k => A.active k ≠ none
  | .register k _ => A.active k = none
  | .enroll k => A.active k = none
  | .setActive k _ => A.active k ≠ none
  | .shutOut k => A.active k ≠ none

/-- No session for a closed account, and no account closed over its sessions. -/
def Allows (A : Accounts κ) : Event κ → Prop
  | .signIn k => A.active k ≠ some false
  | .setActive k active => active = false → k ∉ A.live
  | .keep => True
  | .register _ _ => True
  | .enroll _ => True
  | .shutOut _ => True

omit [DecidableEq κ] in
/-- Sessions that run out do no harm. -/
theorem Ended.of_subset {A B : Accounts κ} (h : A.Ended) (hactive : B.active = A.active)
    (hlive : B.live ⊆ A.live) : B.Ended := by
  intro k hk
  rw [hactive]
  exact h k (hlive hk)

omit [DecidableEq κ] in
theorem Known.of_subset {A B : Accounts κ} (h : A.Known) (hactive : B.active = A.active)
    (hlive : B.live ⊆ A.live) : B.Known := by
  intro k hk
  rw [hactive]
  exact h k (hlive hk)

/-- Changing the flag of an account without a session. -/
theorem Ended.update_of_notMem {A : Accounts κ} (h : A.Ended) {k : κ} (hk : k ∉ A.live)
    (flag : Option Bool) : (⟨Function.update A.active k flag, A.live⟩ : Accounts κ).Ended := by
  intro j hj
  have hne : j ≠ k := fun heq => hk (heq ▸ hj)
  simp only [Function.update_of_ne hne]
  exact h j hj

/-- After an event no closed account has a session exactly when the event was allowed. -/
theorem ended_after_iff {A : Accounts κ} {e : Event κ} (hended : A.Ended) (hknown : A.Known)
    (hmeets : A.Meets e) : (A.after e).Ended ↔ A.Allows e := by
  cases e with
  | keep => exact iff_of_true hended trivial
  | signIn k =>
    constructor
    · exact fun h => h k (Set.mem_insert k A.live)
    · intro h j hj
      rcases Set.mem_insert_iff.mp hj with rfl | hj
      · exact h
      · exact hended j hj
  | register k active =>
    -- a new account has no session yet, whatever its flag is
    have hk : k ∉ A.live := fun hk => hknown k hk hmeets
    exact iff_of_true (hended.update_of_notMem hk _) trivial
  | enroll k =>
    refine iff_of_true ?_ trivial
    intro j hj
    by_cases hjk : j = k
    · simp [after, hjk]
    · simp only [after, Function.update_of_ne hjk]
      exact hended j ((Set.mem_insert_iff.mp hj).resolve_left hjk)
  | setActive k active =>
    constructor
    · rintro h rfl hk
      exact h k hk (Function.update_self k _ _)
    · intro h j hj
      by_cases hjk : j = k
      · subst hjk
        cases active with
        | true => simp [after]
        | false => exact absurd hj (h rfl)
      · simp only [after, Function.update_of_ne hjk]
        exact hended j hj
  | shutOut k =>
    -- the account that is closed has no session afterwards, the others are as before
    refine iff_of_true ?_ trivial
    rintro j ⟨hj, hjk⟩
    simp only [after, Function.update_of_ne hjk]
    exact hended j hj

/-- Sessions stay with registered accounts. -/
theorem known_after {A : Accounts κ} {e : Event κ} (hknown : A.Known) (hmeets : A.Meets e) :
    (A.after e).Known := by
  have hupdate : ∀ (k j : κ) (flag : Bool), A.active j ≠ none →
      Function.update A.active k (some flag) j ≠ none := by
    intro k j flag hj
    by_cases hjk : j = k
    · simp [hjk]
    · rwa [Function.update_of_ne hjk]
  cases e with
  | keep => exact hknown
  | signIn k =>
    intro j hj
    rcases Set.mem_insert_iff.mp hj with rfl | hj
    · exact hmeets
    · exact hknown j hj
  | register k active => exact fun j hj => hupdate k j active (hknown j hj)
  | enroll k =>
    intro j hj
    rcases Set.mem_insert_iff.mp hj with rfl | hj
    · simp [after]
    · exact hupdate k j true (hknown j hj)
  | setActive k active => exact fun j hj => hupdate k j active (hknown j hj)
  | shutOut k => exact fun j hj => hupdate k j false (hknown j hj.1)

end Accounts

/-- The account whose sessions decide whether the event was allowed. -/
def Names : Event κ → κ → Prop
  | .signIn k, j => j = k
  | .setActive k _, j => j = k
  | .keep, _ => False
  | .register _ _, _ => False
  | .enroll _, _ => False
  | .shutOut _, _ => False

/-- `B` is what the event makes of `A`, but for sessions that end on the way. -/
structure Follows (A : Accounts κ) (e : Event κ) (B : Accounts κ) : Prop where
  active : B.active = (A.after e).active
  live : B.live ⊆ (A.after e).live
  kept : ∀ k, Names e k → k ∈ (A.after e).live → k ∈ B.live

theorem follows_of_eq {A B : Accounts κ} {e : Event κ} (h : B = A.after e) : Follows A e B := by
  subst h
  exact ⟨rfl, subset_refl _, fun _ _ hk => hk⟩

theorem Follows.known {A B : Accounts κ} {e : Event κ} (h : Follows A e B) (hknown : A.Known)
    (hmeets : A.Meets e) : B.Known :=
  (Accounts.known_after hknown hmeets).of_subset h.active h.live

/-- Ending sessions on the way hides no event that was not allowed. -/
theorem Follows.ended_iff {A B : Accounts κ} {e : Event κ} (h : Follows A e B) (hended : A.Ended)
    (hknown : A.Known) (hmeets : A.Meets e) : B.Ended ↔ A.Allows e := by
  constructor
  · intro hB
    cases e with
    | signIn k =>
      -- the session that was begun has not ended on the way
      have hk : k ∈ B.live := h.kept k rfl (Set.mem_insert k A.live)
      have hflag := hB k hk
      rwa [h.active] at hflag
    | setActive k active =>
      rintro rfl hk
      have hflag := hB k (h.kept k rfl hk)
      rw [h.active] at hflag
      exact hflag (Function.update_self k _ _)
    | _ => trivial
  · intro hallows
    exact ((Accounts.ended_after_iff hended hknown hmeets).mpr hallows).of_subset h.active h.live

end LegalForge.Access
