import LegalForge.TransitionRun

/-! A request runs in one session over the tables. It ends with a result or raises, and
either way its session has changed some tables; they are committed if it ends with a
result, and rolled back if it raises. -/
namespace LegalForge.UnitOfWork
open Transition

variable {σ ε α : Type*}

/-- What a request ends with, and the tables as its session sees them then. -/
abbrev Handler (σ ε α : Type*) := σ → Except ε α × σ

/-- The tables once the session is closed. -/
def committed (h : Handler σ ε α) (s : σ) : σ :=
  match h s with
  | (.ok _, s') => s'
  | (.error _, _) => s

theorem committed_of_ok {h : Handler σ ε α} {s s' : σ} {a : α} (hs : h s = (.ok a, s')) :
    committed h s = s' := by
  rw [committed, hs]

theorem committed_of_error {h : Handler σ ε α} {s s' : σ} {e : ε} (hs : h s = (.error e, s')) :
    committed h s = s := by
  rw [committed, hs]

theorem committed_congr {h h' : Handler σ ε α} {s : σ} (heq : h s = h' s) :
    committed h s = committed h' s := by
  rw [committed, heq, committed]

/-- A request that only reads. -/
theorem committed_of_snd {h : Handler σ ε α} {s : σ} (hs : (h s).2 = s) : committed h s = s := by
  unfold committed
  rcases heq : h s with ⟨_ | a, t⟩
  · rfl
  · rw [heq] at hs
    exact hs

/-- A request that raises leaves the tables; one that does not commits what it did. -/
theorem committed_cases (h : Handler σ ε α) (s : σ) :
    (∃ e s', h s = (.error e, s') ∧ committed h s = s) ∨
      ∃ a s', h s = (.ok a, s') ∧ committed h s = s' := by
  rcases hs : h s with ⟨_ | a, s'⟩
  · exact .inl ⟨_, s', rfl, committed_of_error hs⟩
  · exact .inr ⟨a, s', rfl, committed_of_ok hs⟩

/-- The request raises after its session has brought about `R`. -/
def RaisesWith (h : Handler σ ε α) (R : σ → Prop) (s : σ) : Prop :=
  ∃ e s', h s = (.error e, s') ∧ R s'

/-- What the session of a raising request has brought about is there afterwards. -/
def Survives (h : Handler σ ε α) (R : σ → Prop) (s : σ) : Prop :=
  RaisesWith h R s → R (committed h s)

/-- Only what was there before the request survives its exception. -/
theorem survives_iff {h : Handler σ ε α} {R : σ → Prop} {s : σ} :
    Survives h R s ↔ ¬(RaisesWith h R s ∧ ¬R s) := by
  rw [not_and_not_right]
  refine imp_congr_right fun hraises => ?_
  obtain ⟨e, s', hs, -⟩ := hraises
  rw [committed_of_error hs]

/-- Requests one after the other, each in a session of its own. -/
def serve {ρ : Type*} (handle : ρ → Handler σ ε α) : σ → ρ → Option σ :=
  total fun s r => committed (handle r) s

/-- An invariant that every request which ends with a result keeps. -/
theorem serve_invariant {ρ : Type*} {handle : ρ → Handler σ ε α} {I : σ → Prop}
    (hok : ∀ r s a s', I s → handle r s = (.ok a, s') → I s') {s t : σ} {r : ρ} (hs : I s)
    (hstep : serve handle s r = some t) : I t := by
  have ht : committed (handle r) s = t := Option.some.inj hstep
  rcases committed_cases (handle r) s with ⟨e, s', -, hsame⟩ | ⟨a, s', hs', hnew⟩
  · rw [← ht, hsame]
    exact hs
  · rw [← ht, hnew]
    exact hok r s a s' hs hs'

/-! A request that also changes something outside its session, which no rollback undoes. -/

variable {τ : Type*}

/-- The tables and what is outside them, once the session is closed. -/
def settled (h : Handler (σ × τ) ε α) (s : σ × τ) : σ × τ :=
  match h s with
  | (.ok _, s') => s'
  | (.error _, s') => (s.1, s'.2)

theorem settled_of_ok {h : Handler (σ × τ) ε α} {s s' : σ × τ} {a : α} (hs : h s = (.ok a, s')) :
    settled h s = s' := by
  rw [settled, hs]

theorem settled_of_error {h : Handler (σ × τ) ε α} {s s' : σ × τ} {e : ε}
    (hs : h s = (.error e, s')) : settled h s = (s.1, s'.2) := by
  rw [settled, hs]

/-- Requests one after the other, the outside being kept by each. -/
def serveBoth {ρ : Type*} (handle : ρ → Handler (σ × τ) ε α) : σ × τ → ρ → Option (σ × τ) :=
  total fun s r => settled (handle r) s

end LegalForge.UnitOfWork
