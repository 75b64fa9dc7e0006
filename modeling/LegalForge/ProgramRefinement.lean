import LegalForge.ReadCommitted

/-! One program of statements seen as another one that says less. Statements that the other
program does not know are left out of its runs. -/
namespace LegalForge.ReadCommitted
open Transition

section
variable {σ τ α β : Type*} {step : σ → α → Option σ} {step' : τ → β → Option τ}

/-- If each step is a run of the other system, so is each run. -/
theorem exec_flatMap {f : σ → τ} {g : α → List β}
    (h : ∀ s a t, step s a = some t → exec step' (f s) (g a) = some (f t)) {s t : σ} {as : List α}
    (hrun : exec step s as = some t) : exec step' (f s) (as.flatMap g) = some (f t) := by
  induction as generalizing s with
  | nil => exact congrArg (fun u => some (f u)) (Option.some.inj hrun)
  | cons a as ih =>
    obtain ⟨u, hu, hrest⟩ := exec_cons_eq_some.mp hrun
    rw [List.flatMap_cons]
    exact exec_append_eq_some.mpr ⟨f u, h s a u hu, ih hrest⟩

end

variable {Db Db' Loc Loc' Act Act' Row Tx : Type*}

/-- What `P` does is what `P'` does to the rows and sessions that `P'` knows. -/
structure Refinement (P : Program Db Loc Act Row) (P' : Program Db' Loc' Act' Row) where
  db : Db → Db'
  loc : Loc → Loc'
  act : Act → Option Act'
  known : ∀ {d m a a' m'}, act a = some a' → P.stmt d m a = some m' →
    P'.stmt (db d) (loc m) a' = some (loc m') ∧ P'.locks (db d) (loc m) a' = P.locks d m a
  unknown : ∀ {d m a m'}, act a = none → P.stmt d m a = some m' →
    loc m' = loc m ∧ P.locks d m a = []
  publish : ∀ {d m d' m'}, P.publish d m = some (d', m') →
    P'.publish (db d) (loc m) = some (db d', loc m')
  abort : ∀ m, loc (P.abort m) = P'.abort (loc m)

namespace Refinement
variable {P : Program Db Loc Act Row} {P' : Program Db' Loc' Act' Row}

def state (R : Refinement P P') (s : State Db Loc Row Tx) : State Db' Loc' Row Tx :=
  ⟨R.db s.committed, fun t => R.loc (s.session t), s.holder⟩

def labels (R : Refinement P P') : Label Act Tx → List (Label Act' Tx)
  | .stmt t a => (R.act a).toList.map (Label.stmt t)
  | .commit t => [.commit t]
  | .rollback t => [.rollback t]

variable [DecidableEq Row] [DecidableEq Tx] {s s' : State Db Loc Row Tx}

omit [DecidableEq Row] in
theorem loc_update (R : Refinement P P') (session : Tx → Loc) (t : Tx) (m : Loc) :
    (fun u => R.loc (Function.update session t m u)) =
      Function.update (fun u => R.loc (session u)) t (R.loc m) := by
  funext u
  exact Function.apply_update (fun _ => R.loc) session t m u

theorem exec_step (R : Refinement P P') {l : Label Act Tx} (h : step P s l = some s') :
    exec (step P') (R.state s) (R.labels l) = some (R.state s') := by
  cases l with
  | stmt t a =>
    obtain ⟨hfree, m, hm, rfl⟩ := step_stmt_eq_some.mp h
    rcases hact : R.act a with _ | a'
    · -- the session looks as before, and no lock was taken
      obtain ⟨hsame, hlocks⟩ := R.unknown hact hm
      have hacquire : acquire s.holder t (P.locks s.committed (s.session t) a) = s.holder := by
        funext r
        rw [hlocks, acquire, if_neg List.not_mem_nil]
      have hsessions : Function.update (fun u => R.loc (s.session u)) t (R.loc m) =
          fun u => R.loc (s.session u) := by
        rw [hsame]
        exact Function.update_eq_self t fun u => R.loc (s.session u)
      simp only [labels, hact, Option.toList_none, List.map_nil, exec_nil, state, R.loc_update,
        hacquire, hsessions]
    · obtain ⟨hstmt, hlocks⟩ := R.known hact hm
      have hstep : step P' (R.state s) (.stmt t a') = some (R.state
          ⟨s.committed, Function.update s.session t m,
            acquire s.holder t (P.locks s.committed (s.session t) a)⟩) := by
        refine step_stmt_eq_some.mpr ⟨fun r hr => hfree r (hlocks ▸ hr), R.loc m, hstmt, ?_⟩
        simp only [state, R.loc_update, hlocks]
      simp only [labels, hact, Option.toList_some, List.map_cons, List.map_nil]
      exact exec_cons_eq_some.mpr ⟨_, hstep, rfl⟩
  | commit t =>
    obtain ⟨db, m, hpub, rfl⟩ := step_commit_eq_some.mp h
    refine exec_cons_eq_some.mpr ⟨_, step_commit_eq_some.mpr ⟨_, _, R.publish hpub, ?_⟩, rfl⟩
    simp only [state, R.loc_update]
  | rollback t =>
    rw [step_rollback_eq_some.mp h]
    refine exec_cons_eq_some.mpr ⟨_, step_rollback_eq_some.mpr ?_, rfl⟩
    simp only [state, R.loc_update, R.abort]

/-- A run of the program is a run of the other one. -/
theorem exec_labels (R : Refinement P P') {ls : List (Label Act Tx)}
    (hrun : exec (step P) s ls = some s') :
    exec (step P') (R.state s) (ls.flatMap R.labels) = some (R.state s') :=
  exec_flatMap (fun _ _ _ h => R.exec_step h) hrun

end Refinement

end LegalForge.ReadCommitted
