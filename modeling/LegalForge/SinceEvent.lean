import LegalForge.TransitionRun

/-! Properties that one kind of step begins and another ends. Such a property holds after a
run when a step of the first kind has happened and none of the second since. -/
namespace LegalForge.Transition

variable {σ α : Type*} {step : σ → α → Option σ} {I Q : σ → Prop} {Begins Ends : σ → α → Prop}

/-- No step of the run ends the property. -/
def Spared (step : σ → α → Option σ) (Ends : σ → α → Prop) (s : σ) (as : List α) : Prop :=
  Along step (fun u a _ => ¬Ends u a) s as

/-- Some step of the run begins the property, and none after it ends it. -/
def BegunSince (step : σ → α → Option σ) (Begins Ends : σ → α → Prop) (s : σ) (as : List α) : Prop :=
  ∃ before a after u v, as = before++a :: after ∧ exec step s before = some u ∧
    step u a = some v ∧ Begins u a ∧ Spared step Ends v after

theorem spared_cons {s t : σ} {a : α} {as : List α} (hstep : step s a = some t) :
    Spared step Ends s (a :: as) ↔ ¬Ends s a ∧ Spared step Ends t as := by
  constructor
  · exact fun h => h t hstep
  · intro h u hu
    obtain rfl := Option.some.inj (hstep.symm.trans hu)
    exact h

/-- The first step of a run begins the property, or a later one does. -/
theorem begunSince_cons {s t : σ} {a : α} {as : List α} (hstep : step s a = some t) :
    BegunSince step Begins Ends s (a :: as) ↔
      Begins s a ∧ Spared step Ends t as ∨ BegunSince step Begins Ends t as := by
  constructor
  · rintro ⟨before, b, after, u, v, hsplit, hbefore, hb, hbegins, hspared⟩
    cases before with
    | nil =>
      obtain ⟨rfl, rfl⟩ := List.cons.inj hsplit
      obtain rfl := Option.some.inj hbefore
      obtain rfl := Option.some.inj (hstep.symm.trans hb)
      exact Or.inl ⟨hbegins, hspared⟩
    | cons c before =>
      obtain ⟨rfl, rfl⟩ := List.cons.inj hsplit
      obtain ⟨w, hw, hrest⟩ := exec_cons_eq_some.mp hbefore
      obtain rfl := Option.some.inj (hstep.symm.trans hw)
      exact Or.inr ⟨before, b, after, u, v, rfl, hrest, hb, hbegins, hspared⟩
  · rintro (⟨hbegins, hspared⟩ | ⟨before, b, after, u, v, rfl, hbefore, hb, hbegins, hspared⟩)
    · exact ⟨[], a, as, s, t, rfl, rfl, hstep, hbegins, hspared⟩
    · have hrun : exec step s (a :: before) = some u := exec_cons_eq_some.mpr ⟨t, hstep, hbefore⟩
      exact ⟨a :: before, b, after, u, v, rfl, hrun, hb, hbegins, hspared⟩

/-- If every step obeys the law of the property, so does every run. -/
theorem exec_iff_since (hI : ∀ s a t, I s → step s a = some t → I t)
    (hlaw : ∀ s a t, I s → step s a = some t → (Q t ↔ Begins s a ∨ Q s ∧ ¬Ends s a))
    {s t : σ} {as : List α} (hs : I s) (hrun : exec step s as = some t) :
    Q t ↔ Q s ∧ Spared step Ends s as ∨ BegunSince step Begins Ends s as := by
  induction as generalizing s with
  | nil =>
    obtain rfl := Option.some.inj hrun
    constructor
    · exact fun hQ => Or.inl ⟨hQ, trivial⟩
    · rintro (⟨hQ, -⟩ | ⟨before, b, after, _, _, hsplit, -⟩)
      · exact hQ
      · exact absurd hsplit.symm (List.append_ne_nil_of_right_ne_nil before (List.cons_ne_nil b after))
  | cons a as ih =>
    obtain ⟨u, hstep, hrest⟩ := exec_cons_eq_some.mp hrun
    have hu : I u := hI s a u hs hstep
    rw [ih hu hrest, hlaw s a u hs hstep, spared_cons hstep, begunSince_cons hstep]
    -- begun by the first step or later, or held from the start and spared throughout
    constructor
    · rintro (⟨hbegins | ⟨hQ, hends⟩, hspared⟩ | hbegun)
      · exact Or.inr (Or.inl ⟨hbegins, hspared⟩)
      · exact Or.inl ⟨hQ, hends, hspared⟩
      · exact Or.inr (Or.inr hbegun)
    · rintro (⟨hQ, hends, hspared⟩ | ⟨hbegins, hspared⟩ | hbegun)
      · exact Or.inl ⟨Or.inr ⟨hQ, hends⟩, hspared⟩
      · exact Or.inl ⟨Or.inl hbegins, hspared⟩
      · exact Or.inr hbegun

end LegalForge.Transition
