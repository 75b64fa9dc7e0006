import Mathlib

/-! Runs of a labelled transition system given by a partial step function.
A label carries every choice the environment makes, so that a run is determined
by its labels and can be evaluated. -/
namespace LegalForge.Transition

variable {σ α : Type*}

/-- Execute the labels in order. A label that is not enabled ends the run. -/
def exec (step : σ → α → Option σ) (s : σ) (as : List α) : Option σ :=
  as.foldlM step s

/-- A step function that is always enabled. -/
def total (f : σ → α → σ) (s : σ) (a : α) : Option σ :=
  some (f s a)

@[simp] theorem exec_nil (step : σ → α → Option σ) (s : σ) : exec step s [] = some s := rfl

theorem exec_cons (step : σ → α → Option σ) (s : σ) (a : α) (as : List α) :
    exec step s (a :: as) = (step s a).bind (fun t => exec step t as) := by
  simp only [exec, List.foldlM_cons, Option.bind_eq_bind]

theorem exec_cons_eq_some {step : σ → α → Option σ} {s u : σ} {a : α} {as : List α} :
    exec step s (a :: as) = some u ↔ ∃ t, step s a = some t ∧ exec step t as = some u := by
  rw [exec_cons, Option.bind_eq_some_iff]

theorem exec_append_eq_some {step : σ → α → Option σ} {s u : σ} {as bs : List α} :
    exec step s (as++bs) = some u ↔ ∃ t, exec step s as = some t ∧ exec step t bs = some u := by
  simp only [exec, List.foldlM_append, Option.bind_eq_bind, Option.bind_eq_some_iff]

/-- Expose the last transition of a nonempty run. -/
theorem exec_concat_eq_some {step : σ → α → Option σ} {s u : σ} {as : List α} {a : α} :
    exec step s (as++[a]) = some u ↔ ∃ t, exec step s as = some t ∧ step t a = some u := by
  simp only [exec_append_eq_some, exec_cons_eq_some, exec_nil, Option.some.injEq,
    exists_eq_right]

theorem exec_total (f : σ → α → σ) (s : σ) (as : List α) :
    exec (total f) s as = some (as.foldl f s) := by
  induction as generalizing s with
  | nil => rfl
  | cons a as ih => exact ih (f s a)

/-- What every enabled step keeps holds after every run. -/
theorem exec_invariant {step : σ → α → Option σ} {I : σ → Prop}
    (hstep : ∀ s a t, I s → step s a = some t → I t) {s t : σ} {as : List α}
    (hs : I s) (hrun : exec step s as = some t) : I t := by
  induction as generalizing s with
  | nil => exact Option.some.inj hrun ▸ hs
  | cons a as ih =>
    obtain ⟨u, hu, hrest⟩ := exec_cons_eq_some.mp hrun
    exact ih (hstep s a u hs hu) hrest

/-- Every transition taken along the run satisfies `T`. -/
def Along (step : σ → α → Option σ) (T : σ → α → σ → Prop) : σ → List α → Prop
  | _, [] => True
  | s, a :: as => ∀ t, step s a = some t → T s a t ∧ Along step T t as

/-- `P` holds in every state the run reaches, its first state included. -/
def Throughout (step : σ → α → Option σ) (P : σ → Prop) (s : σ) (as : List α) : Prop :=
  P s ∧ Along step (fun _ _ t => P t) s as

/-- `Along` speaks of the transitions between the states a prefix reaches. -/
theorem along_iff_prefix {step : σ → α → Option σ} {T : σ → α → σ → Prop} {s : σ}
    {as : List α} :
    Along step T s as ↔ ∀ bs a cs t u, as = bs++a :: cs → exec step s bs = some t →
      step t a = some u → T t a u := by
  induction as generalizing s with
  | nil => simp [Along]
  | cons b as ih =>
    constructor
    · intro h bs a cs t u hsplit hrun hstep
      cases bs with
      | nil =>
        obtain ⟨rfl, rfl⟩ := List.cons.inj hsplit
        obtain rfl := Option.some.inj hrun
        exact (h u hstep).1
      | cons c bs =>
        obtain ⟨rfl, rfl⟩ := List.cons.inj hsplit
        obtain ⟨v, hv, hrest⟩ := exec_cons_eq_some.mp hrun
        exact ih.mp (h v hv).2 bs a cs t u rfl hrest hstep
    · intro h t ht
      refine ⟨h [] b as s t rfl rfl ht, ih.mpr ?_⟩
      intro bs a cs u v hsplit hrun hstep
      exact h (b :: bs) a cs u v (by rw [hsplit]; rfl)
        (exec_cons_eq_some.mpr ⟨t, ht, hrun⟩) hstep

/-- `Throughout` is the same as holding after every prefix of the run. -/
theorem throughout_iff_prefix {step : σ → α → Option σ} {P : σ → Prop} {s : σ}
    {as : List α} :
    Throughout step P s as ↔ ∀ bs cs t, as = bs++cs → exec step s bs = some t → P t := by
  rw [Throughout, along_iff_prefix]
  constructor
  · rintro ⟨h0, h⟩ bs cs t hsplit hrun
    rcases List.eq_nil_or_concat bs with rfl | ⟨bs, a, rfl⟩
    · exact Option.some.inj hrun ▸ h0
    · rw [List.concat_eq_append] at hrun hsplit
      obtain ⟨u, hu, hstep⟩ := exec_concat_eq_some.mp hrun
      exact h bs a cs u t (by rw [hsplit, List.append_assoc]; rfl) hu hstep
  · intro h
    refine ⟨h [] as s rfl rfl, ?_⟩
    intro bs a cs t u hsplit hrun hstep
    exact h (bs++[a]) cs u (by rw [hsplit, List.append_assoc]; rfl)
      (exec_concat_eq_some.mpr ⟨t, hrun, hstep⟩)

/-- What every step that satisfies `T` keeps holds after a run of such steps. -/
theorem Along.exec_invariant {step : σ → α → Option σ} {T : σ → α → σ → Prop} {I : σ → Prop}
    (hI : ∀ s a t, I s → step s a = some t → T s a t → I t) {s u : σ} {as : List α}
    (h : Along step T s as) (hs : I s) (hrun : exec step s as = some u) : I u := by
  induction as generalizing s with
  | nil => exact Option.some.inj hrun ▸ hs
  | cons a as ih =>
    obtain ⟨t, ht, hrest⟩ := exec_cons_eq_some.mp hrun
    obtain ⟨hT, htail⟩ := h t ht
    exact ih htail (hI s a t hs ht hT) hrest

/-- The transitions after a prefix of the run. -/
theorem Along.of_append {step : σ → α → Option σ} {T : σ → α → σ → Prop} {s t : σ}
    {as bs : List α} (h : Along step T s (as++bs)) (hrun : exec step s as = some t) :
    Along step T t bs := by
  induction as generalizing s with
  | nil => exact Option.some.inj hrun ▸ h
  | cons a as ih =>
    obtain ⟨u, hu, hrest⟩ := exec_cons_eq_some.mp hrun
    exact ih (h u hu).2 hrest

theorem Along.left {step : σ → α → Option σ} {T : σ → α → σ → Prop} {s : σ} {as bs : List α}
    (h : Along step T s (as++bs)) : Along step T s as := by
  induction as generalizing s with
  | nil => trivial
  | cons a as ih => exact fun t ht => ⟨(h t ht).1, ih (h t ht).2⟩

/-- A condition that the labels alone ensure. -/
theorem along_of_labels {step : σ → α → Option σ} {T : σ → α → σ → Prop} {as : List α}
    (h : ∀ a ∈ as, ∀ s t, T s a t) (s : σ) : Along step T s as := by
  induction as generalizing s with
  | nil => trivial
  | cons a as ih =>
    intro t _
    exact ⟨h a List.mem_cons_self s t, ih (fun b hb => h b (List.mem_cons_of_mem a hb)) t⟩

theorem Along.cons {step : σ → α → Option σ} {T : σ → α → σ → Prop} {s t : σ} {a : α}
    {as : List α} (hstep : step s a = some t) (hT : T s a t) (h : Along step T t as) :
    Along step T s (a :: as) := by
  intro u hu
  obtain rfl := Option.some.inj (hstep.symm.trans hu)
  exact ⟨hT, h⟩

/-- How many transitions of the run satisfy `p`. -/
def countAlong (step : σ → α → Option σ) (p : σ → α → Bool) : σ → List α → ℕ
  | _, [] => 0
  | s, a :: as =>
    match step s a with
    | none => 0
    | some t => (p s a).toNat+countAlong step p t as

/-- To bound a count along a run, bound it by what a state and the count so far
have in common. Each label of the run satisfies `L`. -/
theorem countAlong_le {step : σ → α → Option σ} {p : σ → α → Bool} {T : σ → α → σ → Prop}
    {L : α → Prop} {I : σ → ℕ → Prop} {b : ℕ}
    (hstep : ∀ s n a t, I s n → L a → step s a = some t → T s a t → I t (n+(p s a).toNat))
    (hbound : ∀ s n, I s n → n ≤ b) {s : σ} {n : ℕ} {as : List α} (hs : I s n)
    (hlabels : ∀ a ∈ as, L a) (h : Along step T s as) : n+countAlong step p s as ≤ b := by
  induction as generalizing s n with
  | nil => exact hbound s n hs
  | cons a as ih =>
    rw [countAlong]
    split
    · exact hbound s n hs
    · rename_i t ht
      obtain ⟨hT, hrest⟩ := h t ht
      have hnext := hstep s n a t hs (hlabels a List.mem_cons_self) ht hT
      have htail := ih hnext (fun c hc => hlabels c (List.mem_cons_of_mem a hc)) hrest
      omega

theorem Along.and {step : σ → α → Option σ} {T U : σ → α → σ → Prop} {s : σ} {as : List α}
    (hT : Along step T s as) (hU : Along step U s as) :
    Along step (fun s a t => T s a t ∧ U s a t) s as := by
  induction as generalizing s with
  | nil => trivial
  | cons a as ih =>
    intro t ht
    exact ⟨⟨(hT t ht).1, (hU t ht).1⟩, ih (hT t ht).2 (hU t ht).2⟩

/-- Two step conditions that agree wherever the first has held so far agree
along every run whose labels satisfy `L`. The invariant may use that the first has
held. -/
theorem along_congr_of_labels {step : σ → α → Option σ} {T C : σ → α → σ → Prop}
    {I : σ → Prop} {L : α → Prop}
    (hI : ∀ s a t, I s → L a → step s a = some t → T s a t → I t)
    (hiff : ∀ s a t, I s → L a → step s a = some t → (T s a t ↔ C s a t))
    {s : σ} {as : List α} (hs : I s) (hlabels : ∀ a ∈ as, L a) :
    Along step T s as ↔ Along step C s as := by
  induction as generalizing s with
  | nil => exact Iff.rfl
  | cons a as ih =>
    have ha : L a := hlabels a List.mem_cons_self
    refine forall_congr' fun t => imp_congr_right fun ht => ?_
    rw [hiff s a t hs ha ht]
    refine and_congr_right fun hc => ?_
    exact ih (hI s a t hs ha ht ((hiff s a t hs ha ht).mpr hc))
      (fun b hb => hlabels b (List.mem_cons_of_mem a hb))

theorem along_congr {step : σ → α → Option σ} {T C : σ → α → σ → Prop} {I : σ → Prop}
    (hI : ∀ s a t, I s → step s a = some t → T s a t → I t)
    (hiff : ∀ s a t, I s → step s a = some t → (T s a t ↔ C s a t))
    {s : σ} {as : List α} (hs : I s) : Along step T s as ↔ Along step C s as :=
  along_congr_of_labels (L := fun _ => True) (fun s a t h _ => hI s a t h)
    (fun s a t h _ => hiff s a t h) hs (fun _ _ => trivial)

/-- A step condition that ensures another one wherever an invariant holds. -/
theorem Along.imp {step : σ → α → Option σ} {T U : σ → α → σ → Prop} {I : σ → Prop}
    (hI : ∀ s a t, I s → step s a = some t → I t)
    (himp : ∀ s a t, I s → step s a = some t → T s a t → U s a t) {s : σ} {as : List α} (hs : I s)
    (h : Along step T s as) : Along step U s as := by
  induction as generalizing s with
  | nil => trivial
  | cons a as ih =>
    intro t ht
    obtain ⟨hT, hrest⟩ := h t ht
    exact ⟨himp s a t hs ht hT, ih (hI s a t hs ht) hrest⟩

/-- A state property holds throughout a run exactly when it holds at the start
and every step meets the condition `C` on its label and the state before it. -/
theorem throughout_iff_along {step : σ → α → Option σ} {P I : σ → Prop} {C : σ → α → Prop}
    (hI : ∀ s a t, I s → step s a = some t → I t)
    (hiff : ∀ s a t, I s → P s → step s a = some t → (P t ↔ C s a))
    {s : σ} (hs : I s) (as : List α) :
    Throughout step P s as ↔ P s ∧ Along step (fun s a _ => C s a) s as := by
  refine and_congr_right fun hp => ?_
  refine along_congr (I := fun s => I s ∧ P s) ?_ ?_ ⟨hs, hp⟩
  · exact fun s a t h ht hpt => ⟨hI s a t h.1 ht, hpt⟩
  · exact fun s a t h ht => hiff s a t h.1 h.2 ht

/-- The last state of a run along which `P` holds has `P`. -/
theorem Throughout.final {step : σ → α → Option σ} {P : σ → Prop} {s t : σ} {as : List α}
    (h : Throughout step P s as) (hrun : exec step s as = some t) : P t :=
  throughout_iff_prefix.mp h as [] t (List.append_nil as).symm hrun

end LegalForge.Transition
