import Mathlib

/-! Finding the matches of a pattern in a text from left to right, each search
going on behind the match before it. When no match begins inside another, every
match is found. -/
namespace LegalForge.TextScan

variable {α β : Type*}

/-- A pattern tried at one place: it sees what stands before, read backwards,
and what follows, and yields a value and the number of tokens it takes. -/
abbrev Pattern (α β : Type*) := List α → List α → Option (β × ℕ)

/-- Try the pattern at each place, `skip` tokens being part of the last match. -/
def scan (p : Pattern α β) : List α → List α → ℕ → List β
  | _, [], _ => []
  | before, c :: rest, skip+1 => scan p (c :: before) rest skip
  | before, c :: rest, 0 =>
    match p before (c :: rest) with
    | none => scan p (c :: before) rest 0
    | some (b, n) => b :: scan p (c :: before) rest (n-1)

/-- The matches of a pattern in a text, one behind the other. -/
def findAll (p : Pattern α β) (text : List α) : List β :=
  scan p [] text 0

/-- The value at every place where the pattern matches. -/
def matches_ (p : Pattern α β) : List α → List α → List β
  | _, [] => []
  | before, c :: rest => ((p before (c :: rest)).map Prod.fst).toList++matches_ p (c :: before) rest

/-- No match begins inside another. -/
def NonOverlapping (p : Pattern α β) : Prop :=
  ∀ before rest b n, p before rest = some (b, n) → ∀ k, 0 < k → k < n →
    p ((rest.take k).reverse++before) (rest.drop k) = none

variable {p : Pattern α β}

/-- Tokens at which nothing matches can be skipped. -/
theorem scan_skip (before rest : List α) (skip : ℕ)
    (h : ∀ k, k < skip → p ((rest.take k).reverse++before) (rest.drop k) = none) :
    scan p before rest skip = scan p before rest 0 := by
  induction rest generalizing before skip with
  | nil => rfl
  | cons c rest ih =>
    cases skip with
    | zero => rfl
    | succ skip =>
      have hhead : p before (c :: rest) = none := h 0 (Nat.succ_pos skip)
      have htail : ∀ k, k < skip →
          p ((rest.take k).reverse++c :: before) (rest.drop k) = none := by
        intro k hk
        have hnext := h (k+1) (Nat.succ_lt_succ hk)
        rwa [List.take_succ_cons, List.drop_succ_cons, List.reverse_cons, List.append_assoc,
          List.singleton_append] at hnext
      rw [scan, scan, hhead]
      exact ih (c :: before) skip htail

/-- A scan finds the match at every place where there is one. -/
theorem scan_eq_matches (hp : NonOverlapping p) (before rest : List α) :
    scan p before rest 0 = matches_ p before rest := by
  induction rest generalizing before with
  | nil => rfl
  | cons c rest ih =>
    rw [scan, matches_]
    cases hmatch : p before (c :: rest) with
    | none => exact ih (c :: before)
    | some found =>
      obtain ⟨b, n⟩ := found
      have hinside : ∀ k, k < n-1 →
          p ((rest.take k).reverse++c :: before) (rest.drop k) = none := by
        intro k hk
        have hnext := hp before (c :: rest) b n hmatch (k+1) (Nat.succ_pos k) (by omega)
        rwa [List.take_succ_cons, List.drop_succ_cons, List.reverse_cons, List.append_assoc,
          List.singleton_append] at hnext
      dsimp only
      rw [scan_skip (c :: before) rest (n-1) hinside, ih (c :: before)]
      rfl

theorem mem_matches_iff {before rest : List α} {b : β} :
    b ∈ matches_ p before rest ↔
      ∃ done todo n, rest = done++todo ∧ todo ≠ [] ∧ p (done.reverse++before) todo = some (b, n) := by
  induction rest generalizing before with
  | nil =>
    refine iff_of_false List.not_mem_nil ?_
    rintro ⟨done, todo, n, hsplit, hne, -⟩
    exact hne (List.append_eq_nil_iff.mp hsplit.symm).2
  | cons c rest ih =>
    rw [matches_, List.mem_append, Option.mem_toList, ih]
    constructor
    · rintro (hhere | ⟨done, todo, n, rfl, hne, hmatch⟩)
      · obtain ⟨found, hfound, rfl⟩ := Option.map_eq_some_iff.mp hhere
        exact ⟨[], c :: rest, found.2, rfl, List.cons_ne_nil c rest, hfound⟩
      · refine ⟨c :: done, todo, n, rfl, hne, ?_⟩
        rwa [List.reverse_cons, List.append_assoc, List.singleton_append]
    · rintro ⟨done, todo, n, hsplit, hne, hmatch⟩
      cases done with
      | nil =>
        rw [List.nil_append] at hsplit
        subst hsplit
        exact Or.inl (Option.map_eq_some_iff.mpr ⟨(b, n), hmatch, rfl⟩)
      | cons d done =>
        obtain ⟨rfl, rfl⟩ := List.cons.inj hsplit
        rw [List.reverse_cons, List.append_assoc, List.singleton_append] at hmatch
        exact Or.inr ⟨done, todo, n, rfl, hne, hmatch⟩

/-- What is found is what matches somewhere. -/
theorem mem_findAll_iff (hp : NonOverlapping p) {text : List α} {b : β} :
    b ∈ findAll p text ↔
      ∃ done todo n, text = done++todo ∧ todo ≠ [] ∧ p done.reverse todo = some (b, n) := by
  rw [findAll, scan_eq_matches hp, mem_matches_iff]
  simp only [List.append_nil]

/-- A run of one class, followed by a token of another, is what is taken as long
as the class lasts. -/
theorem takeWhile_dropWhile_run {q : α → Bool} {run rest : List α} (hrun : run.all q)
    (hrest : rest.head?.all (fun c => !q c)) :
    (run++rest).takeWhile q = run ∧ (run++rest).dropWhile q = rest := by
  have hall : ∀ c ∈ run, q c = true := List.all_eq_true.mp hrun
  have hstop : rest.takeWhile q = [] ∧ rest.dropWhile q = rest := by
    cases rest with
    | nil => exact ⟨rfl, rfl⟩
    | cons c rest =>
      have hc : ¬q c = true := by simpa using hrest
      exact ⟨List.takeWhile_cons_of_neg hc, List.dropWhile_cons_of_neg hc⟩
  rw [List.takeWhile_append_of_pos hall, List.dropWhile_append_of_pos hall, hstop.1, hstop.2]
  exact ⟨List.append_nil run, rfl⟩

end LegalForge.TextScan
