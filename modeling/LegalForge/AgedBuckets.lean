import LegalForge.AgedReceivables

/-! Which bucket of the aged receivables each invoice is counted in. -/
namespace LegalForge.Reports
open Billing Clients Rows

/-- The columns of the report, the youngest first. -/
inductive AgeBucket where
  | current
  | days31To60
  | days61To90
  | days91To120
  | over120
  deriving DecidableEq

namespace AgeBucket

def rank : AgeBucket → ℕ
  | current => 0
  | days31To60 => 1
  | days61To90 => 2
  | days91To120 => 3
  | over120 => 4

/-- The bucket of an age in days. -/
def ofAge (ageDays : ℤ) : AgeBucket :=
  if ageDays ≤ 30 then current
  else if ageDays ≤ 60 then days31To60
  else if ageDays ≤ 90 then days61To90
  else if ageDays ≤ 120 then days91To120
  else over120

/-- An older invoice is in no younger bucket. -/
theorem rank_ofAge_mono {ageDays ageDays' : ℤ} (h : ageDays ≤ ageDays') :
    (ofAge ageDays).rank ≤ (ofAge ageDays').rank := by
  unfold ofAge
  split_ifs <;> simp only [rank] <;> omega

end AgeBucket

def AgedReceivable.cents (row : AgedReceivable) : AgeBucket → ℤ
  | .current => row.currentCents
  | .days31To60 => row.days31To60Cents
  | .days61To90 => row.days61To90Cents
  | .days91To120 => row.days91To120Cents
  | .over120 => row.over120Cents

def ClientBucket.cents (b : ClientBucket) : AgeBucket → ℤ :=
  b.report.cents

/-- An invoice adds to the bucket of its age, and to no other. -/
theorem ClientBucket.cents_age (ageDays remaining : ℤ) (b : ClientBucket) (k : AgeBucket) :
    (b.age ageDays remaining).cents k =
      b.cents k+if AgeBucket.ofAge ageDays = k then remaining else 0 := by
  unfold ClientBucket.age AgeBucket.ofAge
  split_ifs <;> cases k <;>
    simp_all [ClientBucket.cents, ClientBucket.report, AgedReceivable.cents]

theorem ClientBucket.totalCents_eq (b : ClientBucket) : b.totalCents =
    b.cents .current+b.cents .days31To60+b.cents .days61To90+b.cents .days91To120+
      b.cents .over120 :=
  rfl

variable (db : ReportDb) (today : Date) (tie : Uuid → ℕ)

/-- The date an invoice is aged from: today, where it has none. -/
def agedFrom (inv : Invoice) : Date :=
  (inv.dueDate.or inv.issuedDate).getD today

def ageBucket (inv : Invoice) : AgeBucket :=
  AgeBucket.ofAge (today-agedFrom today inv)

/-- A sent or overdue invoice that is not fully paid. -/
def IsReceivable (inv : Invoice) : Prop :=
  (inv.status = .sent ∨ inv.status = .overdue) ∧ 0 < remainingCents db inv

instance : DecidablePred (IsReceivable db) :=
  fun _ => inferInstanceAs (Decidable (_ ∧ _))

/-- What an invoice adds to a bucket of a client. -/
def share (clientId : Uuid) (k : AgeBucket) (inv : Invoice) : ℤ :=
  if 0 < remainingCents db inv ∧ inv.clientId = clientId ∧ ageBucket today inv = k then
    remainingCents db inv
  else 0

/-- The buckets after some rows: one for each client, with what the invoices add to it. -/
structure Aged (rows : List (Invoice × Client)) (buckets : List ClientBucket) : Prop where
  nodup : (buckets.map ClientBucket.clientId).Nodup
  known : ∀ r ∈ rows, r.1.clientId ∈ buckets.map ClientBucket.clientId
  cents : ∀ b ∈ buckets, ∀ k,
    b.cents k = total (fun r => share db today b.clientId k r.1) rows

variable {db today}

theorem share_of_ne {inv : Invoice} {clientId : Uuid} (h : inv.clientId ≠ clientId) (k : AgeBucket) :
    share db today clientId k inv = 0 :=
  if_neg fun hshare => h hshare.2.1

theorem share_of_settled {inv : Invoice} (h : remainingCents db inv ≤ 0) (clientId : Uuid)
    (k : AgeBucket) : share db today clientId k inv = 0 :=
  if_neg fun hshare => absurd hshare.1 (not_lt.mpr h)

/-- The last row adds its share. -/
theorem total_share_concat (rows : List (Invoice × Client)) (r : Invoice × Client) (clientId : Uuid)
    (k : AgeBucket) : total (fun r => share db today clientId k r.1) (rows++[r]) =
      total (fun r => share db today clientId k r.1) rows+share db today clientId k r.1 := by
  rw [total_append, total_cons, total_nil, add_zero]

theorem Aged.withClient {rows : List (Invoice × Client)} {buckets : List ClientBucket}
    (h : Aged db today rows buckets) (c : Client) : Aged db today rows (withClient c buckets) := by
  have hnodup := nodup_withClient h.nodup c
  unfold Reports.withClient at hnodup ⊢
  split_ifs at hnodup ⊢ with hmem
  · exact h
  · refine ⟨hnodup, ?_, ?_⟩
    · intro r hr
      rw [List.map_append]
      exact List.mem_append_left _ (h.known r hr)
    · intro b hb k
      rcases List.mem_append.mp hb with hold | hnew
      · exact h.cents b hold k
      · -- no row before was one of the client
        rw [List.mem_singleton.mp hnew]
        have hnone : total (fun r => share db today c.id k r.1) rows = total (fun _ => 0) rows := by
          apply total_congr
          intro r hr
          have hne : r.1.clientId ≠ c.id := by
            intro heq
            rw [← heq] at hmem
            exact hmem (h.known r hr)
          exact share_of_ne hne k
        rw [hnone, total_zero]
        cases k <;> rfl

theorem Aged.known_concat {rows : List (Invoice × Client)} {buckets : List ClientBucket}
    (h : Aged db today rows buckets) {r : Invoice × Client}
    (hmem : r.1.clientId ∈ buckets.map ClientBucket.clientId) :
    ∀ r' ∈ rows++[r], r'.1.clientId ∈ buckets.map ClientBucket.clientId := by
  intro r' hr'
  rcases List.mem_append.mp hr' with hold | hnew
  · exact h.known r' hold
  · rw [List.mem_singleton.mp hnew]
    exact hmem

/-- A row whose client has a bucket, and which adds nothing to any. -/
theorem Aged.skip {rows : List (Invoice × Client)} {buckets : List ClientBucket}
    (h : Aged db today rows buckets) {r : Invoice × Client} (hsettled : remainingCents db r.1 ≤ 0)
    (hmem : r.1.clientId ∈ buckets.map ClientBucket.clientId) : Aged db today (rows++[r]) buckets where
  nodup := h.nodup
  known := h.known_concat hmem
  cents b hb k := by
    rw [total_share_concat, share_of_settled hsettled, add_zero]
    exact h.cents b hb k

/-- A row that adds what remains to the bucket of its client. -/
theorem Aged.age {rows : List (Invoice × Client)} {buckets : List ClientBucket}
    (h : Aged db today rows buckets) {r : Invoice × Client} (hremaining : 0 < remainingCents db r.1)
    (hmem : r.1.clientId ∈ buckets.map ClientBucket.clientId) :
    Aged db today (rows++[r]) (Table.alter ClientBucket.clientId r.1.clientId
      (ClientBucket.age (today-agedFrom today r.1) (remainingCents db r.1)) buckets) where
  nodup := by
    rw [map_clientId_age]
    exact h.nodup
  known := by
    rw [map_clientId_age]
    exact h.known_concat hmem
  cents b hb k := by
    obtain ⟨b', hb', rfl⟩ := Table.mem_alter.mp hb
    have hcents := h.cents b' hb' k
    rw [total_share_concat]
    split_ifs with hkey
    · have hshare : share db today b'.clientId k r.1 =
          if ageBucket today r.1 = k then remainingCents db r.1 else 0 := by
        simp only [share, hkey, hremaining, true_and]
      rw [ClientBucket.clientId_age, hshare, ClientBucket.cents_age, hcents]
      rfl
    · rw [share_of_ne (Ne.symm hkey), add_zero]
      exact hcents

theorem Aged.ageInvoice {rows : List (Invoice × Client)} {buckets : List ClientBucket}
    (h : Aged db today rows buckets) {r : Invoice × Client} (hclient : r.1.clientId = r.2.id) :
    Aged db today (rows++[r]) (ageInvoice db today buckets r) := by
  have hwith := h.withClient r.2
  have hmem := mem_withClient r.2 buckets
  rw [← hclient] at hmem
  unfold Reports.ageInvoice
  simp only [← hclient]
  split_ifs with hsettled
  · exact hwith.skip hsettled hmem
  · exact hwith.age (not_le.mp hsettled) hmem

theorem Aged.run (rows : List (Invoice × Client)) {done : List (Invoice × Client)}
    {buckets : List ClientBucket} (hrows : ∀ r ∈ rows, r.1.clientId = r.2.id)
    (h : Aged db today done buckets) :
    Aged db today (done++rows) (rows.foldl (Reports.ageInvoice db today) buckets) := by
  induction rows generalizing done buckets with
  | nil =>
    rw [List.append_nil]
    exact h
  | cons r rows ih =>
    rw [List.append_cons]
    exact ih (fun r' hr' => hrows r' (List.mem_cons_of_mem _ hr'))
      (h.ageInvoice (hrows r List.mem_cons_self))

variable (db today)

theorem mem_receivableRows {r : Invoice × Client} : r ∈ receivableRows db tie ↔
    r.1 ∈ outstandingInvoices db ∧ r.2 ∈ db.clients ∧ r.1.clientId = r.2.id := by
  rw [receivableRows, List.mem_mergeSort, mem_join, decide_eq_true_eq]

theorem aged_clientBuckets :
    Aged db today (receivableRows db tie) (clientBuckets db today tie) := by
  have hnone : Aged db today [] [] :=
    ⟨List.nodup_nil, fun r hr => absurd hr List.not_mem_nil, fun b hb => absurd hb List.not_mem_nil⟩
  exact hnone.run (receivableRows db tie) fun r hr => ((mem_receivableRows db tie).mp hr).2.2

/-- The receivables of a client in a bucket. -/
def agedInvoices (clientId : Uuid) (k : AgeBucket) : List Invoice :=
  db.invoices.filter fun inv =>
    IsReceivable db inv ∧ inv.clientId = clientId ∧ ageBucket today inv = k

theorem cents_clientBuckets {b : ClientBucket} (hb : b ∈ clientBuckets db today tie) (k : AgeBucket) :
    b.cents k = total (remainingCents db) (agedInvoices db today b.clientId k) := by
  rw [(aged_clientBuckets db today tie).cents b hb k,
    total_receivableRows db tie (share db today b.clientId k), outstandingInvoices, agedInvoices,
    total_filter, total_filter]
  apply total_congr
  intro inv _
  rw [share, ← ite_and]
  refine if_congr ?_ rfl rfl
  rw [decide_eq_true_eq, isOutstanding, decide_eq_true_eq, IsReceivable, and_assoc]

/-- A client that owes something has a bucket, and something in it. -/
theorem pos_of_receivable {b : ClientBucket} (hb : b ∈ clientBuckets db today tie) {inv : Invoice}
    (hinv : inv ∈ db.invoices) (hreceivable : IsReceivable db inv) (hclient : inv.clientId = b.clientId) :
    0 < b.totalCents := by
  have hnonneg (k : AgeBucket) : 0 ≤ b.cents k := by
    rw [cents_clientBuckets db today tie hb]
    apply List.sum_nonneg
    intro x hx
    obtain ⟨inv', hinv', rfl⟩ := List.mem_map.mp hx
    exact (of_decide_eq_true (List.mem_filter.mp hinv').2).1.2.le
  have hown : remainingCents db inv ≤ b.cents (ageBucket today inv) := by
    rw [cents_clientBuckets db today tie hb]
    apply List.single_le_sum
    · intro x hx
      obtain ⟨inv', hinv', rfl⟩ := List.mem_map.mp hx
      exact (of_decide_eq_true (List.mem_filter.mp hinv').2).1.2.le
    · apply List.mem_map_of_mem
      exact List.mem_filter.mpr ⟨hinv, decide_eq_true ⟨hreceivable, hclient, rfl⟩⟩
  have hpos := hreceivable.2
  have h0 := hnonneg .current
  have h1 := hnonneg .days31To60
  have h2 := hnonneg .days61To90
  have h3 := hnonneg .days91To120
  have h4 := hnonneg .over120
  rw [ClientBucket.totalCents_eq]
  cases hk : ageBucket today inv <;> rw [hk] at hown <;> omega

theorem mem_getAgedReceivables {row : AgedReceivable} :
    row ∈ getAgedReceivables db today tie ↔
      ∃ b ∈ clientBuckets db today tie, 0 < b.totalCents ∧ b.report = row := by
  rw [getAgedReceivables, List.mem_mergeSort, List.mem_map]
  simp only [List.mem_filter, decide_eq_true_eq, and_assoc]

theorem nodup_getAgedReceivables :
    ((getAgedReceivables db today tie).map AgedReceivable.clientId).Nodup := by
  have hperm : ((getAgedReceivables db today tie).map AgedReceivable.clientId).Perm
      (((clientBuckets db today tie).filter fun b => 0 < b.totalCents).map
        ClientBucket.clientId) := by
    have hsort := (List.mergeSort_perm (((clientBuckets db today tie).filter fun b =>
      0 < b.totalCents).map ClientBucket.report) fun r r' => r'.totalCents ≤ r.totalCents).map
        AgedReceivable.clientId
    rw [List.map_map] at hsort
    exact hsort
  rw [hperm.nodup_iff]
  exact (aged_clientBuckets db today tie).nodup.sublist (List.filter_sublist.map _)

/-- Each receivable is counted once, as a whole, in one row and one bucket: the row of its client,
and the bucket of its age, which is no younger for an older date. Nothing else is counted. -/
theorem agedReceivables_partition :
    ((getAgedReceivables db today tie).map AgedReceivable.clientId).Nodup ∧
    (∀ inv ∈ db.invoices, IsReceivable db inv →
      ∃ row ∈ getAgedReceivables db today tie, row.clientId = inv.clientId) ∧
    (∀ row ∈ getAgedReceivables db today tie, ∀ k,
      row.cents k = total (remainingCents db) (db.invoices.filter fun inv =>
        IsReceivable db inv ∧ inv.clientId = row.clientId ∧ ageBucket today inv = k)) ∧
    (∀ inv inv' : Invoice, agedFrom today inv ≤ agedFrom today inv' →
      (ageBucket today inv').rank ≤ (ageBucket today inv).rank) ∧
    ∀ row ∈ getAgedReceivables db today tie, row.totalCents =
      row.currentCents+row.days31To60Cents+row.days61To90Cents+row.days91To120Cents+
        row.over120Cents := by
  refine ⟨nodup_getAgedReceivables db today tie, ?_, ?_, ?_, ?_⟩
  · intro inv hinv hreceivable
    obtain ⟨c, hc, hid⟩ := List.mem_map.mp (db.invoiceClient inv hinv)
    have hstatus : isOutstanding inv = true := by
      simp only [isOutstanding, decide_eq_true_eq]
      exact hreceivable.1
    have hrow : (inv, c) ∈ receivableRows db tie :=
      (mem_receivableRows db tie).mpr ⟨List.mem_filter.mpr ⟨hinv, hstatus⟩, hc, hid.symm⟩
    obtain ⟨b, hb, hclient⟩ :=
      List.mem_map.mp ((aged_clientBuckets db today tie).known (inv, c) hrow)
    have hpos := pos_of_receivable db today tie hb hinv hreceivable hclient.symm
    exact ⟨b.report, (mem_getAgedReceivables db today tie).mpr ⟨b, hb, hpos, rfl⟩, hclient⟩
  · intro row hrow k
    obtain ⟨b, hb, -, rfl⟩ := (mem_getAgedReceivables db today tie).mp hrow
    exact cents_clientBuckets db today tie hb k
  · intro inv inv' hdate
    exact AgeBucket.rank_ofAge_mono (sub_le_sub_left hdate today)
  · intro row hrow
    obtain ⟨b, -, -, rfl⟩ := (mem_getAgedReceivables db today tie).mp hrow
    rfl

end LegalForge.Reports
