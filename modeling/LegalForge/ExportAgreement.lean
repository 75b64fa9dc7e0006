import LegalForge.IifFormat

/-! The preview of an export against what the three formats write for the same request. -/
namespace LegalForge.Accounting
open Billing Decimal Delimited
open Trust (TrustLedgerEntry fetchTrustEntries)

/-- The amounts of the records of a request, in cents. -/
def recordAmounts (db : AccountingDb) (data : ExportRequest) : List ℤ :=
  match exportKind data.exportType with
  | some .invoices => (fetchInvoices db data.startDate data.endDate).map Invoice.totalCents
  | some .payments => (fetchPayments db data.startDate data.endDate).map Payment.amountCents
  | some .timeEntries => (fetchTimeEntries db data.startDate data.endDate).map timeAmount
  | some .trustTransactions =>
    (fetchTrustEntries db.trust data.startDate data.endDate).map TrustLedgerEntry.amountCents
  | none => []

/-- The amounts of the transaction lines. -/
def iifAmounts (db : AccountingDb) (data : ExportRequest) : Option (List ℤ) :=
  (iifBlocks db data).2.mapM fun block => readCents block.trns.amount

/-- The column with the amount of a record. -/
def amountColumn : ExportKind → ℕ
  | .invoices => 6
  | .payments => 3
  | .timeEntries => 4
  | .trustTransactions => 3

/-- The amounts a reader finds in the rows after the header. -/
def csvAmounts (data : ExportRequest) (content : List Char) : Option (List ℤ) :=
  match exportKind data.exportType with
  | none => some []
  | some kind => (Csv.readRows content).tail.mapM fun row =>
      (row[amountColumn kind]?).bind readCents

/-- `TotalAmt` of every record. -/
def QboRecords.totalAmts : QboRecords → List ℚ
  | .invoices records => records.map QboInvoice.totalAmt
  | .payments records => records.map QboPayment.totalAmt
  | .timeEntries records => records.map QboTimeEntry.totalAmt
  | .trustTransactions records => records.map QboTrustTransaction.totalAmt
  | .absent => []

/-- The cents nearest to a double. -/
def nearestCents (x : ℚ) : ℤ :=
  Double.roundEven (100*x)

/-- The counts and the totals of the preview are those of all three exports. -/
structure PreviewAgrees (db : AccountingDb) (data : ExportRequest) (userId : Uuid) : Prop where
  iifCount : (generateExportPreview db data).rowCount =
    (generateIifExport db data userId).2.recordCount
  csvCount : (generateExportPreview db data).rowCount =
    (generateCsvExport db data userId).2.recordCount
  qboCount : (generateExportPreview db data).rowCount =
    (generateQboJsonExport db data userId).2.recordCount
  iifTotal : ∃ amounts, iifAmounts db data = some amounts ∧
    (generateExportPreview db data).totalAmountCents = amounts.sum
  csvTotal : ∃ amounts, csvAmounts data (generateCsvExport db data userId).1 = some amounts ∧
    (generateExportPreview db data).totalAmountCents = amounts.sum
  qboTotal : (generateExportPreview db data).totalAmountCents =
    ((generateQboJsonExport db data userId).1.records.totalAmts.map nearestCents).sum

/-! What each of them has of the amounts. -/

theorem readCents_formatMoney (cents : ℤ) :
    readCents (formatMoney cents) = some (Trust.formatMoney cents) :=
  readCents_centsText _

theorem mapM_eq_some_map {α β : Type} {f : α → Option β} {g : α → β} {xs : List α}
    (h : ∀ x, f x = some (g x)) : xs.mapM f = some (xs.map g) :=
  mapM_eq_some_iff.mpr (List.forall₂_map_right_iff.mpr (List.forall₂_same.mpr fun x _ => h x))

section Amounts

variable (db : AccountingDb) (data : ExportRequest)

theorem preview_eq_recordAmounts :
    (generateExportPreview db data).rowCount = (recordAmounts db data).length ∧
      (generateExportPreview db data).totalAmountCents = (recordAmounts db data).sum := by
  unfold generateExportPreview recordAmounts
  cases exportKind data.exportType with
  | none => exact ⟨rfl, rfl⟩
  | some kind => cases kind <;> exact ⟨(List.length_map _).symm, rfl⟩

/-- The transaction lines print the amounts of their rows. -/
theorem mapM_numberedBlocks {α : Type} {block : ℕ → α → IifBlock} {cents : α → ℤ}
    (h : ∀ idx x, (block idx x).trns.amount = formatMoney (cents x)) (rows : List α) :
    (numberedBlocks block rows).mapM (fun b => readCents b.trns.amount) =
      some ((rows.map cents).map Trust.formatMoney) := by
  have hrows : (rows.map cents).map Trust.formatMoney =
      (rows.zipIdx 1).map fun x => Trust.formatMoney (cents x.1) := by
    have hfst : ((rows.zipIdx 1).map Prod.fst).map (fun x => Trust.formatMoney (cents x)) =
        rows.map fun x => Trust.formatMoney (cents x) := by rw [List.zipIdx_map_fst]
    rw [List.map_map] at hfst
    rw [List.map_map]
    exact hfst.symm
  rw [numberedBlocks, List.mapM_map, hrows]
  apply mapM_eq_some_map
  intro x
  rw [Function.comp_apply, h, readCents_formatMoney]

theorem trustBlock_amount (idx : ℕ) (entry : TrustLedgerEntry) :
    (trustBlock db idx entry).trns.amount = formatMoney entry.amountCents := by
  unfold trustBlock
  cases entry.entryType <;> rfl

theorem iifAmounts_eq : (iifBlocks db data).1 = (recordAmounts db data).length ∧
    iifAmounts db data = some ((recordAmounts db data).map Trust.formatMoney) := by
  unfold iifAmounts iifBlocks recordAmounts
  cases exportKind data.exportType with
  | none => exact ⟨rfl, rfl⟩
  | some kind =>
    cases kind with
    | invoices => exact ⟨(List.length_map _).symm, mapM_numberedBlocks (fun _ _ => rfl) _⟩
    | payments => exact ⟨(List.length_map _).symm, mapM_numberedBlocks (fun _ _ => rfl) _⟩
    | timeEntries => exact ⟨(List.length_map _).symm, mapM_numberedBlocks (fun _ _ => rfl) _⟩
    | trustTransactions =>
      exact ⟨(List.length_map _).symm, mapM_numberedBlocks (trustBlock_amount db) _⟩

/-- A reader of written rows finds the printed amounts in their column. -/
theorem mapM_csvRows {α : Type} {row : α → List (List Char)} {cents : α → ℤ} {column : ℕ}
    (h : ∀ x, (row x)[column]? = some (formatMoney (cents x))) {header : List (List Char)}
    (hheader : header ≠ []) (rows : List α) :
    (Csv.readRows (Csv.writeRows (header :: rows.map row))).tail.mapM
        (fun r => (r[column]?).bind readCents) =
      some ((rows.map cents).map Trust.formatMoney) := by
  have hne : ∀ r ∈ header :: rows.map row, r ≠ [] := by
    intro r hr
    rcases List.mem_cons.mp hr with rfl | hr
    · exact hheader
    · obtain ⟨x, -, rfl⟩ := List.mem_map.mp hr
      intro hnil
      have hcolumn := h x
      rw [hnil] at hcolumn
      cases hcolumn
  rw [Csv.readRows_writeRows hne, List.tail_cons, List.mapM_map, List.map_map]
  apply mapM_eq_some_map
  intro x
  rw [Function.comp_apply, h, Option.bind_some, readCents_formatMoney, Function.comp_apply]

theorem csvAmounts_eq (userId : Uuid) : (csvRows db data).1 = (recordAmounts db data).length ∧
    csvAmounts data (generateCsvExport db data userId).1 =
      some ((recordAmounts db data).map Trust.formatMoney) := by
  unfold csvAmounts generateCsvExport csvRows recordAmounts
  cases exportKind data.exportType with
  | none => exact ⟨rfl, rfl⟩
  | some kind =>
    cases kind with
    | invoices => exact ⟨(List.length_map _).symm, mapM_csvRows (fun _ => rfl) (by simp) _⟩
    | payments => exact ⟨(List.length_map _).symm, mapM_csvRows (fun _ => rfl) (by simp) _⟩
    | timeEntries => exact ⟨(List.length_map _).symm, mapM_csvRows (fun _ => rfl) (by simp) _⟩
    | trustTransactions => exact ⟨(List.length_map _).symm, mapM_csvRows (fun _ => rfl) (by simp) _⟩

theorem qboAmounts_eq : (qboRecords db data).1 = (recordAmounts db data).length ∧
    (qboRecords db data).2.totalAmts.map nearestCents =
      (recordAmounts db data).map Trust.formatMoney := by
  unfold qboRecords recordAmounts
  cases exportKind data.exportType with
  | none => exact ⟨rfl, rfl⟩
  | some kind =>
    cases kind <;>
      exact ⟨(List.length_map _).symm, by
        simp only [QboRecords.totalAmts, List.map_map]
        rfl⟩

end Amounts

/-- The doubles around `2^46` dollars still have a cent of their own; above it they do not. -/
theorem formatMoney_of_le {cents : ℤ} (h : |cents| ≤ 100*2^46) : Trust.formatMoney cents = cents := by
  rcases lt_or_eq_of_le h with hlt | heq
  · exact printsExactly_of_lt hlt
  · have hexact : ∀ n : ℤ, |n| < 2^53 → Trust.formatMoney (100*n) = 100*n := by
      intro n hn
      have hquot : Double.div ((100*n : ℤ) : ℚ) 100 = n := by
        rw [Double.div, Int.cast_mul, Int.cast_ofNat, mul_div_cancel_left₀ _ (by norm_num),
          Double.round_intCast hn]
      rw [Trust.formatMoney, hquot]
      exact_mod_cast Double.roundEven_intCast (100*n)
    rcases (abs_eq (by norm_num)).mp heq with rfl | rfl
    · exact hexact (2^46) (by norm_num)
    · have hneg := hexact (-2^46) (by norm_num)
      rwa [mul_neg] at hneg

/-- Counts agree always, and totals as long as no amount exceeds `2^46` dollars. -/
theorem previewAgrees (db : AccountingDb) (data : ExportRequest) (userId : Uuid)
    (hamount : ∀ a ∈ recordAmounts db data, |a| ≤ 100*2^46) : PreviewAgrees db data userId := by
  have hprinted : (recordAmounts db data).map Trust.formatMoney = recordAmounts db data := by
    conv_rhs => rw [← List.map_id (recordAmounts db data)]
    exact List.map_congr_left fun a ha => formatMoney_of_le (hamount a ha)
  obtain ⟨hcount, htotal⟩ := preview_eq_recordAmounts db data
  obtain ⟨hiifCount, hiif⟩ := iifAmounts_eq db data
  obtain ⟨hcsvCount, hcsv⟩ := csvAmounts_eq db data userId
  obtain ⟨hqboCount, hqbo⟩ := qboAmounts_eq db data
  rw [hprinted] at hiif hcsv hqbo
  refine ⟨hcount.trans hiifCount.symm, hcount.trans hcsvCount.symm, hcount.trans hqboCount.symm,
    ⟨_, hiif, htotal⟩, ⟨_, hcsv, htotal⟩, htotal.trans ?_⟩
  exact congrArg List.sum hqbo.symm

/-- One invoice over so many cents. -/
def oneInvoice (totalCents : ℤ) : AccountingDb where
  billing := ⟨[], [⟨11, some 1001, 4, 5, some 738950, none, totalCents, 0, totalCents, .sent, none⟩],
    [], [], [], []⟩
  trust := ⟨fun _ => none, [], []⟩
  clients := fun _ => none
  matterTitles := fun _ => none

def invoicesOf2024 : ExportRequest where
  format := .csv
  exportType := "invoices"
  startDate := 738886
  endDate := 739251
  type_min := by decide
  type_max := by decide

theorem recordAmounts_oneInvoice (totalCents : ℤ) :
    recordAmounts (oneInvoice totalCents) invoicesOf2024 = [totalCents] := by
  have hkind : exportKind invoicesOf2024.exportType = some .invoices := by decide
  have hfetch : fetchInvoices (oneInvoice totalCents) invoicesOf2024.startDate
      invoicesOf2024.endDate = [⟨11, some 1001, 4, 5, some 738950, none, totalCents, 0, totalCents,
        .sent, none⟩] := List.mergeSort_singleton _
  rw [recordAmounts, hkind]
  dsimp only
  rw [hfetch]
  rfl

theorem previewAgrees_oneInvoice : (∀ a ∈ recordAmounts (oneInvoice 54000) invoicesOf2024,
    |a| ≤ 100*2^46) ∧ PreviewAgrees (oneInvoice 54000) invoicesOf2024 2 := by
  have hamount : ∀ a ∈ recordAmounts (oneInvoice 54000) invoicesOf2024, |a| ≤ 100*2^46 := by
    rw [recordAmounts_oneInvoice]
    decide
  exact ⟨hamount, previewAgrees _ _ _ hamount⟩

/-- One cent more than `2^46` dollars is printed as two. -/
theorem not_previewAgrees_oneInvoice : ¬ ∀ (db : AccountingDb) (data : ExportRequest)
    (userId : Uuid), (∀ a ∈ recordAmounts db data, |a| < 2^53) → PreviewAgrees db data userId := by
  intro h
  have hamounts := recordAmounts_oneInvoice 7036874417766401
  have hsmall : ∀ a ∈ recordAmounts (oneInvoice 7036874417766401) invoicesOf2024, |a| < 2^53 := by
    rw [hamounts]
    decide
  obtain ⟨amounts, hiif, htotal⟩ := (h _ _ 2 hsmall).iifTotal
  rw [(iifAmounts_eq _ _).2, hamounts] at hiif
  rw [(preview_eq_recordAmounts _ _).2, hamounts, ← Option.some.inj hiif] at htotal
  have hprinted : Trust.formatMoney 7036874417766401 = 7036874417766402 := by decide +kernel
  simp only [List.map_cons, List.map_nil, hprinted, List.sum_singleton] at htotal
  revert htotal
  decide

end LegalForge.Accounting
