import LegalForge.BillingModels
import LegalForge.CsvText
import LegalForge.DecimalText
import LegalForge.TrustExport

/-! The exports for accounting software and their preview. Every format fetches the rows of a
period by itself, and prints the amounts on its own. -/
namespace LegalForge.Accounting
open Billing Decimal Delimited
open Trust (ClientName exportedName TrustLedgerEntry fetchTrustEntries)

/-- The tables the exports read. -/
structure AccountingDb where
  billing : Billing.Db
  trust : Trust.Db
  clients : Uuid → Option ClientName
  matterTitles : Uuid → Option String

inductive ExportFormat where
  | iif
  | csv
  | qboJson
  deriving DecidableEq

structure ExportRequest where
  format : ExportFormat
  exportType : String
  startDate : Date
  endDate : Date
  type_min : 1 ≤ exportType.length
  type_max : exportType.length ≤ 100

structure ExportHistory where
  exportFormat : ExportFormat
  exportType : String
  startDate : Date
  endDate : Date
  recordCount : ℕ
  fileName : List Char
  exportedBy : Uuid
  deriving DecidableEq

structure ExportPreview where
  rowCount : ℕ
  totalAmountCents : ℤ
  sampleRows : List (List (String × List Char))
  exportType : String
  format : ExportFormat

/-- The four types the exports know. Of any other type they export nothing. -/
inductive ExportKind where
  | invoices
  | payments
  | timeEntries
  | trustTransactions
  deriving DecidableEq

def exportKind (exportType : String) : Option ExportKind :=
  if exportType = "invoices" then some .invoices
  else if exportType = "payments" then some .payments
  else if exportType = "time_entries" then some .timeEntries
  else if exportType = "trust_transactions" then some .trustTransactions
  else none

/-! Texts. -/

/-- `client.organization_name or f"{first} {last}".strip() or "Unknown"` -/
def clientDisplayName (client : Option ClientName) : String :=
  match client with
  | none => "Unknown"
  | some c => if exportedName (some c) = "" then "Unknown" else exportedName (some c)

/-- `_get_client_display_name` -/
def getClientDisplayName (db : AccountingDb) (invoice : Invoice) : String :=
  clientDisplayName (db.clients invoice.clientId)

/-- `_format_money` -/
def formatMoney (cents : ℤ) : List Char :=
  twoDecimals (Double.div cents 100)

/-- `str(d)` -/
def isoDate (date : Date) : List Char :=
  match yearMonthDay date with
  | (year, month, day) => Encoding.padded 10 4 year++ '-' :: Encoding.padded 10 2 month++
    '-' :: Encoding.padded 10 2 day

/-- `str(d) if d else ""` -/
def optionalDate (text : Date → List Char) (date : Option Date) : List Char :=
  match date with
  | none => []
  | some d => text d

/-- `str(n)` of a column that may be null. -/
def optionalInt (absent : String) (n : Option ℤ) : List Char :=
  match n with
  | none => absent.toList
  | some n => intText n

/-- `description[:k] if description else default` -/
def clipped (k : ℕ) (default description : String) : List Char :=
  if description = "" then default.toList else description.toList.take k

def boolText (b : Bool) : List Char :=
  if b then "True".toList else "False".toList

def invoiceStatusValue : InvoiceStatus → String
  | .draft => "draft"
  | .sent => "sent"
  | .paid => "paid"
  | .overdue => "overdue"
  | .void => "void"

def paymentMethodValue : PaymentMethod → String
  | .check => "check"
  | .ach => "ach"
  | .creditCard => "credit_card"
  | .cash => "cash"
  | .other => "other"

def entryTypeValue : Trust.TrustEntryType → String
  | .deposit => "deposit"
  | .disbursement => "disbursement"
  | .transfer => "transfer"

/-! The rows of a period. -/

/-- Ascending invoice numbers, those without one last. -/
def numberLe : Option ℤ → Option ℤ → Bool
  | some m, some n => m ≤ n
  | _, none => true
  | none, some _ => false

def invoiceLe (a b : Invoice) : Bool :=
  match a.issuedDate, b.issuedDate with
  | some d, some e => d < e || (d = e && numberLe a.invoiceNumber b.invoiceNumber)
  | _, _ => true

def inPeriod (startDate endDate : Date) (date : Option Date) : Bool :=
  match date with
  | none => false
  | some d => startDate ≤ d && d ≤ endDate

/-- `_fetch_invoices` -/
def fetchInvoices (db : AccountingDb) (startDate endDate : Date) : List Invoice :=
  (db.billing.invoices.filter fun inv =>
    inPeriod startDate endDate inv.issuedDate && inv.status ≠ .void).mergeSort invoiceLe

/-- `_fetch_payments` -/
def fetchPayments (db : AccountingDb) (startDate endDate : Date) : List Payment :=
  (db.billing.payments.filter fun p => startDate ≤ p.paymentDate && p.paymentDate ≤ endDate).mergeSort
    fun p p' => p.paymentDate ≤ p'.paymentDate

/-- `_fetch_time_entries` -/
def fetchTimeEntries (db : AccountingDb) (startDate endDate : Date) : List TimeEntry :=
  (db.billing.timeEntries.filter fun e => startDate ≤ e.date && e.date ≤ endDate).mergeSort
    fun e e' => e.date ≤ e'.date

/-- `int(entry.rate_cents * entry.duration_minutes / 60)` -/
def timeAmount (entry : TimeEntry) : ℤ :=
  Double.trunc (Double.div (entry.rateCents*entry.durationMinutes) 60)

/-- `pmt.invoice` -/
def paymentInvoice (db : AccountingDb) (p : Payment) : Option Invoice :=
  getInvoice db.billing p.invoiceId

/-- `_get_client_display_name(inv) if inv else ""` -/
def paymentClientName (db : AccountingDb) (p : Payment) : String :=
  match paymentInvoice db p with
  | none => ""
  | some inv => getClientDisplayName db inv

def paymentInvoiceNumber (db : AccountingDb) (absent : String) (p : Payment) : List Char :=
  match paymentInvoice db p with
  | none => absent.toList
  | some inv => optionalInt "None" inv.invoiceNumber

def trustClientName (db : AccountingDb) (entry : TrustLedgerEntry) : String :=
  exportedName (db.clients entry.clientId)

def matterTitle (db : AccountingDb) (matterId : Uuid) : String :=
  (db.matterTitles matterId).getD ""

/-! The preview. -/

/-- `_preview_row_from_invoice` -/
def previewRowFromInvoice (db : AccountingDb) (inv : Invoice) : List (String × List Char) :=
  [("date", optionalDate isoDate inv.issuedDate),
   ("invoice_number", optionalInt "None" inv.invoiceNumber),
   ("client", (getClientDisplayName db inv).toList),
   ("total", formatMoney inv.totalCents),
   ("status", (invoiceStatusValue inv.status).toList)]

/-- `_preview_row_from_payment` -/
def previewRowFromPayment (db : AccountingDb) (p : Payment) : List (String × List Char) :=
  [("date", isoDate p.paymentDate),
   ("invoice", paymentInvoiceNumber db "" p),
   ("client", (paymentClientName db p).toList),
   ("amount", formatMoney p.amountCents),
   ("method", (paymentMethodValue p.method).toList)]

/-- `_preview_row_from_time_entry` -/
def previewRowFromTimeEntry (entry : TimeEntry) : List (String × List Char) :=
  [("date", isoDate entry.date),
   ("description", clipped 60 "" entry.description),
   ("duration_minutes", intText entry.durationMinutes),
   ("amount", formatMoney (timeAmount entry)),
   ("billable", boolText entry.billable)]

/-- `_preview_row_from_trust_entry` -/
def previewRowFromTrustEntry (entry : TrustLedgerEntry) : List (String × List Char) :=
  [("date", isoDate entry.entryDate),
   ("type", (entryTypeValue entry.entryType).toList),
   ("amount", formatMoney entry.amountCents),
   ("description", clipped 60 "" entry.description),
   ("reference", (entry.referenceNumber.getD "").toList)]

/-- `generate_export_preview` -/
def generateExportPreview (db : AccountingDb) (data : ExportRequest) : ExportPreview :=
  match exportKind data.exportType with
  | some .invoices =>
    let invoices := fetchInvoices db data.startDate data.endDate
    ⟨invoices.length, (invoices.map Invoice.totalCents).sum,
     (invoices.take 10).map (previewRowFromInvoice db), data.exportType, data.format⟩
  | some .payments =>
    let payments := fetchPayments db data.startDate data.endDate
    ⟨payments.length, (payments.map Payment.amountCents).sum,
     (payments.take 10).map (previewRowFromPayment db), data.exportType, data.format⟩
  | some .timeEntries =>
    let entries := fetchTimeEntries db data.startDate data.endDate
    ⟨entries.length, (entries.map timeAmount).sum,
     (entries.take 10).map previewRowFromTimeEntry, data.exportType, data.format⟩
  | some .trustTransactions =>
    let entries := fetchTrustEntries db.trust data.startDate data.endDate
    ⟨entries.length, (entries.map TrustLedgerEntry.amountCents).sum,
     (entries.take 10).map previewRowFromTrustEntry, data.exportType, data.format⟩
  | none => ⟨0, 0, [], data.exportType, data.format⟩

/-! QuickBooks Desktop. -/

/-- One `TRNS` or `SPL` line by its fields. -/
structure IifRow where
  tag : List Char
  trnsId : List Char
  trnsType : List Char
  date : List Char
  accnt : List Char
  name : List Char
  amount : List Char
  memo : List Char
  deriving DecidableEq

def IifRow.fields (r : IifRow) : List (List Char) :=
  [r.tag, r.trnsId, r.trnsType, r.date, r.accnt, r.name, r.amount, r.memo]

/-- A transaction line and its split line. -/
structure IifBlock where
  trns : IifRow
  spl : IifRow
  deriving DecidableEq

/-- Two lines that post opposite amounts. -/
def postingBlock (idx : ℕ) (trnsType : String) (date : List Char) (trnsAccnt splAccnt : String)
    (name : List Char) (cents : ℤ) (trnsMemo splMemo : List Char) : IifBlock where
  trns := ⟨"TRNS".toList, Nat.toDigits 10 idx, trnsType.toList, date, trnsAccnt.toList, name,
    formatMoney cents, trnsMemo⟩
  spl := ⟨"SPL".toList, Nat.toDigits 10 idx, trnsType.toList, date, splAccnt.toList, name,
    formatMoney (-cents), splMemo⟩

/-- The description of the first line of an invoice. -/
def invoiceMemo (db : AccountingDb) (inv : Invoice) : List Char :=
  match db.billing.lineItems.filter (fun li => li.invoiceId = inv.id) with
  | [] => "Legal services".toList
  | li :: _ => clipped 80 "Legal services" li.description

def invoiceBlock (db : AccountingDb) (idx : ℕ) (inv : Invoice) : IifBlock :=
  postingBlock idx "INVOICE" (optionalDate slashedDate inv.issuedDate) "Accounts Receivable"
    "Legal Fees" (getClientDisplayName db inv).toList inv.totalCents
    ("Invoice #".toList++optionalInt "None" inv.invoiceNumber) (invoiceMemo db inv)

def paymentMemo (db : AccountingDb) (p : Payment) : List Char :=
  "Payment for Invoice #".toList++paymentInvoiceNumber db "N/A" p

def paymentBlock (db : AccountingDb) (idx : ℕ) (p : Payment) : IifBlock :=
  postingBlock idx "PAYMENT" (slashedDate p.paymentDate) "Operating Account"
    "Accounts Receivable" (paymentClientName db p).toList p.amountCents (paymentMemo db p)
    (paymentMemo db p)

def timeEntryBlock (idx : ℕ) (entry : TimeEntry) : IifBlock :=
  postingBlock idx "TIME_ENTRY" (slashedDate entry.date) "Accounts Receivable" "Legal Fees" []
    (timeAmount entry) (clipped 80 "Time entry" entry.description)
    (clipped 80 "Time entry" entry.description)

def trustBlock (db : AccountingDb) (idx : ℕ) (entry : TrustLedgerEntry) : IifBlock :=
  let posting (trnsType trnsAccnt splAccnt : String) :=
    postingBlock idx trnsType (slashedDate entry.entryDate) trnsAccnt splAccnt
      (trustClientName db entry).toList entry.amountCents
      (clipped 80 "Trust transaction" entry.description)
      (clipped 80 "Trust transaction" entry.description)
  match entry.entryType with
  | .deposit => posting "DEPOSIT" "Trust/IOLTA Account" "Client Trust Liability"
  | .disbursement => posting "DISBURSEMENT" "Client Trust Liability" "Trust/IOLTA Account"
  | .transfer => posting "TRANSFER" "Trust/IOLTA Account" "Client Trust Liability"

/-- One block for each fetched row, numbered from 1. -/
def numberedBlocks {α : Type} (block : ℕ → α → IifBlock) (rows : List α) : List IifBlock :=
  (rows.zipIdx 1).map fun x => block x.2 x.1

/-- The branches of `generate_iif_export`: `record_count` and the blocks. -/
def iifBlocks (db : AccountingDb) (data : ExportRequest) : ℕ × List IifBlock :=
  match exportKind data.exportType with
  | some .invoices =>
    let invoices := fetchInvoices db data.startDate data.endDate
    (invoices.length, numberedBlocks (invoiceBlock db) invoices)
  | some .payments =>
    let payments := fetchPayments db data.startDate data.endDate
    (payments.length, numberedBlocks (paymentBlock db) payments)
  | some .timeEntries =>
    let entries := fetchTimeEntries db data.startDate data.endDate
    (entries.length, numberedBlocks timeEntryBlock entries)
  | some .trustTransactions =>
    let entries := fetchTrustEntries db.trust data.startDate data.endDate
    (entries.length, numberedBlocks (trustBlock db) entries)
  | none => (0, [])

def iifHeader : List (List Char) :=
  ["!TRNS\tTRNSID\tTRNSTYPE\tDATE\tACCNT\tNAME\tAMOUNT\tMEMO".toList,
   "!SPL\tSPLID\tTRNSTYPE\tDATE\tACCNT\tNAME\tAMOUNT\tMEMO".toList,
   "!ENDTRNS".toList]

def blockLines (block : IifBlock) : List (List Char) :=
  [join '\t' block.trns.fields, join '\t' block.spl.fields, "ENDTRNS".toList]

def iifContent (blocks : List IifBlock) : List Char :=
  join '\n' (iifHeader++blocks.flatMap blockLines)++['\n']

/-- The history row of an export. -/
def exportHistory (format : ExportFormat) (extension : String) (data : ExportRequest)
    (userId : Uuid) (recordCount : ℕ) : ExportHistory :=
  ⟨format, data.exportType, data.startDate, data.endDate, recordCount,
   "export_".toList++data.exportType.toList++ '_' :: isoDate data.startDate++
     '_' :: isoDate data.endDate++extension.toList, userId⟩

/-- `generate_iif_export`: the content and the row added to the history. -/
def generateIifExport (db : AccountingDb) (data : ExportRequest) (userId : Uuid) :
    List Char × ExportHistory :=
  (iifContent (iifBlocks db data).2, exportHistory .iif ".iif" data userId (iifBlocks db data).1)

/-! CSV. -/

def csvInvoiceRow (db : AccountingDb) (inv : Invoice) : List (List Char) :=
  [optionalDate isoDate inv.issuedDate, optionalInt "" inv.invoiceNumber,
   (getClientDisplayName db inv).toList, (matterTitle db inv.matterId).toList,
   formatMoney inv.subtotalCents, formatMoney inv.taxCents, formatMoney inv.totalCents,
   (invoiceStatusValue inv.status).toList]

def csvPaymentRow (db : AccountingDb) (p : Payment) : List (List Char) :=
  [isoDate p.paymentDate, optionalInt "" ((paymentInvoice db p).bind Invoice.invoiceNumber),
   (paymentClientName db p).toList, formatMoney p.amountCents,
   (paymentMethodValue p.method).toList, (p.referenceNumber.getD "").toList]

def csvTimeEntryRow (db : AccountingDb) (entry : TimeEntry) : List (List Char) :=
  [isoDate entry.date, entry.description.toList, intText entry.durationMinutes,
   formatMoney entry.rateCents, formatMoney (timeAmount entry), boolText entry.billable,
   (matterTitle db entry.matterId).toList]

def csvTrustRow (db : AccountingDb) (entry : TrustLedgerEntry) : List (List Char) :=
  [isoDate entry.entryDate, (entryTypeValue entry.entryType).toList,
   (trustClientName db entry).toList, formatMoney entry.amountCents,
   formatMoney entry.runningBalanceCents, entry.description.toList,
   (entry.referenceNumber.getD "").toList]

/-- The branches of `generate_csv_export`: `record_count` and the rows. -/
def csvRows (db : AccountingDb) (data : ExportRequest) : ℕ × List (List (List Char)) :=
  match exportKind data.exportType with
  | some .invoices =>
    let invoices := fetchInvoices db data.startDate data.endDate
    (invoices.length, ["Date", "Invoice #", "Client", "Matter", "Subtotal", "Tax", "Total",
      "Status"].map String.toList :: invoices.map (csvInvoiceRow db))
  | some .payments =>
    let payments := fetchPayments db data.startDate data.endDate
    (payments.length, ["Date", "Invoice #", "Client", "Amount", "Method", "Reference"].map
      String.toList :: payments.map (csvPaymentRow db))
  | some .timeEntries =>
    let entries := fetchTimeEntries db data.startDate data.endDate
    (entries.length, ["Date", "Description", "Duration (min)", "Rate", "Amount", "Billable",
      "Matter"].map String.toList :: entries.map (csvTimeEntryRow db))
  | some .trustTransactions =>
    let entries := fetchTrustEntries db.trust data.startDate data.endDate
    (entries.length, ["Date", "Type", "Client", "Amount", "Running Balance", "Description",
      "Reference"].map String.toList :: entries.map (csvTrustRow db))
  | none => (0, [])

/-- `generate_csv_export` -/
def generateCsvExport (db : AccountingDb) (data : ExportRequest) (userId : Uuid) :
    List Char × ExportHistory :=
  (Csv.writeRows (csvRows db data).2, exportHistory .csv ".csv" data userId (csvRows db data).1)

/-! QuickBooks Online. Amounts are doubles. -/

structure QboLine where
  description : String
  quantity : ℤ
  unitPrice : ℚ
  amount : ℚ

structure QboInvoice where
  id : List Char
  docNumber : List Char
  txnDate : Option (List Char)
  dueDate : Option (List Char)
  customerName : String
  matterReference : String
  totalAmt : ℚ
  subTotal : ℚ
  taxAmt : ℚ
  status : String
  line : List QboLine

structure QboPayment where
  id : List Char
  txnDate : List Char
  customerName : String
  invoiceNumber : Option (List Char)
  totalAmt : ℚ
  paymentMethod : String
  referenceNumber : Option String

structure QboTimeEntry where
  id : List Char
  txnDate : List Char
  description : String
  durationMinutes : ℤ
  hourlyRate : ℚ
  totalAmt : ℚ
  billable : Bool
  matterReference : String

structure QboTrustTransaction where
  id : List Char
  txnDate : List Char
  entryType : String
  customerName : String
  totalAmt : ℚ
  runningBalance : ℚ
  description : String
  referenceNumber : Option String

/-- The list under the key of its type. -/
inductive QboRecords where
  | invoices (records : List QboInvoice)
  | payments (records : List QboPayment)
  | timeEntries (records : List QboTimeEntry)
  | trustTransactions (records : List QboTrustTransaction)
  | absent

/-- The exported dictionary. For an unknown type `export_info` has no count. -/
structure QboExport where
  format : String
  exportType : String
  startDate : List Char
  endDate : List Char
  recordCount : Option ℕ
  records : QboRecords

def dollars (cents : ℤ) : ℚ :=
  Double.div cents 100

def qboInvoice (db : AccountingDb) (inv : Invoice) : QboInvoice where
  id := uuidText inv.id
  docNumber := optionalInt "None" inv.invoiceNumber
  txnDate := inv.issuedDate.map isoDate
  dueDate := inv.dueDate.map isoDate
  customerName := getClientDisplayName db inv
  matterReference := matterTitle db inv.matterId
  totalAmt := dollars inv.totalCents
  subTotal := dollars inv.subtotalCents
  taxAmt := dollars inv.taxCents
  status := invoiceStatusValue inv.status
  line := (db.billing.lineItems.filter (fun li => li.invoiceId = inv.id)).map fun li =>
    ⟨li.description, li.quantity, dollars li.rateCents, dollars li.amountCents⟩

def qboPayment (db : AccountingDb) (p : Payment) : QboPayment where
  id := uuidText p.id
  txnDate := isoDate p.paymentDate
  customerName := paymentClientName db p
  invoiceNumber := (paymentInvoice db p).map fun inv => optionalInt "None" inv.invoiceNumber
  totalAmt := dollars p.amountCents
  paymentMethod := paymentMethodValue p.method
  referenceNumber := p.referenceNumber

def qboTimeEntry (db : AccountingDb) (entry : TimeEntry) : QboTimeEntry where
  id := uuidText entry.id
  txnDate := isoDate entry.date
  description := entry.description
  durationMinutes := entry.durationMinutes
  hourlyRate := dollars entry.rateCents
  totalAmt := dollars (timeAmount entry)
  billable := entry.billable
  matterReference := matterTitle db entry.matterId

def qboTrustTransaction (db : AccountingDb) (entry : TrustLedgerEntry) : QboTrustTransaction where
  id := uuidText entry.id
  txnDate := isoDate entry.entryDate
  entryType := entryTypeValue entry.entryType
  customerName := trustClientName db entry
  totalAmt := dollars entry.amountCents
  runningBalance := dollars entry.runningBalanceCents
  description := entry.description
  referenceNumber := entry.referenceNumber

/-- The branches of `generate_qbo_json_export`: `record_count` and the list. -/
def qboRecords (db : AccountingDb) (data : ExportRequest) : ℕ × QboRecords :=
  match exportKind data.exportType with
  | some .invoices =>
    let invoices := fetchInvoices db data.startDate data.endDate
    (invoices.length, .invoices (invoices.map (qboInvoice db)))
  | some .payments =>
    let payments := fetchPayments db data.startDate data.endDate
    (payments.length, .payments (payments.map (qboPayment db)))
  | some .timeEntries =>
    let entries := fetchTimeEntries db data.startDate data.endDate
    (entries.length, .timeEntries (entries.map (qboTimeEntry db)))
  | some .trustTransactions =>
    let entries := fetchTrustEntries db.trust data.startDate data.endDate
    (entries.length, .trustTransactions (entries.map (qboTrustTransaction db)))
  | none => (0, .absent)

/-- `generate_qbo_json_export` -/
def generateQboJsonExport (db : AccountingDb) (data : ExportRequest) (userId : Uuid) :
    QboExport × ExportHistory :=
  (⟨"qbo_json", data.exportType, isoDate data.startDate, isoDate data.endDate,
    (exportKind data.exportType).map (fun _ => (qboRecords db data).1), (qboRecords db data).2⟩,
   exportHistory .qboJson ".json" data userId (qboRecords db data).1)

/-- The trust blocks are the lines of the trust export, printed. -/
theorem trustBlock_eq_trustLines (db : AccountingDb) (idx : ℕ) (entry : TrustLedgerEntry) :
    (Trust.trustLines idx (trustClientName db entry) entry).map
        (fun line => (line.trnsType.toList, line.account.toList, line.name.toList,
          centsText line.amount, line.memo.toList)) =
      [(trustBlock db idx entry).trns, (trustBlock db idx entry).spl].map
        (fun row => (row.trnsType, row.accnt, row.name, row.amount, row.memo)) := by
  have hmemo : (Trust.exportedMemo entry.description).toList =
      clipped 80 "Trust transaction" entry.description := by
    unfold Trust.exportedMemo clipped
    split_ifs with hempty
    · rfl
    · exact String.toList_ofList
  unfold Trust.trustLines trustBlock
  cases entry.entryType with
  | deposit => simp only [Trust.iifPair, postingBlock, List.map_cons, List.map_nil, hmemo]; rfl
  | disbursement => simp only [Trust.iifPair, postingBlock, List.map_cons, List.map_nil, hmemo]; rfl
  | transfer => simp only [Trust.iifPair, postingBlock, List.map_cons, List.map_nil, hmemo]; rfl

end LegalForge.Accounting
