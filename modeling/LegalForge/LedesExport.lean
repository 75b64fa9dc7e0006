import LegalForge.AuthModels
import LegalForge.BillingModels
import LegalForge.DecimalText
import LegalForge.DelimitedText

/-! The export of an invoice as LEDES 1998B, and what a reader of the format gets out of it. Rows
are joined as they are: only the description of a line loses its delimiters. -/
namespace LegalForge.Ledes
open Billing Decimal Delimited

inductive UTBMSCodeType where
  | activity
  | expense
  | task
  | phase
  deriving DecidableEq

structure UTBMSCode where
  id : Uuid
  code : String
  codeType : UTBMSCodeType
  deriving DecidableEq

structure TimeEntryCode where
  timeEntryId : Uuid
  utbmsCodeId : Uuid
  deriving DecidableEq

structure LedesDb extends Billing.Db where
  users : List Auth.User
  utbmsCodes : List UTBMSCode
  timeEntryCodes : List TimeEntryCode

/-- A row by its columns. -/
structure LedesRecord where
  invoiceDate : List Char
  invoiceNumber : List Char
  clientId : List Char
  lawFirmMatterId : List Char
  invoiceTotal : List Char
  billingStartDate : List Char
  billingEndDate : List Char
  invoiceDescription : List Char
  lineItemNumber : List Char
  expFeeInvAdjType : List Char
  lineItemNumberOfUnits : List Char
  lineItemAdjustmentAmount : List Char
  lineItemTotal : List Char
  lineItemDate : List Char
  lineItemTaskCode : List Char
  lineItemExpenseCode : List Char
  lineItemActivityCode : List Char
  timekeeperId : List Char
  lineItemDescription : List Char
  lawFirmId : List Char
  lineItemUnitCost : List Char
  timekeeperName : List Char
  timekeeperClassification : List Char
  deriving DecidableEq

def LedesRecord.fields (r : LedesRecord) : List (List Char) :=
  [r.invoiceDate, r.invoiceNumber, r.clientId, r.lawFirmMatterId, r.invoiceTotal,
   r.billingStartDate, r.billingEndDate, r.invoiceDescription, r.lineItemNumber,
   r.expFeeInvAdjType, r.lineItemNumberOfUnits, r.lineItemAdjustmentAmount, r.lineItemTotal,
   r.lineItemDate, r.lineItemTaskCode, r.lineItemExpenseCode, r.lineItemActivityCode,
   r.timekeeperId, r.lineItemDescription, r.lawFirmId, r.lineItemUnitCost, r.timekeeperName,
   r.timekeeperClassification]

def LedesRecord.ofFields : List (List Char) → Option LedesRecord
  | [a, b, c, d, e, f, g, h, i, j, k, l, m, n, o, p, q, r, s, t, u, v, w] =>
    some ⟨a, b, c, d, e, f, g, h, i, j, k, l, m, n, o, p, q, r, s, t, u, v, w⟩
  | _ => none

/-- The three columns for codes. A phase is exported as a task. -/
inductive CodeColumn where
  | task
  | expense
  | activity
  deriving DecidableEq

def codeColumn : UTBMSCodeType → CodeColumn
  | .task => .task
  | .phase => .task
  | .expense => .expense
  | .activity => .activity

def LedesRecord.code (r : LedesRecord) : CodeColumn → List Char
  | .task => r.lineItemTaskCode
  | .expense => r.lineItemExpenseCode
  | .activity => r.lineItemActivityCode

def headerCols : List (List Char) :=
  ["INVOICE_DATE", "INVOICE_NUMBER", "CLIENT_ID", "LAW_FIRM_MATTER_ID", "INVOICE_TOTAL",
   "BILLING_START_DATE", "BILLING_END_DATE", "INVOICE_DESCRIPTION", "LINE_ITEM_NUMBER",
   "EXP/FEE/INV_ADJ_TYPE", "LINE_ITEM_NUMBER_OF_UNITS", "LINE_ITEM_ADJUSTMENT_AMOUNT",
   "LINE_ITEM_TOTAL", "LINE_ITEM_DATE", "LINE_ITEM_TASK_CODE", "LINE_ITEM_EXPENSE_CODE",
   "LINE_ITEM_ACTIVITY_CODE", "TIMEKEEPER_ID", "LINE_ITEM_DESCRIPTION", "LAW_FIRM_ID",
   "LINE_ITEM_UNIT_COST", "TIMEKEEPER_NAME", "TIMEKEEPER_CLASSIFICATION"].map String.toList

def identifierLine : List Char := "LEDES1998B[]".toList

/-! What the export reads. -/

def lineItemsOf (db : LedesDb) (invoiceId : Uuid) : List InvoiceLineItem :=
  (db.lineItems.filter (fun li => li.invoiceId = invoiceId)).mergeSort (fun a b => a.id ≤ b.id)

/-- `time_entries_map.get(li.time_entry_id)` -/
def entryOf (db : LedesDb) (li : InvoiceLineItem) : Option TimeEntry :=
  li.timeEntryId.bind fun e => Table.find TimeEntry.id e db.timeEntries

/-- `codes_map.get(li.time_entry_id, [])` -/
def codesOf (db : LedesDb) (li : InvoiceLineItem) : List UTBMSCode :=
  match li.timeEntryId with
  | none => []
  | some e => (db.timeEntryCodes.filter (fun tec => tec.timeEntryId = e)).filterMap fun tec =>
      Table.find UTBMSCode.id tec.utbmsCodeId db.utbmsCodes

/-- `te.user` of the entry of a line. -/
def timekeeperOf (db : LedesDb) (li : InvoiceLineItem) : Option Auth.User :=
  (entryOf db li).bind fun te => Table.find Auth.User.id te.userId db.users

def timekeeperName (db : LedesDb) (li : InvoiceLineItem) : String :=
  match timekeeperOf db li with
  | none => ""
  | some user => user.firstName++" "++user.lastName

/-- The rate the unit cost is printed from. -/
def unitRate (db : LedesDb) (li : InvoiceLineItem) : ℤ :=
  match entryOf db li with
  | some te => te.rateCents
  | none => li.rateCents

def entryDates (db : LedesDb) (invoiceId : Uuid) : List Date :=
  let timeEntryIds := (lineItemsOf db invoiceId).filterMap InvoiceLineItem.timeEntryId
  (db.timeEntries.filter (fun te => te.id ∈ timeEntryIds)).map TimeEntry.date

/-! What it writes. -/

/-- The loop over the codes of a line: of one column the last code stays. -/
def codeFields (codes : List UTBMSCode) : CodeColumn → String :=
  codes.foldl (fun fields c => Function.update fields (codeColumn c.codeType) c.code) (fun _ => "")

/-- `li.description.replace("|", " ").replace("\n", " ")` -/
def sanitized (description : String) : List Char :=
  (description.toList.map (fun c => if c = '|' then ' ' else c)).map
    (fun c => if c = '\n' then ' ' else c)

/-- The row of the line with number `idx`. -/
def ledesRow (db : LedesDb) (invoice : Invoice) (today : Date) (idx : ℕ) (li : InvoiceLineItem) :
    LedesRecord where
  invoiceDate := compactDate (invoice.issuedDate.getD today)
  invoiceNumber :=
    match invoice.invoiceNumber with
    | none => []
    | some n => if n = 0 then [] else intText n
  clientId := uuidText invoice.clientId
  lawFirmMatterId := uuidText invoice.matterId
  invoiceTotal := twoDecimals (Double.div invoice.totalCents 100)
  billingStartDate :=
    compactDate ((entryDates db invoice.id).min?.getD (invoice.issuedDate.getD today))
  billingEndDate :=
    compactDate ((entryDates db invoice.id).max?.getD (invoice.issuedDate.getD today))
  invoiceDescription := []
  lineItemNumber := Nat.toDigits 10 idx
  expFeeInvAdjType := if (codesOf db li).any (fun c => c.codeType = .expense) then ['E'] else ['F']
  lineItemNumberOfUnits :=
    match entryOf db li with
    | some te => twoDecimals (Double.div te.durationMinutes 60)
    | none => twoDecimals (Double.round li.quantity)
  lineItemAdjustmentAmount := "0.00".toList
  lineItemTotal := twoDecimals (Double.div li.amountCents 100)
  lineItemDate :=
    match entryOf db li with
    | some te => compactDate te.date
    | none => compactDate (invoice.issuedDate.getD today)
  lineItemTaskCode := (codeFields (codesOf db li) .task).toList
  lineItemExpenseCode := (codeFields (codesOf db li) .expense).toList
  lineItemActivityCode := (codeFields (codesOf db li) .activity).toList
  timekeeperId :=
    match entryOf db li, timekeeperOf db li with
    | some te, some _ => uuidText te.userId
    | _, _ => []
  lineItemDescription := sanitized li.description
  lawFirmId := []
  lineItemUnitCost :=
    match entryOf db li with
    | some te => twoDecimals (Double.div te.rateCents 100)
    | none => twoDecimals (Double.div li.rateCents 100)
  timekeeperName := (timekeeperName db li).toList
  timekeeperClassification :=
    match timekeeperOf db li with
    | none => []
    | some user => user.role.value.toList

def ledesRows (db : LedesDb) (invoice : Invoice) (today : Date) : List LedesRecord :=
  ((lineItemsOf db invoice.id).zipIdx 1).map (fun x => ledesRow db invoice today x.2 x.1)

/-- `export_ledes_1998b`. `today` is `date.today()`. -/
def exportLedes1998b (db : LedesDb) (invoiceId : Uuid) (today : Date) : Option String :=
  (getInvoice db.toDb invoiceId).map fun invoice =>
    String.ofList (join '\n' (identifierLine :: renderRow '|' '[' ']' headerCols ::
      (ledesRows db invoice today).map (fun r => renderRow '|' '[' ']' r.fields)))

/-! What a reader gets. -/

def parseRecord (line : List Char) : Option LedesRecord :=
  (parseRow '|' '[' ']' 23 line).bind LedesRecord.ofFields

/-- A reader of LEDES 1998B: the identifier line, the header line, and one record on each line
after them. -/
def parseLedes (text : String) : Option (List LedesRecord) :=
  match text.toList.splitOn '\n' with
  | identifier :: header :: rows =>
    if identifier = identifierLine ∧ parseRow '|' '[' ']' 23 header = some headerCols then
      rows.mapM parseRecord
    else none
  | _ => none

/-- The record says what the tables say of the line. -/
structure LineRecovered (db : LedesDb) (invoice : Invoice) (li : InvoiceLineItem)
    (record : LedesRecord) : Prop where
  name : record.timekeeperName = (timekeeperName db li).toList
  codes : ∀ c ∈ codesOf db li, record.code (codeColumn c.codeType) = c.code.toList
  noCode : ∀ column, (∀ c ∈ codesOf db li, codeColumn c.codeType ≠ column) →
    record.code column = []
  invoiceTotal : readCents record.invoiceTotal = some invoice.totalCents
  total : readCents record.lineItemTotal = some li.amountCents
  unitCost : readCents record.lineItemUnitCost = some (unitRate db li)

/-- A reader gets one record for each line of the invoice, with what the tables say of it. -/
def LedesLossless (db : LedesDb) (invoiceId : Uuid) (today : Date) : Prop :=
  ∀ invoice, getInvoice db.toDb invoiceId = some invoice → ∃ text records,
    exportLedes1998b db invoiceId today = some text ∧ parseLedes text = some records ∧
      List.Forall₂ (LineRecovered db invoice) (lineItemsOf db invoiceId) records

/-- The text contains no separator, no line end and no end of a record. -/
def FieldClean (field : List Char) : Prop :=
  '\n' ∉ field ∧ Clean '|' '[' ']' field

/-- The line has nothing that its row cannot carry. -/
structure Exportable (db : LedesDb) (invoice : Invoice) (li : InvoiceLineItem) : Prop where
  name : FieldClean (timekeeperName db li).toList
  codes : ∀ c ∈ codesOf db li, FieldClean c.code.toList
  oneCode : ∀ c ∈ codesOf db li, ∀ c' ∈ codesOf db li,
    codeColumn c.codeType = codeColumn c'.codeType → c.code = c'.code
  description : ¬['[', ']'] <:+: li.description.toList
  invoiceTotal : PrintsExactly invoice.totalCents
  total : PrintsExactly li.amountCents
  unitCost : PrintsExactly (unitRate db li)

/-! Fields that never contain a delimiter. -/

def Plain (c : Char) : Prop :=
  c ≠ '\n' ∧ c ≠ '|' ∧ c ≠ '['

instance (c : Char) : Decidable (Plain c) :=
  inferInstanceAs (Decidable (_ ∧ _))

theorem fieldClean_of_plain {field : List Char} (h : ∀ c ∈ field, Plain c) : FieldClean field := by
  refine ⟨fun hmem => (h _ hmem).1 rfl, fun hmem => (h _ hmem).2.1 rfl, fun hmark => ?_⟩
  have hmem : '[' ∈ field := hmark.subset List.mem_cons_self
  exact (h _ hmem).2.2 rfl

theorem plain_of_isDigit {c : Char} (h : c.isDigit = true) : Plain c := by
  refine ⟨?_, ?_, ?_⟩
  · rintro rfl
    revert h
    decide
  · rintro rfl
    revert h
    decide
  · rintro rfl
    revert h
    decide

theorem plain_of_isNumeric {c : Char} (h : IsNumeric c) : Plain c := by
  rcases h with h | rfl | rfl
  · exact plain_of_isDigit h
  · decide
  · decide

theorem mem_uuidText {id : Uuid} {c : Char} (h : c ∈ uuidText id) :
    c = '-' ∨ c ∈ Encoding.padded 16 32 id.toNat := by
  unfold uuidText at h
  generalize Encoding.padded 16 32 id.toNat = hex at h ⊢
  simp only [List.mem_append, List.mem_cons] at h
  rcases h with (((h | h | h) | h | h) | h | h) | h | h
  · exact Or.inr (List.mem_of_mem_take h)
  · exact Or.inl h
  · exact Or.inr (List.mem_of_mem_drop (List.mem_of_mem_take h))
  · exact Or.inl h
  · exact Or.inr (List.mem_of_mem_drop (List.mem_of_mem_take h))
  · exact Or.inl h
  · exact Or.inr (List.mem_of_mem_drop (List.mem_of_mem_take h))
  · exact Or.inl h
  · exact Or.inr (List.mem_of_mem_drop h)

theorem plain_uuidText (id : Uuid) : ∀ c ∈ uuidText id, Plain c := by
  have hdigit : ∀ d < 16, Plain (Nat.digitChar d) := by decide
  intro c hc
  rcases mem_uuidText hc with rfl | hc
  · decide
  · obtain ⟨d, hd, rfl⟩ := List.mem_map.mp hc
    exact hdigit d (Encoding.digits_lt (by decide) hd)

theorem plain_twoDecimals (x : ℚ) : ∀ c ∈ twoDecimals x, Plain c :=
  fun _ hc => plain_of_isNumeric (isNumeric_centsText hc)

theorem plain_compactDate (date : Date) : ∀ c ∈ compactDate date, Plain c :=
  fun _ hc => plain_of_isDigit (isDigit_compactDate hc)

theorem plain_role (role : Auth.UserRole) : ∀ c ∈ role.value.toList, Plain c := by
  cases role with
  | admin => simp [Auth.UserRole.value, Plain]
  | attorney => simp [Auth.UserRole.value, Plain]
  | paralegal => simp [Auth.UserRole.value, Plain]
  | billingClerk => simp [Auth.UserRole.value, Plain]

theorem fieldClean_nil : FieldClean [] :=
  fieldClean_of_plain fun _ h => absurd h List.not_mem_nil

/-! What a row carries. -/

/-- A column holds a code of its kind, if there is one. -/
theorem codeFields_cases (codes : List UTBMSCode) (column : CodeColumn) :
    (∃ c ∈ codes, codeColumn c.codeType = column ∧ codeFields codes column = c.code) ∨
      ((∀ c ∈ codes, codeColumn c.codeType ≠ column) ∧ codeFields codes column = "") := by
  induction codes using List.reverseRecOn with
  | nil => exact Or.inr ⟨fun _ h => absurd h List.not_mem_nil, rfl⟩
  | append_singleton codes c ih =>
    have hfold : codeFields (codes++[c]) =
        Function.update (codeFields codes) (codeColumn c.codeType) c.code := by
      rw [codeFields, List.foldl_append]
      rfl
    rw [hfold]
    by_cases hcolumn : codeColumn c.codeType = column
    · refine Or.inl ⟨c, by simp, hcolumn, ?_⟩
      rw [← hcolumn, Function.update_self]
    · rw [Function.update_of_ne (Ne.symm hcolumn)]
      rcases ih with ⟨d, hd, hkind, htext⟩ | ⟨hnone, htext⟩
      · exact Or.inl ⟨d, List.mem_append_left _ hd, hkind, htext⟩
      · refine Or.inr ⟨fun d hd => ?_, htext⟩
        rcases List.mem_append.mp hd with hd | hd
        · exact hnone d hd
        · rwa [List.mem_singleton.mp hd]

/-- The columns give back all codes exactly if no two share a column. -/
theorem codeFields_eq_iff {codes : List UTBMSCode} :
    (∀ c ∈ codes, codeFields codes (codeColumn c.codeType) = c.code) ↔
      ∀ c ∈ codes, ∀ c' ∈ codes, codeColumn c.codeType = codeColumn c'.codeType →
        c.code = c'.code := by
  constructor
  · intro h c hc c' hc' hsame
    rw [← h c hc, ← h c' hc', hsame]
  · intro h c hc
    rcases codeFields_cases codes (codeColumn c.codeType) with ⟨d, hd, hkind, htext⟩ | ⟨hnone, -⟩
    · rw [htext]
      exact h d hd c hc hkind
    · exact absurd rfl (hnone c hc)

theorem not_mem_sanitized (description : String) :
    '\n' ∉ sanitized description ∧ '|' ∉ sanitized description := by
  constructor
  · intro h
    obtain ⟨c, -, hc⟩ := List.mem_map.mp h
    split_ifs at hc with hnl
    · revert hc
      decide
    · exact hnl hc
  · intro h
    obtain ⟨c, hmem, hc⟩ := List.mem_map.mp h
    split_ifs at hc
    · revert hc
      decide
    · obtain ⟨d, -, hd⟩ := List.mem_map.mp hmem
      split_ifs at hd with hsep
      · rw [hc] at hd
        revert hd
        decide
      · exact hsep (hd.trans hc)

/-- A description keeps the marks it contains. -/
theorem infix_sanitized_iff (description : String) :
    ['[', ']'] <:+: sanitized description ↔ ['[', ']'] <:+: description.toList := by
  have hkeep : ∀ d : Char, d = '[' ∨ d = ']' → ∀ e : Char, e = '|' ∨ e = '\n' → ∀ c : Char,
      (if c = e then ' ' else c) = d ↔ c = d := by
    intro d hd e he c
    have hde : e ≠ d := by
      rcases hd with rfl | rfl <;> rcases he with rfl | rfl <;> decide
    have hblank : ' ' ≠ d := by
      rcases hd with rfl | rfl <;> decide
    split_ifs with hc
    · rw [hc]
      exact iff_of_false hblank hde
    · exact Iff.rfl
  have hopen := hkeep '[' (Or.inl rfl)
  have hclose := hkeep ']' (Or.inr rfl)
  rw [sanitized, pair_infix_map_iff (hopen _ (Or.inr rfl)) (hclose _ (Or.inr rfl)),
    pair_infix_map_iff (hopen _ (Or.inl rfl)) (hclose _ (Or.inl rfl))]

theorem fieldClean_sanitized_iff (description : String) :
    FieldClean (sanitized description) ↔ ¬['[', ']'] <:+: description.toList := by
  rw [← infix_sanitized_iff]
  obtain ⟨hnl, hsep⟩ := not_mem_sanitized description
  exact ⟨fun h => h.2.2, fun h => ⟨hnl, hsep, h⟩⟩

section Row

variable {db : LedesDb} {invoice : Invoice} {today : Date} {idx : ℕ} {li : InvoiceLineItem}

theorem fieldClean_numeric {field : List Char} (h : ∀ c ∈ field, IsNumeric c) : FieldClean field :=
  fieldClean_of_plain fun c hc => plain_of_isNumeric (h c hc)

theorem ledesRow_code (column : CodeColumn) :
    (ledesRow db invoice today idx li).code column = (codeFields (codesOf db li) column).toList := by
  cases column <;> rfl

/-! The columns that are computed are clean. -/

theorem fieldClean_money (x : ℚ) : FieldClean (twoDecimals x) :=
  fieldClean_of_plain (plain_twoDecimals x)

theorem fieldClean_date (d : Date) : FieldClean (compactDate d) :=
  fieldClean_of_plain (plain_compactDate d)

theorem fieldClean_id (i : Uuid) : FieldClean (uuidText i) :=
  fieldClean_of_plain (plain_uuidText i)

theorem fieldClean_invoiceNumber : FieldClean (ledesRow db invoice today idx li).invoiceNumber := by
  unfold ledesRow
  cases invoice.invoiceNumber with
  | none => exact fieldClean_nil
  | some n =>
    by_cases hn : n = 0
    · simpa only [hn, if_true] using fieldClean_nil
    · simpa only [hn, if_false] using fieldClean_numeric fun _ => isNumeric_intText

theorem fieldClean_adjType : FieldClean (ledesRow db invoice today idx li).expFeeInvAdjType := by
  unfold ledesRow
  dsimp only
  split_ifs
  · exact fieldClean_of_plain (by simp [Plain])
  · exact fieldClean_of_plain (by simp [Plain])

theorem fieldClean_units : FieldClean (ledesRow db invoice today idx li).lineItemNumberOfUnits := by
  unfold ledesRow
  cases entryOf db li with
  | none => exact fieldClean_money _
  | some te => exact fieldClean_money _

theorem fieldClean_unitCost : FieldClean (ledesRow db invoice today idx li).lineItemUnitCost := by
  unfold ledesRow
  cases entryOf db li with
  | none => exact fieldClean_money _
  | some te => exact fieldClean_money _

theorem fieldClean_lineDate : FieldClean (ledesRow db invoice today idx li).lineItemDate := by
  unfold ledesRow
  cases entryOf db li with
  | none => exact fieldClean_date _
  | some te => exact fieldClean_date _

theorem fieldClean_timekeeperId : FieldClean (ledesRow db invoice today idx li).timekeeperId := by
  unfold ledesRow
  cases entryOf db li with
  | none => exact fieldClean_nil
  | some te =>
    cases timekeeperOf db li with
    | none => exact fieldClean_nil
    | some user => exact fieldClean_id _

theorem fieldClean_classification :
    FieldClean (ledesRow db invoice today idx li).timekeeperClassification := by
  unfold ledesRow
  cases timekeeperOf db li with
  | none => exact fieldClean_nil
  | some user => exact fieldClean_of_plain (plain_role _)

/-- The fields that are free text decide whether a row is clean. -/
theorem ledesRow_clean_iff :
    (∀ field ∈ (ledesRow db invoice today idx li).fields, FieldClean field) ↔
      FieldClean (timekeeperName db li).toList ∧
      (∀ column, FieldClean (codeFields (codesOf db li) column).toList) ∧
      ¬['[', ']'] <:+: li.description.toList := by
  rw [← fieldClean_sanitized_iff]
  have hidx : FieldClean (Nat.toDigits 10 idx) :=
    fieldClean_of_plain fun c hc => plain_of_isDigit (isDigit_of_mem_toDigits hc)
  have hzero : FieldClean "0.00".toList := fieldClean_of_plain (by simp [Plain])
  simp only [LedesRecord.fields, List.forall_mem_cons, List.not_mem_nil, false_imp_iff,
    implies_true, and_true]
  constructor
  · rintro ⟨-, -, -, -, -, -, -, -, -, -, -, -, -, -, htask, hexpense, hactivity, -, hdesc, -, -,
      hname, -⟩
    refine ⟨hname, fun column => ?_, hdesc⟩
    cases column with
    | task => exact htask
    | expense => exact hexpense
    | activity => exact hactivity
  · rintro ⟨hname, hcode, hdesc⟩
    exact ⟨fieldClean_date _, fieldClean_invoiceNumber, fieldClean_id _, fieldClean_id _,
      fieldClean_money _, fieldClean_date _, fieldClean_date _, fieldClean_nil, hidx,
      fieldClean_adjType, fieldClean_units, hzero, fieldClean_money _, fieldClean_lineDate,
      hcode .task, hcode .expense, hcode .activity, fieldClean_timekeeperId, hdesc, fieldClean_nil,
      fieldClean_unitCost, hname, fieldClean_classification⟩

theorem readCents_div_iff {cents : ℤ} :
    readCents (twoDecimals (Double.div cents 100)) = some cents ↔ PrintsExactly cents := by
  rw [twoDecimals, readCents_centsText, Option.some.injEq]
  rfl

/-- What a row recovers once it is split right. -/
theorem lineRecovered_ledesRow_iff :
    LineRecovered db invoice li (ledesRow db invoice today idx li) ↔
      (∀ c ∈ codesOf db li, ∀ c' ∈ codesOf db li,
        codeColumn c.codeType = codeColumn c'.codeType → c.code = c'.code) ∧
      PrintsExactly invoice.totalCents ∧ PrintsExactly li.amountCents ∧
      PrintsExactly (unitRate db li) := by
  have hunit : (ledesRow db invoice today idx li).lineItemUnitCost =
      twoDecimals (Double.div (unitRate db li) 100) := by
    simp only [ledesRow, unitRate]
    cases entryOf db li with
    | none => rfl
    | some te => rfl
  rw [← codeFields_eq_iff, ← readCents_div_iff, ← readCents_div_iff, ← readCents_div_iff, ← hunit]
  constructor
  · intro h
    refine ⟨fun c hc => ?_, h.invoiceTotal, h.total, h.unitCost⟩
    have hcode := h.codes c hc
    rwa [ledesRow_code, String.toList_inj] at hcode
  · rintro ⟨hcodes, hinvoice, htotal, hcost⟩
    refine ⟨rfl, fun c hc => ?_, fun column hnone => ?_, hinvoice, htotal, hcost⟩
    · rw [ledesRow_code, hcodes c hc]
    · rw [ledesRow_code]
      rcases codeFields_cases (codesOf db li) column with ⟨c, hc, hkind, -⟩ | ⟨-, hempty⟩
      · exact absurd hkind (hnone c hc)
      · rw [hempty]
        rfl

/-- The line of a row is read back, with everything in it, exactly if it is exportable. -/
theorem ledesRow_recovered_iff :
    ('\n' ∉ renderRow '|' '[' ']' (ledesRow db invoice today idx li).fields ∧
      ∃ record, parseRecord (renderRow '|' '[' ']' (ledesRow db invoice today idx li).fields) =
        some record ∧ LineRecovered db invoice li record) ↔ Exportable db invoice li := by
  set row := ledesRow db invoice today idx li with hrow
  -- what is read back is the row itself, if its fields are clean
  have hread : ∀ record, parseRecord (renderRow '|' '[' ']' row.fields) = some record ↔
      (∀ field ∈ row.fields, Clean '|' '[' ']' field) ∧ record = row := by
    intro record
    have hparse : ∀ out, parseRow '|' '[' ']' 23 (renderRow '|' '[' ']' row.fields) = some out ↔
        (∀ field ∈ row.fields, Clean '|' '[' ']' field) ∧ out = row.fields := fun out =>
      parseRow_renderRow_iff (by decide) (by decide) (by decide) (List.cons_ne_nil _ _)
    rw [parseRecord, Option.bind_eq_some_iff]
    constructor
    · rintro ⟨out, hout, hrecord⟩
      obtain ⟨hclean, rfl⟩ := (hparse out).mp hout
      exact ⟨hclean, (Option.some.inj hrecord).symm⟩
    · rintro ⟨hclean, rfl⟩
      exact ⟨row.fields, (hparse _).mpr ⟨hclean, rfl⟩, rfl⟩
  rw [mem_renderRow_iff (by decide) (by decide) (by decide)]
  constructor
  · rintro ⟨hnl, record, hrecord, hrecovered⟩
    obtain ⟨hclean, rfl⟩ := (hread record).mp hrecord
    have hfields : ∀ field ∈ row.fields, FieldClean field := fun field hfield =>
      ⟨fun hmem => hnl ⟨field, hfield, hmem⟩, hclean field hfield⟩
    obtain ⟨hname, hcolumns, hdesc⟩ := ledesRow_clean_iff.mp hfields
    obtain ⟨hone, hinvoice, htotal, hcost⟩ := lineRecovered_ledesRow_iff.mp hrecovered
    refine ⟨hname, fun c hc => ?_, hone, hdesc, hinvoice, htotal, hcost⟩
    have hcolumn := hcolumns (codeColumn c.codeType)
    rwa [codeFields_eq_iff.mpr hone c hc] at hcolumn
  · intro h
    have hcolumns : ∀ column, FieldClean (codeFields (codesOf db li) column).toList := by
      intro column
      rcases codeFields_cases (codesOf db li) column with ⟨c, hc, -, htext⟩ | ⟨-, htext⟩
      · rw [htext]
        exact h.codes c hc
      · rw [htext]
        exact fieldClean_nil
    have hfields : ∀ field ∈ row.fields, FieldClean field :=
      ledesRow_clean_iff.mpr ⟨h.name, hcolumns, h.description⟩
    refine ⟨?_, row, (hread row).mpr ⟨fun field hfield => (hfields field hfield).2, rfl⟩, ?_⟩
    · rintro ⟨field, hfield, hmem⟩
      exact (hfields field hfield).1 hmem
    · exact lineRecovered_ledesRow_iff.mpr ⟨h.oneCode, h.invoiceTotal, h.total, h.unitCost⟩

end Row

theorem clean_headerCols : ∀ field ∈ headerCols, FieldClean field := by
  have hplain : headerCols.all (fun field => field.all fun c => Plain c) = true := by decide +kernel
  intro field hfield
  have hchars := List.all_eq_true.mp (List.all_eq_true.mp hplain field hfield)
  exact fieldClean_of_plain fun c hc => of_decide_eq_true (hchars c hc)

theorem parse_header : parseRow '|' '[' ']' 23 (renderRow '|' '[' ']' headerCols) =
    some headerCols :=
  (parseRow_renderRow_iff (by decide) (by decide) (by decide) (List.cons_ne_nil _ _)).mpr
    ⟨fun field hfield => (clean_headerCols field hfield).2, rfl⟩

/-- A text of lines is read as an identifier, a header and one record a line exactly if no line
breaks off early and each line after the header is a record. -/
theorem parseLedes_iff {rows : List (List Char)} {records : List LedesRecord}
    (hlen : rows.length = records.length) :
    parseLedes (String.ofList (join '\n' (identifierLine ::
      renderRow '|' '[' ']' headerCols :: rows))) = some records ↔
      (∀ row ∈ rows, '\n' ∉ row) ∧
        List.Forall₂ (fun row record => parseRecord row = some record) rows records := by
  have hid : '\n' ∉ identifierLine := by decide
  have hheader : '\n' ∉ renderRow '|' '[' ']' headerCols := by
    rw [mem_renderRow_iff (by decide) (by decide) (by decide)]
    rintro ⟨field, hfield, hmem⟩
    exact (clean_headerCols field hfield).1 hmem
  set lines := identifierLine :: renderRow '|' '[' ']' headerCols :: rows with hlines
  have hne : lines ≠ [] := List.cons_ne_nil _ _
  rw [parseLedes, String.toList_ofList]
  constructor
  · intro h
    split at h
    · rename_i identifier header rest hsplit
      split_ifs at h with hfront
      have hrecords := mapM_eq_some_iff.mp h
      -- as many pieces as lines
      have hcount : ((join '\n' lines).splitOn '\n').length = lines.length := by
        rw [hsplit, hlines]
        simp only [List.length_cons]
        rw [hrecords.length_eq, hlen]
      have hclean := (length_splitOn_join_iff hne).mp hcount
      rw [splitOn_join_of_clean hne hclean] at hsplit
      obtain ⟨-, htail⟩ := List.cons.inj hsplit
      obtain ⟨-, hrows⟩ := List.cons.inj htail
      rw [← hrows] at hrecords
      exact ⟨fun row hrow => hclean row (List.mem_cons_of_mem _ (List.mem_cons_of_mem _ hrow)),
        hrecords⟩
    · cases h
  · rintro ⟨hrows, hrecords⟩
    have hclean : ∀ line ∈ lines, '\n' ∉ line := by
      intro line hline
      rcases List.mem_cons.mp hline with rfl | hline
      · exact hid
      · rcases List.mem_cons.mp hline with rfl | hline
        · exact hheader
        · exact hrows line hline
    rw [splitOn_join_of_clean hne hclean, hlines]
    dsimp only
    rw [if_pos ⟨rfl, parse_header⟩]
    exact mapM_eq_some_iff.mpr hrecords

theorem recovered_iff {db : LedesDb} {invoiceId : Uuid} {today : Date} {invoice : Invoice}
    (hinvoice : getInvoice db.toDb invoiceId = some invoice) :
    (∃ text records, exportLedes1998b db invoiceId today = some text ∧
      parseLedes text = some records ∧
      List.Forall₂ (LineRecovered db invoice) (lineItemsOf db invoiceId) records) ↔
      ∀ li ∈ lineItemsOf db invoiceId, Exportable db invoice li := by
  have hid : invoice.id = invoiceId := Table.key_of_find hinvoice
  set numbered := (lineItemsOf db invoiceId).zipIdx 1 with hnumbered
  have hitems : numbered.map Prod.fst = lineItemsOf db invoiceId := List.zipIdx_map_fst 1 _
  let row := fun x : InvoiceLineItem × ℕ =>
    renderRow '|' '[' ']' (ledesRow db invoice today x.2 x.1).fields
  -- the export, line by line
  have hexport : exportLedes1998b db invoiceId today = some (String.ofList (join '\n'
      (identifierLine :: renderRow '|' '[' ']' headerCols :: numbered.map row))) := by
    rw [exportLedes1998b, hinvoice, Option.map_some, ledesRows, hid, List.map_map]
    rfl
  -- what each line has to meet for itself
  have hevery : (∀ li ∈ lineItemsOf db invoiceId, Exportable db invoice li) ↔
      ∀ x ∈ numbered, '\n' ∉ row x ∧ ∃ record, parseRecord (row x) = some record ∧
        LineRecovered db invoice x.1 record := by
    rw [← hitems, List.forall_mem_map]
    exact forall₂_congr fun x _ => ledesRow_recovered_iff.symm
  rw [hevery]
  constructor
  · rintro ⟨text, records, htext, hparse, hall⟩
    obtain rfl := Option.some.inj (hexport.symm.trans htext)
    have hlen : (numbered.map row).length = records.length := by
      rw [← hall.length_eq, ← hitems, List.length_map, List.length_map]
    obtain ⟨hnl, hread⟩ := (parseLedes_iff hlen).mp hparse
    rw [← hitems, List.forall₂_map_left_iff] at hall
    rw [List.forall₂_map_left_iff] at hread
    have hboth := exists_forall₂_iff.mp ⟨records, forall₂_and_iff.mpr ⟨hread, hall⟩⟩
    exact fun x hx => ⟨hnl _ (List.mem_map_of_mem hx), hboth x hx⟩
  · intro h
    obtain ⟨records, hrecords⟩ := exists_forall₂_iff.mpr fun x hx => (h x hx).2
    obtain ⟨hread, hall⟩ := forall₂_and_iff.mp hrecords
    have hlen : (numbered.map row).length = records.length := by
      rw [List.length_map, hread.length_eq]
    refine ⟨_, records, hexport, (parseLedes_iff hlen).mpr ⟨?_, ?_⟩, ?_⟩
    · intro line hline
      obtain ⟨x, hx, rfl⟩ := List.mem_map.mp hline
      exact (h x hx).1
    · rwa [List.forall₂_map_left_iff]
    · rwa [← hitems, List.forall₂_map_left_iff]

/-- An invoice is exported without loss exactly if each of its lines has a clean name and clean
codes, of which no two share a column, no end of a record in its description, and amounts that
print exactly. -/
theorem ledesLossless_iff (db : LedesDb) (invoiceId : Uuid) (today : Date) :
    LedesLossless db invoiceId today ↔ ∀ invoice, getInvoice db.toDb invoiceId = some invoice →
      ∀ li ∈ lineItemsOf db invoiceId, Exportable db invoice li :=
  forall₂_congr fun _ hinvoice => recovered_iff hinvoice

/-- A line of a timekeeper with a separator in the first name. -/
def pipedName : LedesDb where
  timeEntries := [⟨7, 5, 2, 738945, 90, "hearing", true, 36000, some 11⟩]
  invoices := [⟨11, some 1001, 4, 5, some 738950, none, 54000, 0, 54000, .sent, none⟩]
  lineItems := [⟨21, 11, some 7, "hearing", 90, 36000, 54000⟩]
  payments := []
  links := []
  events := []
  users := [{ id := 2, email := "ann@firm.example", passwordHash := "", firstName := "Ann|Marie"
              lastName := "Lee" }]
  utbmsCodes := []
  timeEntryCodes := []

/-- The row has a field too many. -/
theorem not_ledesLossless_pipedName : ¬LedesLossless pipedName 11 738950 := by
  intro h
  have hinvoice : getInvoice pipedName.toDb 11 =
      some ⟨11, some 1001, 4, 5, some 738950, none, 54000, 0, 54000, .sent, none⟩ := rfl
  have hline : ⟨21, 11, some 7, "hearing", 90, 36000, 54000⟩ ∈ lineItemsOf pipedName 11 := by
    rw [lineItemsOf, List.mem_mergeSort]
    exact List.mem_singleton.mpr rfl
  have hname := ((recovered_iff hinvoice).mp (h _ hinvoice) _ hline).name
  exact hname.2.1 (by decide)

end LegalForge.Ledes
