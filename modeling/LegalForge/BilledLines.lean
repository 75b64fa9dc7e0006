import LegalForge.InvoiceLines

/-! A line item copies the duration, the rate and the description of its time entry. Only
the deletion of an entry looks at whether it has been invoiced. -/
namespace LegalForge.Billing
open Transition

/-- The line says what its entry says now. -/
def LineTrue (db : Db) (item : InvoiceLineItem) : Prop :=
  ∀ e, item.timeEntryId = some e → ∃ entry, getTimeEntry db e = some entry ∧
    item.quantity = entry.durationMinutes ∧ item.rateCents = entry.rateCents ∧
    item.description = entry.description

def LinesTrue (db : Db) : Prop :=
  ∀ item ∈ db.lineItems, LineTrue db item

/-- The column is not sent, or is sent with the value it has. -/
def Resent {α : Type} (sent : Option (Option α)) (stored : α) : Prop :=
  sent = none ∨ sent = some (some stored)

/-- The request does not change what the lines of a billed entry have copied. -/
def KeepsBilled (db : Db) : BillingRequest → Prop
  | .updateTimeEntry currentUser entryId data => ∀ entry, getTimeEntry db entryId = some entry →
      mayEdit currentUser entry = true → (updateTimeEntry entry data).isSome = true →
      timesBilled db entryId ≠ 0 → Resent data.durationMinutes entry.durationMinutes ∧
        Resent data.rateCents entry.rateCents ∧ Resent data.description entry.description
  | .createTimeEntry _ _ _ => True
  | .deleteTimeEntry _ _ => True
  | .createInvoice _ _ _ => True

theorem setColumn_eq_some_self_iff {α : Type} {sent : Option (Option α)} {old : α} :
    setColumn sent old = some old ↔ Resent sent old := by
  cases sent with
  | none => exact iff_of_true rfl (Or.inl rfl)
  | some value =>
    constructor
    · intro h
      have hvalue : value = some old := h
      exact Or.inr (congrArg some hvalue)
    · rintro (h | h)
      · cases h
      · exact Option.some.inj h

/-- What an update writes into the three columns that lines copy. -/
theorem updateTimeEntry_copied {entry updated : TimeEntry} {data : TimeEntryUpdate}
    (h : updateTimeEntry entry data = some updated) :
    setColumn data.durationMinutes entry.durationMinutes = some updated.durationMinutes ∧
      setColumn data.rateCents entry.rateCents = some updated.rateCents ∧
      setColumn data.description entry.description = some updated.description := by
  unfold updateTimeEntry at h
  split at h
  · rename_i hduration hdescription _ hrate
    obtain rfl := Option.some.inj h
    exact ⟨hduration, hrate, hdescription⟩
  · cases h

/-- Tables with the same lines that find the entries of all lines again. -/
theorem lineTrue_congr {db db' : Db} {item : InvoiceLineItem}
    (hentry : ∀ e, item.timeEntryId = some e → getTimeEntry db' e = getTimeEntry db e) :
    LineTrue db' item ↔ LineTrue db item := by
  refine forall_congr' fun e => imp_congr_right fun he => ?_
  rw [hentry e he]

theorem LinesTrue.congr {db db' : Db} (hok : LinesTrue db) (hlines : db'.lineItems = db.lineItems)
    (hentry : ∀ item ∈ db.lineItems, ∀ e, item.timeEntryId = some e →
      getTimeEntry db' e = getTimeEntry db e) : LinesTrue db' := by
  intro item hitem
  rw [hlines] at hitem
  exact (lineTrue_congr (hentry item hitem)).mpr (hok item hitem)

theorem LinesTrue.createTimeEntry {db db' : Db} {data : TimeEntryCreate} {userId entryId : Uuid}
    (hok : LinesTrue db) (hinv : BillingInv db)
    (h : createTimeEntry db data userId entryId = .ok db') : LinesTrue db' := by
  obtain ⟨entry, -, -, hdb⟩ := createTimeEntry_ok h
  apply hok.congr (by rw [hdb])
  intro item hitem e he
  obtain ⟨found, hfound, -⟩ := hinv.source item hitem e he
  rw [getTimeEntry_concat hdb hfound, hfound]

theorem LinesTrue.deleteTimeEntry {db db' : Db} {currentUser : CurrentUser} {entryId : Uuid}
    (hok : LinesTrue db) (h : deleteExistingTimeEntry db currentUser entryId = .ok db') :
    LinesTrue db' := by
  obtain ⟨-, hdb⟩ := deleteExistingTimeEntry_ok h
  apply hok.congr (by rw [hdb])
  intro item hitem e he
  exact getTimeEntry_of_deleted h hitem he

theorem LinesTrue.createInvoice {db db' : Db} {data : InvoiceCreate} {invoiceId : Uuid}
    {lineItemId : Uuid → Uuid} {invoice : Invoice} (hok : LinesTrue db) (hinv : BillingInv db)
    (h : createInvoice db data invoiceId lineItemId = .ok (invoice, db')) : LinesTrue db' := by
  have hstep := createInvoice_ok h
  have hmarked : ∀ entry : TimeEntry,
      (markInvoiced data.timeEntryIds invoiceId entry).durationMinutes = entry.durationMinutes ∧
      (markInvoiced data.timeEntryIds invoiceId entry).rateCents = entry.rateCents ∧
      (markInvoiced data.timeEntryIds invoiceId entry).description = entry.description := by
    intro entry
    unfold markInvoiced
    split_ifs <;> exact ⟨rfl, rfl, rfl⟩
  intro item hitem e he
  rcases hstep.mem_lineItems.mp hitem with hold | ⟨entry, hentry, rfl⟩
  · obtain ⟨found, hfound, hquantity, hrate, hdescription⟩ := hok item hold e he
    obtain ⟨hm, hm', hm''⟩ := hmarked found
    exact ⟨_, hstep.getTimeEntry_marked hfound, hquantity.trans hm.symm, hrate.trans hm'.symm,
      hdescription.trans hm''.symm⟩
  · -- a new line has just been copied
    obtain rfl := Option.some.inj he
    obtain ⟨hfound, -⟩ := getTimeEntry_of_selected hinv hentry
    obtain ⟨hm, hm', hm''⟩ := hmarked entry
    exact ⟨_, hstep.getTimeEntry_marked hfound, hm.symm, hm'.symm, hm''.symm⟩

/-- An update keeps the lines true exactly when it leaves what they copied. -/
theorem Updated.linesTrue_iff {db db' : Db} {entryId : Uuid} {data : TimeEntryUpdate}
    {entry updated : TimeEntry} (h : Updated db entryId data entry updated db')
    (hok : LinesTrue db) : LinesTrue db' ↔ (timesBilled db entryId ≠ 0 →
      Resent data.durationMinutes entry.durationMinutes ∧ Resent data.rateCents entry.rateCents ∧
        Resent data.description entry.description) := by
  obtain ⟨hduration, hrate, hdescription⟩ := updateTimeEntry_copied h.changed
  have hcopied : (Resent data.durationMinutes entry.durationMinutes ∧
      Resent data.rateCents entry.rateCents ∧ Resent data.description entry.description) ↔
      updated.durationMinutes = entry.durationMinutes ∧ updated.rateCents = entry.rateCents ∧
        updated.description = entry.description := by
    rw [← setColumn_eq_some_self_iff, ← setColumn_eq_some_self_iff, ← setColumn_eq_some_self_iff,
      hduration, hrate, hdescription, Option.some.injEq, Option.some.injEq, Option.some.injEq]
  rw [hcopied]
  constructor
  · intro hok' hbilled
    obtain ⟨item, hitem, he⟩ := timesBilled_ne_zero_iff.mp hbilled
    -- one line cannot agree with both versions of the entry unless they agree
    obtain ⟨before, hbefore, hq, hr, hd⟩ := hok item hitem entryId he
    obtain rfl := Option.some.inj (hbefore.symm.trans h.loaded)
    obtain ⟨after, hafter, hq', hr', hd'⟩ := hok' item (h.lineItems ▸ hitem) entryId he
    obtain rfl := Option.some.inj (hafter.symm.trans h.getTimeEntry_self)
    exact ⟨hq'.symm.trans hq, hr'.symm.trans hr, hd'.symm.trans hd⟩
  · intro hsame item hitem e he
    rw [h.lineItems] at hitem
    obtain ⟨found, hfound, hq, hr, hd⟩ := hok item hitem e he
    by_cases heq : e = entryId
    · subst heq
      obtain rfl := Option.some.inj (hfound.symm.trans h.loaded)
      obtain ⟨hq', hr', hd'⟩ := hsame (timesBilled_ne_zero_iff.mpr ⟨item, hitem, he⟩)
      exact ⟨updated, h.getTimeEntry_self, hq.trans hq'.symm, hr.trans hr'.symm, hd.trans hd'.symm⟩
    · exact ⟨found, (h.getTimeEntry_of_ne heq).trans hfound, hq, hr, hd⟩

theorem linesTrue_billingStep_iff {db : Db} (r : BillingRequest) (hinv : BillingInv db)
    (hok : LinesTrue db) : LinesTrue (billingStep db r) ↔ KeepsBilled db r := by
  cases r with
  | createTimeEntry data userId entryId =>
    refine iff_of_true (billingStep_of_ok hok ?_) trivial
    intro db' h
    exact hok.createTimeEntry hinv h
  | updateTimeEntry currentUser entryId data =>
    cases h : updateExistingTimeEntry db currentUser entryId data with
    | error e =>
      simp only [billingStep, handle, h]
      refine iff_of_true hok ?_
      -- an update of an entry that may be edited does not fail
      intro entry hentry hmay hsome
      obtain ⟨updated, hupd⟩ := Option.isSome_iff_exists.mp hsome
      simp [updateExistingTimeEntry, hentry, hmay, hupd] at h
    | ok db' =>
      simp only [billingStep, handle, h]
      obtain ⟨entry, updated, hmay, hupd⟩ := updateExistingTimeEntry_ok h
      rw [hupd.linesTrue_iff hok]
      constructor
      · intro hkeeps found hfound _ _ hbilled
        obtain rfl := Option.some.inj (hfound.symm.trans hupd.loaded)
        exact hkeeps hbilled
      · intro hkeeps hbilled
        have hsome : (updateTimeEntry entry data).isSome = true := by
          rw [hupd.changed]
          rfl
        exact hkeeps entry hupd.loaded hmay hsome hbilled
  | deleteTimeEntry currentUser entryId =>
    refine iff_of_true (billingStep_of_ok hok ?_) trivial
    intro db' h
    exact hok.deleteTimeEntry h
  | createInvoice data invoiceId lineItemId =>
    refine iff_of_true (billingStep_of_ok hok ?_) trivial
    intro db' h
    obtain ⟨invoice, hcreated⟩ := handle_createInvoice_ok h
    exact hok.createInvoice hinv hcreated

theorem linesTrue_empty : LinesTrue Db.empty :=
  fun _ h => absurd h List.not_mem_nil

/-- From empty tables on, every line says what its entry says, exactly as long as no update
changes the duration, the rate or the description of a billed entry. -/
theorem linesTrue_throughout_iff (rs : List BillingRequest) :
    Throughout (total billingStep) LinesTrue Db.empty rs ↔
      Along (total billingStep) (fun db r _ => KeepsBilled db r) Db.empty rs := by
  have hkeep : ∀ db r db', BillingInv db → total billingStep db r = some db' → BillingInv db' := by
    intro db r db' hinv hstep
    obtain rfl := Option.some.inj hstep
    exact (billingStep_spec r hinv).1
  have hiff : ∀ db r db', BillingInv db → LinesTrue db → total billingStep db r = some db' →
      (LinesTrue db' ↔ KeepsBilled db r) := by
    intro db r db' hinv hok hstep
    obtain rfl := Option.some.inj hstep
    exact linesTrue_billingStep_iff r hinv hok
  rw [throughout_iff_along hkeep hiff billingInv_empty rs]
  exact and_iff_right linesTrue_empty

/-- An hour and a half is billed, and made three hours afterwards. -/
def editedAfterwards : List BillingRequest :=
  [.createTimeEntry ⟨5, 0, 90, "hearing", true, 36000, by decide, by decide, by decide⟩ 2 7,
   .createInvoice { clientId := 4, matterId := 5, timeEntryIds := [7] } 11 (fun _ => 21),
   .updateTimeEntry ⟨2, false⟩ 7
     { durationMinutes := some (some 180), duration_ge := by simp, description_min := by simp
       rate_ge := by simp }]

/-- The line still bills the first duration. -/
theorem not_linesTrue_editedAfterwards :
    ¬Throughout (total billingStep) LinesTrue Db.empty editedAfterwards := by
  intro h
  have hrun : exec (total billingStep) Db.empty editedAfterwards =
      some (editedAfterwards.foldl billingStep Db.empty) := exec_total _ _ _
  have hline : lineItem 11 21 ⟨7, 5, 2, 0, 90, "hearing", true, 36000, none⟩ ∈
      (editedAfterwards.foldl billingStep Db.empty).lineItems := List.mem_singleton.mpr rfl
  obtain ⟨entry, hentry, hquantity, -⟩ := h.final hrun _ hline 7 rfl
  have hstored : getTimeEntry (editedAfterwards.foldl billingStep Db.empty) 7 =
      some ⟨7, 5, 2, 0, 180, "hearing", true, 36000, some 11⟩ := by rfl
  obtain rfl := Option.some.inj (hstored.symm.trans hentry)
  revert hquantity
  decide

end LegalForge.Billing
