import LegalForge.PaymentCollection

/-! The payment summary against the payments. Each settled link stores an amount that came with
the request, and has a payment with the amount it asked for. -/
namespace LegalForge.Payments
open Billing Transition UnitOfWork

structure ProcessorBreakdown where
  processor : PaymentProcessor
  count : ℕ
  totalCents : ℤ
  feesCents : ℤ
  deriving DecidableEq

structure PaymentSummaryReport where
  totalProcessedCents : ℤ
  totalFeesCents : ℤ
  count : ℕ
  byProcessor : List ProcessorBreakdown
  deriving DecidableEq

/-- `link.paid_amount_cents or link.amount_cents` -/
def summaryAmount (link : PaymentLink) : ℤ :=
  orAmount link.paidAmountCents link.amountCents

/-- One round of the loop over the paid links. -/
def addToBreakdown (bs : List ProcessorBreakdown) (link : PaymentLink) : List ProcessorBreakdown :=
  let found :=
    if link.processor ∈ bs.map ProcessorBreakdown.processor then bs
    else bs++[⟨link.processor, 0, 0, 0⟩]
  Table.alter ProcessorBreakdown.processor link.processor
    (fun b => { b with
      count := b.count+1
      totalCents := b.totalCents+summaryAmount link
      feesCents := b.feesCents+link.processorFeeCents }) found

def paidLinks (db : Db) : List PaymentLink :=
  db.links.filter (fun link => link.status = .paid)

/-- `get_payment_summary` -/
def getPaymentSummary (db : Db) : PaymentSummaryReport where
  totalProcessedCents := ((paidLinks db).map summaryAmount).sum
  totalFeesCents := ((paidLinks db).map PaymentLink.processorFeeCents).sum
  count := (paidLinks db).length
  byProcessor := (paidLinks db).foldl addToBreakdown []

/-- The payments recorded for a link. -/
def settlements (db : Db) (linkId : Uuid) : List Payment :=
  db.payments.filter (fun p => p.settles.map Settlement.link = some linkId)

/-- What the books say of a link: its payment and its surcharge. -/
def booked (db : Db) (link : PaymentLink) : ℤ :=
  ((settlements db link.id).map (fun p => p.amountCents)).sum+link.surchargeCents

/-- The summary reports what is booked for the paid links, and parts it by processor. -/
structure SummaryAgrees (db : Db) : Prop where
  total : (getPaymentSummary db).totalProcessedCents = ((paidLinks db).map (booked db)).sum
  processors : ((getPaymentSummary db).byProcessor.map ProcessorBreakdown.processor).Nodup
  covers : ∀ link ∈ paidLinks db,
    link.processor ∈ (getPaymentSummary db).byProcessor.map ProcessorBreakdown.processor
  parts : ∀ b ∈ (getPaymentSummary db).byProcessor, b.totalCents =
    (((paidLinks db).filter (fun link => link.processor = b.processor)).map (booked db)).sum

/-- The amount the request says was paid is not sent, or zero, or what the link asks for. -/
def PaysInFull (link : PaymentLink) (data : CompletePaymentRequest) : Prop :=
  ∀ n, data.paidAmountCents = some n → n = 0 ∨ n = link.amountCents+link.surchargeCents

def SettlesInFull (env : Environment) (db : Db) (request : PaymentRequest) : Prop :=
  ∀ link data, settles env db request = some (link, data) → PaysInFull link data

/-- The links and their payments in a run that starts without any. -/
structure Settled (db : Db) : Prop where
  ids : (db.links.map PaymentLink.id).Nodup
  nonneg : ∀ link ∈ db.links, link.status = .active → 0 ≤ link.amountCents ∧ 0 ≤ link.surchargeCents
  known : ∀ p ∈ db.payments, ∀ s, p.settles = some s → s.link ∈ db.links.map PaymentLink.id
  unpaid : ∀ link ∈ db.links, link.status = .active → settlements db link.id = []

/-! What the loop adds up. -/

/-- The links of a processor. -/
def linksOf (p : PaymentProcessor) (links : List PaymentLink) : List PaymentLink :=
  links.filter (fun link => link.processor = p)

/-- The breakdown of a list of links. -/
structure BreaksDown (links : List PaymentLink) (bs : List ProcessorBreakdown) : Prop where
  processors : (bs.map ProcessorBreakdown.processor).Nodup
  covers : ∀ link ∈ links, link.processor ∈ bs.map ProcessorBreakdown.processor
  parts : ∀ b ∈ bs, b.totalCents = ((linksOf b.processor links).map summaryAmount).sum

theorem map_processor_addToBreakdown (bs : List ProcessorBreakdown) (link : PaymentLink) :
    (addToBreakdown bs link).map ProcessorBreakdown.processor =
      if link.processor ∈ bs.map ProcessorBreakdown.processor then
        bs.map ProcessorBreakdown.processor
      else bs.map ProcessorBreakdown.processor++[link.processor] := by
  simp only [addToBreakdown]
  rw [Table.map_key_alter (by intro b h; exact h)]
  split_ifs
  · rfl
  · rw [List.map_append, List.map_singleton]

theorem linksOf_concat (p : PaymentProcessor) (links : List PaymentLink) (link : PaymentLink) :
    ((linksOf p (links++[link])).map summaryAmount).sum =
      ((linksOf p links).map summaryAmount).sum+if link.processor = p then summaryAmount link else 0 := by
  rw [linksOf, List.filter_append, List.map_append, List.sum_append]
  by_cases h : link.processor = p
  · simp [linksOf, h]
  · simp [linksOf, h]

theorem BreaksDown.add {links : List PaymentLink} {bs : List ProcessorBreakdown}
    (h : BreaksDown links bs) (link : PaymentLink) :
    BreaksDown (links++[link]) (addToBreakdown bs link) where
  processors := by
    rw [map_processor_addToBreakdown]
    split_ifs with hmem
    · exact h.processors
    · apply List.nodup_append.mpr
      refine ⟨h.processors, List.nodup_singleton _, ?_⟩
      intro p hp q hq hpq
      rw [hpq, List.mem_singleton.mp hq] at hp
      exact hmem hp
  covers := by
    rw [map_processor_addToBreakdown]
    intro l hl
    rcases List.mem_append.mp hl with hold | hnew
    · have hcovered := h.covers l hold
      split_ifs
      · exact hcovered
      · exact List.mem_append_left _ hcovered
    · rw [List.mem_singleton.mp hnew]
      split_ifs with hmem
      · exact hmem
      · exact List.mem_append_right _ (List.mem_singleton_self _)
  parts := by
    intro b hb
    obtain ⟨old, hold, rfl⟩ := Table.mem_alter.mp hb
    -- the breakdown before the link is added to it, and possibly just begun
    have hstart : old.totalCents = ((linksOf old.processor links).map summaryAmount).sum := by
      split_ifs at hold with hmem
      · exact h.parts old hold
      · rcases List.mem_append.mp hold with hold | hnew
        · exact h.parts old hold
        · obtain rfl := List.mem_singleton.mp hnew
          have hnone : linksOf link.processor links = [] :=
            List.filter_eq_nil_iff.mpr fun l hl hp =>
              hmem (of_decide_eq_true hp ▸ h.covers l hl)
          rw [hnone]
          rfl
    rw [apply_ite ProcessorBreakdown.processor, ite_self, linksOf_concat]
    by_cases hp : old.processor = link.processor
    · rw [if_pos hp, if_pos hp.symm, hstart]
    · rw [if_neg hp, if_neg (Ne.symm hp), hstart, add_zero]

theorem breaksDown_foldl (links : List PaymentLink) :
    BreaksDown links (links.foldl addToBreakdown []) := by
  induction links using List.reverseRecOn with
  | nil => exact ⟨List.nodup_nil, fun _ h => absurd h List.not_mem_nil,
      fun _ h => absurd h List.not_mem_nil⟩
  | append_singleton links link ih =>
    rw [List.foldl_append]
    exact ih.add link

/-! The differences between the summary and the books. -/

def deviation (db : Db) (links : List PaymentLink) : ℤ :=
  (links.map summaryAmount).sum-(links.map (booked db)).sum

theorem summaryAgrees_iff {db : Db} : SummaryAgrees db ↔
    deviation db (paidLinks db) = 0 ∧ ∀ p, deviation db (linksOf p (paidLinks db)) = 0 := by
  have hloop := breaksDown_foldl (paidLinks db)
  constructor
  · intro h
    refine ⟨sub_eq_zero.mpr h.total, fun p => sub_eq_zero.mpr ?_⟩
    by_cases hsome : ∃ link ∈ paidLinks db, link.processor = p
    · obtain ⟨link, hlink, rfl⟩ := hsome
      obtain ⟨b, hb, hprocessor⟩ := List.mem_map.mp (h.covers link hlink)
      have hboth := (hloop.parts b hb).symm.trans (h.parts b hb)
      rwa [hprocessor] at hboth
    · have hnone : linksOf p (paidLinks db) = [] :=
        List.filter_eq_nil_iff.mpr fun link hlink hp => hsome ⟨link, hlink, of_decide_eq_true hp⟩
      rw [hnone]
      rfl
  · rintro ⟨htotal, hparts⟩
    refine ⟨sub_eq_zero.mp htotal, hloop.processors, hloop.covers, fun b hb => ?_⟩
    rw [hloop.parts b hb]
    exact sub_eq_zero.mp (hparts b.processor)

/-- One more link among the others, which are booked as before. -/
theorem deviation_insert {db db' : Db} {pre post : List PaymentLink} {link : PaymentLink}
    (h : ∀ l ∈ pre++post, booked db' l = booked db l) :
    deviation db' (pre++link :: post) =
      deviation db (pre++post)+(summaryAmount link-booked db' link) := by
  have hsame : (pre++post).map (booked db') = (pre++post).map (booked db) := List.map_congr_left h
  rw [List.map_append, List.map_append] at hsame
  have hsum := congrArg List.sum hsame
  rw [List.sum_append, List.sum_append] at hsum
  simp only [deviation, List.map_append, List.map_cons, List.sum_append, List.sum_cons]
  omega

theorem linksOf_append (p : PaymentProcessor) (ls ms : List PaymentLink) :
    linksOf p (ls++ms) = linksOf p ls++linksOf p ms :=
  List.filter_append ls ms

/-- The paid links of tables that agree. With one more, they agree exactly when it does. -/
theorem agrees_insert_iff {db db' : Db} {pre post : List PaymentLink} {link : PaymentLink}
    (hpaid : paidLinks db = pre++post) (hpaid' : paidLinks db' = pre++link :: post)
    (hbooked : ∀ l ∈ pre++post, booked db' l = booked db l) (h : SummaryAgrees db) :
    SummaryAgrees db' ↔ summaryAmount link = booked db' link := by
  obtain ⟨htotal, hparts⟩ := summaryAgrees_iff.mp h
  rw [hpaid] at htotal hparts
  rw [summaryAgrees_iff, hpaid', deviation_insert hbooked, htotal, zero_add, sub_eq_zero]
  refine and_iff_left_of_imp fun hlink p => ?_
  have hpart := hparts p
  rw [linksOf_append] at hpart ⊢
  have hbooked' : ∀ l ∈ linksOf p pre++linksOf p post, booked db' l = booked db l := by
    intro l hl
    rw [← linksOf_append] at hl
    exact hbooked l (List.mem_of_mem_filter hl)
  by_cases hp : link.processor = p
  · have hcons : linksOf p (link :: post) = link :: linksOf p post :=
      List.filter_cons_of_pos (decide_eq_true hp)
    rw [hcons, deviation_insert hbooked', hpart, hlink]
    omega
  · have hcons : linksOf p (link :: post) = linksOf p post :=
      List.filter_cons_of_neg (by simpa using hp)
    have hsame : (linksOf p pre++linksOf p post).map (booked db') =
        (linksOf p pre++linksOf p post).map (booked db) := List.map_congr_left hbooked'
    rw [hcons, deviation, hsame]
    exact hpart

/-- Tables with the same paid links, which are booked as before. -/
theorem agrees_congr {db db' : Db} (hpaid : paidLinks db' = paidLinks db)
    (hbooked : ∀ l ∈ paidLinks db, booked db' l = booked db l) :
    SummaryAgrees db' ↔ SummaryAgrees db := by
  have hdeviation : ∀ ls : List PaymentLink, (∀ l ∈ ls, l ∈ paidLinks db) →
      deviation db' ls = deviation db ls := by
    intro ls hls
    have hsame : ls.map (booked db') = ls.map (booked db) :=
      List.map_congr_left fun l hl => hbooked l (hls l hl)
    rw [deviation, hsame, deviation]
  rw [summaryAgrees_iff, summaryAgrees_iff, hpaid, hdeviation _ fun _ hl => hl]
  refine and_congr_right fun _ => forall_congr' fun p => ?_
  rw [hdeviation (linksOf p (paidLinks db)) fun _ hl => List.mem_of_mem_filter hl]

/-! One request. -/

theorem settlements_append (db : Db) (p : Payment) (linkId : Uuid) {db' : Db}
    (h : db'.payments = db.payments++[p]) : settlements db' linkId =
      settlements db linkId++if p.settles.map Settlement.link = some linkId then [p] else [] := by
  rw [settlements, h, List.filter_append, settlements]
  by_cases hp : p.settles.map Settlement.link = some linkId
  · rw [if_pos hp, List.filter_singleton, decide_eq_true hp]
    rfl
  · rw [if_neg hp, List.filter_singleton, decide_eq_false hp]
    rfl

/-- The amount a settled link stores is what is booked for it, if the request pays in full. -/
theorem summaryAmount_paidLink_iff {link : PaymentLink} {data : CompletePaymentRequest}
    {now : Datetime} (hamount : 0 ≤ link.amountCents) (hsurcharge : 0 ≤ link.surchargeCents) :
    summaryAmount (paidLink link data now) = link.amountCents+link.surchargeCents ↔
      PaysInFull link data := by
  unfold PaysInFull
  simp only [summaryAmount, paidLink]
  cases hpaid : data.paidAmountCents with
  | none =>
    refine iff_of_true ?_ nofun
    by_cases hzero : link.amountCents+link.surchargeCents = 0
    · simp only [orAmount, hzero, if_true]
      omega
    · simp only [orAmount, hzero, if_false]
  | some n =>
    have hiff : orAmount (some (orAmount (some n) (link.amountCents+link.surchargeCents)))
        link.amountCents = link.amountCents+link.surchargeCents ↔
          n = 0 ∨ n = link.amountCents+link.surchargeCents := by
      simp only [orAmount]
      split_ifs <;> omega
    rw [hiff]
    constructor
    · rintro h m hm
      obtain rfl := Option.some.inj hm
      exact h
    · exact fun h => h n rfl

theorem surchargeOf_nonneg (settings : Option PaymentSettings) {totalCents : ℤ}
    (h : 0 ≤ totalCents) : 0 ≤ surchargeOf settings totalCents := by
  unfold surchargeOf
  cases settings with
  | none => exact le_rfl
  | some ps =>
    dsimp only
    split_ifs
    · have htotal : (0:ℚ) ≤ totalCents := by exact_mod_cast h
      apply Double.trunc_nonneg
      apply Double.round_nonneg
      exact mul_nonneg (Double.round_nonneg htotal) ps.rate_mem.1
    · exact le_rfl

/-- A link among the others. -/
theorem links_split {db : Db} (h : Settled db) {link : PaymentLink} (hmem : link ∈ db.links) :
    ∃ pre post, db.links = pre++link :: post ∧ (∀ l ∈ pre++post, l.id ≠ link.id) ∧
      ∀ changed : PaymentLink, changed.id = link.id →
        (setLink db changed).links = pre++changed :: post := by
  obtain ⟨pre, post, hsplit⟩ := List.append_of_mem hmem
  have hids := h.ids
  rw [hsplit, List.map_append, List.map_cons, List.nodup_middle, ← List.map_append] at hids
  have hothers : ∀ l ∈ pre++post, l.id ≠ link.id := by
    intro l hl heq
    exact (List.nodup_cons.mp hids).1 (heq ▸ List.mem_map_of_mem hl)
  refine ⟨pre, post, hsplit, hothers, fun changed hid => ?_⟩
  have hkeep : ∀ ls : List PaymentLink, (∀ l ∈ ls, l ∈ pre++post) →
      Table.alter PaymentLink.id link.id (fun _ => changed) ls = ls := by
    intro ls hls
    apply Table.alter_of_not_found
    exact Table.find_eq_none_iff.mpr fun l hl => hothers l (hls l hl)
  have hparts : Table.alter PaymentLink.id link.id (fun _ => changed) (pre++link :: post) =
      Table.alter PaymentLink.id link.id (fun _ => changed) pre++
        changed :: Table.alter PaymentLink.id link.id (fun _ => changed) post := by
    simp only [Table.alter, List.map_append, List.map_cons, if_true]
  rw [setLink, hid, hsplit, hparts, hkeep pre fun l hl => List.mem_append_left _ hl,
    hkeep post fun l hl => List.mem_append_right _ hl]

/-- The rows after a request: active links are old or have a new key, and payments settle links
that are active no more. -/
theorem Settled.of_rows {db db' : Db} (h : Settled db) (ids : (db'.links.map PaymentLink.id).Nodup)
    (hkept : ∀ i ∈ db.links.map PaymentLink.id, i ∈ db'.links.map PaymentLink.id)
    (hactive : ∀ link ∈ db'.links, link.status = .active → link ∈ db.links ∨
      (0 ≤ link.amountCents ∧ 0 ≤ link.surchargeCents ∧ link.id ∉ db.links.map PaymentLink.id))
    {ps : List Payment} (hpayments : db'.payments = db.payments++ps)
    (hnew : ∀ p ∈ ps, ∀ s, p.settles = some s → s.link ∈ db'.links.map PaymentLink.id ∧
      ∀ link ∈ db'.links, link.status = .active → link.id ≠ s.link) : Settled db' where
  ids := ids
  nonneg := by
    intro link hlink hstatus
    rcases hactive link hlink hstatus with hold | ⟨hamount, hsurcharge, -⟩
    · exact h.nonneg link hold hstatus
    · exact ⟨hamount, hsurcharge⟩
  known := by
    rw [hpayments]
    intro p hp s hs
    rcases List.mem_append.mp hp with hold | hp
    · exact hkept _ (h.known p hold s hs)
    · exact (hnew p hp s hs).1
  unpaid := by
    intro link hlink hstatus
    rw [settlements, hpayments, List.filter_append, List.append_eq_nil_iff]
    constructor
    · rcases hactive link hlink hstatus with hold | ⟨-, -, hfresh⟩
      · exact h.unpaid link hold hstatus
      · -- payments settle links that are there
        apply List.filter_eq_nil_iff.mpr
        intro p hp hsettles
        obtain ⟨s, hs, hid⟩ := Option.map_eq_some_iff.mp (of_decide_eq_true hsettles)
        have hknown := h.known p hp s hs
        rw [hid] at hknown
        exact hfresh hknown
    · apply List.filter_eq_nil_iff.mpr
      intro p hp hsettles
      obtain ⟨s, hs, hid⟩ := Option.map_eq_some_iff.mp (of_decide_eq_true hsettles)
      exact (hnew p hp s hs).2 link hlink hstatus hid.symm

theorem map_id_setLink {db : Db} {link : PaymentLink} :
    (setLink db link).links.map PaymentLink.id = db.links.map PaymentLink.id :=
  Table.map_key_alter (by intro l _; rfl) db.links

theorem Settled.step {env : Environment} {db db' : Db} {request : PaymentRequest} (hbooks : Books db)
    (h : Settled db) (hstep : Step env db request db') : Settled db' := by
  cases hstep with
  | @manual data invoice _ _ =>
    have hlinks := links_recordPayment db (payment data env.rowId) invoice
    apply h.of_rows (hlinks ▸ h.ids) (hlinks ▸ fun _ hi => hi)
      (fun link hlink _ => Or.inl (hlinks ▸ hlink)) (payments_recordPayment _ _ _)
    intro p hp s hs
    rw [List.mem_singleton.mp hp] at hs
    cases hs
  | @opened settings data userId invoice expiresAt _ hinvoice hid _ =>
    have htotal : 0 ≤ invoice.totalCents :=
      hbooks.total_nonneg data.invoiceId _ (congrArg (Option.map Invoice.totalCents) hinvoice)
    refine h.of_rows ?_ ?_ ?_ (List.append_nil _).symm fun p hp => absurd hp List.not_mem_nil
    -- the key of the new link is new, so that no payment names it yet
    · refine Table.nodup_append_singleton h.ids fun l hl heq => ?_
      have hmem : l.id ∈ db.links.map PaymentLink.id := List.mem_map_of_mem hl
      rw [heq] at hmem
      exact hid hmem
    · intro i hi
      rw [List.map_append]
      exact List.mem_append_left _ hi
    · intro link hlink _
      rcases List.mem_append.mp hlink with hold | hnew
      · exact Or.inl hold
      · rw [List.mem_singleton.mp hnew]
        exact Or.inr ⟨htotal, surchargeOf_nonneg settings htotal, hid⟩
  | @settled link data invoice delivery events _ hmem hactive _ =>
    have hids : (settledDb env db link data delivery invoice).links.map PaymentLink.id =
        db.links.map PaymentLink.id := by
      rw [links_settledDb, map_id_setLink]
    have hcore : Settled (settledDb env db link data delivery invoice) := by
      apply h.of_rows (hids ▸ h.ids) (fun i hi => hids ▸ hi)
        (fun l hl hl' => Or.inl (active_of_settled hl hl').1)
        (payments_settledDb env db link data delivery invoice)
      intro p hp s hs
      rw [List.mem_singleton.mp hp] at hs
      rw [← Option.some.inj hs, hids]
      exact ⟨List.mem_map_of_mem hmem, fun l hl hl' => (active_of_settled hl hl').2⟩
    -- the stored events are not among these rows
    exact ⟨hcore.ids, hcore.nonneg, hcore.known, hcore.unpaid⟩
  | @expired link events _ hmem hactive =>
    have hids : (setLink db (expiredLink link)).links.map PaymentLink.id =
        db.links.map PaymentLink.id := map_id_setLink
    have hcore : Settled (setLink db (expiredLink link)) := by
      exact h.of_rows (hids ▸ h.ids) (fun i hi => hids ▸ hi)
        (fun l hl hl' => Or.inl (active_of_expired hl hl').1) (List.append_nil _).symm
        fun p hp => absurd hp List.not_mem_nil
    exact ⟨hcore.ids, hcore.nonneg, hcore.known, hcore.unpaid⟩
  | kept _ => exact ⟨h.ids, h.nonneg, h.known, h.unpaid⟩

/-- A link that is not paid before or after the write. -/
theorem paidLinks_setLink_unpaid {db : Db} (h : Settled db) {link changed : PaymentLink}
    (hmem : link ∈ db.links) (hid : changed.id = link.id) (hold : link.status ≠ .paid)
    (hnew : changed.status ≠ .paid) : paidLinks (setLink db changed) = paidLinks db := by
  obtain ⟨pre, post, hsplit, -, hset⟩ := links_split h hmem
  rw [paidLinks, paidLinks, hset changed hid, hsplit, List.filter_append, List.filter_append,
    List.filter_cons_of_neg (by rwa [decide_eq_true_eq]),
    List.filter_cons_of_neg (by rwa [decide_eq_true_eq])]

theorem booked_congr {db db' : Db} (h : db'.payments = db.payments) (link : PaymentLink) :
    booked db' link = booked db link := by
  rw [booked, settlements, h]
  rfl

/-- After a link is settled the summary agrees exactly when the request paid in full. -/
theorem agrees_settled_iff {env : Environment} {db db' : Db} {link : PaymentLink}
    {data : CompletePaymentRequest} {invoice : Invoice}
    {delivery : Option (PaymentProcessor × Option String)} (h : Settled db) (hmem : link ∈ db.links)
    (hactive : link.status = .active)
    (hlinks : db'.links = (settledDb env db link data delivery invoice).links)
    (hpayments : db'.payments = (settledDb env db link data delivery invoice).payments)
    (hagrees : SummaryAgrees db) : SummaryAgrees db' ↔ PaysInFull link data := by
  rw [links_settledDb] at hlinks
  rw [payments_settledDb] at hpayments
  obtain ⟨pre, post, hsplit, hothers, hset⟩ := links_split h hmem
  -- the paid links are as before, with this one among them
  have hpaid : paidLinks db = pre.filter (fun l => l.status = .paid)++
      post.filter (fun l => l.status = .paid) := by
    rw [paidLinks, hsplit, List.filter_append, List.filter_cons_of_neg (by simp [hactive])]
  have hpaid' : paidLinks db' = pre.filter (fun l => l.status = .paid)++
      paidLink link data env.now :: post.filter (fun l => l.status = .paid) := by
    have hid : (paidLink link data env.now).id = link.id := rfl
    rw [paidLinks, hlinks, hset _ hid, List.filter_append, List.filter_cons_of_pos (by rfl)]
  have hbooked : ∀ l ∈ pre.filter (fun l => l.status = .paid)++
      post.filter (fun l => l.status = .paid), booked db' l = booked db l := by
    intro l hl
    rw [← List.filter_append] at hl
    have hne := hothers l (List.mem_of_mem_filter hl)
    rw [booked, settlements_append db _ l.id hpayments, if_neg, List.append_nil]
    · rfl
    · exact fun heq => hne (Option.some.inj heq).symm
  -- its one payment is the new one
  have hlink : booked db' (paidLink link data env.now) = link.amountCents+link.surchargeCents := by
    have hnone : settlements db link.id = [] := h.unpaid link hmem hactive
    have hone : settlements db' link.id = [linkPayment link data env.today env.rowId delivery] := by
      rw [settlements_append db _ _ hpayments, hnone]
      exact if_pos rfl
    show ((settlements db' link.id).map (fun p => p.amountCents)).sum+link.surchargeCents = _
    rw [hone, List.map_singleton, List.sum_singleton]
    rfl
  obtain ⟨hamount, hsurcharge⟩ := h.nonneg link hmem hactive
  rw [agrees_insert_iff hpaid hpaid' hbooked hagrees, hlink]
  exact summaryAmount_paidLink_iff hamount hsurcharge

/-- One answered request. -/
theorem agrees_step_iff {env : Environment} {db db' : Db} {request : PaymentRequest}
    (h : Settled db) (hagrees : SummaryAgrees db) (hstep : Step env db request db') :
    SummaryAgrees db' ↔ SettlesInFull env db request := by
  -- who settles nothing has nothing to settle in full
  have hvacuous : settles env db request = none → SettlesInFull env db request := by
    intro hnone link data hsettles
    rw [hnone] at hsettles
    cases hsettles
  cases hstep with
  | @manual data invoice hnone _ =>
    refine iff_of_true ((agrees_congr ?_ ?_).mpr hagrees) (hvacuous hnone)
    · rw [paidLinks, links_recordPayment]
      rfl
    · intro l _
      have hsame := settlements_append db _ l.id (payments_recordPayment db (payment data env.rowId) invoice)
      rw [booked, hsame, if_neg nofun, List.append_nil]
      rfl
  | opened hnone _ _ _ =>
    refine iff_of_true ((agrees_congr ?_ ?_).mpr hagrees) (hvacuous hnone)
    · rw [paidLinks, List.filter_append, List.filter_singleton]
      exact List.append_nil _
    · exact fun l _ => booked_congr rfl l
  | @settled link data invoice delivery events hsettles hmem hactive _ =>
    have hiff : SummaryAgrees { settledDb env db link data delivery invoice with events := events } ↔
        PaysInFull link data := agrees_settled_iff h hmem hactive rfl rfl hagrees
    rw [hiff]
    constructor
    · intro hfull link' data' hsettles'
      obtain ⟨rfl, rfl⟩ := Prod.mk.inj (Option.some.inj (hsettles.symm.trans hsettles'))
      exact hfull
    · exact fun hfull => hfull link data hsettles
  | @expired link events hnone hmem hactive =>
    refine iff_of_true ((agrees_congr ?_ ?_).mpr hagrees) (hvacuous hnone)
    · have hold : link.status ≠ .paid := by simp [hactive]
      have hnew : (expiredLink link).status ≠ .paid := fun hpaid => by cases hpaid
      have hid : (expiredLink link).id = link.id := rfl
      have hsame := paidLinks_setLink_unpaid h hmem hid hold hnew
      exact hsame
    · exact fun l _ => booked_congr rfl l
  | kept hnone =>
    refine iff_of_true ((agrees_congr ?_ ?_).mpr hagrees) (hvacuous hnone)
    · rfl
    · exact fun l _ => booked_congr rfl l

/-- Along any run, the summary agrees with the books in every state exactly when every request
that settles a link pays in full. -/
theorem summaryAgrees_throughout_iff {db : Db} (hbooks : Books db) (hsettled : Settled db)
    (rs : List (Environment × PaymentRequest)) :
    Throughout payments SummaryAgrees db rs ↔ SummaryAgrees db ∧
      Along payments (fun s r _ => SettlesInFull r.1 s r.2) db rs := by
  have hkeep : ∀ s r s', Books s ∧ Settled s → payments s r = some s' → Books s' ∧ Settled s' := by
    rintro s r s' ⟨hb, hs⟩ hstep
    rcases payments_cases hstep with ⟨rfl, -⟩ | hstep
    · exact ⟨hb, hs⟩
    · exact ⟨hb.step hstep, hs.step hb hstep⟩
  have hiff : ∀ s r s', Books s ∧ Settled s → SummaryAgrees s → payments s r = some s' →
      (SummaryAgrees s' ↔ SettlesInFull r.1 s r.2) := by
    rintro s r s' ⟨-, hs⟩ hagrees hstep
    rcases payments_cases hstep with ⟨rfl, hnone⟩ | hstep
    · refine iff_of_true hagrees fun link data hsettles => ?_
      rw [hnone] at hsettles
      cases hsettles
    · exact agrees_step_iff hs hagrees hstep
  exact throughout_iff_along hkeep hiff ⟨hbooks, hsettled⟩ rs

theorem settled_of_fresh {db : Db} (hlinks : db.links = []) (hpayments : db.payments = []) :
    Settled db where
  ids := by
    rw [hlinks]
    exact List.nodup_nil
  nonneg := by
    rw [hlinks]
    exact fun link h => absurd h List.not_mem_nil
  known := by
    rw [hpayments]
    exact fun p h => absurd h List.not_mem_nil
  unpaid := by
    rw [hlinks]
    exact fun link h => absurd h List.not_mem_nil

/-- Tables without links have nothing to report. -/
theorem summaryAgrees_of_fresh {db : Db} (hlinks : db.links = []) : SummaryAgrees db := by
  have hnone : paidLinks db = [] := by
    rw [paidLinks, hlinks]
    rfl
  rw [summaryAgrees_iff, hnone]
  exact ⟨rfl, fun p => rfl⟩

/-- A visitor settles a link over 100.00 and says that a cent was paid. -/
def understatedRun : List (Environment × PaymentRequest) :=
  [(⟨morning, 0, 21, "c9", ""⟩, .createLink none linkRequest 8),
   (⟨morning, 0, 22, "", ""⟩, .complete "c9" { paidAmountCents := some 1 })]

theorem summaryAgrees_throughout_understatedRun :
    Throughout payments SummaryAgrees sentDb understatedRun ↔ SummaryAgrees sentDb ∧
      Along payments (fun s r _ => SettlesInFull r.1 s r.2) sentDb understatedRun :=
  summaryAgrees_throughout_iff books_sentDb (settled_of_fresh rfl rfl) understatedRun

/-- The summary reports the cent, and the books have the payment of 100.00. -/
theorem not_summaryAgrees_understatedRun :
    ¬Throughout payments SummaryAgrees sentDb understatedRun := by
  rintro ⟨-, h⟩
  obtain ⟨-, h⟩ := h _ rfl
  obtain ⟨hagrees, -⟩ := h _ rfl
  have htotal := hagrees.total
  revert htotal
  decide

end LegalForge.Payments
