import LegalForge.AccountingExport
import LegalForge.DoubleRounding

/-! What a reader of the tab-delimited export gets: three header lines, and of each record one
transaction line, one split line and an end line. -/
namespace LegalForge.Accounting
open Billing Decimal Delimited
open Trust (TrustLedgerEntry fetchTrustEntries)

def IifRow.ofFields : List (List Char) → Option IifRow
  | [tag, trnsId, trnsType, date, accnt, name, amount, memo] =>
    some ⟨tag, trnsId, trnsType, date, accnt, name, amount, memo⟩
  | _ => none

/-- A line of eight fields that begins with its tag. -/
def parseIifRow (tag line : List Char) : Option IifRow :=
  (IifRow.ofFields (line.splitOn '\t')).bind fun row => if row.tag = tag then some row else none

/-- Blocks of three lines, up to the end of the last line. -/
def parseBlocks : List (List Char) → Option (List IifBlock)
  | trns :: spl :: endTrns :: rest =>
    (parseIifRow "TRNS".toList trns).bind fun t =>
      (parseIifRow "SPL".toList spl).bind fun s =>
        if endTrns = "ENDTRNS".toList then (parseBlocks rest).map (fun blocks => ⟨t, s⟩ :: blocks)
        else none
  | [last] => if last = [] then some [] else none
  | _ => none

def parseIif (text : List Char) : Option (List IifBlock) :=
  if (text.splitOn '\n').take 3 = iifHeader then parseBlocks ((text.splitOn '\n').drop 3) else none

/-- Client name and memo as they were written, and two amounts that cancel. -/
structure BlockRecovered (written read : IifBlock) : Prop where
  trnsName : read.trns.name = written.trns.name
  trnsMemo : read.trns.memo = written.trns.memo
  splName : read.spl.name = written.spl.name
  splMemo : read.spl.memo = written.spl.memo
  balanced : ∃ x y, readCents read.trns.amount = some x ∧ readCents read.spl.amount = some y ∧
    x+y = 0

/-- The content is read as `record_count` balanced blocks with the names and memos written. -/
def IifWellFormed (db : AccountingDb) (data : ExportRequest) (userId : Uuid) : Prop :=
  ∃ blocks, parseIif (generateIifExport db data userId).1 = some blocks ∧
    blocks.length = (generateIifExport db data userId).2.recordCount ∧
    List.Forall₂ BlockRecovered (iifBlocks db data).2 blocks

/-- No tab and no line feed. -/
def FieldOk (text : List Char) : Prop :=
  '\t' ∉ text ∧ '\n' ∉ text

instance (text : List Char) : Decidable (FieldOk text) :=
  inferInstanceAs (Decidable (_ ∧ _))

/-- No client name and no description of a fetched row breaks its line. -/
def IifWritable (db : AccountingDb) (data : ExportRequest) : Prop :=
  match exportKind data.exportType with
  | some .invoices => ∀ inv ∈ fetchInvoices db data.startDate data.endDate,
      FieldOk (getClientDisplayName db inv).toList ∧ FieldOk (invoiceMemo db inv)
  | some .payments => ∀ p ∈ fetchPayments db data.startDate data.endDate,
      FieldOk (paymentClientName db p).toList
  | some .timeEntries => ∀ e ∈ fetchTimeEntries db data.startDate data.endDate,
      FieldOk (e.description.toList.take 80)
  | some .trustTransactions => ∀ e ∈ fetchTrustEntries db.trust data.startDate data.endDate,
      FieldOk (trustClientName db e).toList ∧ FieldOk (e.description.toList.take 80)
  | none => True

/-! Reading lines. -/

/-- A written line is read back exactly if no field contains a tab. -/
theorem parseIifRow_iff {row out : IifRow} :
    parseIifRow row.tag (join '\t' row.fields) = some out ↔
      (∀ field ∈ row.fields, '\t' ∉ field) ∧ out = row := by
  have hne : row.fields ≠ [] := List.cons_ne_nil _ _
  have hof : IifRow.ofFields row.fields = some row := rfl
  rw [parseIifRow, Option.bind_eq_some_iff]
  constructor
  · rintro ⟨read, hread, hout⟩
    split_ifs at hout
    obtain rfl := Option.some.inj hout
    have hlen : ((join '\t' row.fields).splitOn '\t').length = row.fields.length := by
      unfold IifRow.ofFields at hread
      split at hread
      · rename_i hsplit
        rw [hsplit]
        rfl
      · cases hread
    have hclean := (length_splitOn_join_iff hne).mp hlen
    rw [splitOn_join_of_clean hne hclean, hof] at hread
    exact ⟨hclean, (Option.some.inj hread).symm⟩
  · rintro ⟨hclean, rfl⟩
    exact ⟨out, by rw [splitOn_join_of_clean hne hclean, hof], if_pos rfl⟩

/-- The tags under which a block is written. -/
def Tagged (block : IifBlock) : Prop :=
  block.trns.tag = "TRNS".toList ∧ block.spl.tag = "SPL".toList

theorem parseBlocks_iff {blocks out : List IifBlock} (htag : ∀ b ∈ blocks, Tagged b) :
    parseBlocks (blocks.flatMap blockLines++[[]]) = some out ↔
      (∀ b ∈ blocks, ∀ field ∈ b.trns.fields++b.spl.fields, '\t' ∉ field) ∧ out = blocks := by
  induction blocks generalizing out with
  | nil =>
    have hread : parseBlocks (([] : List IifBlock).flatMap blockLines++[[]]) = some [] := rfl
    rw [hread, Option.some.injEq]
    simp [eq_comm]
  | cons b blocks ih =>
    obtain ⟨htrns, hspl⟩ := htag b List.mem_cons_self
    have hlines : (b :: blocks).flatMap blockLines++[[]] = join '\t' b.trns.fields ::
        join '\t' b.spl.fields :: "ENDTRNS".toList :: (blocks.flatMap blockLines++[[]]) := rfl
    have ih' := fun out => @ih out fun c hc => htag c (List.mem_cons_of_mem b hc)
    rw [hlines, parseBlocks, ← htrns, ← hspl, List.forall_mem_cons, List.forall_mem_append,
      Option.bind_eq_some_iff]
    constructor
    · rintro ⟨t, ht, hrest⟩
      obtain ⟨s, hs, hrest⟩ := Option.bind_eq_some_iff.mp hrest
      rw [if_pos rfl, Option.map_eq_some_iff] at hrest
      obtain ⟨tail, htail, rfl⟩ := hrest
      obtain ⟨hct, rfl⟩ := parseIifRow_iff.mp ht
      obtain ⟨hcs, rfl⟩ := parseIifRow_iff.mp hs
      obtain ⟨hclean, rfl⟩ := (ih' tail).mp htail
      exact ⟨⟨⟨hct, hcs⟩, hclean⟩, rfl⟩
    · rintro ⟨⟨⟨hct, hcs⟩, hclean⟩, rfl⟩
      refine ⟨b.trns, parseIifRow_iff.mpr ⟨hct, rfl⟩, ?_⟩
      rw [parseIifRow_iff.mpr ⟨hcs, rfl⟩, Option.bind_some, if_pos rfl,
        (ih' blocks).mpr ⟨hclean, rfl⟩]
      rfl

/-- A block is read off three lines, or one empty line is left. -/
theorem parseBlocks_eq_some {lines : List (List Char)} {blocks : List IifBlock}
    (h : parseBlocks lines = some blocks) : (lines.length = 1 ∧ blocks = []) ∨
      ∃ trns spl ending rest first tail, lines = trns :: spl :: ending :: rest ∧
        blocks = first :: tail ∧ parseBlocks rest = some tail := by
  unfold parseBlocks at h
  split at h
  · rename_i trns spl ending rest
    obtain ⟨t, -, h⟩ := Option.bind_eq_some_iff.mp h
    obtain ⟨s, -, h⟩ := Option.bind_eq_some_iff.mp h
    split_ifs at h
    obtain ⟨tail, htail, rfl⟩ := Option.map_eq_some_iff.mp h
    right
    exact ⟨trns, spl, ending, rest, _, tail, rfl, rfl, htail⟩
  · split_ifs at h
    obtain rfl := Option.some.inj h
    left
    exact ⟨rfl, rfl⟩
  · cases h

theorem length_of_parseBlocks {lines : List (List Char)} {blocks : List IifBlock}
    (h : parseBlocks lines = some blocks) : lines.length = 3*blocks.length+1 := by
  induction blocks generalizing lines with
  | nil =>
    rcases parseBlocks_eq_some h with ⟨hone, -⟩ | ⟨_, _, _, _, _, _, -, hblocks, -⟩
    · exact hone
    · cases hblocks
  | cons b blocks ih =>
    rcases parseBlocks_eq_some h with ⟨-, hblocks⟩ | ⟨_, _, _, rest, _, tail, rfl, hblocks, hrest⟩
    · cases hblocks
    · obtain ⟨-, rfl⟩ := List.cons.inj hblocks
      have hlength := ih hrest
      simp only [List.length_cons]
      omega

/-! Reading the content. -/

theorem length_blockLines (blocks : List IifBlock) :
    (blocks.flatMap blockLines).length = 3*blocks.length := by
  induction blocks with
  | nil => rfl
  | cons b blocks ih =>
    rw [List.flatMap_cons, List.length_append, ih, List.length_cons]
    have hthree : (blockLines b).length = 3 := rfl
    omega

/-- The content is its lines, with nothing after the last line feed. -/
theorem iifContent_eq_join (blocks : List IifBlock) :
    iifContent blocks = join '\n' (iifHeader++(blocks.flatMap blockLines++[[]])) := by
  rw [iifContent, ← join_concat_nil (by simp [iifHeader]), List.append_assoc]

/-! The lines of the content. -/

theorem newline_free_join_iff {fields : List (List Char)} :
    '\n' ∉ join '\t' fields ↔ ∀ field ∈ fields, '\n' ∉ field := by
  rw [mem_join_iff (by decide)]
  push Not
  rfl

theorem newline_free_blockLines_iff (b : IifBlock) : (∀ line ∈ blockLines b, '\n' ∉ line) ↔
    ∀ field ∈ b.trns.fields++b.spl.fields, '\n' ∉ field := by
  have hend : '\n' ∉ "ENDTRNS".toList := by decide
  simp only [blockLines, List.forall_mem_cons, List.forall_mem_append, newline_free_join_iff]
  simp only [hend, not_false_iff, List.not_mem_nil, false_imp_iff, implies_true, and_true]

theorem newline_free_lines_iff {blocks : List IifBlock} :
    (∀ line ∈ iifHeader++(blocks.flatMap blockLines++[[]]), '\n' ∉ line) ↔
      ∀ b ∈ blocks, ∀ field ∈ b.trns.fields++b.spl.fields, '\n' ∉ field := by
  have hheader : ∀ line ∈ iifHeader, '\n' ∉ line := by
    intro line hline
    simp only [iifHeader, List.mem_cons, List.not_mem_nil, or_false] at hline
    rcases hline with rfl | rfl | rfl <;> decide
  rw [List.forall_mem_append, List.forall_mem_append, List.forall_mem_flatMap]
  simp only [newline_free_blockLines_iff]
  constructor
  · exact fun h => h.2.1
  · exact fun h => ⟨hheader, h, by simp⟩

/-- A content that is read has as many pieces as lines. -/
theorem length_splitOn_of_parseIif {blocks out : List IifBlock} (hlen : out.length = blocks.length)
    (h : parseIif (iifContent blocks) = some out) :
    ((join '\n' (iifHeader++(blocks.flatMap blockLines++[[]]))).splitOn '\n').length =
      (iifHeader++(blocks.flatMap blockLines++[[]])).length := by
  rw [parseIif, iifContent_eq_join] at h
  split_ifs at h with hfront
  have hrest := length_of_parseBlocks h
  have htotal : (iifHeader++(blocks.flatMap blockLines++[[]])).length = 3+(3*blocks.length+1) := by
    rw [List.length_append, List.length_append, length_blockLines]
    rfl
  have hthree := congrArg List.length hfront
  rw [List.length_take] at hthree
  have hheader3 : iifHeader.length = 3 := rfl
  rw [List.length_drop] at hrest
  omega

/-- Where no line is broken, the blocks are read. -/
theorem parseIif_of_newline_free {blocks out : List IifBlock} (htag : ∀ b ∈ blocks, Tagged b)
    (h : ∀ line ∈ iifHeader++(blocks.flatMap blockLines++[[]]), '\n' ∉ line) :
    parseIif (iifContent blocks) = some out ↔
      (∀ b ∈ blocks, ∀ field ∈ b.trns.fields++b.spl.fields, '\t' ∉ field) ∧ out = blocks := by
  have hne : iifHeader++(blocks.flatMap blockLines++[[]]) ≠ [] := by simp [iifHeader]
  have htake : (iifHeader++(blocks.flatMap blockLines++[[]])).take 3 = iifHeader :=
    List.take_left' rfl
  have hdrop : (iifHeader++(blocks.flatMap blockLines++[[]])).drop 3 =
      blocks.flatMap blockLines++[[]] := List.drop_left' rfl
  rw [parseIif, iifContent_eq_join, splitOn_join_of_clean hne h, htake, if_pos rfl, hdrop]
  exact parseBlocks_iff htag

/-- The content is read back exactly if no field of a block contains a delimiter. -/
theorem parseIif_iff {blocks out : List IifBlock} (htag : ∀ b ∈ blocks, Tagged b)
    (hlen : out.length = blocks.length) : parseIif (iifContent blocks) = some out ↔
      (∀ b ∈ blocks, ∀ field ∈ b.trns.fields++b.spl.fields, FieldOk field) ∧ out = blocks := by
  have hboth : (∀ b ∈ blocks, ∀ field ∈ b.trns.fields++b.spl.fields, FieldOk field) ↔
      (∀ b ∈ blocks, ∀ field ∈ b.trns.fields++b.spl.fields, '\t' ∉ field) ∧
        ∀ line ∈ iifHeader++(blocks.flatMap blockLines++[[]]), '\n' ∉ line := by
    rw [newline_free_lines_iff]
    constructor
    · intro h
      exact ⟨fun b hb field hf => (h b hb field hf).1, fun b hb field hf => (h b hb field hf).2⟩
    · exact fun h b hb field hf => ⟨h.1 b hb field hf, h.2 b hb field hf⟩
  rw [hboth]
  constructor
  · intro h
    have hne : iifHeader++(blocks.flatMap blockLines++[[]]) ≠ [] := by simp [iifHeader]
    have hnl := (length_splitOn_join_iff hne).mp (length_splitOn_of_parseIif hlen h)
    obtain ⟨htab, hout⟩ := (parseIif_of_newline_free htag hnl).mp h
    exact ⟨⟨htab, hnl⟩, hout⟩
  · rintro ⟨⟨htab, hnl⟩, hout⟩
    exact (parseIif_of_newline_free htag hnl).mpr ⟨htab, hout⟩

/-! What the four types write. -/

/-- No field of the two lines breaks them. -/
def BlockOk (block : IifBlock) : Prop :=
  ∀ field ∈ block.trns.fields++block.spl.fields, FieldOk field

theorem fieldOk_of_isNumeric {text : List Char} (h : ∀ c ∈ text, IsNumeric c) : FieldOk text := by
  constructor
  · intro hmem
    have hnumeric := h _ hmem
    revert hnumeric
    simp [IsNumeric, Char.isDigit]
  · intro hmem
    have hnumeric := h _ hmem
    revert hnumeric
    simp [IsNumeric, Char.isDigit]

theorem fieldOk_append_iff {s t : List Char} : FieldOk (s++t) ↔ FieldOk s ∧ FieldOk t := by
  simp only [FieldOk, List.mem_append, not_or]
  exact and_and_and_comm

theorem fieldOk_slashedDate (date : Date) : FieldOk (slashedDate date) := by
  constructor
  · intro hmem
    have hdate := isDigit_or_slash_slashedDate hmem
    revert hdate
    decide
  · intro hmem
    have hdate := isDigit_or_slash_slashedDate hmem
    revert hdate
    decide

theorem fieldOk_formatMoney (cents : ℤ) : FieldOk (formatMoney cents) :=
  fieldOk_of_isNumeric fun _ => isNumeric_centsText

theorem fieldOk_optionalInt {absent : String} (h : FieldOk absent.toList) (n : Option ℤ) :
    FieldOk (optionalInt absent n) := by
  cases n with
  | none => exact h
  | some n => exact fieldOk_of_isNumeric fun _ => isNumeric_intText

theorem fieldOk_clipped_iff {k : ℕ} {default : String} (h : FieldOk default.toList)
    (description : String) :
    FieldOk (clipped k default description) ↔ FieldOk (description.toList.take k) := by
  unfold clipped
  split_ifs with hempty
  · rw [hempty]
    exact iff_of_true h ⟨by simp, by simp⟩
  · exact Iff.rfl

/-- Of two posted lines the names and memos can break them. -/
theorem postingBlock_ok_iff {idx : ℕ} {trnsType trnsAccnt splAccnt : String}
    {date name trnsMemo splMemo : List Char} {cents : ℤ} (htype : FieldOk trnsType.toList)
    (hdate : FieldOk date) (htrns : FieldOk trnsAccnt.toList) (hspl : FieldOk splAccnt.toList) :
    BlockOk (postingBlock idx trnsType date trnsAccnt splAccnt name cents trnsMemo splMemo) ↔
      FieldOk name ∧ FieldOk trnsMemo ∧ FieldOk splMemo := by
  have hidx : FieldOk (Nat.toDigits 10 idx) :=
    fieldOk_of_isNumeric fun _ hc => Or.inl (isDigit_of_mem_toDigits hc)
  have htrnsTag : FieldOk "TRNS".toList := by decide
  have hsplTag : FieldOk "SPL".toList := by decide
  simp only [BlockOk, postingBlock, IifRow.fields, List.forall_mem_append, List.forall_mem_cons]
  constructor
  · rintro ⟨⟨-, -, -, -, -, hname, -, hmemo, -⟩, -, -, -, -, -, -, -, hsplMemo, -⟩
    exact ⟨hname, hmemo, hsplMemo⟩
  · rintro ⟨hname, hmemo, hsplMemo⟩
    exact ⟨⟨htrnsTag, hidx, htype, hdate, htrns, hname, fieldOk_formatMoney _, hmemo, by simp⟩,
      hsplTag, hidx, htype, hdate, hspl, hname, fieldOk_formatMoney _, hsplMemo, by simp⟩

/-- The block posts some amount to two accounts. -/
def Posted (block : IifBlock) : Prop :=
  ∃ idx trnsType date trnsAccnt splAccnt name cents trnsMemo splMemo,
    block = postingBlock idx trnsType date trnsAccnt splAccnt name cents trnsMemo splMemo

theorem Posted.tagged {block : IifBlock} (h : Posted block) : Tagged block := by
  obtain ⟨_, _, _, _, _, _, _, _, _, rfl⟩ := h
  exact ⟨rfl, rfl⟩

/-- The printed amounts of a posting cancel, also where printing changes them. -/
theorem Posted.recovered {block : IifBlock} (h : Posted block) : BlockRecovered block block := by
  obtain ⟨_, _, _, _, _, _, cents, _, _, rfl⟩ := h
  refine ⟨rfl, rfl, rfl, rfl, _, _, readCents_centsText _, readCents_centsText _, ?_⟩
  rw [Int.cast_neg, Double.div_neg, mul_neg, Double.roundEven_neg]
  exact add_neg_cancel _

section Blocks

variable {db : AccountingDb}

theorem invoiceBlock_ok_iff (idx : ℕ) (inv : Invoice) : BlockOk (invoiceBlock db idx inv) ↔
    FieldOk (getClientDisplayName db inv).toList ∧ FieldOk (invoiceMemo db inv) := by
  have hdate : FieldOk (optionalDate slashedDate inv.issuedDate) := by
    cases inv.issuedDate with
    | none => exact ⟨List.not_mem_nil, List.not_mem_nil⟩
    | some d => exact fieldOk_slashedDate d
  have hmemo : FieldOk ("Invoice #".toList++optionalInt "None" inv.invoiceNumber) :=
    fieldOk_append_iff.mpr ⟨by decide, fieldOk_optionalInt (by decide) _⟩
  rw [invoiceBlock, postingBlock_ok_iff (by decide) hdate (by decide) (by decide)]
  exact and_congr_right fun _ => and_iff_right hmemo

theorem paymentBlock_ok_iff (idx : ℕ) (p : Payment) : BlockOk (paymentBlock db idx p) ↔
    FieldOk (paymentClientName db p).toList := by
  have hnumber : FieldOk (paymentInvoiceNumber db "N/A" p) := by
    unfold paymentInvoiceNumber
    cases paymentInvoice db p with
    | none => decide
    | some inv => exact fieldOk_optionalInt (by decide) _
  have hmemo : FieldOk (paymentMemo db p) := fieldOk_append_iff.mpr ⟨by decide, hnumber⟩
  rw [paymentBlock, postingBlock_ok_iff (by decide) (fieldOk_slashedDate _) (by decide) (by decide)]
  exact and_iff_left ⟨hmemo, hmemo⟩

theorem timeEntryBlock_ok_iff (idx : ℕ) (entry : TimeEntry) : BlockOk (timeEntryBlock idx entry) ↔
    FieldOk (entry.description.toList.take 80) := by
  have hempty : FieldOk [] := ⟨List.not_mem_nil, List.not_mem_nil⟩
  rw [timeEntryBlock, postingBlock_ok_iff (by decide) (fieldOk_slashedDate _) (by decide)
    (by decide), fieldOk_clipped_iff (by decide), and_self, and_iff_right hempty]

theorem trustBlock_ok_iff (idx : ℕ) (entry : TrustLedgerEntry) : BlockOk (trustBlock db idx entry) ↔
    FieldOk (trustClientName db entry).toList ∧ FieldOk (entry.description.toList.take 80) := by
  rw [← fieldOk_clipped_iff (by decide : FieldOk "Trust transaction".toList)]
  unfold trustBlock
  cases entry.entryType with
  | deposit =>
    dsimp only
    rw [postingBlock_ok_iff (by decide) (fieldOk_slashedDate _) (by decide) (by decide), and_self]
  | disbursement =>
    dsimp only
    rw [postingBlock_ok_iff (by decide) (fieldOk_slashedDate _) (by decide) (by decide), and_self]
  | transfer =>
    dsimp only
    rw [postingBlock_ok_iff (by decide) (fieldOk_slashedDate _) (by decide) (by decide), and_self]

theorem trustBlock_posted (idx : ℕ) (entry : TrustLedgerEntry) : Posted (trustBlock db idx entry) := by
  unfold trustBlock
  cases entry.entryType with
  | deposit => exact ⟨_, _, _, _, _, _, _, _, _, rfl⟩
  | disbursement => exact ⟨_, _, _, _, _, _, _, _, _, rfl⟩
  | transfer => exact ⟨_, _, _, _, _, _, _, _, _, rfl⟩

/-- What all rows have, all their numbered blocks have. -/
theorem forall_numberedBlocks_iff {α : Type} {block : ℕ → α → IifBlock} {rows : List α}
    {P : IifBlock → Prop} {Q : α → Prop} (h : ∀ idx x, P (block idx x) ↔ Q x) :
    (∀ b ∈ numberedBlocks block rows, P b) ↔ ∀ x ∈ rows, Q x := by
  have hrows : (∀ x ∈ rows, Q x) ↔ ∀ x ∈ rows.zipIdx 1, Q x.1 := by
    rw [← List.forall_mem_map (f := Prod.fst) (P := Q), List.zipIdx_map_fst]
  rw [numberedBlocks, List.forall_mem_map, hrows]
  exact forall₂_congr fun x _ => h x.2 x.1

theorem length_numberedBlocks {α : Type} (block : ℕ → α → IifBlock) (rows : List α) :
    (numberedBlocks block rows).length = rows.length := by
  rw [numberedBlocks, List.length_map, List.length_zipIdx]

variable (db) (data : ExportRequest)

theorem length_iifBlocks : (iifBlocks db data).2.length = (iifBlocks db data).1 := by
  unfold iifBlocks
  cases exportKind data.exportType with
  | none => rfl
  | some kind => cases kind <;> exact length_numberedBlocks _ _

theorem iifBlocks_posted : ∀ b ∈ (iifBlocks db data).2, Posted b := by
  have hall : ∀ {α : Type} {block : ℕ → α → IifBlock} {rows : List α},
      (∀ idx x, Posted (block idx x)) → ∀ b ∈ numberedBlocks block rows, Posted b := by
    intro α block rows h
    rw [forall_numberedBlocks_iff fun idx x => iff_true_intro (h idx x)]
    exact fun _ _ => trivial
  unfold iifBlocks
  cases exportKind data.exportType with
  | none => exact fun _ h => absurd h List.not_mem_nil
  | some kind =>
    cases kind with
    | invoices => exact hall fun _ _ => ⟨_, _, _, _, _, _, _, _, _, rfl⟩
    | payments => exact hall fun _ _ => ⟨_, _, _, _, _, _, _, _, _, rfl⟩
    | timeEntries => exact hall fun _ _ => ⟨_, _, _, _, _, _, _, _, _, rfl⟩
    | trustTransactions => exact hall trustBlock_posted

theorem iifBlocks_ok_iff : (∀ b ∈ (iifBlocks db data).2, BlockOk b) ↔ IifWritable db data := by
  unfold iifBlocks IifWritable
  cases exportKind data.exportType with
  | none => exact iff_of_true (fun _ h => absurd h List.not_mem_nil) trivial
  | some kind =>
    cases kind with
    | invoices => exact forall_numberedBlocks_iff invoiceBlock_ok_iff
    | payments => exact forall_numberedBlocks_iff paymentBlock_ok_iff
    | timeEntries => exact forall_numberedBlocks_iff timeEntryBlock_ok_iff
    | trustTransactions => exact forall_numberedBlocks_iff trustBlock_ok_iff

theorem wellFormed_iff_blockOk (userId : Uuid) :
    IifWellFormed db data userId ↔ ∀ b ∈ (iifBlocks db data).2, BlockOk b := by
  have htag : ∀ b ∈ (iifBlocks db data).2, Tagged b := fun b hb => (iifBlocks_posted db data b hb).tagged
  constructor
  · rintro ⟨blocks, hparse, -, hall⟩
    exact ((parseIif_iff htag hall.length_eq.symm).mp hparse).1
  · intro h
    refine ⟨_, (parseIif_iff htag rfl).mpr ⟨h, rfl⟩, length_iifBlocks db data, ?_⟩
    exact List.forall₂_same.mpr fun b hb => (iifBlocks_posted db data b hb).recovered

/-- The export is well formed exactly if no client name and no description that it writes contains
a tab or a line feed. -/
theorem iifWellFormed_iff (userId : Uuid) :
    IifWellFormed db data userId ↔ IifWritable db data := by
  rw [wellFormed_iff_blockOk, iifBlocks_ok_iff]

end Blocks

/-- An entry with a description of two lines. -/
def twoLines : AccountingDb where
  billing := ⟨[⟨7, 5, 2, 738945, 90, "drafted brief\ncalled client", true, 36000, none⟩], [], [], [],
    [], []⟩
  trust := ⟨fun _ => none, [], []⟩
  clients := fun _ => none
  matterTitles := fun _ => none

def timeEntriesOf2024 : ExportRequest where
  format := .iif
  exportType := "time_entries"
  startDate := 738886
  endDate := 739251
  type_min := by decide
  type_max := by decide

/-- The lines of its block break off. -/
theorem not_iifWellFormed_twoLines : ¬IifWellFormed twoLines timeEntriesOf2024 2 := by
  rw [wellFormed_iff_blockOk, iifBlocks_ok_iff]
  intro h
  have hentry : ⟨7, 5, 2, 738945, 90, "drafted brief\ncalled client", true, 36000, none⟩ ∈
      fetchTimeEntries twoLines 738886 739251 := by
    rw [fetchTimeEntries, List.mem_mergeSort]
    exact List.mem_singleton.mpr rfl
  exact (h _ hentry).2 (by decide)

end LegalForge.Accounting
