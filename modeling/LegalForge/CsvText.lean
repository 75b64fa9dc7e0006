import LegalForge.DelimitedText

/-! Comma-separated rows as `csv.writer` writes them, and a reader that gets every row back. A
field with a delimiter in it stands in quotes, and a quote inside them is doubled. -/
namespace LegalForge.Csv
open Delimited

def needsQuotes (c : Char) : Bool :=
  c = ',' ∨ c = '"' ∨ c = '\r' ∨ c = '\n'

def doubled (c : Char) : List Char :=
  if c = '"' then ['"', '"'] else [c]

def fieldText (field : List Char) : List Char :=
  if field.any needsQuotes then '"' :: (field.flatMap doubled++['"']) else field

def rowText (row : List (List Char)) : List Char :=
  join ',' (row.map fieldText)++['\r', '\n']

/-- `writer.writerow(row)` for every row. -/
def writeRows (rows : List (List (List Char))) : List Char :=
  rows.flatMap rowText

/-- Where in a field the reader is. -/
inductive Mode where
  | start
  | plain
  | quoted
  | quote
  | lineEnd
  deriving DecidableEq

structure Reader where
  rows : List (List (List Char)) := []
  row : List (List Char) := []
  field : List Char := []
  mode : Mode := .start

/-- A letter outside of quotes. -/
def Reader.readPlain (r : Reader) (c : Char) : Reader :=
  if c = ',' then ⟨r.rows, r.row++[r.field], [], .start⟩
  else if c = '\r' then ⟨r.rows++[r.row++[r.field]], [], [], .lineEnd⟩
  else if c = '\n' then ⟨r.rows++[r.row++[r.field]], [], [], .start⟩
  else ⟨r.rows, r.row, r.field++[c], .plain⟩

def Reader.readStart (r : Reader) (c : Char) : Reader :=
  if c = '"' then ⟨r.rows, r.row, r.field, .quoted⟩ else r.readPlain c

/-- One letter. Within quotes a quote is either the last or the first of two. -/
def Reader.read (r : Reader) (c : Char) : Reader :=
  match r.mode with
  | .start => r.readStart c
  | .plain => r.readPlain c
  | .quoted =>
    if c = '"' then ⟨r.rows, r.row, r.field, .quote⟩ else ⟨r.rows, r.row, r.field++[c], .quoted⟩
  | .quote => if c = '"' then ⟨r.rows, r.row, r.field++['"'], .quoted⟩ else r.readPlain c
  | .lineEnd => if c = '\n' then ⟨r.rows, r.row, r.field, .start⟩ else r.readStart c

/-- The rows of a text whose lines are all ended. -/
def readRows (text : List Char) : List (List (List Char)) :=
  (text.foldl Reader.read {}).rows

/-- A mode in which the next delimiter ends the field. -/
def Mode.Open (m : Mode) : Prop :=
  m = .start ∨ m = .plain ∨ m = .quote

theorem read_delimiter {r : Reader} (hopen : r.mode.Open) {c : Char} (hc : c = ',' ∨ c = '\r') :
    r.read c = r.readPlain c := by
  have hne : c ≠ '"' := by
    rcases hc with rfl | rfl <;> decide
  rcases hopen with h | h | h
  · simp only [Reader.read, h, Reader.readStart, if_neg hne]
  · simp only [Reader.read, h]
  · simp only [Reader.read, h, if_neg hne]

variable {rows : List (List (List Char))} {row : List (List Char)}

/-- Letters that need no quotes are read one by one. -/
theorem foldl_plain {text read : List Char} {m : Mode} (hm : m = .start ∨ m = .plain)
    (h : ∀ c ∈ text, needsQuotes c = false) : ∃ m', m'.Open ∧
      text.foldl Reader.read ⟨rows, row, read, m⟩ = ⟨rows, row, read++text, m'⟩ := by
  induction text generalizing read m with
  | nil =>
    refine ⟨m, ?_, by rw [List.append_nil, List.foldl_nil]⟩
    rcases hm with rfl | rfl
    · exact Or.inl rfl
    · exact Or.inr (Or.inl rfl)
  | cons c text ih =>
    have hc := h c List.mem_cons_self
    simp only [needsQuotes, decide_eq_false_iff_not, not_or] at hc
    obtain ⟨hcomma, hquote, hcr, hnl⟩ := hc
    have hstep : Reader.read ⟨rows, row, read, m⟩ c = ⟨rows, row, read++[c], .plain⟩ := by
      rcases hm with rfl | rfl
      · simp only [Reader.read, Reader.readStart, Reader.readPlain, if_neg hquote, if_neg hcomma,
          if_neg hcr, if_neg hnl]
      · simp only [Reader.read, Reader.readPlain, if_neg hcomma, if_neg hcr, if_neg hnl]
    rw [List.foldl_cons, hstep]
    obtain ⟨m', hm', hfold⟩ : ∃ m', m'.Open ∧ text.foldl Reader.read
        ⟨rows, row, read++[c], .plain⟩ = ⟨rows, row, read++[c]++text, m'⟩ :=
      ih (Or.inr rfl) fun d hd => h d (List.mem_cons_of_mem c hd)
    exact ⟨m', hm', by rw [hfold, List.append_assoc, List.singleton_append]⟩

/-- Within quotes every letter is read back, whatever it is. -/
theorem foldl_doubled (text read : List Char) :
    (text.flatMap doubled).foldl Reader.read ⟨rows, row, read, .quoted⟩ =
      ⟨rows, row, read++text, .quoted⟩ := by
  induction text generalizing read with
  | nil => rw [List.append_nil, List.flatMap_nil, List.foldl_nil]
  | cons c text ih =>
    have hstep : (doubled c).foldl Reader.read ⟨rows, row, read, .quoted⟩ =
        ⟨rows, row, read++[c], .quoted⟩ := by
      unfold doubled
      split_ifs with hc
      · rw [hc]
        rfl
      · simp only [List.foldl_cons, List.foldl_nil, Reader.read, if_neg hc]
    rw [List.flatMap_cons, List.foldl_append, hstep, ih, List.append_assoc, List.singleton_append]

/-- A written field is read back, and the reader waits for its end. -/
theorem foldl_fieldText (rows : List (List (List Char))) (row : List (List Char))
    (field : List Char) : ∃ m, m.Open ∧
    (fieldText field).foldl Reader.read ⟨rows, row, [], .start⟩ = ⟨rows, row, field, m⟩ := by
  unfold fieldText
  split_ifs with h
  · refine ⟨.quote, Or.inr (Or.inr rfl), ?_⟩
    have hopen : Reader.read ⟨rows, row, [], .start⟩ '"' = ⟨rows, row, [], .quoted⟩ := rfl
    rw [List.foldl_cons, hopen, List.foldl_append, foldl_doubled]
    rfl
  · rw [Bool.not_eq_true, List.any_eq_false] at h
    exact foldl_plain (Or.inl rfl) fun c hc => Bool.not_eq_true _ ▸ h c hc

theorem foldl_rowText {fields : List (List Char)} (hne : fields ≠ []) :
    (rowText fields).foldl Reader.read ⟨rows, row, [], .start⟩ =
      ⟨rows++[row++fields], [], [], .start⟩ := by
  induction fields generalizing row with
  | nil => exact absurd rfl hne
  | cons field fields ih =>
    obtain ⟨m, hm, hfield⟩ := foldl_fieldText rows row field
    cases hrest : fields with
    | nil =>
      have hcr : Reader.read ⟨rows, row, field, m⟩ '\r' =
          ⟨rows++[row++[field]], [], [], .lineEnd⟩ := read_delimiter hm (Or.inr rfl)
      have htext : rowText [field] = fieldText field++['\r', '\n'] := by simp [rowText, join]
      rw [htext, List.foldl_append, hfield, List.foldl_cons, hcr]
      rfl
    | cons next rest =>
      rw [hrest] at ih
      have hcomma : Reader.read ⟨rows, row, field, m⟩ ',' = ⟨rows, row++[field], [], .start⟩ :=
        read_delimiter hm (Or.inl rfl)
      have htext : rowText (field :: next :: rest) =
          fieldText field++ ',' :: rowText (next :: rest) := by
        rw [rowText, List.map_cons, join_cons (by simp), List.append_assoc]
        rfl
      rw [htext, List.foldl_append, hfield, List.foldl_cons, hcomma, ih (List.cons_ne_nil _ _),
        List.append_assoc, List.singleton_append]

/-- Whatever the fields contain, the rows are read back. -/
theorem readRows_writeRows {written : List (List (List Char))} (hne : ∀ r ∈ written, r ≠ []) :
    readRows (writeRows written) = written := by
  have hall : ∀ before, (writeRows written).foldl Reader.read ⟨before, [], [], .start⟩ =
      ⟨before++written, [], [], .start⟩ := by
    induction written with
    | nil => exact fun before => by rw [List.append_nil, writeRows, List.flatMap_nil, List.foldl_nil]
    | cons r rest ih =>
      intro before
      rw [writeRows, List.flatMap_cons, List.foldl_append, foldl_rowText (hne r List.mem_cons_self),
        List.nil_append]
      have hrest := ih (fun r' hr' => hne r' (List.mem_cons_of_mem r hr')) (before++[r])
      rw [writeRows] at hrest
      rw [hrest, List.append_assoc, List.singleton_append]
  exact congrArg Reader.rows (hall [])

end LegalForge.Csv
