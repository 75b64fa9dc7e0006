import LegalForge.PythonText
import LegalForge.TextScan

/-! The variables of a document template: the names that stand between double
braces in the texts of a DOCX file. -/
namespace LegalForge.Templates
open TextScan

/-- `[a-zA-Z_]` -/
def isNameStart (c : Char) : Bool :=
  ('a' ≤ c ∧ c ≤ 'z') ∨ ('A' ≤ c ∧ c ≤ 'Z') ∨ c = '_'

/-- `[a-zA-Z0-9_]` -/
def isNameChar (c : Char) : Bool :=
  isNameStart c ∨ ('0' ≤ c ∧ c ≤ '9')

/-- `[a-zA-Z_][a-zA-Z0-9_]*` -/
def IsName (name : List Char) : Prop :=
  name.all isNameChar ∧ name.head?.any isNameStart

instance (name : List Char) : Decidable (IsName name) :=
  inferInstanceAs (Decidable (_ ∧ _))

/-- `\{\{\s*([a-zA-Z_][a-zA-Z0-9_]*)\s*\}\}` tried at one place, with the name and
the length of the match. The repetitions take all they can: what follows each
of them is of another class, so giving characters back never helps. -/
def placeholder : Pattern Char (List Char) := fun _ text =>
  match text with
  | '{' :: '{' :: rest =>
    let inner := rest.dropWhile Text.isSpace
    let name := inner.takeWhile isNameChar
    match (inner.dropWhile isNameChar).dropWhile Text.isSpace with
    | '}' :: '}' :: after =>
      if name.head?.any isNameStart then some (name, text.length-after.length) else none
    | _ => none
  | _ => none

/-- A section's header and footer, each with its paragraphs. -/
structure Section where
  header : Option (List (List Char))
  footer : Option (List (List Char))

/-- What python-docx reads of a file: the texts of the paragraphs, of the cells
of each row of each table, and of the headers and footers. -/
structure DocxDocument where
  paragraphs : List (List Char)
  tables : List (List (List (List Char)))
  sections : List Section

/-- `all_text` -/
def allText (doc : DocxDocument) : List (List Char) :=
  doc.paragraphs++doc.tables.flatten.flatten++
    doc.sections.flatMap (fun s => s.header.getD []++s.footer.getD [])

/-- `"\n".join(all_text)` -/
def fullText (doc : DocxDocument) : List Char :=
  ['\n'].intercalate (allText doc)

def getTemplateVariables (doc : DocxDocument) : List (List Char) :=
  (findAll placeholder (fullText doc)).dedup.mergeSort (fun a b => a ≤ b)

/-- A placeholder for `name`: the name in double braces, with white space around
it or none. -/
def Placeholder (name span : List Char) : Prop :=
  IsName name ∧ ∃ left right, left.all Text.isSpace ∧ right.all Text.isSpace ∧
    span = '{' :: '{' :: (left++name++right++['}', '}'])

theorem isSpace_eq_false_of_isNameChar {c : Char} (h : isNameChar c = true) :
    Text.isSpace c = false := by
  have hn : (48 ≤ c.toNat ∧ c.toNat ≤ 57) ∨ (65 ≤ c.toNat ∧ c.toNat ≤ 122) := by
    simp only [isNameChar, isNameStart, Bool.decide_or, Bool.decide_and, Bool.or_eq_true,
      Bool.and_eq_true, decide_eq_true_eq, Char.le_def, UInt32.le_iff_toNat_le] at h
    rcases h with ((h | h | rfl) | h)
    · exact Or.inr ⟨le_trans (by decide) h.1, h.2⟩
    · exact Or.inr ⟨h.1, le_trans h.2 (by decide)⟩
    · decide
    · exact Or.inl h
  simp only [Text.isSpace, decide_eq_false_iff_not]
  omega

/-- The first character of a placeholder's inner text that is no white space. -/
theorem head_name_not_space {name : List Char} (rest : List Char) (h : IsName name) :
    (name++rest).head?.all (fun c => !Text.isSpace c) := by
  obtain ⟨hchars, hstart⟩ := h
  cases name with
  | nil => cases hstart
  | cons c name =>
    have hc : isNameChar c = true := List.all_eq_true.mp hchars c List.mem_cons_self
    simp [isSpace_eq_false_of_isNameChar hc]

/-- After the name comes white space or a brace, and neither continues it. -/
theorem head_right_not_nameChar {right : List Char} (after : List Char)
    (h : right.all Text.isSpace) :
    (right ++ '}' :: '}' :: after).head?.all (fun c => !isNameChar c) := by
  cases right with
  | nil => exact (by decide : (!isNameChar '}') = true)
  | cons c right =>
    have hspace : Text.isSpace c = true := List.all_eq_true.mp h c List.mem_cons_self
    have hname : isNameChar c = false := by
      by_contra hne
      rw [isSpace_eq_false_of_isNameChar (Bool.eq_true_of_not_eq_false hne)] at hspace
      cases hspace
    simp [hname]

theorem head_brace_not_space (rest : List Char) :
    ('}' :: rest).head?.all (fun c => !Text.isSpace c) :=
  (by decide : (!Text.isSpace '}') = true)

/-- The matcher finds a placeholder exactly where one stands. -/
theorem placeholder_eq_some_iff {before text name : List Char} {n : ℕ} :
    placeholder before text = some (name, n) ↔
      ∃ span after, text = span++after ∧ Placeholder name span ∧ n = span.length := by
  constructor
  · intro h
    unfold placeholder at h
    split at h
    · rename_i rest
      dsimp only at h
      split at h
      · rename_i after hafter
        split_ifs at h with hstart
        obtain ⟨rfl, rfl⟩ := Prod.mk.inj (Option.some.inj h)
        set inner := rest.dropWhile Text.isSpace with hinner
        -- the runs taken one after the other are the text up to the closing braces
        have hrest : rest = rest.takeWhile Text.isSpace++(inner.takeWhile isNameChar++
            ((inner.dropWhile isNameChar).takeWhile Text.isSpace ++ '}' :: '}' :: after)) := by
          rw [← hafter, List.takeWhile_append_dropWhile, List.takeWhile_append_dropWhile, hinner,
            List.takeWhile_append_dropWhile]
        refine ⟨'{' :: '{' :: (rest.takeWhile Text.isSpace++inner.takeWhile isNameChar++
          (inner.dropWhile isNameChar).takeWhile Text.isSpace++['}', '}']), after, ?_, ?_, ?_⟩
        · conv_lhs => rw [hrest]
          simp
        · exact ⟨⟨List.all_takeWhile, hstart⟩, _, _, List.all_takeWhile, List.all_takeWhile, rfl⟩
        · conv_lhs => rw [hrest]
          simp
          omega
      · cases h
    · cases h
  · rintro ⟨span, after, rfl, ⟨hname, left, right, hleft, hright, rfl⟩, rfl⟩
    have htext : '{' :: '{' :: (left++name++right++['}', '}'])++after =
        '{' :: '{' :: (left++(name++(right ++ '}' :: '}' :: after))) := by simp
    -- each run ends where the next class begins
    have hinner := (takeWhile_dropWhile_run hleft
      (head_name_not_space (right ++ '}' :: '}' :: after) hname)).2
    have hspan := takeWhile_dropWhile_run hname.1 (head_right_not_nameChar after hright)
    have hend := (takeWhile_dropWhile_run hright (head_brace_not_space ('}' :: after))).2
    rw [htext]
    simp only [placeholder, hinner, hspan.1, hspan.2, hend, hname.2, if_true]
    simp
    omega

/-- No opening brace stands behind the first two of a placeholder. -/
theorem Placeholder.ne_brace {name span : List Char} (h : Placeholder name span) {c : Char}
    (hc : c ∈ span.drop 2) : c ≠ '{' := by
  obtain ⟨⟨hname, -⟩, left, right, hleft, hright, rfl⟩ := h
  rintro rfl
  simp only [List.drop_succ_cons, List.drop_zero, List.mem_append] at hc
  rcases hc with ((hc | hc) | hc) | hc
  · exact absurd (List.all_eq_true.mp hleft _ hc) (by decide)
  · exact absurd (List.all_eq_true.mp hname _ hc) (by decide)
  · exact absurd (List.all_eq_true.mp hright _ hc) (by decide)
  · exact absurd hc (by decide)

theorem Placeholder.four_le_length {name span : List Char} (h : Placeholder name span) :
    4 ≤ span.length := by
  obtain ⟨-, left, right, -, -, rfl⟩ := h
  simp only [List.length_cons, List.length_append, List.length_nil]
  omega

/-- The second of two braces that would open another placeholder lies behind the
first two of this one. -/
theorem placeholder_nonOverlapping : NonOverlapping placeholder := by
  intro before text name n hmatch k hk hkn
  by_contra hne
  obtain ⟨⟨name', n'⟩, hinside⟩ := Option.ne_none_iff_exists'.mp hne
  obtain ⟨span, after, rfl, hspan, rfl⟩ := placeholder_eq_some_iff.mp hmatch
  obtain ⟨span', after', hdrop, ⟨-, left, right, -, -, rfl⟩, -⟩ := placeholder_eq_some_iff.mp hinside
  have hlong := hspan.four_le_length
  have hget : ∀ i, i < 2 → (span++after)[k+i]? = some '{' := by
    intro i hi
    rw [← List.getElem?_drop, hdrop]
    interval_cases i <;> rfl
  -- the later of the two positions that lies within the span and behind its start
  obtain ⟨j, h2j, hj, hbrace⟩ : ∃ j, 2 ≤ j ∧ j < span.length ∧ (span++after)[j]? = some '{' := by
    by_cases h2 : 2 ≤ k
    · exact ⟨k, h2, hkn, hget 0 (by decide)⟩
    · exact ⟨k+1, by omega, by omega, hget 1 (by decide)⟩
  rw [List.getElem?_append_left hj] at hbrace
  refine hspan.ne_brace (List.mem_of_getElem? (i := j-2) ?_) rfl
  rw [List.getElem?_drop, Nat.add_sub_cancel' h2j, hbrace]

theorem mem_findAll_placeholder {text name : List Char} :
    name ∈ findAll placeholder text ↔
      ∃ before span after, text = before++span++after ∧ Placeholder name span := by
  rw [mem_findAll_iff placeholder_nonOverlapping]
  constructor
  · rintro ⟨before, todo, n, rfl, -, hmatch⟩
    obtain ⟨span, after, rfl, hspan, -⟩ := placeholder_eq_some_iff.mp hmatch
    exact ⟨before, span, after, (List.append_assoc _ _ _).symm, hspan⟩
  · rintro ⟨before, span, after, rfl, hspan⟩
    refine ⟨before, span++after, span.length, List.append_assoc _ _ _, ?_,
      placeholder_eq_some_iff.mpr ⟨span, after, rfl, hspan, rfl⟩⟩
    have hlong := hspan.four_le_length
    exact List.ne_nil_of_length_pos (by rw [List.length_append]; omega)

/-- A text stands within the join of a list of texts that has it. -/
theorem infix_intercalate {sep part : List Char} {parts : List (List Char)} (h : part ∈ parts) :
    part <:+: sep.intercalate parts := by
  induction parts with
  | nil => cases h
  | cons first rest ih =>
    cases rest with
    | nil =>
      obtain rfl := List.mem_singleton.mp h
      rw [List.intercalate_singleton]
    | cons second rest =>
      rw [List.intercalate_cons_cons]
      rcases List.mem_cons.mp h with rfl | hrest
      · exact ⟨[], _, by rw [List.nil_append, List.append_assoc]⟩
      · exact (ih hrest).trans (List.suffix_append _ _).isInfix

theorem mem_getTemplateVariables {doc : DocxDocument} {name : List Char} :
    name ∈ getTemplateVariables doc ↔
      ∃ before span after, fullText doc = before++span++after ∧ Placeholder name span := by
  rw [getTemplateVariables, List.mem_mergeSort, List.mem_dedup, mem_findAll_placeholder]

/-- Whatever part of the file has a placeholder, its name is found. -/
theorem listed_of_infix {doc : DocxDocument} {part name span : List Char} (hpart : part ∈ allText doc)
    (hspan : Placeholder name span) (h : span <:+: part) : name ∈ getTemplateVariables doc := by
  have hinfix : part <:+: fullText doc := infix_intercalate hpart
  obtain ⟨before, after, hfull⟩ := h.trans hinfix
  exact mem_getTemplateVariables.mpr ⟨before, span, after, hfull.symm, hspan⟩

/-- Sorting leaves the names in strictly ascending order. -/
theorem pairwise_getTemplateVariables (doc : DocxDocument) :
    (getTemplateVariables doc).Pairwise (· < ·) := by
  have htotal : ∀ a b : List Char, (decide (a ≤ b) || decide (b ≤ a)) = true := by
    intro a b
    rw [Bool.or_eq_true, decide_eq_true_eq, decide_eq_true_eq]
    exact le_total a b
  have htrans : ∀ a b c : List Char, decide (a ≤ b) = true → decide (b ≤ c) = true →
      decide (a ≤ c) = true := by
    intro a b c hab hbc
    exact decide_eq_true (le_trans (of_decide_eq_true hab) (of_decide_eq_true hbc))
  have hsorted := List.pairwise_mergeSort htrans htotal (findAll placeholder (fullText doc)).dedup
  have hnodup : (getTemplateVariables doc).Nodup :=
    (List.mergeSort_perm _ _).nodup_iff.mpr (List.nodup_dedup _)
  exact (hsorted.and hnodup).imp fun h => lt_of_le_of_ne (of_decide_eq_true h.1) h.2

end LegalForge.Templates
