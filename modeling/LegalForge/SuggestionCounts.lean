import LegalForge.EmailFiling

/-! Suggestions and the emails they are counted from, under concurrent filing. A request keeps
what its first look-up of an address found, and writes it back increased. -/
namespace LegalForge.Emails
open Auth Transition ReadCommitted
open Access (scalarOneOrNone scalarOneOrNone_eq_ok exists_scalarOneOrNone_iff)

variable (lower : String → String)

/-- How often the address occurs in the emails filed to the matter. -/
def occurrences (emails : List FiledEmail) (addr : String) (matterId : Uuid) : ℕ :=
  ((emails.filter fun email => email.matterId = matterId).flatMap
    (FiledEmail.addresses lower)).count addr

/-- No look-up finds several rows, so none raises, and the counts are right. -/
structure SuggestionsUsable (db : MailDb) : Prop where
  single : ∀ addr matterId, (suggestionsOf db.suggestions addr matterId).length ≤ 1
  answered : ∀ addr matterId,
    ∃ row, scalarOneOrNone (suggestionsOf db.suggestions addr matterId) = .ok row
  counted : ∀ row ∈ db.suggestions,
    row.useCount = occurrences lower db.emails row.emailAddress row.matterId

/-- The counts there are for an address and a matter. -/
def countsOf (rows : List EmailMatterSuggestion) (addr : String) (matterId : Uuid) : List ℤ :=
  (suggestionsOf rows addr matterId).map EmailMatterSuggestion.useCount

/-- The counts the request has increased are still those it has found, and there is still none
for an address that it adds. -/
def StillAsFound (db : MailDb) (m : Filer) : Prop :=
  ∀ w, m = .looping w [] → ∀ e ∈ w.own,
    countsOf db.suggestions e.row.emailAddress e.row.matterId = e.loaded.toList

/-- Rows have keys, and an address that occurs has a suggestion. -/
structure MailInv (db : MailDb) : Prop where
  ids : (db.suggestions.map EmailMatterSuggestion.id).Nodup
  known : ∀ addr matterId, 0 < occurrences lower db.emails addr matterId →
    ∃ row, row ∈ suggestionsOf db.suggestions addr matterId

/-- A new row has an id that nobody else can take. An updated one is committed. -/
def Placed (rows : List EmailMatterSuggestion) (held : Set MailKey) (e : Written) : Prop :=
  match e.loaded with
  | none => e.row.id ∉ rows.map EmailMatterSuggestion.id ∧ MailKey.suggestion e.row.id ∈ held
  | some _ => ∃ row ∈ suggestionsOf rows e.row.emailAddress e.row.matterId, row.id = e.row.id

/-- One suggestion is written for each address done, and it counts them. -/
structure FilingOk (db : MailDb) (held : Set MailKey) (w : Filing) (done : List String) : Prop where
  ids : (w.own.map Written.id).Nodup
  addresses : (w.own.map fun e => e.row.emailAddress).Nodup
  covered : ∀ addr, addr ∈ done ↔ ∃ e ∈ w.own, e.row.emailAddress = addr
  matter : ∀ e ∈ w.own, e.row.matterId = w.email.matterId
  counted : ∀ e ∈ w.own, e.row.useCount = e.loaded.getD 0+done.count e.row.emailAddress
  placed : ∀ e ∈ w.own, Placed db.suggestions held e

/-- What was found for an address is either written by the session itself, or nothing is
written for the address. -/
def FoundOk (rows : List EmailMatterSuggestion) (w : Filing) (addr : String) :
    Option EmailMatterSuggestion → Prop
  | none => ∀ e ∈ w.own, e.row.emailAddress ≠ addr
  | some row =>
    match Table.find Written.id row.id w.own with
    | some e => e.row.emailAddress = addr ∧ e.row.useCount = row.useCount
    | none => (∀ e ∈ w.own, e.row.emailAddress ≠ addr) ∧ row.emailAddress = addr ∧
      row.matterId = w.email.matterId ∧ ∃ r ∈ suggestionsOf rows addr w.email.matterId, r.id = row.id

def FilerOk (db : MailDb) (held : Set MailKey) : Filer → Prop
  | .looping w rest => ∃ done, w.email.addresses lower = done++rest ∧ FilingOk db held w done
  | .found w addr row rest => ∃ done, w.email.addresses lower = done++addr :: rest ∧
      FilingOk db held w done ∧ FoundOk db.suggestions w addr row
  | .idle => True
  | .failed _ => True

/-! What a session sees. -/

section
variable {rows : List EmailMatterSuggestion} {w : Filing} {addr : String} {matterId : Uuid}

theorem mem_suggestionsOf {row : EmailMatterSuggestion} : row ∈ suggestionsOf rows addr matterId ↔
    row ∈ rows ∧ row.emailAddress = addr ∧ row.matterId = matterId := by
  simp [suggestionsOf]

theorem updated_of_find {row : EmailMatterSuggestion} {e : Written}
    (h : Table.find Written.id row.id w.own = some e) :
    w.updated row = { row with lastUsed := e.row.lastUsed, useCount := e.row.useCount } := by
  simp only [Filing.updated, h]

theorem updated_of_not_found {row : EmailMatterSuggestion}
    (h : Table.find Written.id row.id w.own = none) : w.updated row = row := by
  simp only [Filing.updated, h]

/-- An update leaves the key, the address and the matter of a row as they are. -/
theorem updated_fixed (w : Filing) (row : EmailMatterSuggestion) :
    (w.updated row).id = row.id ∧ (w.updated row).emailAddress = row.emailAddress ∧
      (w.updated row).matterId = row.matterId := by
  unfold Filing.updated
  split <;> exact ⟨rfl, rfl, rfl⟩

theorem mem_added {row : EmailMatterSuggestion} :
    row ∈ w.added ↔ ∃ e ∈ w.own, e.loaded = none ∧ e.row = row := by
  simp [Filing.added, and_assoc]

theorem mem_view {row : EmailMatterSuggestion} :
    row ∈ w.view rows ↔ (∃ r ∈ rows, w.updated r = row) ∨ ∃ e ∈ w.own, e.loaded = none ∧ e.row = row := by
  rw [Filing.view, List.mem_append, List.mem_map, mem_added]

theorem suggestionsOf_view : suggestionsOf (w.view rows) addr matterId =
    (suggestionsOf rows addr matterId).map w.updated++suggestionsOf w.added addr matterId := by
  have hfixed : (fun row : EmailMatterSuggestion =>
      decide (row.emailAddress = addr ∧ row.matterId = matterId)) ∘ w.updated =
      fun row => decide (row.emailAddress = addr ∧ row.matterId = matterId) := by
    funext row
    obtain ⟨-, haddr, hmatter⟩ := updated_fixed w row
    simp only [Function.comp_apply, haddr, hmatter]
  rw [suggestionsOf, Filing.view, List.filter_append, List.filter_map, hfixed]
  rfl

theorem ids_map_updated :
    (rows.map w.updated).map EmailMatterSuggestion.id = rows.map EmailMatterSuggestion.id := by
  rw [List.map_map]
  exact List.map_congr_left fun row _ => (updated_fixed w row).1

theorem mem_suggestionsOf_view {row : EmailMatterSuggestion}
    (h : row ∈ suggestionsOf rows addr matterId) :
    w.updated row ∈ suggestionsOf (w.view rows) addr matterId := by
  rw [suggestionsOf_view]
  exact List.mem_append_left _ (List.mem_map_of_mem h)

end

/-! One session. -/

section
variable {db : MailDb} {held : Set MailKey} {w : Filing} {done : List String}
  {addr : String} {e : Written}

theorem FilingOk.find (h : FilingOk db held w done) (he : e ∈ w.own) :
    Table.find Written.id e.row.id w.own = some e :=
  (Table.find_eq_some_iff h.ids).mpr ⟨he, rfl⟩

theorem FilingOk.same_of_id (h : FilingOk db held w done) {e' : Written} (he : e ∈ w.own)
    (he' : e' ∈ w.own) (hid : e.row.id = e'.row.id) : e = e' :=
  List.inj_on_of_nodup_map h.ids he he' hid

/-- A committed row with the id of a row that is written has its address and matter. -/
theorem FilingOk.committed (h : FilingOk db held w done)
    (hids : (db.suggestions.map EmailMatterSuggestion.id).Nodup) (he : e ∈ w.own)
    {row : EmailMatterSuggestion} (hrow : row ∈ db.suggestions) (hid : row.id = e.row.id) :
    e.loaded ≠ none ∧ row ∈ suggestionsOf db.suggestions e.row.emailAddress e.row.matterId := by
  have hplaced := h.placed e he
  unfold Placed at hplaced
  cases hloaded : e.loaded with
  | none =>
    rw [hloaded] at hplaced
    exact absurd (hid ▸ List.mem_map_of_mem hrow) hplaced.1
  | some count =>
    rw [hloaded] at hplaced
    obtain ⟨row', hrow', hid'⟩ := hplaced
    have hsame : row = row' := List.inj_on_of_nodup_map hids hrow (mem_suggestionsOf.mp hrow').1
      (hid.trans hid'.symm)
    exact ⟨Option.some_ne_none _, hsame ▸ hrow'⟩

/-- The session sees each row it has written. -/
theorem FilingOk.seen (h : FilingOk db held w done) (he : e ∈ w.own) :
    ∃ row ∈ suggestionsOf (w.view db.suggestions) e.row.emailAddress e.row.matterId,
      row.id = e.row.id ∧ row.useCount = e.row.useCount := by
  have hplaced := h.placed e he
  unfold Placed at hplaced
  cases hloaded : e.loaded with
  | none =>
    exact ⟨e.row, mem_suggestionsOf.mpr ⟨mem_view.mpr (Or.inr ⟨e, he, hloaded, rfl⟩), rfl, rfl⟩,
      rfl, rfl⟩
  | some count =>
    rw [hloaded] at hplaced
    obtain ⟨row, hrow, hid⟩ := hplaced
    have hfind : Table.find Written.id row.id w.own = some e := by
      rw [hid]
      exact h.find he
    refine ⟨w.updated row, mem_suggestionsOf_view hrow, ?_, ?_⟩
    · exact (updated_fixed w row).1.trans hid
    · rw [updated_of_find hfind]

theorem FilingOk.nil (email : FiledEmail) : FilingOk db held ⟨email, []⟩ [] where
  ids := List.nodup_nil
  addresses := List.nodup_nil
  covered addr := by simp
  matter e he := nomatch he
  counted e he := nomatch he
  placed e he := nomatch he

/-- More locks. -/
theorem FilingOk.union (h : FilingOk db held w done) (more : Set MailKey) :
    FilingOk db (held ∪ more) w done := by
  refine { h with placed := fun e he => ?_ }
  have hplaced := h.placed e he
  unfold Placed at hplaced ⊢
  cases hloaded : e.loaded with
  | none =>
    rw [hloaded] at hplaced
    exact ⟨hplaced.1, Or.inl hplaced.2⟩
  | some count =>
    rw [hloaded] at hplaced
    exact hplaced

/-- A look-up tells apart what the session has written and what it has not. -/
theorem FilingOk.foundOk (h : FilingOk db held w done)
    (hids : (db.suggestions.map EmailMatterSuggestion.id).Nodup) {found : Option EmailMatterSuggestion}
    (hfound : suggestionsOf (w.view db.suggestions) addr w.email.matterId = found.toList) :
    FoundOk db.suggestions w addr found := by
  -- what is written for the address is what is found
  have hown : ∀ e ∈ w.own, e.row.emailAddress = addr → ∃ row, found = some row ∧ row.id = e.row.id := by
    intro e he haddr
    obtain ⟨row, hrow, hid, -⟩ := h.seen he
    rw [haddr, h.matter e he, hfound] at hrow
    exact ⟨row, Option.mem_toList.mp hrow, hid⟩
  cases found with
  | none =>
    intro e he haddr
    obtain ⟨row, hrow, -⟩ := hown e he haddr
    cases hrow
  | some row =>
    have hrow : row ∈ suggestionsOf (w.view db.suggestions) addr w.email.matterId := by
      rw [hfound]
      exact List.mem_singleton_self row
    obtain ⟨hview, haddr, hmatter⟩ := mem_suggestionsOf.mp hrow
    show match Table.find Written.id row.id w.own with
      | some e => e.row.emailAddress = addr ∧ e.row.useCount = row.useCount
      | none => _
    cases hfind : Table.find Written.id row.id w.own with
    | some e =>
      have he := Table.mem_of_find hfind
      have hid : e.id = row.id := Table.key_of_find hfind
      change e.row.id = row.id at hid
      rcases mem_view.mp hview with ⟨r, hr, rfl⟩ | ⟨e', he', -, rfl⟩
      · obtain ⟨hrid, hraddr, -⟩ := updated_fixed w r
        have hcommitted := (h.committed hids he hr (hrid.symm.trans hid.symm)).2
        rw [hrid] at hfind
        rw [updated_of_find hfind]
        exact ⟨(mem_suggestionsOf.mp hcommitted).2.1.symm.trans (hraddr.symm.trans haddr), rfl⟩
      · cases h.same_of_id he he' hid
        exact ⟨haddr, rfl⟩
    | none =>
      have hnone := Table.find_eq_none_iff.mp hfind
      refine ⟨?_, haddr, hmatter, ?_⟩
      · intro e he heq
        obtain ⟨row', hrow', hid⟩ := hown e he heq
        cases hrow'
        exact hnone e he hid.symm
      · rcases mem_view.mp hview with ⟨r, hr, rfl⟩ | ⟨e', he', -, rfl⟩
        · obtain ⟨hrid, hraddr, hrmatter⟩ := updated_fixed w r
          exact ⟨r, mem_suggestionsOf.mpr ⟨hr, hraddr.symm.trans haddr, hrmatter.symm.trans hmatter⟩,
            hrid.symm⟩
        · exact absurd rfl (hnone e' he')

theorem count_concat_self (done : List String) (addr : String) :
    (done++[addr]).count addr = done.count addr+1 := by
  rw [List.count_append, List.count_singleton_self]

theorem count_concat_of_ne (done : List String) {a addr : String} (h : a ≠ addr) :
    (done++[addr]).count a = done.count a := by
  rw [List.count_append, List.count_singleton, if_neg (by simpa using Ne.symm h), Nat.add_zero]

/-- The first suggestion written for an address. -/
theorem FilingOk.append (h : FilingOk db held w done)
    (hnone : ∀ e' ∈ w.own, e'.row.emailAddress ≠ e.row.emailAddress)
    (hmatter : e.row.matterId = w.email.matterId) (hcount : e.row.useCount = e.loaded.getD 0+1)
    (hid : ∀ e' ∈ w.own, e'.id ≠ e.id) (hplaced : Placed db.suggestions held e) :
    FilingOk db held { w with own := w.own++[e] } (done++[e.row.emailAddress]) := by
  have hnew : done.count e.row.emailAddress = 0 := by
    rw [List.count_eq_zero, h.covered]
    rintro ⟨e', he', haddr⟩
    exact hnone e' he' haddr
  refine ⟨Table.nodup_append_singleton h.ids hid, Table.nodup_append_singleton h.addresses hnone,
    ?_, ?_, ?_, ?_⟩
  · intro a
    simp only [List.mem_append, List.mem_singleton, h.covered, or_and_right, exists_or,
      exists_eq_left]
    exact or_congr_right eq_comm
  · intro e' he'
    rcases List.mem_append.mp he' with he' | he'
    · exact h.matter e' he'
    · rw [List.mem_singleton.mp he']
      exact hmatter
  · intro e' he'
    rcases List.mem_append.mp he' with he' | he'
    · rw [count_concat_of_ne done (hnone e' he')]
      exact h.counted e' he'
    · rw [List.mem_singleton.mp he', count_concat_self, hnew]
      exact hcount
  · intro e' he'
    rcases List.mem_append.mp he' with he' | he'
    · exact h.placed e' he'
    · rw [List.mem_singleton.mp he']
      exact hplaced

/-- A suggestion that is counted once more. -/
theorem FilingOk.recount (h : FilingOk db held w done) (he : e ∈ w.own) {count : ℤ}
    (hcount : count = e.row.useCount+1) (now : Instant) :
    FilingOk db held { w with own := Table.alter Written.id e.row.id (Written.use count now) w.own }
      (done++[e.row.emailAddress]) := by
  have hkey : ∀ e' : Written, e'.id = e.row.id → (e'.use count now).id = e.row.id := fun _ heq => heq
  have haddresses : (Table.alter Written.id e.row.id (Written.use count now) w.own).map
      (fun e => e.row.emailAddress) = w.own.map fun e => e.row.emailAddress := by
    rw [Table.alter, List.map_map]
    refine List.map_congr_left fun e' _ => ?_
    simp only [Function.comp_apply]
    split_ifs <;> rfl
  -- a property of each row written, after the update
  have hall : ∀ p : Written → Prop,
      (∀ e' ∈ w.own, e'.row.emailAddress ≠ e.row.emailAddress → p e') → p (e.use count now) →
      ∀ e' ∈ Table.alter Written.id e.row.id (Written.use count now) w.own, p e' := by
    intro p hothers hself e' he'
    obtain ⟨e₀, he₀, rfl⟩ := Table.mem_alter.mp he'
    split_ifs with hid
    · cases h.same_of_id he₀ he hid
      exact hself
    · refine hothers e₀ he₀ fun haddr => hid ?_
      rw [List.inj_on_of_nodup_map h.addresses he₀ he haddr]
      rfl
  refine ⟨?_, ?_, ?_, ?_, ?_, ?_⟩
  · rw [Table.map_key_alter hkey]
    exact h.ids
  · rw [haddresses]
    exact h.addresses
  · intro a
    have hsame : (∃ e' ∈ Table.alter Written.id e.row.id (Written.use count now) w.own,
        e'.row.emailAddress = a) ↔ ∃ e' ∈ w.own, e'.row.emailAddress = a := by
      simpa only [List.mem_map] using Iff.of_eq (congrArg (a ∈ ·) haddresses)
    rw [hsame, ← h.covered, List.mem_append, List.mem_singleton, or_iff_left_iff_imp]
    rintro rfl
    exact (h.covered _).mpr ⟨e, he, rfl⟩
  · exact hall _ (fun e' he' _ => h.matter e' he') (h.matter e he)
  · refine hall _ (fun e' he' hne => ?_) ?_
    · rw [count_concat_of_ne done hne]
      exact h.counted e' he'
    · have hcounted := h.counted e he
      show count = e.loaded.getD 0+((done++[e.row.emailAddress]).count e.row.emailAddress : ℕ)
      rw [count_concat_self]
      push_cast
      omega
  · exact hall _ (fun e' he' _ => h.placed e' he') (h.placed e he)

theorem FilingOk.add (h : FilingOk db held w done) {row : EmailMatterSuggestion}
    (hnone : FoundOk db.suggestions w row.emailAddress none)
    (hmatter : row.matterId = w.email.matterId) (hcount : row.useCount = 1)
    (hfresh : row.id ∉ (w.view db.suggestions).map EmailMatterSuggestion.id)
    (hheld : MailKey.suggestion row.id ∈ held) :
    FilingOk db held (w.add row) (done++[row.emailAddress]) := by
  refine h.append (e := ⟨row, none⟩) hnone hmatter hcount (fun e he hid => hfresh ?_) ⟨?_, hheld⟩
  · obtain ⟨seen, hseen, hseenId, -⟩ := h.seen he
    rw [← (show e.row.id = row.id from hid), ← hseenId]
    exact List.mem_map_of_mem (mem_suggestionsOf.mp hseen).1
  · rw [Filing.view, List.map_append, ids_map_updated, List.mem_append] at hfresh
    exact fun hmem => hfresh (Or.inl hmem)

theorem FilingOk.touch (h : FilingOk db held w done) {row : EmailMatterSuggestion}
    (hfound : FoundOk db.suggestions w addr (some row)) {count : ℤ} (hcount : count = row.useCount+1)
    (now : Instant) : FilingOk db held (w.touch row count now) (done++[addr]) := by
  unfold Filing.touch
  cases hfind : Table.find Written.id row.id w.own with
  | some e =>
    simp only [FoundOk, hfind] at hfound
    obtain ⟨rfl, huse⟩ := hfound
    have hid : e.id = row.id := Table.key_of_find hfind
    rw [← hid]
    exact h.recount (Table.mem_of_find hfind) (huse ▸ hcount) now
  | none =>
    simp only [FoundOk, hfind] at hfound
    obtain ⟨hnone, rfl, hmatter, r, hr, hid⟩ := hfound
    refine h.append (e := ⟨row.use count now, some row.useCount⟩) hnone hmatter hcount (Table.find_eq_none_iff.mp hfind) ⟨r, ?_, hid⟩
    rw [← hmatter] at hr
    exact hr

/-! One commit. -/

theorem occurrences_concat (emails : List FiledEmail) (email : FiledEmail) (addr : String)
    (matterId : Uuid) : occurrences lower (emails++[email]) addr matterId =
      occurrences lower emails addr matterId+
        if email.matterId = matterId then (email.addresses lower).count addr else 0 := by
  rw [occurrences, List.filter_append, List.flatMap_append, List.count_append]
  split_ifs with h
  · rw [List.filter_cons_of_pos (by simpa using h), List.filter_nil, List.flatMap_singleton]
    rfl
  · rw [List.filter_cons_of_neg (by simpa using h), List.filter_nil]
    rfl

theorem FilingOk.nodup_view (h : FilingOk db held w done)
    (hids : (db.suggestions.map EmailMatterSuggestion.id).Nodup) :
    ((w.view db.suggestions).map EmailMatterSuggestion.id).Nodup := by
  rw [Filing.view, List.map_append, ids_map_updated]
  refine List.nodup_append.mpr ⟨hids, ?_, ?_⟩
  · rw [Filing.added, List.map_map]
    exact h.ids.sublist (List.filter_sublist.map _)
  · intro id hid id' hid' heq
    obtain ⟨row, hrow, rfl⟩ := List.mem_map.mp hid
    obtain ⟨new, hnew, rfl⟩ := List.mem_map.mp hid'
    obtain ⟨e, he, hloaded, rfl⟩ := mem_added.mp hnew
    exact (h.committed hids he hrow heq).1 hloaded

/-- An address that is not among those of the email, or another matter. -/
theorem FilingOk.countsOf_of_not_own (h : FilingOk db held w done)
    (hids : (db.suggestions.map EmailMatterSuggestion.id).Nodup) {matterId : Uuid}
    (hnone : ∀ e ∈ w.own, e.row.emailAddress = addr → e.row.matterId ≠ matterId) :
    countsOf (w.view db.suggestions) addr matterId = countsOf db.suggestions addr matterId := by
  have hadded : suggestionsOf w.added addr matterId = [] := by
    rw [List.eq_nil_iff_forall_not_mem]
    intro row hrow
    obtain ⟨hmem, haddr, hmatter⟩ := mem_suggestionsOf.mp hrow
    obtain ⟨e, he, -, rfl⟩ := mem_added.mp hmem
    exact hnone e he haddr hmatter
  rw [countsOf, suggestionsOf_view, hadded, List.append_nil, List.map_map, countsOf]
  refine List.map_congr_left fun row hrow => ?_
  obtain ⟨hmem, haddr, hmatter⟩ := mem_suggestionsOf.mp hrow
  have hfind : Table.find Written.id row.id w.own = none := by
    rw [Table.find_eq_none_iff]
    intro e he hid
    obtain ⟨-, headdr, hematter⟩ := mem_suggestionsOf.mp (h.committed hids he hmem hid.symm).2
    exact hnone e he (headdr.symm.trans haddr) (hematter.symm.trans hmatter)
  rw [Function.comp_apply, updated_of_not_found hfind]

/-- The new rows of an address. -/
theorem FilingOk.suggestionsOf_added (h : FilingOk db held w done) (he : e ∈ w.own) :
    suggestionsOf w.added e.row.emailAddress e.row.matterId =
      if e.loaded.isNone then [e.row] else [] := by
  have hkey : (w.own.filter fun e' => decide (e'.row.emailAddress = e.row.emailAddress ∧
      e'.row.matterId = e.row.matterId)) = [e] := by
    rw [← Table.filter_key_eq_singleton h.addresses he]
    refine List.filter_congr fun e' he' => ?_
    simp only [h.matter e' he', h.matter e he, and_true]
  rw [suggestionsOf, Filing.added, List.filter_map, List.filter_filter]
  have hcomm : (w.own.filter fun e' =>
      ((fun row : EmailMatterSuggestion => decide (row.emailAddress = e.row.emailAddress ∧
        row.matterId = e.row.matterId)) ∘ Written.row) e' && e'.loaded.isNone) =
      (w.own.filter fun e' => decide (e'.row.emailAddress = e.row.emailAddress ∧
        e'.row.matterId = e.row.matterId)).filter fun e' => e'.loaded.isNone := by
    rw [List.filter_filter]
    exact List.filter_congr fun e' _ => Bool.and_comm _ _
  rw [hcomm, hkey]
  cases hnone : e.loaded.isNone <;> simp [hnone]

variable {lower}

theorem usable_iff : SuggestionsUsable lower db ↔ ∀ addr matterId,
    countsOf db.suggestions addr matterId = [] ∨
      countsOf db.suggestions addr matterId = [(occurrences lower db.emails addr matterId : ℤ)] := by
  constructor
  · intro h addr matterId
    obtain ⟨found, hfound⟩ := h.answered addr matterId
    rw [scalarOneOrNone_eq_ok] at hfound
    cases found with
    | none => exact Or.inl (congrArg (List.map EmailMatterSuggestion.useCount) hfound)
    | some row =>
      right
      have hrow : row ∈ suggestionsOf db.suggestions addr matterId := by
        rw [hfound]
        exact List.mem_singleton_self row
      obtain ⟨hmem, rfl, rfl⟩ := mem_suggestionsOf.mp hrow
      rw [countsOf, hfound, ← h.counted row hmem]
      rfl
  · intro h
    have hsingle : ∀ addr matterId, (suggestionsOf db.suggestions addr matterId).length ≤ 1 := by
      intro addr matterId
      have hlength : (countsOf db.suggestions addr matterId).length ≤ 1 := by
        rcases h addr matterId with hnil | hone
        · simp [hnil]
        · simp [hone]
      rwa [countsOf, List.length_map] at hlength
    refine ⟨hsingle, fun addr matterId => ?_, fun row hrow => ?_⟩
    · exact exists_scalarOneOrNone_iff.mpr (hsingle addr matterId)
    · have hcount : row.useCount ∈ countsOf db.suggestions row.emailAddress row.matterId :=
        List.mem_map_of_mem (mem_suggestionsOf.mpr ⟨hrow, rfl, rfl⟩)
      rcases h row.emailAddress row.matterId with hnil | hone
      · rw [hnil] at hcount
        cases hcount
      · rw [hone] at hcount
        exact List.mem_singleton.mp hcount

/-- The count of an address of the email is right after the commit exactly if it is as found. -/
theorem FilingOk.counts_own_iff (h : FilingOk db held w (w.email.addresses lower))
    (hinv : MailInv lower db) (husable : SuggestionsUsable lower db) (he : e ∈ w.own) :
    (countsOf (filed db w).suggestions e.row.emailAddress e.row.matterId = [] ∨
      countsOf (filed db w).suggestions e.row.emailAddress e.row.matterId =
        [(occurrences lower (filed db w).emails e.row.emailAddress e.row.matterId : ℤ)]) ↔
      countsOf db.suggestions e.row.emailAddress e.row.matterId = e.loaded.toList := by
  have hbefore := usable_iff.mp husable e.row.emailAddress e.row.matterId
  have hview : countsOf (filed db w).suggestions e.row.emailAddress e.row.matterId =
      ((suggestionsOf db.suggestions e.row.emailAddress e.row.matterId).map w.updated).map
        EmailMatterSuggestion.useCount++if e.loaded.isNone then [e.row.useCount] else [] := by
    rw [countsOf, filed, suggestionsOf_view, h.suggestionsOf_added he, List.map_append]
    split_ifs <;> rfl
  have hoccurs : occurrences lower (filed db w).emails e.row.emailAddress e.row.matterId =
      occurrences lower db.emails e.row.emailAddress e.row.matterId+
        (w.email.addresses lower).count e.row.emailAddress := by
    rw [filed, occurrences_concat, if_pos (h.matter e he).symm]
  have hcounted := h.counted e he
  have hplaced := h.placed e he
  have hknown := hinv.known e.row.emailAddress e.row.matterId
  rw [hview, hoccurs]
  rw [countsOf] at hbefore ⊢
  unfold Placed at hplaced
  generalize suggestionsOf db.suggestions e.row.emailAddress e.row.matterId = rows
    at hbefore hknown hplaced
  cases hloaded : e.loaded with
  | none =>
    rw [hloaded] at hcounted
    cases rows with
    | nil =>
      -- no suggestion, so the address has not occurred before
      have hzero : occurrences lower db.emails e.row.emailAddress e.row.matterId = 0 := by
        by_contra hne
        obtain ⟨row, hrow⟩ := hknown (Nat.pos_of_ne_zero hne)
        cases hrow
      refine iff_of_true (Or.inr ?_) rfl
      simp [hcounted, hzero]
    | cons row rows => exact iff_of_false (by simp) (by simp)
  | some count =>
    rw [hloaded] at hcounted hplaced
    obtain ⟨row, hrow, hid⟩ := hplaced
    rcases hbefore with hnil | hone
    · rw [List.map_eq_nil_iff.mp hnil] at hrow
      cases hrow
    · obtain ⟨row', rfl, huse⟩ := List.map_eq_singleton_iff.mp hone
      cases List.mem_singleton.mp hrow
      have hfind : Table.find Written.id row.id w.own = some e := by
        rw [hid]
        exact h.find he
      simp only [List.map_cons, List.map_nil, updated_of_find hfind, hcounted, Option.isNone_some,
        Bool.false_eq_true, if_false, List.append_nil, reduceCtorEq, false_or, List.cons.injEq,
        and_true, Option.toList_some, Option.getD_some, huse]
      push_cast
      constructor <;> intro heq <;> omega

/-- After the commit all suggestions are usable exactly if those written were as found. -/
theorem FilingOk.usable_filed_iff (h : FilingOk db held w (w.email.addresses lower))
    (hinv : MailInv lower db) (husable : SuggestionsUsable lower db) :
    SuggestionsUsable lower (filed db w) ↔ ∀ e ∈ w.own,
      countsOf db.suggestions e.row.emailAddress e.row.matterId = e.loaded.toList := by
  rw [usable_iff]
  constructor
  · intro hafter e he
    exact (h.counts_own_iff hinv husable he).mp (hafter _ _)
  · intro hfound addr matterId
    by_cases hown : ∃ e ∈ w.own, e.row.emailAddress = addr ∧ e.row.matterId = matterId
    · obtain ⟨e, he, rfl, rfl⟩ := hown
      exact (h.counts_own_iff hinv husable he).mpr (hfound e he)
    · have hnone : ∀ e ∈ w.own, e.row.emailAddress = addr → e.row.matterId ≠ matterId :=
        fun e he haddr hmatter => hown ⟨e, he, haddr, hmatter⟩
      have hsame : occurrences lower (filed db w).emails addr matterId =
          occurrences lower db.emails addr matterId := by
        rw [filed, occurrences_concat, Nat.add_eq_left, ite_eq_right_iff]
        intro hmatter
        rw [List.count_eq_zero, h.covered]
        rintro ⟨e, he, haddr⟩
        exact hnone e he haddr ((h.matter e he).trans hmatter)
      rw [hsame, filed, h.countsOf_of_not_own hinv.ids hnone]
      exact usable_iff.mp husable addr matterId

theorem MailInv.filed (hinv : MailInv lower db) (h : FilingOk db held w (w.email.addresses lower)) :
    MailInv lower (filed db w) where
  ids := h.nodup_view hinv.ids
  known addr matterId hpos := by
    rw [Emails.filed, occurrences_concat] at hpos
    by_cases hbefore : 0 < occurrences lower db.emails addr matterId
    · obtain ⟨row, hrow⟩ := hinv.known addr matterId hbefore
      exact ⟨_, mem_suggestionsOf_view hrow⟩
    · split_ifs at hpos with hmatter
      · have hcount : 0 < (w.email.addresses lower).count addr := by omega
        obtain ⟨e, he, rfl⟩ := (h.covered addr).mp (List.count_pos_iff.mp hcount)
        obtain ⟨row, hrow, -⟩ := h.seen he
        rw [h.matter e he, hmatter] at hrow
        exact ⟨row, hrow⟩
      · exact absurd hpos hbefore

/-- The commit of another session, which holds other locks. -/
theorem FilingOk.filed {w' : Filing} {held' : Set MailKey} {done' : List String}
    (h : FilingOk db held w done) (h' : FilingOk db held' w' done') (hdisjoint : Disjoint held' held) :
    FilingOk (filed db w') held w done := by
  refine { h with placed := fun e he => ?_ }
  have hplaced := h.placed e he
  unfold Placed at hplaced ⊢
  cases hloaded : e.loaded with
  | some count =>
    rw [hloaded] at hplaced
    obtain ⟨row, hrow, hid⟩ := hplaced
    exact ⟨_, mem_suggestionsOf_view hrow, (updated_fixed w' row).1.trans hid⟩
  | none =>
    rw [hloaded] at hplaced
    refine ⟨?_, hplaced.2⟩
    rw [Emails.filed, Filing.view, List.map_append, ids_map_updated, List.mem_append, not_or]
    refine ⟨hplaced.1, fun hmem => ?_⟩
    obtain ⟨row, hrow, hid⟩ := List.mem_map.mp hmem
    obtain ⟨e', he', hloaded', rfl⟩ := mem_added.mp hrow
    have hplaced' := h'.placed e' he'
    unfold Placed at hplaced'
    rw [hloaded'] at hplaced'
    -- both would hold the lock of the id
    exact Set.disjoint_left.mp hdisjoint hplaced'.2 (hid ▸ hplaced.2)

theorem FoundOk.filed {w' : Filing} {found : Option EmailMatterSuggestion}
    (h : FoundOk db.suggestions w addr found) : FoundOk (filed db w').suggestions w addr found := by
  cases found with
  | none => exact h
  | some row =>
    unfold FoundOk at h ⊢
    dsimp only at h ⊢
    split at h
    · exact h
    · obtain ⟨hnone, haddr, hmatter, r, hr, hid⟩ := h
      exact ⟨hnone, haddr, hmatter, _, mem_suggestionsOf_view hr, (updated_fixed w' r).1.trans hid⟩

end

/-! Runs. -/

variable {lower}

theorem publish_eq_some {db db' : MailDb} {m m' : Filer}
    (h : (fileProgram lower).publish db m = some (db', m')) :
    ∃ w, m = .looping w [] ∧ db' = filed db w ∧ m' = .idle := by
  cases m with
  | looping w rest =>
    cases rest with
    | nil =>
      cases h
      exact ⟨w, rfl, rfl, rfl⟩
    | cons addr rest => cases h
  | _ => cases h

/-- The request that commits has done all addresses of its email. -/
theorem FilerOk.finished {db : MailDb} {held : Set MailKey} {w : Filing}
    (h : FilerOk lower db held (.looping w [])) : FilingOk db held w (w.email.addresses lower) := by
  obtain ⟨done, haddresses, hok⟩ := h
  rw [haddresses, List.append_nil]
  exact hok

section
variable {db : MailDb} {held : Set MailKey} {m' : Filer} {w : Filing} {addr : String} {rest : List String}

theorem filerOk_fileEmail {emailId filedBy : Uuid} {data : FileEmailCreate}
    (hstmt : (fileProgram lower).stmt db .idle (.fileEmail emailId filedBy data) = some m') :
    FilerOk lower db held m' := by
  simp only [fileProgram] at hstmt
  cases hemail : newEmail emailId filedBy data with
  | none =>
    rw [hemail] at hstmt
    cases hstmt
    trivial
  | some email =>
    rw [hemail] at hstmt
    dsimp only at hstmt
    split_ifs at hstmt
    · cases hstmt
      exact ⟨[], rfl, FilingOk.nil email⟩
    · cases hstmt
      trivial

theorem filerOk_lookUp (hinv : MailInv lower db) (h : FilerOk lower db held (.looping w (addr :: rest)))
    (hstmt : (fileProgram lower).stmt db (.looping w (addr :: rest)) .lookUp = some m')
    (locks : Set MailKey) : FilerOk lower db (held ∪ locks) m' := by
  obtain ⟨done, haddresses, hok⟩ := h
  simp only [fileProgram] at hstmt
  split at hstmt
  · cases hstmt
    trivial
  · rename_i text htext
    rw [Deadlines.textColumn_eq_some htext] at hstmt
    split at hstmt
    · cases hstmt
      trivial
    · rename_i found hfound
      cases hstmt
      exact ⟨done, haddresses, hok.union _,
        hok.foundOk hinv.ids (scalarOneOrNone_eq_ok.mp hfound)⟩

/-- The insertion holds the lock of its id. -/
theorem filerOk_insert {newId : Uuid} {now : Instant} {locks : Set MailKey}
    (h : FilerOk lower db held (.found w addr none rest))
    (hstmt : (fileProgram lower).stmt db (.found w addr none rest) (.flush newId now) = some m')
    (hlock : .suggestion newId ∈ locks) : FilerOk lower db (held ∪ locks) m' := by
  obtain ⟨done, haddresses, hok, hfound⟩ := h
  simp only [fileProgram] at hstmt
  split_ifs at hstmt with hfits
  · cases hstmt
    refine ⟨done++[addr], by rw [List.append_assoc]; exact haddresses, ?_⟩
    exact (hok.union _).add hfound rfl rfl hfits.2 (Or.inr hlock)
  · cases hstmt
    trivial

theorem email_touch (w : Filing) (row : EmailMatterSuggestion) (count : ℤ) (now : Instant) :
    (w.touch row count now).email = w.email := by
  unfold Filing.touch
  split
  · rfl
  · rfl

theorem filerOk_count {row : EmailMatterSuggestion} {newId : Uuid} {now : Instant}
    (h : FilerOk lower db held (.found w addr (some row) rest))
    (hstmt : (fileProgram lower).stmt db (.found w addr (some row) rest) (.flush newId now) = some m')
    (locks : Set MailKey) : FilerOk lower db (held ∪ locks) m' := by
  obtain ⟨done, haddresses, hok, hfound⟩ := h
  simp only [fileProgram] at hstmt
  split at hstmt
  · cases hstmt
    trivial
  · rename_i count hcount
    cases hstmt
    refine ⟨done++[addr], ?_, (hok.union _).touch hfound (Deadlines.intColumn_eq_some hcount) now⟩
    rw [email_touch, List.append_assoc]
    exact haddresses

end

/-- One case for each statement that a request has where it is. -/
theorem filerOk_stmt {db : MailDb} {held : Set MailKey} {m m' : Filer} {a : MailStatement}
    (hinv : MailInv lower db) (h : FilerOk lower db held m)
    (hstmt : (fileProgram lower).stmt db m a = some m') :
    FilerOk lower db (held ∪ {r | r ∈ (fileProgram lower).locks db m a}) m' := by
  cases m with
  | idle =>
    cases a with
    | fileEmail emailId filedBy data => exact filerOk_fileEmail hstmt
    | _ => cases hstmt
  | looping w rest =>
    cases a with
    | lookUp =>
      cases rest with
      | nil => cases hstmt
      | cons addr rest => exact filerOk_lookUp hinv h hstmt _
    | _ => cases rest <;> cases hstmt
  | found w addr row rest =>
    cases a with
    | flush newId now =>
      cases row with
      | none => exact filerOk_insert h hstmt (List.mem_singleton_self _)
      | some row => exact filerOk_count h hstmt _
    | _ => cases row <;> cases hstmt
  | failed error => cases a <;> cases hstmt

theorem file_outline (lower : String → String) :
    Outline (fileProgram lower) (MailInv lower) (FilerOk lower) where
  stmt := filerOk_stmt
  commit := by
    intro db held m db' m' hinv h hpub
    obtain ⟨w, rfl, rfl, rfl⟩ := publish_eq_some hpub
    exact ⟨hinv.filed h.finished, trivial⟩
  abort _ _ := trivial
  stable := by
    intro db held m db' m' held' n hinv h hpub hdisjoint hn
    obtain ⟨w, rfl, rfl, -⟩ := publish_eq_some hpub
    cases n with
    | looping w' rest =>
      obtain ⟨done, haddresses, hok⟩ := hn
      exact ⟨done, haddresses, hok.filed h.finished hdisjoint⟩
    | found w' addr row rest =>
      obtain ⟨done, haddresses, hok, hfound⟩ := hn
      exact ⟨done, haddresses, hok.filed h.finished hdisjoint, hfound.filed⟩
    | idle => trivial
    | failed error => trivial

section
variable {Tx : Type*} [DecidableEq Tx]

abbrev FilingState (Tx : Type*) := State MailDb Filer MailKey Tx
abbrev FilingLabel (Tx : Type*) := Label MailStatement Tx

theorem usable_commit_iff {s s' : FilingState Tx} {t : Tx}
    (h : Holds (MailInv lower) (FilerOk lower) s) (husable : SuggestionsUsable lower s.committed)
    (hstep : step (fileProgram lower) s (.commit t) = some s') :
    SuggestionsUsable lower s'.committed ↔ StillAsFound s.committed (s.session t) := by
  obtain ⟨db, m, hpub, rfl⟩ := step_commit_eq_some.mp hstep
  obtain ⟨w, hsession, rfl, rfl⟩ := publish_eq_some hpub
  have hok := h.2 t
  rw [hsession] at hok
  rw [hok.finished.usable_filed_iff h.1 husable]
  constructor
  · intro hfound w' hw'
    rw [hsession] at hw'
    cases hw'
    exact hfound
  · intro hfound
    exact hfound w hsession

/-- No email is filed yet. -/
def noMail (matters : List Uuid) : MailDb := ⟨matters, [], []⟩

/-- In every interleaving of filings the suggestions are usable in every committed state exactly
if each request that commits has increased the counts that are there, and added what is not. -/
theorem usable_throughout_iff (lower : String → String) (matters : List Uuid)
    (ls : List (FilingLabel Tx)) :
    Throughout (step (fileProgram lower)) (fun s => SuggestionsUsable lower s.committed)
        (start (noMail matters) .idle) ls ↔
      Along (step (fileProgram lower)) (fun s l _ => AtCommit StillAsFound s l)
        (start (noMail matters) .idle) ls := by
  have hstart : SuggestionsUsable lower (noMail matters) :=
    usable_iff.mpr fun addr matterId => Or.inl rfl
  have hinv : MailInv lower (noMail matters) :=
    ⟨List.nodup_nil, fun addr matterId hpos => absurd hpos (lt_irrefl 0)⟩
  have hholds : Holds (MailInv lower) (FilerOk lower)
      (start (noMail matters) .idle : FilingState Tx) := holds_start hinv trivial
  rw [throughout_atCommit_iff (I := Holds (MailInv lower) (FilerOk lower))
    (fun s l s' h _ hstep _ => (file_outline lower).holds_step h hstep) ?_
    (fun s t s' h husable hstep => usable_commit_iff h husable hstep) hholds ls]
  · exact and_iff_right hstart
  · intro s l s' _ husable hstep hl
    rw [step_committed_eq hstep hl]
    exact husable

end

/-- `str.lower` of ASCII letters -/
def lowerAscii (text : String) : String :=
  String.ofList (text.toList.map Char.toLower)

def annsMail : FileEmailCreate where
  matterId := 1
  toAddresses := some ["Ann@x.org"]

def filingOf (t : Bool) : List (FilingLabel Bool) :=
  [.stmt t (.fileEmail (if t then 5 else 6) 2 annsMail), .stmt t .lookUp,
    .stmt t (.flush (if t then 7 else 8) 9)]

/-- The second request looks the address up before the first one commits. -/
def overlapping : List (FilingLabel Bool) :=
  filingOf true++filingOf false++[.commit true, .commit false]

/-- The address has two suggestions, and looking it up raises. -/
theorem overlapping_duplicates : ¬Throughout (step (fileProgram lowerAscii))
    (fun s => SuggestionsUsable lowerAscii s.committed) (start (noMail [1]) .idle) overlapping := by
  intro h
  have hlast := throughout_iff_prefix.mp h overlapping [] _ (List.append_nil _).symm rfl
  have htwo := hlast.single "ann@x.org" 1
  revert htwo
  decide +kernel

end LegalForge.Emails
