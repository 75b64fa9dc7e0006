import LegalForge.StaffReads

/-! The pages of a list: which requests are answered, and what the pages show together. The billing
routes take any page and page size; the list of users checks them first. -/
namespace LegalForge.TimeEntryPages
open Access Paging
open StaffReads (FirmDb StoredTimeEntry TimeEntryFilters latestEntry matchesTimeEntry respondPage
  selectPage BadPage)

section
variable {α : Type} {order : α → α → Bool}

/-- Count the rows and read those of `.offset(offset).limit(limit)`. The database refuses a negative
number, the driver one above the largest that it sends. -/
def queryPage (largest : ℕ) (sorting : Sorting order) (offset limit : ℤ) (rows : List α) :
    Except HttpError (List α × ℕ) :=
  if offset < 0 ∨ limit < 0 ∨ largest < offset ∨ largest < limit then .error .internal
  else .ok (((sorting.arrange rows).drop offset.toNat).take limit.toNat, rows.length)

def offset (page pageSize : ℤ) : ℤ := (page-1)*pageSize

/-- A list endpoint that checks neither number. -/
def listRows (largest : ℕ) (sorting : Sorting order) (rows : List α) (page pageSize : ℤ) :
    Except HttpError (PaginatedResponse α) :=
  respondPage .ok page pageSize (queryPage largest sorting (offset page pageSize) pageSize rows)

/-- `list_users`, for rows of which the response shows every column -/
def listUsers (largest : ℕ) (sorting : Sorting order) (users : List α) (page : ℤ := 1)
    (pageSize : ℤ := 25) : Except HttpError (PaginatedResponse α) :=
  match paginationParams page pageSize with
  | .error error => .error error
  | .ok pagination =>
    respondPage .ok pagination.page pagination.pageSize
      (queryPage largest sorting pagination.offset pagination.pageSize users)

/-- The request for a page computes an offset that is not negative, and the number of pages. -/
def Served (request : ℤ → Except HttpError (PaginatedResponse α)) (page pageSize : ℤ) : Prop :=
  0 ≤ offset page pageSize ∧ ∃ response, request page = .ok response

/-- Ask for the first page, then for each that it announces. -/
def allPages (request : ℤ → Except HttpError (PaginatedResponse α)) :
    Except HttpError (List (PaginatedResponse α)) := do
  let first ← request 1
  (List.range first.totalPages.toNat).mapM (fun i : ℕ => request (i+1))

/-- Each page has a row, no two share one, and together they hold every row once. -/
structure Exhaustive (rows : List α) (pages : List (PaginatedResponse α)) : Prop where
  announced : ∀ p ∈ pages, p.totalPages = pages.length
  nonempty : ∀ p ∈ pages, p.items ≠ []
  disjoint : pages.Pairwise (fun p p' => p.items.Disjoint p'.items)
  perm : (pages.flatMap PaginatedResponse.items).Perm rows

/-- All pages are answered, and they show the rows. -/
def PagesShowAll (request : ℤ → Except HttpError (PaginatedResponse α)) (rows : List α) : Prop :=
  ∃ pages, allPages request = .ok pages ∧ Exhaustive rows pages

/-- The request for the page is served, and the pages of a totally ordered table show its rows. -/
def Paginates (order : α → α → Bool) (request : ℤ → Except HttpError (PaginatedResponse α))
    (rows : List α) (page pageSize : ℤ) : Prop :=
  Served request page pageSize ∧
    (1 ≤ pageSize → TotallyOrdered order rows → PagesShowAll request rows)

/-- The page and its size are at least one, and the driver sends the size and the offset; or a page
of no rows is asked of none. Where the table is totally ordered, the driver sends the offset of each
of its pages. -/
def Pageable (order : α → α → Bool) (largest : ℕ) (rows : List α) (page pageSize : ℤ) : Prop :=
  (pageSize = 0 ∧ rows = [] ∨
      1 ≤ page ∧ 1 ≤ pageSize ∧ pageSize ≤ largest ∧ (page-1)*pageSize ≤ largest) ∧
    (1 ≤ pageSize → TotallyOrdered order rows →
      ∀ i : ℕ, i*pageSize < rows.length → i*pageSize ≤ largest)

end

/-- The time entries that the filters leave. -/
def found (db : FirmDb) (q : TimeEntryFilters) : List StoredTimeEntry :=
  db.timeEntries.filter (matchesTimeEntry q)

/-- `get_time_entries` -/
def getTimeEntries (largest : ℕ) (sorting : Sorting latestEntry) (db : FirmDb) (page : ℤ := 1)
    (pageSize : ℤ := 25) (q : TimeEntryFilters := {}) : Except HttpError (List StoredTimeEntry × ℕ) :=
  queryPage largest sorting (offset page pageSize) pageSize (found db q)

/-- `list_time_entries` -/
def listTimeEntries (largest : ℕ) (sorting : Sorting latestEntry) (db : FirmDb) (page : ℤ := 1)
    (pageSize : ℤ := 25) (q : TimeEntryFilters := {}) :
    Except HttpError (PaginatedResponse StoredTimeEntry) :=
  respondPage .ok page pageSize (getTimeEntries largest sorting db page pageSize q)

section
variable {α : Type} {order : α → α → Bool} {largest : ℕ} {sorting : Sorting order} {rows : List α}
  {page pageSize : ℤ}

/-- The database takes both numbers and the driver sends them. -/
def Sent (largest : ℕ) (page pageSize : ℤ) : Prop :=
  (0 ≤ offset page pageSize ∧ 0 ≤ pageSize) ∧ offset page pageSize ≤ largest ∧ pageSize ≤ largest

theorem respondPage_ok (shown : List α) (total : ℕ) :
    respondPage .ok page pageSize (.ok (shown, total)) = paginated shown total page pageSize := by
  have hitems : shown.mapM (.ok : α → Except HttpError α) = .ok (shown.map id) := mapM_ok id shown
  dsimp only [respondPage]
  rw [hitems, List.map_id]

theorem listRows_of_sent (h : Sent largest page pageSize) :
    listRows largest sorting rows page pageSize =
      paginated (((sorting.arrange rows).drop (offset page pageSize).toNat).take pageSize.toNat)
        rows.length page pageSize := by
  obtain ⟨hnonneg, hlargest⟩ := h
  rw [listRows, queryPage, if_neg (by omega), respondPage_ok]

theorem listRows_of_not_sent (h : ¬Sent largest page pageSize) :
    listRows largest sorting rows page pageSize = .error .internal := by
  have hrefused : offset page pageSize < 0 ∨ pageSize < 0 ∨ largest < offset page pageSize ∨
      largest < pageSize := by
    unfold Sent at h
    omega
  rw [listRows, queryPage, if_pos hrefused, respondPage]

theorem exists_paginated_iff {total : ℕ} :
    (∃ response, paginated rows total page pageSize = .ok response) ↔ (pageSize = 0 → total = 0) := by
  unfold paginated
  split_ifs with htotal hsize
  · exact iff_of_true ⟨_, rfl⟩ fun _ => htotal
  · exact iff_of_false (by rintro ⟨_, ⟨⟩⟩) fun h => htotal (h hsize)
  · exact iff_of_true ⟨_, rfl⟩ fun h => absurd h hsize

/-- The numbers are sent, and the total is not divided by zero. -/
theorem listRows_answered_iff :
    (∃ response, listRows largest sorting rows page pageSize = .ok response) ↔
      Sent largest page pageSize ∧ (pageSize = 0 → rows = []) := by
  by_cases h : Sent largest page pageSize
  · rw [listRows_of_sent h, exists_paginated_iff, List.length_eq_zero_iff]
    exact (and_iff_right h).symm
  · rw [listRows_of_not_sent h]
    exact iff_of_false (by rintro ⟨_, ⟨⟩⟩) fun hall => h hall.1

theorem offset_nonneg_iff (hsize : 0 < pageSize) : 0 ≤ offset page pageSize ↔ 1 ≤ page := by
  unfold offset
  rw [mul_nonneg_iff_of_pos_right hsize]
  omega

theorem offset_zero (page : ℤ) : offset page 0 = 0 := Int.mul_zero _

theorem offset_succ (i size : ℕ) : offset (i+1) size = ((i*size:ℕ):ℤ) := by
  unfold offset
  push_cast
  ring

/-- The requests that are answered. A page of no rows is, as long as there are none. -/
theorem listRows_served_iff {sorting : ℤ → Sorting order} :
    Served (fun page => listRows largest (sorting page) rows page pageSize) page pageSize ↔
      pageSize = 0 ∧ rows = [] ∨
        1 ≤ page ∧ 1 ≤ pageSize ∧ pageSize ≤ largest ∧ offset page pageSize ≤ largest := by
  rw [Served, listRows_answered_iff, Sent]
  rcases lt_trichotomy pageSize 0 with hneg | rfl | hpos
  · omega
  · rw [offset_zero]
    simp
  · rw [offset_nonneg_iff hpos]
    constructor
    · rintro ⟨hpage, ⟨-, hoffset, hsize⟩, -⟩
      exact Or.inr ⟨hpage, hpos, hsize, hoffset⟩
    · rintro (⟨rfl, -⟩ | ⟨hpage, -, hsize, hoffset⟩)
      · exact absurd hpos (lt_irrefl 0)
      · exact ⟨hpage, ⟨⟨hpage, hpos.le⟩, hoffset, hsize⟩, fun hzero => absurd hzero hpos.ne'⟩

theorem sent_succ {size i : ℕ} : Sent largest (i+1) size ↔ i*size ≤ largest ∧ size ≤ largest := by
  rw [Sent, offset_succ]
  omega

/-- The page that shows the `i`-th stretch of the sorted rows. -/
def stretch (sorted : List α) (size i : ℕ) : PaginatedResponse α where
  items := Paging.page size sorted i
  total := sorted.length
  page := i+1
  pageSize := size
  totalPages := pageCount sorted.length size

theorem listRows_eq_stretch {size i : ℕ} (hsize : 0 < size) (hsent : size ≤ largest)
    (hoffset : i*size ≤ largest) : listRows largest sorting rows (i+1) size =
      .ok (stretch (sorting.arrange rows) size i) := by
  rw [listRows_of_sent (sent_succ.mpr ⟨hoffset, hsent⟩), paginated_eq _ _ _ hsize, offset_succ,
    Int.toNat_natCast, Int.toNat_natCast, stretch, Sorting.length_arrange, Paging.page]

/-- The stretches are what the pages should be. -/
theorem exhaustive_stretches {sorted : List α} {size : ℕ} (hperm : sorted.Perm rows)
    (hrows : rows.Nodup) (hsize : 0 < size) :
    Exhaustive rows ((List.range (pageCount sorted.length size)).map (stretch sorted size)) where
  announced := by
    intro p hp
    obtain ⟨i, -, rfl⟩ := List.mem_map.mp hp
    rw [List.length_map, List.length_range]
    rfl
  nonempty := by
    intro p hp
    obtain ⟨i, hi, rfl⟩ := List.mem_map.mp hp
    exact (page_ne_nil_iff hsize).mpr ((lt_pages_iff hsize).mp (List.mem_range.mp hi))
  disjoint := by
    rw [List.pairwise_map]
    exact List.pairwise_lt_range.imp fun hij => page_disjoint (hperm.nodup_iff.mpr hrows) hij
  perm := by
    rw [List.flatMap_map]
    exact (List.Perm.of_eq (flatMap_page_eq (length_le_pageCount hsize))).trans hperm

end

section
variable {α : Type} {order : α → α → Bool} {largest : ℕ} {sorting : ℤ → Sorting order}
  {rows : List α} {size : ℕ}

/-- All pages are answered if the driver sends the offset of each. However the queries break ties,
there are none. -/
theorem pagesShowAll_of_sent (hrefl : ∀ x, order x x = true) (hrows : TotallyOrdered order rows)
    (hsize : 0 < size) (hsent : size ≤ largest)
    (hoffsets : ∀ i, i*size < rows.length → i*size ≤ largest) :
    PagesShowAll (fun page => listRows largest (sorting page) rows page size) rows := by
  let sorted := (sorting 1).arrange rows
  have hpage : ∀ i : ℕ, i*size ≤ largest →
      listRows largest (sorting (i+1)) rows (i+1) size = .ok (stretch sorted size i) := by
    intro i hoffset
    rw [listRows_eq_stretch hsize hsent hoffset, (sorting (i+1)).arrange_eq (sorting 1) hrows]
  refine ⟨(List.range (pageCount sorted.length size)).map (stretch sorted size), ?_,
    exhaustive_stretches ((sorting 1).perm rows) (hrows.nodup hrefl) hsize⟩
  refine bind_eq_ok_iff.mpr ⟨_, hpage 0 (by omega), mapM_eq_map fun i hi => hpage i (hoffsets i ?_)⟩
  rw [← (sorting 1).length_arrange rows]
  exact (lt_pages_iff hsize).mp (List.mem_range.mp hi)

/-- The first page announces every page, and each of them is answered. -/
theorem PagesShowAll.sent
    (h : PagesShowAll (fun page => listRows largest (sorting page) rows page size) rows)
    (hsize : 0 < size) : ∀ i, i*size < rows.length → i*size ≤ largest := by
  intro i hi
  obtain ⟨pages, hpages, -⟩ := h
  obtain ⟨first, hfirst, hrest⟩ := bind_eq_ok_iff.mp hpages
  obtain ⟨⟨-, -, hsent⟩, -⟩ := listRows_answered_iff.mp ⟨first, hfirst⟩
  obtain rfl := Except.ok.inj (hfirst.symm.trans
    (listRows_eq_stretch (i := 0) hsize (Int.ofNat_le.mp hsent) (by omega)))
  have hmem : i ∈ List.range (pageCount ((sorting 1).arrange rows).length size) := by
    rw [Sorting.length_arrange]
    exact List.mem_range.mpr ((lt_pages_iff hsize).mpr hi)
  obtain ⟨hpage, -⟩ := listRows_answered_iff.mp (exists_mapM_iff.mp ⟨pages, hrest⟩ i hmem)
  exact (sent_succ.mp hpage).1

theorem listRows_paginates_iff (hrefl : ∀ x, order x x = true) (page pageSize : ℤ) :
    Paginates order (fun page => listRows largest (sorting page) rows page pageSize) rows page
        pageSize ↔ Pageable order largest rows page pageSize := by
  rw [Paginates, Pageable, listRows_served_iff]
  refine and_congr_right fun hserved => forall₂_congr fun hsize hrows => ?_
  have hsent : pageSize ≤ largest := by omega
  obtain ⟨size, rfl⟩ := Int.eq_ofNat_of_zero_le (show 0 ≤ pageSize by omega)
  constructor
  · intro h i hi
    have hoffset := h.sent (by omega) i (by exact_mod_cast hi)
    exact_mod_cast hoffset
  · intro h
    refine pagesShowAll_of_sent hrefl hrows (by omega) (by omega) fun i hi => ?_
    exact_mod_cast h i (by exact_mod_cast hi)

/-- The list of users answers what it has checked, as far as the driver sends the offset. -/
theorem listUsers_served_iff {page pageSize : ℤ} :
    Served (fun page => listUsers largest (sorting page) rows page pageSize) page pageSize ↔
      (1 ≤ page ∧ 1 ≤ pageSize ∧ pageSize ≤ 100) ∧
        pageSize ≤ largest ∧ offset page pageSize ≤ largest := by
  by_cases hchecked : 1 ≤ page ∧ 1 ≤ pageSize ∧ pageSize ≤ 100
  · have hsame : listUsers largest (sorting page) rows page pageSize =
        listRows largest (sorting page) rows page pageSize := by
      rw [listUsers, paginationParams, dif_pos hchecked]
      rfl
    have hserved : Served (fun page => listUsers largest (sorting page) rows page pageSize) page
        pageSize ↔
          Served (fun page => listRows largest (sorting page) rows page pageSize) page pageSize := by
      simp only [Served, hsame]
    rw [hserved, listRows_served_iff]
    omega
  · have hrefused : listUsers largest (sorting page) rows page pageSize = .error .internal := by
      rw [listUsers, paginationParams, dif_neg hchecked]
    simp only [Served, hrefused]
    exact iff_of_false (by rintro ⟨-, _, ⟨⟩⟩) fun h => hchecked h.1

end

theorem latestEntry_iff {e e' : StoredTimeEntry} : latestEntry e e' = true ↔
    e'.date < e.date ∨ e'.date = e.date ∧ e'.createdAt ≤ e.createdAt :=
  decide_eq_true_iff

theorem latestEntry_refl (e : StoredTimeEntry) : latestEntry e e = true :=
  latestEntry_iff.mpr (Or.inr ⟨rfl, le_refl _⟩)

theorem latestEntry_trans (e e' e'' : StoredTimeEntry) (h : latestEntry e e' = true)
    (h' : latestEntry e' e'' = true) : latestEntry e e'' = true := by
  rw [latestEntry_iff] at h h' ⊢
  rcases h with hday | ⟨hday, hcreated⟩ <;> rcases h' with hday' | ⟨hday', hcreated'⟩
  · exact Or.inl (lt_trans hday' hday)
  · exact Or.inl (hday' ▸ hday)
  · exact Or.inl (hday ▸ hday')
  · exact Or.inr ⟨hday'.trans hday, le_trans hcreated' hcreated⟩

theorem latestEntry_total (e e' : StoredTimeEntry) : (latestEntry e e' || latestEntry e' e) = true := by
  rw [Bool.or_eq_true, latestEntry_iff, latestEntry_iff]
  rcases lt_trichotomy e.date e'.date with hday | hday | hday
  · exact Or.inr (Or.inl hday)
  · exact (le_total e'.createdAt e.createdAt).imp (fun h => Or.inr ⟨hday.symm, h⟩)
      fun h => Or.inr ⟨hday, h⟩
  · exact Or.inl (Or.inl hday)

/-- The newest entries first, those of one moment in the order of the table. -/
def newestFirst : Sorting latestEntry := Sorting.merge latestEntry_trans latestEntry_total

/-- Where the driver sends the numbers, this is what the staff reads. -/
theorem listTimeEntries_eq_read (like : String → String → Bool) (presigned : String → String)
    (user : Auth.User) {largest : ℕ} {db : FirmDb} {page pageSize : ℤ} {q : TimeEntryFilters}
    (hoffset : offset page pageSize ≤ largest) (hsize : pageSize ≤ largest) :
    (listTimeEntries largest newestFirst db page pageSize q).map .timeEntries =
      StaffReads.read like presigned db user (.listTimeEntries page pageSize q) := by
  have hquery : getTimeEntries largest newestFirst db page pageSize q =
      StaffReads.getTimeEntries db page pageSize q := by
    unfold getTimeEntries queryPage StaffReads.getTimeEntries selectPage
    by_cases hbad : BadPage page pageSize
    · have hrefused : offset page pageSize < 0 ∨ pageSize < 0 ∨ largest < offset page pageSize ∨
          largest < pageSize := hbad.imp_right Or.inl
      rw [if_pos hbad, if_pos hrefused]
    · have hnone : ¬(offset page pageSize < 0 ∨ pageSize < 0 ∨ largest < offset page pageSize ∨
          largest < pageSize) := by
        unfold BadPage at hbad
        unfold offset at hoffset ⊢
        omega
      rw [if_neg hbad, if_neg hnone]
      rfl
  rw [listTimeEntries, hquery, StaffReads.read]

theorem listTimeEntries_served_iff {largest : ℕ} {sorting : ℤ → Sorting latestEntry} {db : FirmDb}
    {q : TimeEntryFilters} {page pageSize : ℤ} :
    Served (fun page => listTimeEntries largest (sorting page) db page pageSize q) page pageSize ↔
      pageSize = 0 ∧ found db q = [] ∨
        1 ≤ page ∧ 1 ≤ pageSize ∧ pageSize ≤ largest ∧ offset page pageSize ≤ largest :=
  listRows_served_iff

/-- The list of time entries is served, and its pages show the table, exactly for pages and sizes
from one on that the driver sends, or for a size of zero where nothing is found. -/
theorem listTimeEntries_paginates_iff (largest : ℕ) (sorting : ℤ → Sorting latestEntry) (db : FirmDb)
    (page pageSize : ℤ) (q : TimeEntryFilters) :
    Paginates latestEntry (fun page => listTimeEntries largest (sorting page) db page pageSize q)
        (found db q) page pageSize ↔
      Pageable latestEntry largest (found db q) page pageSize :=
  listRows_paginates_iff latestEntry_refl page pageSize

/-- A firm with one time entry. -/
def oneEntry : FirmDb where
  users := []
  clientUsers := []
  matters := []
  walls := []
  documents := []
  sharedDocuments := []
  messages := []
  timeEntries := [{ id := 71, matterId := 3, userId := 1, date := 739800, durationMinutes := 45
                    description := "Deposition", billable := true, rateCents := 25000
                    invoiceId := none, createdAt := 10, updatedAt := 10 }]
  invoices := []

/-- Neither the page zero nor a page of no rows is served, nor a page of a negative size. -/
theorem not_paginates_oneEntry :
    ¬Paginates latestEntry (fun page => listTimeEntries 2147483647 newestFirst oneEntry page 25 {})
        (found oneEntry {}) 0 25 ∧
      ¬Paginates latestEntry (fun page => listTimeEntries 2147483647 newestFirst oneEntry page 0 {})
        (found oneEntry {}) 1 0 ∧
      ¬Paginates latestEntry (fun page => listTimeEntries 2147483647 newestFirst oneEntry page (-5) {})
        (found oneEntry {}) 2 (-5) := by
  have hfound : found oneEntry {} ≠ [] := List.cons_ne_nil _ _
  refine ⟨fun h => ?_, fun h => ?_, fun h => ?_⟩
  · have hpage := listTimeEntries_served_iff.mp h.1
    omega
  · rcases listTimeEntries_served_iff.mp h.1 with ⟨-, hempty⟩ | ⟨-, hsize, -⟩
    · exact hfound hempty
    · omega
  · have hsize := listTimeEntries_served_iff.mp h.1
    omega

end LegalForge.TimeEntryPages
