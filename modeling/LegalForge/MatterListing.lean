import LegalForge.AccessControl
import LegalForge.Pagination
import LegalForge.Paging

/-! The list of matters against the access to a single matter. -/
namespace LegalForge.Access
open Auth Matters

/-- The filter arguments of the list. -/
structure MatterFilters where
  search : Option String := none
  status : Option MatterStatus := none
  clientId : Option Uuid := none
  attorneyId : Option Uuid := none
  litigationType : Option LitigationType := none

/-- `column.ilike(pattern)`, which is not true of a null. -/
def ilike (like : String → String → Bool) (column : Option String) (pattern : String) : Bool :=
  match column with
  | none => false
  | some text => like text pattern

/-- The search term; an empty one counts as none. -/
def matchesSearch (like : String → String → Bool) (m : Matter) : Option String → Bool
  | none => true
  | some search =>
    if search = "" then true
    else
      ilike like (some m.title) ("%"++search++"%") || ilike like m.caseNumber ("%"++search++"%") ||
        ilike like m.description ("%"++search++"%")

/-- A filter that is not set holds of every value. -/
def unsetOr {α : Type} [DecidableEq α] (wanted : Option α) (value : Option α) : Bool :=
  match wanted with
  | none => true
  | some wanted => value = some wanted

/-- The `WHERE` clauses besides the attorney. -/
def matchesOthers (like : String → String → Bool) (q : MatterFilters) (m : Matter) : Bool :=
  matchesSearch like m q.search && unsetOr q.status (some m.status) &&
    unsetOr q.clientId (some m.clientId) && unsetOr q.litigationType (some m.litigationType)

def matchesFilters (like : String → String → Bool) (q : MatterFilters) (m : Matter) : Bool :=
  matchesOthers like q m && unsetOr q.attorneyId m.assignedAttorneyId

/-- `ORDER BY matter_number DESC`, nulls first -/
def numberDesc (m m' : Matter) : Bool :=
  match m.matterNumber, m'.matterNumber with
  | none, _ => true
  | some _, none => false
  | some n, some n' => n' ≤ n

/-- `get_matters` -/
def getMatters (like : String → String → Bool) (db : AccessDb) (page pageSize : ℤ)
    (q : MatterFilters) : Except HttpError (List Matter × ℕ) :=
  let found := db.matters.filter (matchesFilters like q)
  let offset := (page-1)*pageSize
  if offset < 0 ∨ pageSize < 0 then .error .internal
  else .ok (((found.mergeSort numberDesc).drop offset.toNat).take pageSize.toNat, found.length)

/-- Only an administrator chooses the attorney. -/
def scopedTo (user : User) (q : MatterFilters) : MatterFilters :=
  if user.role = .admin then q else { q with attorneyId := some user.id }

/-- `list_matters` -/
def listMatters (like : String → String → Bool) (db : AccessDb) (user : User) (page pageSize : ℤ)
    (q : MatterFilters) : Except HttpError (PaginatedResponse MatterResponse) :=
  match getMatters like db page pageSize (scopedTo user q) with
  | .error error => .error error
  | .ok (matters, total) =>
    match matters.mapM matterResponse with
    | .error error => .error error
    | .ok items => paginated items total page pageSize

/-- The items of the first page and of those that follow, as many as it announces. -/
def allPages (like : String → String → Bool) (db : AccessDb) (user : User) (pageSize : ℤ)
    (q : MatterFilters) : Except HttpError (List MatterResponse) := do
  let first ← listMatters like db user 1 pageSize q
  let rest ← (List.range (first.totalPages.toNat-1)).mapM
    (fun i : ℕ => listMatters like db user (i+2) pageSize q)
  return first.items++rest.flatMap PaginatedResponse.items

/-- The list shows the matters that meet the filters and that the user may access, each once. -/
def ListingAgrees (like : String → String → Bool) (db : AccessDb) (user : User) (pageSize : ℤ)
    (q : MatterFilters) : Prop :=
  ∃ items, allPages like db user pageSize q = .ok items ∧
    (items.map MatterResponse.matter).Perm (db.matters.filter
      (fun m => matchesFilters like q m ∧ checkMatterAccess db user m.id = .ok ()))

/-- The matters that the filters leave, in the order of the list. -/
def listed (like : String → String → Bool) (db : AccessDb) (q : MatterFilters) : List Matter :=
  (db.matters.filter (matchesFilters like q)).mergeSort numberDesc

def pageCount (total size : ℕ) : ℕ := (total+size-1)/size

theorem length_le_pageCount {total size : ℕ} (hsize : 0 < size) : total ≤ pageCount total size*size := by
  have hlast := (Paging.lt_pages_iff (i := pageCount total size) hsize).not.mp (lt_irrefl _)
  exact not_lt.mp hlast

theorem matterResponse_eq_ok {m : Matter} {item : MatterResponse} :
    matterResponse m = .ok item ↔ item.matter = m := by
  unfold matterResponse
  constructor
  · intro h
    split_ifs at h
    obtain rfl := Except.ok.inj h
    rfl
  · rintro rfl
    rw [dif_pos item.number_ne]

theorem exists_responses {rows : List Matter} (h : ∀ m ∈ rows, m.matterNumber ≠ none) :
    ∃ items, rows.mapM matterResponse = .ok items :=
  Paging.exists_mapM_iff.mpr fun m hm => ⟨⟨m, h m hm⟩, matterResponse_eq_ok.mpr rfl⟩

theorem map_responses {rows : List Matter} {items : List MatterResponse}
    (h : rows.mapM matterResponse = .ok items) : items.map MatterResponse.matter = rows := by
  have hmap := Paging.map_eq_of_mapM (h := id) (fun _ _ => matterResponse_eq_ok.mp) h
  rw [hmap, List.map_id]

section
variable {like : String → String → Bool} {db : AccessDb} {user : User} {q : MatterFilters} {size : ℕ}

theorem getMatters_eq (i : ℕ) : getMatters like db (i+1) size q =
    .ok (Paging.page size (listed like db q) i, (listed like db q).length) := by
  have hoffset : ((i:ℤ)+1-1)*size = ((i*size:ℕ):ℤ) := by push_cast; ring
  have hnonneg : ¬(((i*size:ℕ):ℤ) < 0 ∨ (size:ℤ) < 0) := by omega
  rw [getMatters]
  simp only [hoffset, hnonneg, if_false, Int.toNat_natCast, listed, List.length_mergeSort,
    Paging.page]

theorem paginated_eq {α : Type} (items : List α) (total : ℕ) (page : ℤ) (hsize : 0 < size) :
    paginated items total page size = .ok ⟨items, total, page, size, pageCount total size⟩ := by
  unfold paginated pageCount
  split_ifs with htotal hzero
  · rw [htotal, Nat.zero_add, Nat.div_eq_of_lt (by omega)]
    rfl
  · omega
  · have hcast : (total:ℤ)+size-1 = ((total+size-1:ℕ):ℤ) := by omega
    rw [hcast, Int.fdiv_eq_ediv_of_nonneg _ (by omega)]
    rfl

theorem listMatters_eq_ok (hsize : 0 < size) {i : ℕ} {response : PaginatedResponse MatterResponse}
    (h : listMatters like db user (i+1) size q = .ok response) :
    response.items.map MatterResponse.matter =
        Paging.page size (listed like db (scopedTo user q)) i ∧
      response.totalPages = pageCount (listed like db (scopedTo user q)).length size := by
  rw [listMatters, getMatters_eq] at h
  dsimp only at h
  split at h
  · cases h
  · rename_i items hitems
    rw [paginated_eq _ _ _ hsize] at h
    obtain rfl := Except.ok.inj h
    exact ⟨map_responses hitems, rfl⟩

/-- A page whose rows all have a number is shown. -/
theorem exists_listMatters (hsize : 0 < size)
    (hall : ∀ m ∈ listed like db (scopedTo user q), m.matterNumber ≠ none) (i : ℕ) :
    ∃ response, listMatters like db user (i+1) size q = .ok response := by
  have hpage : ∀ m ∈ Paging.page size (listed like db (scopedTo user q)) i, m.matterNumber ≠ none :=
    fun m hm => hall m (List.mem_of_mem_drop (List.mem_of_mem_take hm))
  obtain ⟨items, hitems⟩ := exists_responses hpage
  rw [listMatters, getMatters_eq]
  dsimp only
  rw [hitems]
  exact ⟨_, paginated_eq _ _ _ hsize⟩

theorem allPages_items (hsize : 0 < size) {items : List MatterResponse}
    (h : allPages like db user size q = .ok items) :
    items.map MatterResponse.matter = listed like db (scopedTo user q) := by
  obtain ⟨first, hfirst, h⟩ := Paging.bind_eq_ok_iff.mp h
  obtain ⟨rest, hrest, h⟩ := Paging.bind_eq_ok_iff.mp h
  obtain rfl := Except.ok.inj h
  set rows := listed like db (scopedTo user q)
  obtain ⟨hitems, htotal⟩ := listMatters_eq_ok hsize (i := 0) hfirst
  -- the pages that follow are those from the second on
  have hpage : ∀ (i : ℕ) (response : PaginatedResponse MatterResponse),
      listMatters like db user (i+2) size q = .ok response →
      response.items.map MatterResponse.matter = Paging.page size rows (i+1) := by
    intro i response hi
    have hcast : (i:ℤ)+2 = ((i+1:ℕ):ℤ)+1 := by push_cast; ring
    rw [hcast] at hi
    exact (listMatters_eq_ok hsize hi).1
  have hnext := Paging.map_eq_of_mapM hpage hrest
  have hrows : rows.length ≤ (pageCount rows.length size-1+1)*size :=
    (length_le_pageCount hsize).trans (Nat.mul_le_mul_right size (by omega))
  have hall := Paging.flatMap_page_eq hrows
  rw [List.range_succ_eq_map, List.flatMap_cons, List.flatMap_map] at hall
  rw [List.map_append, List.map_flatMap, hitems, List.flatMap_def, hnext, ← List.flatMap_def, htotal,
    Int.toNat_natCast]
  exact hall

theorem MatterResponse.matter_injective : Function.Injective MatterResponse.matter := by
  rintro ⟨m, hm⟩ ⟨m', hm'⟩ rfl
  rfl

/-- All pages together are the listed matters, if they can be shown. -/
theorem allPages_eq_ok_iff (hsize : 0 < size) {items : List MatterResponse} :
    allPages like db user size q = .ok items ↔
      items.map MatterResponse.matter = listed like db (scopedTo user q) := by
  refine ⟨allPages_items hsize, fun h => ?_⟩
  have hall : ∀ m ∈ listed like db (scopedTo user q), m.matterNumber ≠ none := by
    intro m hm
    rw [← h] at hm
    obtain ⟨item, -, rfl⟩ := List.mem_map.mp hm
    exact item.number_ne
  obtain ⟨first, hfirst⟩ := exists_listMatters hsize hall 0
  obtain ⟨rest, hrest⟩ : ∃ rest, (List.range (first.totalPages.toNat-1)).mapM
      (fun i : ℕ => listMatters like db user (i+2) size q) = .ok rest := by
    refine Paging.exists_mapM_iff.mpr fun i _ => ?_
    have hcast : (i:ℤ)+2 = ((i+1:ℕ):ℤ)+1 := by push_cast; ring
    rw [hcast]
    exact exists_listMatters hsize hall (i+1)
  have hok : allPages like db user size q = .ok (first.items++rest.flatMap PaginatedResponse.items) :=
    Paging.bind_eq_ok_iff.mpr ⟨first, hfirst, Paging.bind_eq_ok_iff.mpr ⟨rest, hrest, rfl⟩⟩
  rw [hok]
  congr 1
  exact MatterResponse.matter_injective.list_map ((allPages_items hsize hok).trans h.symm)

/-- Every matter that is assigned to the user and meets the other filters has a number and no
wall row for the user, and the user has asked for no other attorney. -/
def AssignedShown (like : String → String → Bool) (db : AccessDb) (user : User) (q : MatterFilters) :
    Prop :=
  ∀ m ∈ db.matters, matchesOthers like q m = true → m.assignedAttorneyId = some user.id →
    m.matterNumber ≠ none ∧ wallsOf db m.id user.id = [] ∧
      (q.attorneyId = none ∨ q.attorneyId = some user.id)

theorem matchesFilters_scopedTo (hrole : user.role ≠ .admin) (m : Matter) :
    matchesFilters like (scopedTo user q) m = true ↔
      matchesOthers like q m = true ∧ m.assignedAttorneyId = some user.id := by
  rw [scopedTo, if_neg hrole, matchesFilters, Bool.and_eq_true]
  exact and_congr Iff.rfl decide_eq_true_iff

theorem unsetOr_iff {α : Type} [DecidableEq α] {wanted : Option α} {value : α} :
    unsetOr wanted (some value) = true ↔ wanted = none ∨ wanted = some value := by
  cases wanted with
  | none => simp [unsetOr]
  | some w => simp [unsetOr, eq_comm]

theorem access_ok_iff {m : Matter} (hids : (db.matters.map Matter.id).Nodup)
    (hrole : user.role ≠ .admin) (hm : m ∈ db.matters) :
    checkMatterAccess db user m.id = .ok () ↔
      m.assignedAttorneyId = some user.id ∧ wallsOf db m.id user.id = [] :=
  checkMatterAccess_eq_ok_iff hrole ((Table.find_eq_some_iff hids).mpr ⟨hm, rfl⟩)

theorem ListingAgrees.assignedShown (h : ListingAgrees like db user size q)
    (hids : (db.matters.map Matter.id).Nodup) (hrole : user.role ≠ .admin) (hsize : 0 < size) :
    AssignedShown like db user q := by
  intro m hm hothers hassigned
  obtain ⟨items, hitems, hsame⟩ := h
  have hmem : m ∈ items.map MatterResponse.matter := by
    rw [(allPages_eq_ok_iff hsize).mp hitems]
    exact List.mem_mergeSort.mpr (List.mem_filter.mpr
      ⟨hm, (matchesFilters_scopedTo hrole m).mpr ⟨hothers, hassigned⟩⟩)
  obtain ⟨-, hshown⟩ := List.mem_filter.mp (hsame.mem_iff.mp hmem)
  obtain ⟨hfilters, hok⟩ := of_decide_eq_true hshown
  obtain ⟨item, -, hitem⟩ := List.mem_map.mp hmem
  rw [matchesFilters, Bool.and_eq_true, hassigned] at hfilters
  exact ⟨hitem ▸ item.number_ne, ((access_ok_iff hids hrole hm).mp hok).2, unsetOr_iff.mp hfilters.2⟩

theorem listingAgrees_of_shown (h : AssignedShown like db user q)
    (hids : (db.matters.map Matter.id).Nodup) (hrole : user.role ≠ .admin) (hsize : 0 < size) :
    ListingAgrees like db user size q := by
  have hperm : (listed like db (scopedTo user q)).Perm
      (db.matters.filter (matchesFilters like (scopedTo user q))) := List.mergeSort_perm _ _
  have hnumbers : ∀ m ∈ listed like db (scopedTo user q), m.matterNumber ≠ none := by
    intro m hm
    obtain ⟨hm, hfilters⟩ := List.mem_filter.mp (hperm.mem_iff.mp hm)
    obtain ⟨hothers, hassigned⟩ := (matchesFilters_scopedTo hrole m).mp hfilters
    exact (h m hm hothers hassigned).1
  obtain ⟨items, hitems⟩ := exists_responses hnumbers
  have hmap := map_responses hitems
  refine ⟨items, (allPages_eq_ok_iff hsize).mpr hmap, ?_⟩
  rw [hmap]
  refine hperm.trans (List.Perm.of_eq (List.filter_congr fun m hm => ?_))
  rw [Bool.eq_iff_iff, matchesFilters_scopedTo hrole, decide_eq_true_iff,
    access_ok_iff hids hrole hm, matchesFilters, Bool.and_eq_true]
  constructor
  · rintro ⟨hothers, hassigned⟩
    obtain ⟨-, hwalls, hattorney⟩ := h m hm hothers hassigned
    exact ⟨⟨hothers, hassigned ▸ unsetOr_iff.mpr hattorney⟩, hassigned, hwalls⟩
  · rintro ⟨⟨hothers, -⟩, hassigned, -⟩
    exact ⟨hothers, hassigned⟩

end

/-- The list agrees with the access check exactly when nothing that is assigned to the user
is withheld by a wall, by a missing number, or by the filter for another attorney. -/
theorem listingAgrees_iff (like : String → String → Bool) (db : AccessDb) (user : User)
    (pageSize : ℤ) (q : MatterFilters) (hids : (db.matters.map Matter.id).Nodup)
    (hrole : user.role ≠ .admin) (hsize : 1 ≤ pageSize) :
    ListingAgrees like db user pageSize q ↔ AssignedShown like db user q := by
  obtain ⟨size, rfl⟩ := Int.eq_ofNat_of_zero_le (show 0 ≤ pageSize by omega)
  have hpos : 0 < size := by omega
  exact ⟨fun h => h.assignedShown hids hrole hpos,
    fun h => listingAgrees_of_shown h hids hrole hpos⟩

/-- An attorney who was walled off from a matter of theirs. -/
def walledOff : AccessDb where
  users := [attorneyKim, adminRay]
  matters := [openMatter]
  walls := [{ id := 5, matterId := 3, userId := 1, reason := "Former client", createdBy := 2 }]

theorem listingAgrees_iff_walledOff :
    (walledOff.matters.map Matter.id).Nodup ∧ attorneyKim.role ≠ .admin ∧
      (ListingAgrees (fun _ _ => false) walledOff attorneyKim 25 {} ↔
        AssignedShown (fun _ _ => false) walledOff attorneyKim {}) :=
  ⟨by decide, by decide,
    listingAgrees_iff (fun _ _ => false) walledOff attorneyKim 25 {} (by decide) (by decide) (by decide)⟩

/-- The list shows the matter behind the wall. -/
theorem not_listingAgrees_walledOff :
    ¬ListingAgrees (fun _ _ => false) walledOff attorneyKim 25 {} := by
  intro h
  have hshown := h.assignedShown (by decide) (by decide) (by decide) openMatter
    List.mem_cons_self rfl rfl
  exact absurd hshown.2.1 (by decide)

end LegalForge.Access
