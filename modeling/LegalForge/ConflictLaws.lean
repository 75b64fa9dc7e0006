import LegalForge.ConflictCheck

/-! What a conflict check finds: everyone named in the search, each once, and no fewer when
the firm knows more. -/
namespace LegalForge.Conflicts
open Auth Clients Text
open Deadlines (BoundedText)

variable (cmp : Comparison)

/-- The texts are equal, trimmed and in lower case. -/
def Same (a b : String) : Prop :=
  normalize cmp a = normalize cmp b

/-- The texts are equal, and not blank. -/
def SameName (a b : String) : Prop :=
  normalize cmp a = normalize cmp b ∧ normalize cmp a ≠ ""

/-- A search finds a client or a contact by one of its texts. -/
def Found (same : String → String → Prop) (data : ConflictCheckCreate) (fullName : String)
    (organization email : Option String) : Prop :=
  same data.searchName.text fullName ∨
    (∃ name ∈ organization, same data.searchName.text name) ∨
    (∃ address ∈ email, same data.searchName.text address) ∨
    ∃ search ∈ data.searchOrganization, ∃ name ∈ organization, same search.text name

def FoundIn (same : String → String → Prop) (data : ConflictCheckCreate) (db : ConflictDb) : Prop :=
  (∃ c ∈ db.clients, Found same data (clientFullName c) c.organizationName c.email) ∨
    ∃ c ∈ db.contacts, Found same data (contactFullName c) c.organization c.email

def ConflictMatch.key (m : ConflictMatch) : EntityType × Uuid :=
  (m.entityType, m.entityId)

/-- Clients, contacts or matter contacts were added. -/
structure Extends (db db' : ConflictDb) : Prop where
  clients : db.clients ⊆ db'.clients
  contacts : db.contacts ⊆ db'.contacts
  matterContacts : db.matterContacts ⊆ db'.matterContacts

structure CheckLaws (same : String → String → Prop) (db : ConflictDb) (data : ConflictCheckCreate)
    (check : ConflictCheck) : Prop where
  complete : FoundIn same data db → check.status = .confirmedConflict
  clear_iff : check.status = .clear ↔ check.matches = []
  once : (check.matches.map ConflictMatch.key).Nodup
  monotone : ∀ db' checkedBy check', Extends db db' →
    runConflictCheck cmp db' data checkedBy = some check' →
      check.status.level ≤ check'.status.level ∧
        check.matches.map ConflictMatch.key ⊆ check'.matches.map ConflictMatch.key

/-- Every recorded check keeps the laws. -/
def ChecksLawful (same : String → String → Prop) : Prop :=
  ∀ db data checkedBy check, runConflictCheck cmp db data checkedBy = some check →
    CheckLaws cmp same db data check

/-! The scores. -/

theorem computeNameScore_of_sameName {search candidate : String}
    (h : SameName cmp search candidate) : (computeNameScore cmp search candidate).1 = 1 := by
  obtain ⟨heq, hne⟩ := h
  have hblank : ¬(normalize cmp search = "" ∨ normalize cmp candidate = "") := by
    rw [← heq, or_self]
    exact hne
  unfold computeNameScore
  simp only
  rw [if_neg hblank, if_pos heq]

theorem computeEmailScore_of_sameName {search candidate : String} (hsearch : search ≠ "")
    (hcandidate : candidate ≠ "") (h : SameName cmp search candidate) :
    computeEmailScore cmp search candidate = 9/10 := by
  unfold computeEmailScore
  rw [if_neg (not_or.mpr ⟨hsearch, hcandidate⟩), if_pos h.1]

theorem computeNameScore_empty (search : String) : (computeNameScore cmp search "").1 = 0 := by
  have hblank : normalize cmp "" = "" := cmp.lower_empty
  unfold computeNameScore
  simp only
  rw [if_pos (Or.inr hblank)]

/-- A text whose normal form is not empty is not empty. -/
theorem ne_empty_of_normalize {text : String} (h : normalize cmp text ≠ "") : text ≠ "" := by
  intro hempty
  rw [hempty] at h
  exact h cmp.lower_empty

theorem given_of_normalize {text : String} (h : normalize cmp text ≠ "") :
    given (some text) = some text :=
  if_neg (ne_empty_of_normalize cmp h)

theorem le_foldl_better (scores : List Score) (best : Score) :
    best.score ≤ (scores.foldl Score.better best).score ∧
      ∀ s ∈ scores, s.score ≤ (scores.foldl Score.better best).score := by
  induction scores generalizing best with
  | nil => exact ⟨le_refl _, fun s hs => absurd hs List.not_mem_nil⟩
  | cons next scores ih =>
    obtain ⟨hbest, hrest⟩ := ih (best.better next)
    have hstep : best.score ≤ (best.better next).score ∧ next.score ≤ (best.better next).score := by
      unfold Score.better
      split_ifs with h
      · exact ⟨h.le, le_refl _⟩
      · exact ⟨le_refl _, not_lt.mp h⟩
    refine ⟨hstep.1.trans hbest, ?_⟩
    intro s hs
    rcases List.mem_cons.mp hs with rfl | hs
    · exact hstep.2.trans hbest
    · exact hrest s hs

theorem le_bestScore {data : ConflictCheckCreate} {fullName : String}
    {organization email : Option String} {s : Score}
    (h : s ∈ checks cmp data fullName organization email) :
    s.score ≤ (bestScore cmp data fullName organization email).score :=
  (le_foldl_better _ _).2 s h

/-- The full name alone scores no higher. -/
theorem nameScore_le_bestScore (data : ConflictCheckCreate) (fullName : String)
    (organization email : Option String) :
    (computeNameScore cmp data.searchName.text fullName).1 ≤
      (bestScore cmp data fullName organization email).score := by
  by_cases h : fullName = ""
  · rw [h, computeNameScore_empty]
    exact (le_foldl_better _ _).1
  · apply le_bestScore cmp (s := nameCheck cmp data.searchName.text fullName)
    have hgiven : given (some fullName) = some fullName := if_neg h
    simp [checks, hgiven]

/-- Whoever is found scores at least 0.9. -/
theorem le_bestScore_of_found {data : ConflictCheckCreate} {fullName : String}
    {organization email : Option String}
    (h : Found (SameName cmp) data fullName organization email) :
    9/10 ≤ (bestScore cmp data fullName organization email).score := by
  have hsearch : data.searchName.text ≠ "" := by
    intro hempty
    have hlength := data.searchName.length_mem.1
    rw [hempty] at hlength
    exact absurd hlength (by decide)
  -- a name that is found is scored 1
  have hname : ∀ {search name : String}, SameName cmp search name →
      nameCheck cmp search name ∈ checks cmp data fullName organization email →
        9/10 ≤ (bestScore cmp data fullName organization email).score := by
    intro search name hsame hcheck
    have hle := le_bestScore cmp hcheck
    have hone : (nameCheck cmp search name).score = 1 := computeNameScore_of_sameName cmp hsame
    rw [hone] at hle
    exact le_trans (by norm_num) hle
  rcases h with hfull | ⟨name, hmem, hsame⟩ | ⟨address, hmem, hsame⟩ | ⟨search, hs, name, hmem, hsame⟩
  · apply hname hfull
    have hgiven : given (some fullName) = some fullName :=
      given_of_normalize cmp (hfull.1 ▸ hfull.2)
    simp [checks, hgiven]
  · apply hname hsame
    have hgiven : given (some name) = some name := given_of_normalize cmp (hsame.1 ▸ hsame.2)
    rw [Option.mem_def.mp hmem]
    simp [checks, hgiven]
  -- an address that is found is scored 0.9
  · have haddress : normalize cmp address ≠ "" := hsame.1 ▸ hsame.2
    have hscore := computeEmailScore_of_sameName cmp hsearch (ne_empty_of_normalize cmp haddress) hsame
    have hgiven := given_of_normalize cmp haddress
    have hcheck : ⟨computeEmailScore cmp data.searchName.text address, .email, address⟩ ∈
        checks cmp data fullName organization email := by
      rw [Option.mem_def.mp hmem]
      simp [checks, hgiven]
    have hle := le_bestScore cmp hcheck
    rw [hscore] at hle
    exact hle
  · apply hname hsame
    have hgiven : given (some name) = some name := given_of_normalize cmp (hsame.1 ▸ hsame.2)
    have hsearched : searchedOrganization cmp data = some search.text := by
      unfold searchedOrganization
      rw [Option.mem_def.mp hs]
      simp [Option.filter, hsame.2]
    rw [Option.mem_def.mp hmem]
    simp [checks, hgiven, hsearched]

/-! The matches. -/

/-- What a match is about, and how good it is. -/
def ConflictMatch.summary (m : ConflictMatch) : (EntityType × Uuid) × ℚ :=
  (m.key, m.matchScore)

/-- One search matches each row with a high score once. -/
theorem summary_scan {α : Type} (rows : List α) (score : α → Score) (entityType : EntityType)
    (id : α → Uuid) (context : α → String) :
    (rows.filterMap fun c => (score c).match entityType (id c) (context c)).map
        ConflictMatch.summary =
      (rows.filter fun c => 4/10 < (score c).score).map fun c =>
        ((entityType, id c), (score c).score) := by
  set f := fun c => (score c).match entityType (id c) (context c)
  induction rows with
  | nil => rfl
  | cons c rows ih =>
    by_cases h : 4/10 < (score c).score
    · have hmatch : f c = some
          ⟨entityType, id c, (score c).name, (score c).matchType, (score c).score, context c⟩ :=
        if_pos h
      have hkept : decide (4/10 < (score c).score) = true := decide_eq_true h
      rw [List.filterMap_cons_some hmatch, List.filter_cons, if_pos hkept, List.map_cons,
        List.map_cons, ih]
      rfl
    · have hmatch : f c = none := if_neg h
      have hdropped : ¬decide (4/10 < (score c).score) = true := by simpa using h
      rw [List.filterMap_cons_none hmatch, List.filter_cons, if_neg hdropped, ih]

/-- The matches before the contacts of matters are looked at. -/
def foundMatches (data : ConflictCheckCreate) (db : ConflictDb) : List ConflictMatch :=
  clientMatches cmp data db++contactMatches cmp data db

theorem summary_foundMatches (data : ConflictCheckCreate) (db : ConflictDb) :
    (foundMatches cmp data db).map ConflictMatch.summary =
      (db.clients.filter fun c => 4/10 < (clientScore cmp data c).score).map
          (fun c => ((.client, c.id), (clientScore cmp data c).score))++
        (db.contacts.filter fun c => 4/10 < (contactScore cmp data c).score).map
          fun c => ((.contact, c.id), (contactScore cmp data c).score) := by
  rw [foundMatches, List.map_append]
  exact congrArg₂ _ (summary_scan _ _ _ _ _) (summary_scan _ _ _ _ _)

theorem mem_foundMatches_iff {data : ConflictCheckCreate} {db : ConflictDb}
    {entry : (EntityType × Uuid) × ℚ} :
    entry ∈ (foundMatches cmp data db).map ConflictMatch.summary ↔
      (∃ c ∈ db.clients, 4/10 < (clientScore cmp data c).score ∧
        ((.client, c.id), (clientScore cmp data c).score) = entry) ∨
      ∃ c ∈ db.contacts, 4/10 < (contactScore cmp data c).score ∧
        ((.contact, c.id), (contactScore cmp data c).score) = entry := by
  simp only [summary_foundMatches, List.mem_append, List.mem_map, List.mem_filter,
    decide_eq_true_eq, and_assoc]

/-- A contact whose name alone is a match is one already. -/
theorem mem_matchedContacts {data : ConflictCheckCreate} {db : ConflictDb} {c : Contact}
    (hc : c ∈ db.contacts) (hscore : 4/10 < (contactScore cmp data c).score) :
    c.id ∈ ((foundMatches cmp data db).filter fun m => m.entityType = .contact).map
      ConflictMatch.entityId := by
  have hmem : ((EntityType.contact, c.id), (contactScore cmp data c).score) ∈
      (foundMatches cmp data db).map ConflictMatch.summary :=
    (mem_foundMatches_iff cmp).mpr (Or.inr ⟨c, hc, hscore, rfl⟩)
  obtain ⟨m, hm, hsummary⟩ := List.mem_map.mp hmem
  have hkey : m.key = (EntityType.contact, c.id) := congrArg Prod.fst hsummary
  have htype : m.entityType = .contact := congrArg Prod.fst hkey
  have hid : m.entityId = c.id := congrArg Prod.snd hkey
  rw [← hid]
  exact List.mem_map_of_mem (List.mem_filter.mpr ⟨hm, decide_eq_true htype⟩)

/-- The loop over the contacts of matters rewrites contexts, and adds no match. -/
theorem summary_scanParty {data : ConflictCheckCreate} {db : ConflictDb} {s : PartyScan}
    (hids : s.matchedContactIds = ((foundMatches cmp data db).filter fun m =>
      m.entityType = .contact).map ConflictMatch.entityId) (mc : MatterContact) :
    (scanParty cmp data db s mc).matches.map ConflictMatch.summary =
        s.matches.map ConflictMatch.summary ∧
      (scanParty cmp data db s mc).matchedContactIds = s.matchedContactIds := by
  unfold scanParty
  split
  · exact ⟨rfl, rfl⟩
  · rename_i contact hfind
    split_ifs with hmatched
    · refine ⟨?_, rfl⟩
      rw [List.map_map]
      apply List.map_congr_left
      intro m _
      simp only [Function.comp]
      split_ifs
      · rfl
      · rfl
    · -- not a match yet, so the name is none either
      have hlow : ¬4/10 < (contactScore cmp data contact).score := by
        intro hscore
        rw [hids] at hmatched
        exact hmatched (mem_matchedContacts cmp (Table.mem_of_find hfind) hscore)
      have hname := nameScore_le_bestScore cmp data (contactFullName contact) contact.organization
        contact.email
      have hnone : Score.match ⟨(computeNameScore cmp data.searchName.text (contactFullName contact)).1,
          (computeNameScore cmp data.searchName.text (contactFullName contact)).2,
          contactFullName contact⟩ .matterParty contact.id (partyContext db mc) = none :=
        if_neg fun h => hlow (lt_of_lt_of_le h hname)
      simp only [hnone]
      exact ⟨trivial, trivial⟩

theorem summary_foldl_scanParty {data : ConflictCheckCreate} {db : ConflictDb}
    (parties : List MatterContact) {s : PartyScan}
    (hids : s.matchedContactIds = ((foundMatches cmp data db).filter fun m =>
      m.entityType = .contact).map ConflictMatch.entityId) :
    (parties.foldl (scanParty cmp data db) s).matches.map ConflictMatch.summary =
      s.matches.map ConflictMatch.summary := by
  induction parties generalizing s with
  | nil => rfl
  | cons mc parties ih =>
    obtain ⟨hsummary, hsame⟩ := summary_scanParty cmp hids mc
    rw [List.foldl_cons, ih (hsame.trans hids), hsummary]

theorem summary_allMatches (data : ConflictCheckCreate) (db : ConflictDb) :
    (allMatches cmp data db).map ConflictMatch.summary =
      (foundMatches cmp data db).map ConflictMatch.summary :=
  summary_foldl_scanParty cmp db.matterContacts rfl

/-- Clients and contacts are matched once each. -/
theorem nodup_foundMatches (data : ConflictCheckCreate) (db : ConflictDb) :
    ((foundMatches cmp data db).map ConflictMatch.key).Nodup := by
  have hkeys : (foundMatches cmp data db).map ConflictMatch.key =
      (db.clients.filter fun c => 4/10 < (clientScore cmp data c).score).map
          (fun c => (EntityType.client, c.id))++
        (db.contacts.filter fun c => 4/10 < (contactScore cmp data c).score).map
          fun c => (EntityType.contact, c.id) := by
    have hsummary := congrArg (List.map Prod.fst) (summary_foundMatches cmp data db)
    rw [List.map_append, List.map_map, List.map_map, List.map_map] at hsummary
    exact hsummary
  have hside : ∀ {α : Type} {rows : List α} {id : α → Uuid} (p : α → Bool) (entityType : EntityType),
      (rows.map id).Nodup → ((rows.filter p).map fun c => (entityType, id c)).Nodup := by
    intro α rows id p entityType hnodup
    have hids := (List.filter_sublist (p := p) (l := rows)).map id |>.nodup hnodup
    have hpairs := hids.map fun a b (h : (entityType, a) = (entityType, b)) => congrArg Prod.snd h
    rw [List.map_map] at hpairs
    exact hpairs
  rw [hkeys]
  apply List.Nodup.append (hside _ .client db.clientKeys) (hside _ .contact db.contactKeys)
  intro k hclient hcontact
  obtain ⟨c, -, rfl⟩ := List.mem_map.mp hclient
  obtain ⟨c', -, h⟩ := List.mem_map.mp hcontact
  cases congrArg Prod.fst h

/-! The status. -/

theorem overallStatus_clear_iff (found : List ConflictMatch) :
    overallStatus found = .clear ↔ found = [] := by
  unfold overallStatus
  cases found with
  | nil => exact iff_of_true rfl rfl
  | cons m rest =>
    refine iff_of_false ?_ (List.cons_ne_nil m rest)
    split
    · rename_i hnone
      simp at hnone
    · split_ifs
      · decide
      · decide

theorem overallStatus_confirmed_iff (found : List ConflictMatch) :
    overallStatus found = .confirmedConflict ↔ ∃ m ∈ found, 9/10 ≤ m.matchScore := by
  unfold overallStatus
  split
  · rename_i hnone
    rw [List.max?_eq_none_iff, List.map_eq_nil_iff] at hnone
    subst hnone
    exact iff_of_false (by decide) fun h => by simp at h
  · rename_i maxScore hmax
    obtain ⟨hmem, hle⟩ := List.max?_eq_some_iff.mp hmax
    obtain ⟨best, hbest, hscore⟩ := List.mem_map.mp hmem
    split_ifs with h
    · exact iff_of_true rfl ⟨best, hbest, by rw [hscore]; exact h⟩
    · refine iff_of_false (by decide) ?_
      rintro ⟨m, hm, hhigh⟩
      exact h (hhigh.trans (hle _ (List.mem_map_of_mem hm)))

/-- More matches, no lower status. -/
theorem overallStatus_mono {found found' : List ConflictMatch}
    (h : found.map ConflictMatch.summary ⊆ found'.map ConflictMatch.summary) :
    (overallStatus found).level ≤ (overallStatus found').level := by
  have hpartner : ∀ m ∈ found, ∃ m' ∈ found', m'.matchScore = m.matchScore := by
    intro m hm
    obtain ⟨m', hm', hsummary⟩ := List.mem_map.mp (h (List.mem_map_of_mem hm))
    exact ⟨m', hm', congrArg Prod.snd hsummary⟩
  cases hstatus : overallStatus found with
  | clear => exact Nat.zero_le _
  | potentialConflict =>
    cases hstatus' : overallStatus found' with
    | clear =>
      rw [(overallStatus_clear_iff found').mp hstatus', List.map_nil, List.subset_nil,
        List.map_eq_nil_iff, ← overallStatus_clear_iff, hstatus] at h
      cases h
    | potentialConflict => exact le_refl _
    | confirmedConflict => decide
  | confirmedConflict =>
    obtain ⟨m, hm, hhigh⟩ := (overallStatus_confirmed_iff found).mp hstatus
    obtain ⟨m', hm', hscore⟩ := hpartner m hm
    rw [(overallStatus_confirmed_iff found').mpr ⟨m', hm', hscore ▸ hhigh⟩]

/-! What is recorded. -/

theorem summary_matchRow {m row : ConflictMatch} (h : matchRow m = some row) :
    row.summary = m.summary := by
  unfold matchRow at h
  obtain ⟨name, -, h⟩ := Option.bind_eq_some_iff.mp h
  obtain ⟨context, -, h⟩ := Option.bind_eq_some_iff.mp h
  cases h
  rfl

theorem summary_mapM_matchRow {found rows : List ConflictMatch} (h : found.mapM matchRow = some rows) :
    rows.map ConflictMatch.summary = found.map ConflictMatch.summary := by
  induction found generalizing rows with
  | nil =>
    cases h
    rfl
  | cons m found ih =>
    rw [List.mapM_cons] at h
    obtain ⟨row, hrow, h⟩ := Option.bind_eq_some_iff.mp h
    obtain ⟨rest, hrest, h⟩ := Option.bind_eq_some_iff.mp h
    cases h
    rw [List.map_cons, List.map_cons, summary_matchRow hrow, ih hrest]

/-- What a recorded check says. -/
theorem runConflictCheck_spec {db : ConflictDb} {data : ConflictCheckCreate} {checkedBy : Uuid}
    {check : ConflictCheck} (h : runConflictCheck cmp db data checkedBy = some check) :
    check.status = overallStatus (allMatches cmp data db) ∧
      check.matches.map ConflictMatch.summary =
        (foundMatches cmp data db).map ConflictMatch.summary := by
  unfold runConflictCheck at h
  obtain ⟨name, -, h⟩ := Option.bind_eq_some_iff.mp h
  obtain ⟨organization, -, h⟩ := Option.bind_eq_some_iff.mp h
  split_ifs at h
  obtain ⟨rows, hrows, h⟩ := Option.bind_eq_some_iff.mp h
  cases h
  exact ⟨rfl, (summary_mapM_matchRow hrows).trans (summary_allMatches cmp data db)⟩

theorem summary_subset (data : ConflictCheckCreate) {db db' : ConflictDb} (h : Extends db db') :
    (foundMatches cmp data db).map ConflictMatch.summary ⊆
      (foundMatches cmp data db').map ConflictMatch.summary := by
  intro entry hentry
  apply (mem_foundMatches_iff cmp).mpr
  rcases (mem_foundMatches_iff cmp).mp hentry with ⟨c, hc, hscore⟩ | ⟨c, hc, hscore⟩
  · exact Or.inl ⟨c, h.clients hc, hscore⟩
  · exact Or.inr ⟨c, h.contacts hc, hscore⟩

theorem le_clientScore {data : ConflictCheckCreate} {c : Client}
    (h : Found (SameName cmp) data (clientFullName c) c.organizationName c.email) :
    9/10 ≤ (clientScore cmp data c).score := by
  rw [clientScore]
  exact le_bestScore_of_found cmp h

theorem le_contactScore {data : ConflictCheckCreate} {c : Contact}
    (h : Found (SameName cmp) data (contactFullName c) c.organization c.email) :
    9/10 ≤ (contactScore cmp data c).score := by
  rw [contactScore]
  exact le_bestScore_of_found cmp h

/-- Whoever the search names is among the matches with at least 0.9. -/
theorem confirmed_of_foundIn {data : ConflictCheckCreate} {db : ConflictDb}
    (h : FoundIn (SameName cmp) data db) :
    overallStatus (allMatches cmp data db) = .confirmedConflict := by
  have hentry : ∃ key score, 9/10 ≤ score ∧
      (key, score) ∈ (foundMatches cmp data db).map ConflictMatch.summary := by
    have hlow : ∀ {score : ℚ}, 9/10 ≤ score → 4/10 < score := fun hhigh =>
      lt_of_lt_of_le (by norm_num) hhigh
    rcases h with ⟨c, hc, hfound⟩ | ⟨c, hc, hfound⟩
    · have hhigh := le_clientScore cmp hfound
      refine ⟨(.client, c.id), _, hhigh, ?_⟩
      exact (mem_foundMatches_iff cmp).mpr (Or.inl ⟨c, hc, hlow hhigh, rfl⟩)
    · have hhigh := le_contactScore cmp hfound
      refine ⟨(.contact, c.id), _, hhigh, ?_⟩
      exact (mem_foundMatches_iff cmp).mpr (Or.inr ⟨c, hc, hlow hhigh, rfl⟩)
  rw [← summary_allMatches] at hentry
  obtain ⟨key, score, hhigh, hmem⟩ := hentry
  obtain ⟨m, hm, hsummary⟩ := List.mem_map.mp hmem
  have hscore : m.matchScore = score := congrArg Prod.snd hsummary
  exact (overallStatus_confirmed_iff _).mpr ⟨m, hm, hscore ▸ hhigh⟩

/-- The keys are part of the summaries. -/
theorem key_eq_summary (rows : List ConflictMatch) :
    rows.map ConflictMatch.key = (rows.map ConflictMatch.summary).map Prod.fst := by
  rw [List.map_map]
  rfl

/-- Every recorded check is complete for texts that are not blank, is clear exactly without a
match, has every match once, and only grows with the data. -/
theorem checksLawful : ChecksLawful cmp (SameName cmp) := by
  intro db data checkedBy check hrun
  obtain ⟨hstatus, hsummary⟩ := runConflictCheck_spec cmp hrun
  refine ⟨?_, ?_, ?_, ?_⟩
  · intro hfound
    rw [hstatus]
    exact confirmed_of_foundIn cmp hfound
  · rw [hstatus, overallStatus_clear_iff, ← List.map_eq_nil_iff (f := ConflictMatch.summary),
      summary_allMatches, ← hsummary, List.map_eq_nil_iff]
  · rw [key_eq_summary, hsummary, ← key_eq_summary]
    exact nodup_foundMatches cmp data db
  · intro db' checkedBy' check' hextends hrun'
    obtain ⟨hstatus', hsummary'⟩ := runConflictCheck_spec cmp hrun'
    have hsubset := summary_subset cmp data hextends
    constructor
    · rw [hstatus, hstatus']
      apply overallStatus_mono
      rw [summary_allMatches, summary_allMatches]
      exact hsubset
    · rw [key_eq_summary, key_eq_summary, hsummary, hsummary']
      exact List.map_subset Prod.fst hsubset

/-- Comparison of ASCII names, without phonetic codes. -/
def asciiComparison : Comparison where
  lower text := String.ofList (text.toList.map Char.toLower)
  soundex _ := none
  metaphone _ := none
  lower_empty := by decide

/-- One client, whose organization is a space. -/
def blankOrganization : ConflictDb where
  users := [1]
  clients := [{ id := 3, organizationName := some " " }]
  contacts := []
  matters := []
  matterContacts := []
  clientKeys := by decide
  contactKeys := by decide

/-- A search for a space finds nobody. -/
theorem blankSearch_clear : ¬ChecksLawful asciiComparison (Same asciiComparison) := by
  intro h
  have hclear : (runConflictCheck asciiComparison blankOrganization
      { searchName := ⟨" ", by decide⟩ } 1).map ConflictCheck.status = some .clear := by
    decide +kernel
  obtain ⟨check, hrun, hstatus⟩ := Option.map_eq_some_iff.mp hclear
  have hconfirmed := (h _ _ _ _ hrun).complete
    (Or.inl ⟨_, List.mem_singleton_self _, Or.inr (Or.inl ⟨" ", rfl, rfl⟩)⟩)
  rw [hstatus] at hconfirmed
  cases hconfirmed

end LegalForge.Conflicts
