import LegalForge.SsoProviders

/-! At most one identity provider is the default, whatever requests run at the
same time: the row locks of two updates keep them apart. -/
namespace LegalForge.SsoProviders
open Encryption Transition ReadCommitted
open Access (scalarOneOrNone exists_scalarOneOrNone_iff)

variable {Cols : Type}

abbrev ids (db : List (SSOProvider Cols)) : List Uuid := db.map SSOProvider.id

/-- The keys are distinct, and no two rows are the default. -/
structure SingleDefault (db : List (SSOProvider Cols)) : Prop where
  nodup : (ids db).Nodup
  single : ∀ p ∈ db, ∀ q ∈ db, p.isDefault = true → q.isDefault = true → p.id = q.id

/-- The UPDATE of the row makes it the default. -/
def Claims (provider changed : SSOProvider Cols) : Prop :=
  provider.isDefault = false ∧ changed.isDefault = true

/-- What an update that makes `id` the default may rely on: it has locked the
row and those it has cleared, and every other row was added later and is not
the default. -/
structure Cleared (db : List (SSOProvider Cols)) (rows : Set Uuid) (id : Uuid)
    (todo done : List Uuid) : Prop where
  own_locked : id ∈ rows
  own_stored : id ∈ ids db
  done_locked : ∀ i ∈ done, i ∈ rows
  later : ∀ p ∈ db, p.id ≠ id → p.id ∉ todo → p.id ∉ done →
    p.isDefault = false ∧ [id, p.id].Sublist (ids db)

def SessionInv (db : List (SSOProvider Cols)) (rows : Set Uuid) : Session Cols → Prop
  | .flushed provider changed data => Claims provider changed →
    provider.id ∈ rows ∧ provider.id ∈ ids db ∧ data.isDefault = some true
  | .clearing provider changed todo done => Claims provider changed →
    Cleared db rows provider.id todo done
  | .refreshed provider changed done => Claims provider changed →
    Cleared db rows provider.id [] done
  | .created provider => provider.isDefault = false
  | .deleted id => id ∈ rows
  | _ => True

theorem ids_clearDefaults (done : List Uuid) (db : List (SSOProvider Cols)) :
    ids (clearDefaults done db) = ids db := by
  rw [ids, clearDefaults, List.map_map]
  refine List.map_congr_left fun p _ => ?_
  show (if p.id ∈ done then { p with isDefault := false } else p).id = p.id
  split_ifs <;> rfl

variable [DecidableEq Cols]

theorem ids_writeUpdate (provider changed : SSOProvider Cols) (done : List Uuid)
    (db : List (SSOProvider Cols)) : ids (writeUpdate provider changed done db) = ids db := by
  have hkey : ∀ p : SSOProvider Cols, p.id = provider.id →
      (assignChanged provider changed p).id = provider.id := fun _ h => h
  rw [writeUpdate, ids_clearDefaults]
  exact Table.map_key_alter hkey db

theorem assigned_flag {old new current : Bool} (h : Table.assigned old new current = true) :
    current = true ∨ old = false ∧ new = true := by
  revert h
  cases old <;> cases new <;> cases current <;> decide

/-- Where the default rows after an update come from. -/
theorem exists_of_mem_writeUpdate {provider changed p : SSOProvider Cols} {done : List Uuid}
    {db : List (SSOProvider Cols)} (hp : p ∈ writeUpdate provider changed done db)
    (hdefault : p.isDefault = true) : p.id ∉ done ∧ ∃ q ∈ db, q.id = p.id ∧
      (q.isDefault = true ∨ p.id = provider.id ∧ Claims provider changed) := by
  obtain ⟨r, hr, hclear⟩ := List.mem_map.mp hp
  obtain ⟨q, hq, hassign⟩ := Table.mem_alter.mp hr
  by_cases hdone : r.id ∈ done
  · rw [if_pos hdone] at hclear
    subst hclear
    cases hdefault
  rw [if_neg hdone] at hclear
  subst hclear
  refine ⟨hdone, q, hq, ?_⟩
  by_cases hown : q.id = provider.id
  · rw [if_pos hown] at hassign
    subst hassign
    refine ⟨rfl, ?_⟩
    rcases assigned_flag hdefault with hcurrent | hclaims
    · exact Or.inl hcurrent
    · exact Or.inr ⟨hown, hclaims⟩
  · rw [if_neg hown] at hassign
    subst hassign
    exact ⟨rfl, Or.inl hdefault⟩

omit [DecidableEq Cols] in
/-- Two rows cannot each have been added after the other. -/
theorem not_sublist_of_sublist {a b : Uuid} {keys : List Uuid} (hnodup : keys.Nodup) (hne : a ≠ b)
    (hab : [a, b].Sublist keys) : ¬[b, a].Sublist keys := by
  intro hba
  induction keys with
  | nil => cases hab
  | cons k keys ih =>
    obtain ⟨hk, hkeys⟩ := List.nodup_cons.mp hnodup
    -- the first of the list can be the first of one pair only
    cases hab with
    | cons _ hab =>
      cases hba with
      | cons _ hba => exact ih hkeys hab hba
      | cons_cons _ hba => exact hk (hab.subset (by simp))
    | cons_cons _ hab =>
      cases hba with
      | cons _ hba => exact hk (hba.subset (by simp))
      | cons_cons _ hba => exact hne rfl

omit [DecidableEq Cols] in
/-- A new provider is not the default. -/
theorem isDefault_newProvider {cfg : Config} {draws : SecretDraws} {key : Uuid}
    {data : SSOProviderCreate Cols} {provider : SSOProvider Cols}
    (h : newProvider cfg draws key data = .ok provider) : provider.isDefault = false := by
  unfold newProvider at h
  cases hsecret : encryptGiven cfg draws.clientSecret data.clientSecret with
  | error e => simp [hsecret, bind, Except.bind] at h
  | ok secret =>
    cases hkey : encryptGiven cfg draws.samlSpPrivateKey data.samlSpPrivateKey with
    | error e => simp [hsecret, hkey, bind, Except.bind] at h
    | ok key =>
      simp only [hsecret, hkey, bind, Except.bind, Except.ok.injEq] at h
      exact h ▸ rfl

variable {db : List (SSOProvider Cols)} {rows rows' : Set Uuid} {id : Uuid} {todo done : List Uuid}

/-- An update that commits leaves one default row at most. -/
theorem SingleDefault.writeUpdate {provider changed : SSOProvider Cols} (h : SingleDefault db)
    (hK : Claims provider changed → Cleared db rows provider.id [] done) :
    SingleDefault (writeUpdate provider changed done db) := by
  refine ⟨(ids_writeUpdate provider changed done db).symm ▸ h.nodup, fun p hp q hq hpd hqd => ?_⟩
  obtain ⟨hpdone, p₀, hp₀, hpid, hporigin⟩ := exists_of_mem_writeUpdate hp hpd
  obtain ⟨hqdone, q₀, hq₀, hqid, hqorigin⟩ := exists_of_mem_writeUpdate hq hqd
  by_cases hclaims : Claims provider changed
  · -- a default row other than the claimed one would have been cleared
    have hown : ∀ r ∈ db, r.id ∉ done → (r.isDefault = true ∨ r.id = provider.id) →
        r.id = provider.id := by
      intro r hr hrdone horigin
      by_contra hne
      have hfalse := ((hK hclaims).later r hr hne List.not_mem_nil hrdone).1
      rcases horigin with hdefault | heq
      · rw [hfalse] at hdefault
        cases hdefault
      · exact hne heq
    have hpown := hown p₀ hp₀ (hpid ▸ hpdone) (hporigin.imp_right fun h => hpid.trans h.1)
    have hqown := hown q₀ hq₀ (hqid ▸ hqdone) (hqorigin.imp_right fun h => hqid.trans h.1)
    calc p.id = p₀.id := hpid.symm
      _ = provider.id := hpown
      _ = q₀.id := hqown.symm
      _ = q.id := hqid
  · have hp₀d := hporigin.resolve_right fun h => hclaims h.2
    have hq₀d := hqorigin.resolve_right fun h => hclaims h.2
    rw [← hpid, ← hqid]
    exact h.single p₀ hp₀ q₀ hq₀ hp₀d hq₀d

/-- An update that holds none of the locks of another cannot add a default row
behind its back: of the two rows claimed, each would have been added after the
other. -/
theorem Cleared.writeUpdate {provider changed : SSOProvider Cols} {done' : List Uuid}
    (h : Cleared db rows' id todo done) (hnodup : (ids db).Nodup)
    (hK : Claims provider changed → Cleared db rows provider.id [] done')
    (hdisjoint : Disjoint rows rows') :
    Cleared (writeUpdate provider changed done' db) rows' id todo done := by
  have hids := ids_writeUpdate provider changed done' db
  refine ⟨h.own_locked, hids ▸ h.own_stored, h.done_locked, fun p hp hne htodo hdone => ?_⟩
  have hmem : p.id ∈ ids db := hids ▸ List.mem_map_of_mem hp
  obtain ⟨q, hq, hqid⟩ := List.mem_map.mp hmem
  obtain ⟨hqfalse, horder⟩ := h.later q hq (hqid ▸ hne) (hqid ▸ htodo) (hqid ▸ hdone)
  rw [hqid] at horder
  refine ⟨?_, hids ▸ horder⟩
  by_contra hdefault
  obtain ⟨-, r, hr, hrid, horigin⟩ :=
    exists_of_mem_writeUpdate hp (Bool.not_eq_false _ ▸ hdefault)
  rcases horigin with hrdefault | ⟨hown, hclaims⟩
  · have hrfalse := (h.later r hr (hrid ▸ hne) (hrid ▸ htodo) (hrid ▸ hdone)).1
    rw [hrfalse] at hrdefault
    cases hrdefault
  · -- each of the two rows would have been added after the other
    have hother := hK hclaims
    have hlocked : id ∉ rows := fun hin => Set.disjoint_left.mp hdisjoint hin h.own_locked
    obtain ⟨own, hown', hownid⟩ := List.mem_map.mp h.own_stored
    have hback := (hother.later own hown' (by rw [hownid, ← hown]; exact hne.symm)
      List.not_mem_nil (fun hin => hlocked (hownid ▸ hother.done_locked _ hin))).2
    rw [hownid, ← hown] at hback
    exact not_sublist_of_sublist hnodup hne.symm horder hback

omit [DecidableEq Cols] in
theorem Cleared.append {provider : SSOProvider Cols} (h : Cleared db rows id todo done)
    (hnew : provider.isDefault = false) : Cleared (db++[provider]) rows id todo done := by
  have hids : ids (db++[provider]) = ids db++[provider.id] := List.map_append
  refine ⟨h.own_locked, hids ▸ List.mem_append_left _ h.own_stored, h.done_locked, ?_⟩
  intro p hp hne htodo hdone
  rw [hids]
  rcases List.mem_append.mp hp with hold | hlast
  · obtain ⟨hfalse, horder⟩ := h.later p hold hne htodo hdone
    exact ⟨hfalse, horder.trans (List.sublist_append_left _ _)⟩
  · obtain rfl := List.mem_singleton.mp hlast
    exact ⟨hnew, (List.singleton_sublist.mpr h.own_stored).append (List.Sublist.refl _)⟩

omit [DecidableEq Cols] in
theorem ids_remove (key : Uuid) (db : List (SSOProvider Cols)) :
    ids (Table.remove SSOProvider.id key db) = (ids db).filter (fun i => i ≠ key) := by
  rw [ids, ids, Table.remove, List.filter_map]
  rfl

omit [DecidableEq Cols] in
theorem Cleared.remove {key : Uuid} (h : Cleared db rows id todo done) (hne : id ≠ key) :
    Cleared (Table.remove SSOProvider.id key db) rows id todo done := by
  have hown := Table.mem_map_remove h.own_stored hne
  refine ⟨h.own_locked, hown, h.done_locked, fun p hp hpne htodo hdone => ?_⟩
  obtain ⟨hp, hkey⟩ := List.mem_filter.mp hp
  obtain ⟨hfalse, horder⟩ := h.later p hp hpne htodo hdone
  refine ⟨hfalse, ?_⟩
  rw [ids_remove]
  have hkept := horder.filter (fun i => decide (i ≠ key))
  simpa [hne, of_decide_eq_true hkey] using hkept

omit [DecidableEq Cols] in
/-- The UPDATE of the other rows goes on to one of them. -/
theorem Cleared.clear (h : Cleared db rows id todo done) (key : Uuid) :
    Cleared db (rows ∪ {r | r ∈ if key ∈ ids db then [key] else []}) id (todo.erase key)
      (if key ∈ ids db then key :: done else done) := by
  refine ⟨Or.inl h.own_locked, h.own_stored, fun i hi => ?_, fun p hp hne hptodo hpdone => ?_⟩
  · by_cases hstored : key ∈ ids db
    · rw [if_pos hstored] at hi ⊢
      rcases List.mem_cons.mp hi with rfl | hdone
      · exact Or.inr (List.mem_singleton_self i)
      · exact Or.inl (h.done_locked i hdone)
    · rw [if_neg hstored] at hi
      exact Or.inl (h.done_locked i hi)
  · have hstored : p.id ∈ ids db := List.mem_map_of_mem hp
    -- a stored row leaves `todo` only for `done`
    have hkey : p.id ≠ key := by
      rintro rfl
      rw [if_pos hstored] at hpdone
      exact hpdone List.mem_cons_self
    refine h.later p hp hne (fun hin => hptodo ?_) (fun hin => hpdone ?_)
    · exact (List.mem_erase_of_ne hkey).mpr hin
    · split_ifs
      · exact List.mem_cons_of_mem _ hin
      · exact hin

/-! What each statement, COMMIT and ROLLBACK leaves of the assertions. -/

variable {cfg : Config} {m m' : Session Cols} {db' : List (SSOProvider Cols)}

theorem sessionInv_stmt {a : Statement Cols} (hK : SessionInv db rows m)
    (h : (providerProgram cfg).stmt db m a = some m') :
    SessionInv db (rows ∪ {r | r ∈ (providerProgram cfg).locks db m a}) m' := by
  unfold providerProgram at h ⊢
  dsimp only at h ⊢
  split at h
  case h_1 key data =>
    cases hfind : Table.find SSOProvider.id key db <;> rw [hfind] at h <;>
      exact Option.some.inj h ▸ trivial
  case h_2 provider data draws =>
    cases hset : setFields cfg draws provider data with
    | error e =>
      rw [hset] at h
      exact Option.some.inj h ▸ trivial
    | ok changed =>
      simp only [hset] at h ⊢
      split_ifs at h with hrow
      · obtain rfl := Option.some.inj h
        rintro ⟨hold, hnew⟩
        -- the flag changes, so the UPDATE is sent and the row is locked
        have hne : changed ≠ provider := by
          rintro rfl
          exact Bool.noConfusion (hold.symm.trans hnew)
        refine ⟨Or.inr (by simp [hne]), hrow.resolve_left hne, ?_⟩
        have hflag := (setFields_eq_ok cfg hset).2
        rw [hold, hnew] at hflag
        cases hdefault : data.isDefault with
        | none => simp [hdefault] at hflag
        | some b =>
          rw [hdefault, Option.getD_some] at hflag
          rw [hflag]
      · exact Option.some.inj h ▸ trivial
  case h_3 provider changed data =>
    split_ifs at h
    obtain rfl := Option.some.inj h
    intro hclaims
    obtain ⟨hlocked, hstored, -⟩ := hK hclaims
    refine ⟨Or.inl hlocked, hstored, by simp, fun p hp hne htodo => ?_⟩
    have hscan : p.id ∈ (ids db).filter (fun i => i ≠ provider.id) :=
      List.mem_filter.mpr ⟨List.mem_map_of_mem hp, decide_eq_true hne⟩
    exact absurd hscan htodo
  case h_4 provider changed todo done key =>
    by_cases htodo : key ∈ todo
    · rw [if_pos htodo] at h
      obtain rfl := Option.some.inj h
      exact fun hclaims => (hK hclaims).clear key
    · rw [if_neg htodo] at h
      cases h
  case h_5 provider changed data =>
    split_ifs at h with hdefault hstored
    · obtain rfl := Option.some.inj h
      exact fun hclaims => absurd (hK hclaims).2.2 hdefault
    · exact Option.some.inj h ▸ trivial
  case h_6 provider changed done =>
    split_ifs at h
    · obtain rfl := Option.some.inj h
      intro hclaims
      obtain ⟨hown, hstored, hdone, hlater⟩ := hK hclaims
      exact ⟨Or.inl hown, hstored, fun i hi => Or.inl (hdone i hi), hlater⟩
    · exact Option.some.inj h ▸ trivial
  case h_7 draws key data =>
    cases hnew : newProvider cfg draws key data with
    | error e =>
      rw [hnew] at h
      exact Option.some.inj h ▸ trivial
    | ok provider =>
      simp only [hnew] at h
      split_ifs at h
      · exact Option.some.inj h ▸ trivial
      · obtain rfl := Option.some.inj h
        exact isDefault_newProvider hnew
  case h_8 key =>
    split_ifs at h with hstored
    · obtain rfl := Option.some.inj h
      exact Or.inr (by simp [hstored])
    · exact Option.some.inj h ▸ trivial
  case h_9 => cases h

theorem publish_eq_some (h : (providerProgram cfg).publish db m = some (db', m')) :
    (∃ provider changed done, m = .refreshed provider changed done ∧
      db' = writeUpdate provider changed done db) ∨
    (∃ provider, m = .created provider ∧ (∀ p ∈ db, p.id ≠ provider.id) ∧ db' = db++[provider]) ∨
    (∃ key, m = .deleted key ∧ db' = Table.remove SSOProvider.id key db) := by
  cases m with
  | refreshed provider changed done =>
    obtain ⟨rfl, -⟩ := Prod.mk.inj (Option.some.inj h)
    exact Or.inl ⟨provider, changed, done, rfl, rfl⟩
  | created provider =>
    obtain ⟨rows, hinsert, hrows⟩ := Option.map_eq_some_iff.mp h
    obtain ⟨hfresh, rfl⟩ := Table.insert_eq_some_iff.mp hinsert
    exact Or.inr (Or.inl ⟨provider, rfl, hfresh, (Prod.mk.inj hrows).1.symm⟩)
  | deleted key =>
    obtain ⟨rfl, -⟩ := Prod.mk.inj (Option.some.inj h)
    exact Or.inr (Or.inr ⟨key, rfl, rfl⟩)
  | _ => cases h

theorem publish_finished (h : (providerProgram cfg).publish db m = some (db', m')) :
    m' = .finished := by
  cases m with
  | refreshed provider changed done => exact (Prod.mk.inj (Option.some.inj h)).2.symm
  | created provider =>
    obtain ⟨rows, -, hrows⟩ := Option.map_eq_some_iff.mp h
    exact (Prod.mk.inj hrows).2.symm
  | deleted key => exact (Prod.mk.inj (Option.some.inj h)).2.symm
  | _ => cases h

theorem singleDefault_publish (hJ : SingleDefault db) (hK : SessionInv db rows m)
    (h : (providerProgram cfg).publish db m = some (db', m')) : SingleDefault db' := by
  rcases publish_eq_some h with ⟨provider, changed, done, rfl, rfl⟩ | ⟨provider, rfl, hfresh, rfl⟩ |
    ⟨key, rfl, rfl⟩
  · exact hJ.writeUpdate hK
  · refine ⟨Table.nodup_append_singleton hJ.nodup hfresh, ?_⟩
    have hold : ∀ p ∈ db++[provider], p.isDefault = true → p ∈ db := by
      intro p hp hdefault
      refine (List.mem_append.mp hp).resolve_right fun hlast => ?_
      rw [List.mem_singleton.mp hlast, hK] at hdefault
      cases hdefault
    exact fun p hp q hq hpd hqd => hJ.single p (hold p hp hpd) q (hold q hq hqd) hpd hqd
  · exact ⟨Table.nodup_remove hJ.nodup, fun p hp q hq =>
      hJ.single p (List.mem_of_mem_filter hp) q (List.mem_of_mem_filter hq)⟩

/-- A commit leaves what an update under other locks relies on. -/
theorem Cleared.publish (h : Cleared db rows' id todo done) (hnodup : (ids db).Nodup)
    (hK : SessionInv db rows m) (hpublish : (providerProgram cfg).publish db m = some (db', m'))
    (hdisjoint : Disjoint rows rows') : Cleared db' rows' id todo done := by
  rcases publish_eq_some hpublish with ⟨provider, changed, done', rfl, rfl⟩ |
    ⟨provider, rfl, -, rfl⟩ | ⟨key, rfl, rfl⟩
  · exact h.writeUpdate hnodup hK hdisjoint
  · exact h.append hK
  · refine h.remove ?_
    rintro rfl
    exact Set.disjoint_left.mp hdisjoint hK h.own_locked

theorem stored_publish {key : Uuid} (hstored : key ∈ ids db) (hlocked : key ∈ rows')
    (hK : SessionInv db rows m) (h : (providerProgram cfg).publish db m = some (db', m'))
    (hdisjoint : Disjoint rows rows') : key ∈ ids db' := by
  rcases publish_eq_some h with ⟨provider, changed, done, rfl, rfl⟩ | ⟨provider, rfl, -, rfl⟩ |
    ⟨gone, rfl, rfl⟩
  · exact (ids_writeUpdate provider changed done db).symm ▸ hstored
  · rw [ids, List.map_append]
    exact List.mem_append_left _ hstored
  · refine Table.mem_map_remove hstored ?_
    rintro rfl
    exact Set.disjoint_left.mp hdisjoint hK hlocked

theorem sessionInv_stable {n : Session Cols} (hJ : SingleDefault db) (hK : SessionInv db rows m)
    (h : (providerProgram cfg).publish db m = some (db', m')) (hdisjoint : Disjoint rows rows')
    (hn : SessionInv db rows' n) : SessionInv db' rows' n := by
  cases n with
  | flushed provider changed data =>
    intro hclaims
    obtain ⟨hlocked, hstored, hdefault⟩ := hn hclaims
    exact ⟨hlocked, stored_publish hstored hlocked hK h hdisjoint, hdefault⟩
  | clearing provider changed todo done =>
    exact fun hclaims => (hn hclaims).publish hJ.nodup hK h hdisjoint
  | refreshed provider changed done =>
    exact fun hclaims => (hn hclaims).publish hJ.nodup hK h hdisjoint
  | created provider => exact hn
  | deleted key => exact hn
  | _ => trivial

theorem providerOutline :
    Outline (providerProgram cfg) (@SingleDefault Cols) SessionInv where
  stmt _ hK h := sessionInv_stmt hK h
  commit hJ hK h := by
    refine ⟨singleDefault_publish hJ hK h, ?_⟩
    rw [publish_finished h]
    trivial
  abort _ _ := trivial
  stable hJ hK h hdisjoint hn := sessionInv_stable hJ hK h hdisjoint hn

omit [DecidableEq Cols] in
/-- Rows with distinct keys, one of which at most is the default, are found by
`get_default_provider` without an error. -/
theorem SingleDefault.getDefaultProvider (h : SingleDefault db) :
    ∃ found, getDefaultProvider db = .ok found := by
  refine exists_scalarOneOrNone_iff.mpr ?_
  have hnodup : ((db.filter (fun p => p.isDefault && p.isActive)).map SSOProvider.id).Nodup :=
    h.nodup.sublist (List.filter_sublist.map _)
  by_contra hlen
  obtain ⟨p, q, rest, heq⟩ : ∃ p q rest,
      db.filter (fun p => p.isDefault && p.isActive) = p :: q :: rest := by
    cases hrows : db.filter (fun p => p.isDefault && p.isActive) with
    | nil => simp [hrows] at hlen
    | cons p rest =>
      cases rest with
      | nil => simp [hrows] at hlen
      | cons q rest => exact ⟨p, q, rest, rfl⟩
  have hmem : ∀ r ∈ [p, q], r ∈ db ∧ r.isDefault = true := by
    intro r hr
    have hin : r ∈ db.filter (fun p => p.isDefault && p.isActive) := by
      rw [heq]
      exact List.mem_append_left rest hr
    obtain ⟨hdb, hflags⟩ := List.mem_filter.mp hin
    exact ⟨hdb, (Bool.and_eq_true_iff.mp hflags).1⟩
  have hsame := h.single p (hmem p (by simp)).1 q (hmem q (by simp)).1 (hmem p (by simp)).2
    (hmem q (by simp)).2
  rw [heq, List.map_cons, List.map_cons, hsame] at hnodup
  exact (List.nodup_cons.mp hnodup).1 List.mem_cons_self

/-- In every interleaving of requests that create, update and delete providers,
one provider at most is the default, and a login without a provider never fails
for finding two. -/
theorem default_provider_unique {Tx : Type} [DecidableEq Tx]
    (labels : List (Label (Statement Cols) Tx)) :
    Throughout (step (providerProgram cfg))
      (fun s => (∀ p ∈ s.committed, ∀ q ∈ s.committed, p.isDefault = true → q.isDefault = true →
          p = q) ∧ ∃ found, getDefaultProvider s.committed = .ok found)
      (start [] .idle) labels := by
  refine throughout_iff_prefix.mpr fun done rest s hsplit hrun => ?_
  have hstart : SingleDefault ([] : List (SSOProvider Cols)) :=
    ⟨List.nodup_nil, fun p hp => absurd hp List.not_mem_nil⟩
  have hinv : SingleDefault s.committed :=
    (providerOutline.holds_exec (holds_start hstart (show SessionInv [] ∅ .idle from trivial)) hrun).1
  refine ⟨fun p hp q hq hpd hqd => ?_, hinv.getDefaultProvider⟩
  exact List.inj_on_of_nodup_map hinv.nodup hp hq (hinv.single p hp q hq hpd hqd)

end LegalForge.SsoProviders
