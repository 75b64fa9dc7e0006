import LegalForge.ConflictCheck
import LegalForge.DecimalText
import LegalForge.SsoLogin
import LegalForge.TemplatePlaceholders

/-! What a template is filled in with: the fields of a matter, its client, its
attorney and its numbered contacts, each under a name of its own. -/
namespace LegalForge.Templates
open Auth Clients Matters
open Conflicts (MatterContact)
open Sso (updateFields)

/-- A contact as a template shows it. -/
structure Contact extends Conflicts.Contact where
  phone : Option String := none

/-- A matter with the rows its relationships load. -/
structure LoadedMatter extends Matter where
  client : Option Client
  assignedAttorney : Option User
  contacts : List (MatterContact × Option Contact)

/-- `bool(text)` -/
def given (text : Option String) : Bool :=
  text.any (fun s => s ≠ "")

/-- `text or ""` -/
def orEmpty (text : Option String) : Json :=
  .str (text.getD "")

/-- `str(n) if n else ""` -/
def numberOrEmpty (n : Option ℤ) : Json :=
  match n with
  | none => .str ""
  | some n => if n = 0 then .str "" else .str (String.ofList (Decimal.intText n))

/-- `Client.display_name` -/
def displayName (client : Client) : String :=
  if client.clientType = .organization then client.organizationName.getD ""
  else Text.strip (client.firstName.getD ""++" "++client.lastName.getD "")

def clientFullName (client : Client) : String :=
  if given client.firstName ∧ given client.lastName then
    client.firstName.getD ""++" "++client.lastName.getD ""
  else if given client.organizationName then client.organizationName.getD ""
  else displayName client

/-- `client.address_json or {}`, of which only a dictionary has a `get`. -/
def addressOf (client : Client) : Option (List (String × Json)) :=
  match (client.addressJson.getD .null).or (.obj []) with
  | .obj address => some address
  | _ => none

/-- `addr.get(key, "")` -/
def addressPart (address : List (String × Json)) (key : String) : Json :=
  (address.lookup key).getD (.str "")

/-- `sep.join(filter(None, parts))`, nothing for a `TypeError` -/
def joinGiven (sep : String) (parts : List Json) : Option String :=
  ((parts.filter Json.truthy).mapM fun part : Json =>
    match part with
    | .str s => some s
    | _ => none).map (String.intercalate sep)

/-- The assignments for a client, in order. -/
def clientFields (client : Client) : Option (List (String × Json)) := do
  let address ← addressOf client
  let street := addressPart address "street"
  let city := addressPart address "city"
  let stateZip ← joinGiven " " [addressPart address "state", addressPart address "zip"]
  let full ← joinGiven ", " ([street, city]++if stateZip = "" then [] else [.str stateZip])
  return [("client_first_name", orEmpty client.firstName),
    ("client_last_name", orEmpty client.lastName),
    ("client_full_name", .str (clientFullName client)),
    ("client_organization", orEmpty client.organizationName),
    ("client_email", orEmpty client.email),
    ("client_phone", orEmpty client.phone),
    ("client_number", numberOrEmpty client.clientNumber),
    ("client_address_street", street),
    ("client_address_city", city),
    ("client_address_state", addressPart address "state"),
    ("client_address_zip", addressPart address "zip"),
    ("client_address_full", .str full)]

/-- `d.strftime("%m/%d/%Y")` -/
def shortDate (day : Day) : String :=
  String.ofList (Decimal.slashedDate day.ordinal)

def monthName : ℕ → String
  | 1 => "January"
  | 2 => "February"
  | 3 => "March"
  | 4 => "April"
  | 5 => "May"
  | 6 => "June"
  | 7 => "July"
  | 8 => "August"
  | 9 => "September"
  | 10 => "October"
  | 11 => "November"
  | _ => "December"

/-- `d.strftime("%B %d, %Y")` -/
def longDate (day : Day) : String :=
  match Decimal.yearMonthDay day.ordinal with
  | (year, month, d) => monthName month++" "++String.ofList (Encoding.padded 10 2 d)++", "++
      String.ofList (Nat.toDigits 10 year)

def matterFields (m : Matter) : List (String × Json) :=
  [("matter_number", numberOrEmpty m.matterNumber),
   ("matter_title", .str m.title),
   ("matter_case_number", orEmpty m.caseNumber),
   ("matter_court", orEmpty m.courtName),
   ("matter_jurisdiction", orEmpty m.jurisdiction),
   ("matter_type", .str m.litigationType.value),
   ("matter_status", .str m.status.value),
   ("matter_description", orEmpty m.description),
   ("matter_date_opened", .str (shortDate m.dateOpened))]

def attorneyFields (attorney : Option User) : List (String × Json) :=
  match attorney with
  | some user =>
    [("attorney_first_name", .str user.firstName),
     ("attorney_last_name", .str user.lastName),
     ("attorney_full_name", .str (user.firstName++" "++user.lastName)),
     ("attorney_email", .str user.email)]
  | none =>
    [("attorney_first_name", .str ""), ("attorney_last_name", .str ""),
     ("attorney_full_name", .str ""), ("attorney_email", .str "")]

def firmFields (appName : String) (today : Day) : List (String × Json) :=
  [("firm_name", .str appName),
   ("current_date", .str (shortDate today)),
   ("current_date_long", .str (longDate today)),
   ("current_year", .str (String.ofList (Nat.toDigits 10 (Decimal.yearMonthDay today.ordinal).1)))]

/-- `contact_{idx}_{field}` -/
def contactKey (idx : ℕ) (field : String) : String :=
  "contact_"++String.ofList (Nat.toDigits 10 idx)++"_"++field

def contactFields (entry : MatterContact) (contact : Contact) : List (String × Json) :=
  [("name", .str (contact.firstName++" "++contact.lastName)),
   ("first_name", .str contact.firstName),
   ("last_name", .str contact.lastName),
   ("role", .str entry.relationshipType),
   ("organization", orEmpty contact.organization),
   ("email", orEmpty contact.email),
   ("phone", orEmpty contact.phone)]

/-- The assignments for the contacts that are there, which count from `idx`. -/
def numberedFields : ℕ → List (MatterContact × Option Contact) → List (String × Json)
  | _, [] => []
  | idx, (_, none) :: rest => numberedFields (idx+1) rest
  | idx, (entry, some contact) :: rest =>
    (contactFields entry contact).map (fun f => (contactKey idx f.1, f.2))++
      numberedFields (idx+1) rest

/-- All assignments to the context, in the order they are made. -/
def templateFields (appName : String) (today : Day) (m : LoadedMatter) :
    Option (List (String × Json)) :=
  (match m.client with
    | some client => clientFields client
    | none => some []).map fun clientPart =>
      clientPart++matterFields m.toMatter++attorneyFields m.assignedAttorney++
        firmFields appName today++numberedFields 1 m.contacts

/-- `context[key] = value`, one after the other. -/
def assignFields (fields : List (String × Json)) : List (String × Json) :=
  fields.foldl (fun context f => updateFields context [f]) []

/-- `build_template_context` for a matter that is there, nothing for an exception. -/
def buildTemplateContext (appName : String) (today : Day) (m : LoadedMatter) :
    Option (List (String × Json)) :=
  (templateFields appName today m).map assignFields

/-- The context a document is generated with. -/
def generationContext (appName : String) (today : Day) (m : LoadedMatter)
    (customOverrides : Option (List (String × String))) : Option (List (String × Json)) := do
  let context ← buildTemplateContext appName today m
  match customOverrides with
  | none => return context
  | some overrides => return updateFields context (overrides.map fun o => (o.1, .str o.2))

/-- Assignments under distinct keys are the dictionary they make. -/
theorem assignFields_of_nodup {fields : List (String × Json)} (h : (fields.map Prod.fst).Nodup) :
    assignFields fields = fields := by
  have hstep : ∀ done todo : List (String × Json), ((done++todo).map Prod.fst).Nodup →
      todo.foldl (fun context f => updateFields context [f]) done = done++todo := by
    intro done todo
    induction todo generalizing done with
    | nil => intro _; exact (List.append_nil done).symm
    | cons f todo ih =>
      intro hnodup
      have hnew : ∀ g ∈ done, g.1 ≠ f.1 := by
        intro g hg heq
        rw [List.map_append] at hnodup
        exact List.disjoint_of_nodup_append hnodup (List.mem_map_of_mem hg)
          (heq ▸ List.mem_map_of_mem List.mem_cons_self)
      have hadd : updateFields done [f] = done++[f] := by
        have hlookup : done.lookup f.1 = none := List.lookup_eq_none_iff.mpr fun g hg =>
          bne_iff_ne.mpr (hnew g hg).symm
        have hkept : done.map (fun g => (g.1, (List.lookup g.1 [f]).getD g.2)) = done := by
          refine (List.map_congr_left fun g hg => ?_).trans (List.map_id done)
          rw [List.lookup_cons, beq_false_of_ne (hnew g hg)]
          rfl
        rw [updateFields, hkept, List.filter_cons_of_pos (by rw [hlookup]; rfl), List.filter_nil]
      rw [List.foldl_cons, hadd, ih _ (by simpa using hnodup), List.append_assoc,
        List.singleton_append]
  exact hstep [] fields h

section Lookup

variable {ι : Type*} [DecidableEq ι] {β : Type*}

theorem lookup_mapValues (g : ι → β → β) (fields : List (ι × β)) (key : ι) :
    (fields.map fun f => (f.1, g f.1 f.2)).lookup key = (fields.lookup key).map (g key) := by
  induction fields with
  | nil => rfl
  | cons f fields ih =>
    rw [List.map_cons, List.lookup_cons, List.lookup_cons]
    by_cases hkey : key = f.1
    · rw [beq_iff_eq.mpr hkey, hkey]
      rfl
    · rw [beq_false_of_ne hkey]
      exact ih

theorem lookup_filterKeys (q : ι → Bool) (fields : List (ι × β)) (key : ι) :
    (fields.filter fun f => q f.1).lookup key = if q key then fields.lookup key else none := by
  induction fields with
  | nil => simp
  | cons f fields ih =>
    by_cases hkey : key = f.1
    · subst hkey
      rw [List.filter_cons]
      by_cases hq : q f.1 = true
      · rw [if_pos hq, if_pos hq, List.lookup_cons_self, List.lookup_cons_self]
      · rw [if_neg hq, if_neg hq, ih, if_neg hq]
    · have hne : (key == f.1) = false := beq_false_of_ne hkey
      rw [List.lookup_cons, hne, ← ih, List.filter_cons]
      by_cases hq : q f.1 = true
      · rw [if_pos hq, List.lookup_cons, hne]
      · rw [if_neg hq]

/-- A key that occurs once is found with its value. -/
theorem lookup_of_mem {fields : List (ι × β)} (hnodup : (fields.map Prod.fst).Nodup)
    {f : ι × β} (hf : f ∈ fields) : fields.lookup f.1 = some f.2 := by
  obtain ⟨front, back, rfl⟩ := List.append_of_mem hf
  refine List.lookup_eq_some_iff.mpr ⟨front, back, rfl, fun g hg => ?_⟩
  rw [List.map_append] at hnodup
  have hne : f.1 ≠ g.1 := fun heq => List.disjoint_of_nodup_append hnodup (List.mem_map_of_mem hg)
    (heq ▸ List.mem_map_of_mem List.mem_cons_self)
  exact bne_iff_ne.mpr hne

end Lookup

/-- An update takes the new values, and keeps the old where there is none. -/
theorem lookup_updateFields (base new : List (String × Json)) (key : String) :
    (updateFields base new).lookup key = (new.lookup key).or (base.lookup key) := by
  have hold := lookup_mapValues (fun k value => (new.lookup k).getD value) base key
  have hnew := lookup_filterKeys (fun k => (base.lookup k).isNone) new key
  rw [updateFields, List.lookup_append, hold, hnew]
  cases base.lookup key with
  | none => simp
  | some value => cases new.lookup key <;> rfl

/-- The digits of a contact's number end at the underscore. -/
theorem contactKey_inj {i j : ℕ} {a b : String} (h : contactKey i a = contactKey j b) :
    i = j ∧ a = b := by
  have htext := congrArg String.toList h
  simp only [contactKey, String.toList_append, String.toList_ofList, List.append_assoc] at htext
  have hrest := List.append_cancel_left htext
  have hend : ∀ s : String, ("_".toList++s.toList).head?.all (fun c => !c.isDigit) :=
    fun s => (by decide : (!Char.isDigit '_') = true)
  have hdigits : ∀ n : ℕ, (Nat.toDigits 10 n).all Char.isDigit := fun n =>
    List.all_eq_true.mpr fun c hc => Decimal.isDigit_of_mem_toDigits hc
  have hi := TextScan.takeWhile_dropWhile_run (hdigits i) (hend a)
  have hj := TextScan.takeWhile_dropWhile_run (hdigits j) (hend b)
  rw [hrest] at hi
  constructor
  · have hsame : Nat.toDigits 10 i = Nat.toDigits 10 j := hi.1.symm.trans hj.1
    have hvalue := congrArg (fun l => Nat.ofDigitChars 10 l 0) hsame
    simpa only [Nat.ofDigitChars_ten_toDigits] using hvalue
  · have htail := List.append_cancel_left (hi.2.symm.trans hj.2)
    exact String.toList_injective htail

/-- The names that do not depend on the contacts. -/
def baseKeys : List String :=
  ["client_first_name", "client_last_name", "client_full_name", "client_organization",
    "client_email", "client_phone", "client_number", "client_address_street",
    "client_address_city", "client_address_state", "client_address_zip", "client_address_full"]++
  ["matter_number", "matter_title", "matter_case_number", "matter_court", "matter_jurisdiction",
    "matter_type", "matter_status", "matter_description", "matter_date_opened"]++
  ["attorney_first_name", "attorney_last_name", "attorney_full_name", "attorney_email"]++
  ["firm_name", "current_date", "current_date_long", "current_year"]

def contactFieldNames : List String :=
  ["name", "first_name", "last_name", "role", "organization", "email", "phone"]

theorem baseKeys_spec : baseKeys.Nodup ∧
    ∀ key ∈ baseKeys, IsName key.toList ∧ ¬"contact_".toList <+: key.toList := by
  decide

theorem contactFieldNames_spec : contactFieldNames.Nodup ∧
    ∀ field ∈ contactFieldNames, field.toList.all isNameChar = true := by
  decide

theorem contact_prefix_contactKey (i : ℕ) (field : String) :
    "contact_".toList <+: (contactKey i field).toList := by
  simp only [contactKey, String.toList_append, List.append_assoc]
  exact List.prefix_append _ _

theorem isName_contactKey (i : ℕ) {field : String} (h : field ∈ contactFieldNames) :
    IsName (contactKey i field).toList := by
  have hdigits : (Nat.toDigits 10 i).all isNameChar = true := by
    refine List.all_eq_true.mpr fun c hc => ?_
    have hdigit := Decimal.isDigit_of_mem_toDigits hc
    simp only [Char.isDigit, Bool.and_eq_true, decide_eq_true_eq] at hdigit
    exact decide_eq_true (Or.inr hdigit)
  simp only [contactKey, String.toList_append, String.toList_ofList, List.append_assoc]
  refine ⟨?_, rfl⟩
  rw [List.all_append, List.all_append, List.all_append, hdigits, contactFieldNames_spec.2 field h]
  decide

theorem keys_clientFields {client : Client} {fields : List (String × Json)}
    (h : clientFields client = some fields) : fields.map Prod.fst = baseKeys.take 12 := by
  simp only [clientFields, Option.bind_eq_bind, Option.bind_eq_some_iff, Option.pure_def,
    Option.some.injEq] at h
  obtain ⟨_, -, _, -, _, -, rfl⟩ := h
  rfl

theorem keys_attorneyFields (attorney : Option User) :
    (attorneyFields attorney).map Prod.fst = (baseKeys.drop 21).take 4 := by
  cases attorney <;> rfl

theorem mem_numberedFields {idx : ℕ} {entries : List (MatterContact × Option Contact)}
    {f : String × Json} :
    f ∈ numberedFields idx entries ↔ ∃ i entry contact, entries[i]? = some (entry, some contact) ∧
      ∃ g ∈ contactFields entry contact, f = (contactKey (idx+i) g.1, g.2) := by
  induction entries generalizing idx with
  | nil => simp [numberedFields]
  | cons first rest ih =>
    -- the i-th of the rest has the number after
    have hshift : ∀ i, idx+1+i = idx+(i+1) := fun i => by omega
    obtain ⟨entry, contact⟩ := first
    cases contact with
    | none =>
      rw [numberedFields, ih]
      constructor
      · rintro ⟨i, e, c, hi, g, hg, hf⟩
        exact ⟨i+1, e, c, hi, g, hg, by rw [hf, hshift]⟩
      · rintro ⟨i, e, c, hi, g, hg, hf⟩
        cases i with
        | zero => cases hi
        | succ i => exact ⟨i, e, c, hi, g, hg, by rw [hf, hshift]⟩
    | some contact =>
      rw [numberedFields, List.mem_append, List.mem_map, ih]
      constructor
      · rintro (⟨g, hg, hf⟩ | ⟨i, e, c, hi, g, hg, hf⟩)
        · exact ⟨0, entry, contact, rfl, g, hg, hf.symm⟩
        · exact ⟨i+1, e, c, hi, g, hg, by rw [hf, hshift]⟩
      · rintro ⟨i, e, c, hi, g, hg, hf⟩
        cases i with
        | zero =>
          cases hi
          exact Or.inl ⟨g, hg, hf.symm⟩
        | succ i => exact Or.inr ⟨i, e, c, hi, g, hg, by rw [hf, hshift]⟩

theorem keys_contactFields (entry : MatterContact) (contact : Contact) :
    (contactFields entry contact).map Prod.fst = contactFieldNames :=
  rfl

/-- No two contacts share a name, whatever their numbers. -/
theorem nodup_numberedFields (idx : ℕ) (entries : List (MatterContact × Option Contact)) :
    ((numberedFields idx entries).map Prod.fst).Nodup := by
  induction entries generalizing idx with
  | nil => exact List.nodup_nil
  | cons first rest ih =>
    obtain ⟨entry, contact⟩ := first
    cases contact with
    | none => exact ih (idx+1)
    | some contact =>
      have hfirst : ((contactFields entry contact).map fun g => contactKey idx g.1).Nodup := by
        have hnames := contactFieldNames_spec.1
        rw [← keys_contactFields entry contact] at hnames
        have hmap := hnames.map (f := contactKey idx) fun a b h => (contactKey_inj h).2
        rwa [List.map_map] at hmap
      rw [numberedFields, List.map_append, List.map_map]
      refine hfirst.append (ih (idx+1)) ?_
      intro key hkey hrest
      obtain ⟨g, -, rfl⟩ := List.mem_map.mp hkey
      obtain ⟨f, hf, hsame⟩ := List.mem_map.mp hrest
      obtain ⟨i, _, _, -, g', -, rfl⟩ := mem_numberedFields.mp hf
      have hnumber := (contactKey_inj hsame).1
      omega

/-- The names before the contacts' are among the fixed ones, each once. -/
theorem keys_templateFields {appName : String} {today : Day} {m : LoadedMatter}
    {fields : List (String × Json)} (h : templateFields appName today m = some fields) :
    ∃ front : List (String × Json), fields = front++numberedFields 1 m.contacts ∧
      (front.map Prod.fst).Sublist baseKeys := by
  obtain ⟨clientPart, hclient, rfl⟩ := Option.map_eq_some_iff.mp h
  have hkeys : (clientPart.map Prod.fst).Sublist (baseKeys.take 12) := by
    cases hc : m.client with
    | none =>
      rw [hc] at hclient
      obtain rfl := Option.some.inj hclient
      exact List.nil_sublist _
    | some client =>
      rw [hc] at hclient
      rw [keys_clientFields hclient]
  refine ⟨_, rfl, ?_⟩
  rw [List.map_append, List.map_append, List.map_append, keys_attorneyFields]
  exact (((hkeys.append (List.Sublist.refl _)).append (List.Sublist.refl _)).append
    (List.Sublist.refl _)).trans (by rfl)

/-- The names assigned are distinct, and each can stand in a placeholder. -/
theorem templateFields_spec {appName : String} {today : Day} {m : LoadedMatter}
    {fields : List (String × Json)} (h : templateFields appName today m = some fields) :
    (fields.map Prod.fst).Nodup ∧ ∀ f ∈ fields, IsName f.1.toList := by
  obtain ⟨front, rfl, hfront⟩ := keys_templateFields h
  constructor
  · rw [List.map_append]
    refine (hfront.nodup baseKeys_spec.1).append (nodup_numberedFields 1 m.contacts) ?_
    intro key hkey hnumbered
    obtain ⟨f, hf, rfl⟩ := List.mem_map.mp hnumbered
    obtain ⟨i, _, _, -, g, -, rfl⟩ := mem_numberedFields.mp hf
    exact (baseKeys_spec.2 _ (hfront.subset hkey)).2 (contact_prefix_contactKey _ _)
  · intro f hf
    rcases List.mem_append.mp hf with hf | hf
    · exact (baseKeys_spec.2 _ (hfront.subset (List.mem_map_of_mem hf))).1
    · obtain ⟨i, entry, contact, -, g, hg, rfl⟩ := mem_numberedFields.mp hf
      have hname : g.1 ∈ contactFieldNames := List.mem_map_of_mem hg
      exact isName_contactKey _ hname

theorem lookup_map_str (overrides : List (String × String)) (key : String) :
    (overrides.map fun o => (o.1, Json.str o.2)).lookup key = (overrides.lookup key).map Json.str := by
  induction overrides with
  | nil => rfl
  | cons o overrides ih =>
    rw [List.map_cons, List.lookup_cons, List.lookup_cons, ih]
    cases key == o.1 <;> rfl

/-- What a name stands for in the document: the override, or else what the matter
gives. -/
theorem lookup_generationContext {appName : String} {today : Day} {m : LoadedMatter}
    {customOverrides : Option (List (String × String))} {context : List (String × Json)}
    (h : generationContext appName today m customOverrides = some context) :
    ∃ fields, templateFields appName today m = some fields ∧ ∀ key, context.lookup key =
      (((customOverrides.getD []).lookup key).map Json.str).or (fields.lookup key) := by
  obtain ⟨base, hbase, hcontext⟩ := Option.bind_eq_some_iff.mp h
  obtain ⟨fields, hfields, rfl⟩ := Option.map_eq_some_iff.mp hbase
  refine ⟨fields, hfields, fun key => ?_⟩
  rw [assignFields_of_nodup (templateFields_spec hfields).1] at hcontext
  cases customOverrides with
  | none =>
    obtain rfl := Option.some.inj hcontext
    rfl
  | some overrides =>
    obtain rfl := Option.some.inj hcontext
    rw [lookup_updateFields, lookup_map_str]
    rfl

/-- Every field of the matter, of however many contacts, is found under its own name
unless the request overrides it. The name can be used in a template, which then
lists it, and no other name has a value but the overrides. -/
theorem generation_context_exact {appName : String} {today : Day} {m : LoadedMatter}
    {customOverrides : Option (List (String × String))} {context : List (String × Json)}
    (h : generationContext appName today m customOverrides = some context) :
    ∃ fields, templateFields appName today m = some fields ∧
      (∀ f ∈ fields, context.lookup f.1 =
        some ((((customOverrides.getD []).lookup f.1).map Json.str).getD f.2)) ∧
      (∀ key, (∀ f ∈ fields, f.1 ≠ key) →
        context.lookup key = ((customOverrides.getD []).lookup key).map Json.str) ∧
      (∀ i entry contact, m.contacts[i]? = some (entry, some contact) →
        ∀ g ∈ contactFields entry contact, (contactKey (i+1) g.1, g.2) ∈ fields) ∧
      ∀ f ∈ fields, ∀ doc : DocxDocument, ∀ part ∈ allText doc,
        '{' :: '{' :: (f.1.toList++['}', '}']) <:+: part → f.1.toList ∈ getTemplateVariables doc := by
  obtain ⟨fields, hfields, hlookup⟩ := lookup_generationContext h
  obtain ⟨hnodup, hnames⟩ := templateFields_spec hfields
  refine ⟨fields, hfields, ?_, ?_, ?_, ?_⟩
  · intro f hf
    rw [hlookup, lookup_of_mem hnodup hf]
    cases (customOverrides.getD []).lookup f.1 <;> rfl
  · intro key hkey
    have hnone : fields.lookup key = none := List.lookup_eq_none_iff.mpr fun f hf =>
      bne_iff_ne.mpr (hkey f hf).symm
    rw [hlookup, hnone, Option.or_none]
  · intro i entry contact hi g hg
    obtain ⟨front, rfl, -⟩ := keys_templateFields hfields
    have hnumber : i+1 = 1+i := Nat.add_comm i 1
    exact List.mem_append_right front
      (mem_numberedFields.mpr ⟨i, entry, contact, hi, g, hg, by rw [hnumber]⟩)
  · intro f hf doc part hpart hinfix
    exact listed_of_infix hpart ⟨hnames f hf, [], [], rfl, rfl, by simp⟩ hinfix

/-- A matter with two contacts, of which one has been deleted. -/
def sharedMatter : LoadedMatter where
  id := 71
  matterNumber := some 1042
  title := "Ortega v. Lindqvist"
  clientId := 72
  dateOpened := ⟨739810, by decide, by decide⟩
  client := some
    { id := 72
      firstName := some "Inés"
      lastName := some "Ortega"
      addressJson := some (.obj [("city", .str "Tulsa"), ("zip", .str "74103")]) }
  assignedAttorney := none
  contacts :=
    [(⟨73, 71, 74, "expert"⟩, none),
     (⟨75, 71, 76, "witness"⟩,
      some
        { id := 76
          firstName := "Bo"
          lastName := "Lindqvist" })]

theorem generation_context_exact_sharedMatter :
    ∃ context, generationContext "LegalForge" ⟨739100, by decide, by decide⟩ sharedMatter
      (some [("contact_2_role", "eyewitness")]) = some context ∧
      context.lookup "contact_2_role" = some (.str "eyewitness") ∧
      context.lookup "contact_2_name" = some (.str "Bo Lindqvist") := by
  have hbuilt : (generationContext "LegalForge" ⟨739100, by decide, by decide⟩ sharedMatter
      (some [("contact_2_role", "eyewitness")])).isSome = true := by
    decide
  obtain ⟨context, hcontext⟩ := Option.isSome_iff_exists.mp hbuilt
  obtain ⟨fields, -, hfields, -, hcontacts, -⟩ := generation_context_exact hcontext
  have hsecond := hcontacts 1 _ _ rfl
  refine ⟨context, hcontext, ?_, ?_⟩
  · exact hfields _ (hsecond ("role", .str "witness") (by simp [contactFields]))
  · exact hfields _ (hsecond ("name", .str "Bo Lindqvist") (by simp [contactFields]))

end LegalForge.Templates
