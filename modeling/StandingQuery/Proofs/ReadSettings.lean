import Mathlib.Tactic.MkIffOfInductiveProp
import StandingQuery.Proofs.EnvironmentLayer
import StandingQuery.Proofs.Reports
import StandingQuery.Settings.Decode

/-!
# How settings read

What a value of a layer reads as, by the type of its setting, and what it means that a record is made of chosen values: each setting
reads from its own value, or has its default when no value is chosen (`Stands`). A section that is a table, or is not there, decodes
to exactly the record that is made of the values in it (`SchedulerSettings.ofSection_iff`, `RetryPolicy.ofSection_iff`,
`EmailSettings.ofSection_iff`).
-/

namespace StandingQuery

namespace Setting

/-- A text reads as itself, and a character as the text of it. -/
inductive ReadsText : Setting → String → Prop
  | text (source : SettingSource) (s : String) : ReadsText (.scalar source (.text s)) s
  | character (source : SettingSource) (c : Char) : ReadsText (.scalar source (.character c)) (String.singleton c)

/-- An integer reads as itself if it is not negative and fits in the given width. -/
inductive ReadsNumber (bits : Nat) : Setting → Nat → Prop
  | unsigned (source : SettingSource) {n : Nat} (h : n < Nat.pow 2 bits) : ReadsNumber bits (.scalar source (.unsigned n)) n
  | signed (source : SettingSource) {n : Nat} (h : n < Nat.pow 2 bits) : ReadsNumber bits (.scalar source (.signed n)) n

/-- The names of the kinds of registry read as them. -/
inductive ReadsRegistry : Setting → RegistryKind → Prop
  | memory (source : SettingSource) : ReadsRegistry (.scalar source (.text "memory")) .memory
  | rows (source : SettingSource) : ReadsRegistry (.scalar source (.text "sqlite")) .rows

/-- Whether a way of reading takes neither lists nor tables. -/
def OfScalars {α : Type} (reads : Setting → α → Prop) : Prop := ∀ v a, reads v a → ∃ source value, v = .scalar source value

theorem ReadsText.ofScalars : OfScalars ReadsText := by
  rintro _ _ (_ | _) <;> exact ⟨_, _, rfl⟩

theorem ReadsNumber.ofScalars (bits : Nat) : OfScalars (ReadsNumber bits) := by
  rintro _ _ (_ | _) <;> exact ⟨_, _, rfl⟩

theorem ReadsRegistry.ofScalars : OfScalars ReadsRegistry := by
  rintro _ _ (_ | _) <;> exact ⟨_, _, rfl⟩

/-! ## What is chosen -/

variable {α β : Type} {reads : Setting → α → Prop}

/-- Whether a setting is what its chosen value reads as, or the default if none is chosen. -/
def Stands (reads : Setting → α → Prop) (default : α) (chosen : Option Setting) (a : α) : Prop :=
  match chosen with
  | some v => reads v a
  | none => a = default

/-- Whether a setting without a default is what its chosen value reads as. -/
def Supplied (reads : Setting → α → Prop) (chosen : Option Setting) (a : α) : Prop := ∃ v, chosen = some v ∧ reads v a

/-- Whether a setting that may be missing is what its chosen value reads as, or missing if none is chosen. -/
def Optional (reads : Setting → α → Prop) (chosen : Option Setting) (a : Option α) : Prop :=
  Stands (fun v a => ∃ b, reads v b ∧ a = some b) none chosen a

theorem OfScalars.optional (h : OfScalars reads) : OfScalars fun v (a : Option α) => ∃ b, reads v b ∧ a = some b := by
  rintro v _ ⟨b, hb, -⟩
  exact h v b hb

/-- A way of reading that takes no table does not see what a value is merged over. -/
theorem OfScalars.laidOver_iff (h : OfScalars reads) (earlier : Option Setting) (v : Setting) (a : α) :
    reads (laidOver earlier v) a ↔ reads v a := by
  cases v with
  | scalar source value => cases earlier <;> rfl
  | list source items => cases earlier <;> rfl
  | table source members =>
    have htable : ∃ below, laidOver earlier (.table source members) = .table source below := by
      rcases earlier with _ | _ | _ | _ <;> exact ⟨_, rfl⟩
    obtain ⟨below, hbelow⟩ := htable
    rw [hbelow]
    constructor
    · intro hreads
      obtain ⟨_, _, hscalar⟩ := h _ _ hreads
      cases hscalar
    · intro hreads
      obtain ⟨_, _, hscalar⟩ := h _ _ hreads
      cases hscalar

/-- Of two layers the later one has the say. -/
theorem OfScalars.stands_overlay (h : OfScalars reads) (default : α) (below above : Option Setting) (a : α) :
    Stands reads default (overlay below above) a ↔ Stands reads default (above.or below) a := by
  cases above with
  | none => rfl
  | some v => exact h.laidOver_iff below v a

theorem OfScalars.supplied_overlay (h : OfScalars reads) (below above : Option Setting) (a : α) :
    Supplied reads (overlay below above) a ↔ Supplied reads (above.or below) a := by
  cases above with
  | none => rfl
  | some v => simp only [Supplied, overlay, Option.some_or, Option.some.injEq, exists_eq_left', h.laidOver_iff]

/-! ## Decoding -/

theorem text_eq_ok {v : Setting} {s : String} : text v = .ok s ↔ ReadsText v s := by
  constructor
  · intro h
    unfold text at h
    split at h
    · cases h
      exact .text _ _
    · cases h
      exact .character _ _
    · cases h
  · rintro (_ | _) <;> rfl

theorem unsigned_eq_ok {bits : Nat} {v : Setting} {n : Nat} : unsigned bits v = .ok n ↔ ReadsNumber bits v n := by
  constructor
  · intro h
    unfold unsigned at h
    dsimp only at h
    split at h
    · split at h
      · rename_i hfits
        cases h
        exact .unsigned _ hfits
      · cases h
    · split at h
      · rename_i i hfits
        cases h
        obtain ⟨n, rfl⟩ := Int.eq_ofNat_of_zero_le hfits.1
        exact .signed _ hfits.2
      · cases h
    · cases h
  · rintro (⟨_, hfits⟩ | ⟨_, hfits⟩)
    · exact if_pos hfits
    · exact if_pos ⟨Int.natCast_nonneg n, hfits⟩

theorem registryKind_eq_ok {v : Setting} {k : RegistryKind} : RegistryKind.ofSetting v = .ok k ↔ ReadsRegistry v k := by
  constructor
  · intro h
    unfold RegistryKind.ofSetting variant at h
    split at h
    · rename_i source name
      unfold variantNamed RegistryKind.variants at h
      rw [List.lookup_cons, List.lookup_cons] at h
      by_cases hmemory : name = "memory"
      · subst hmemory
        cases h
        exact .memory source
      · by_cases hrows : name = "sqlite"
        · subst hrows
          cases h
          exact .rows source
        · rw [beq_false_of_ne hmemory, beq_false_of_ne hrows] at h
          cases h
    · cases h
    · split at h <;> cases h
    · cases h
  · rintro (_ | _) <;> rfl

variable {decode : Decoder α} {m : Members} {key : String}

theorem member_missing (h : Keyed.get? m key = none) : member m key decode = .ok none := by
  unfold member
  rw [h]

theorem member_present {v : Setting} (h : Keyed.get? m key = some v) {o : Option α} :
    member m key decode = .ok o ↔ ∃ a, decode v = .ok a ∧ o = some a := by
  unfold member
  rw [h]
  cases hdecoded : decode v <;> simp [hdecoded, Except.map, Except.mapError, eq_comm]

/-- What a member decodes to, with a default for one that is missing. -/
theorem stands_member (hdecode : ∀ {v a}, decode v = .ok a ↔ reads v a) (default a : α) :
    Stands reads default (Keyed.get? m key) a ↔ ∃ o, member m key decode = .ok o ∧ o.getD default = a := by
  cases hfound : Keyed.get? m key with
  | none => simp [Stands, member_missing hfound, eq_comm]
  | some v => simp [Stands, member_present hfound, hdecode]

/-- What a member decodes to that may be missing. -/
theorem optional_member (hdecode : ∀ {v a}, decode v = .ok a ↔ reads v a) (o : Option α) :
    Optional reads (Keyed.get? m key) o ↔ member m key decode = .ok o := by
  unfold Optional
  cases hfound : Keyed.get? m key with
  | none => simp [Stands, member_missing hfound, eq_comm]
  | some v => simp [Stands, member_present hfound, hdecode]

/-- What a member decodes to that has to be there. -/
theorem supplied_member (hdecode : ∀ {v a}, decode v = .ok a ↔ reads v a) (source : SettingSource) (name : String) (a : α) :
    Supplied reads (Keyed.get? m key) a ↔ ∃ o, member m key decode = .ok o ∧ required source name o = .ok a := by
  unfold Supplied
  cases hfound : Keyed.get? m key with
  | none => simp [member_missing hfound, required]
  | some v => simp [member_present hfound, hdecode, required]

end Setting

open Setting

variable {m : Members} {source : SettingSource}

/-! ## Sections -/

/-- Whether the settings of the scheduler are what is chosen for them. -/
@[mk_iff]
structure SchedulerSettings.MadeOf (home : Option String) (chosen : KnownSetting → Option Setting) (s : SchedulerSettings) :
    Prop where
  queryTimeoutMs : Stands (ReadsNumber 64) 10000 (chosen .queryTimeoutMs) s.queryTimeoutMs
  pageSize : Stands (ReadsNumber 32) 250 (chosen .pageSize) s.pageSize
  registry : Stands ReadsRegistry .memory (chosen .registry) s.registry
  databasePath : Stands ReadsText (settingsDirectory home ++ "/beacon.db") (chosen .databasePath) s.databasePath

/-- Whether a policy of retrying is what is chosen for it. -/
@[mk_iff]
structure RetryPolicy.MadeOf (chosen : KnownSetting → Option Setting) (p : RetryPolicy) : Prop where
  maxAttempts : Stands (ReadsNumber 32) 4 (chosen .maxAttempts) p.maxAttempts
  delayMs : Stands (ReadsNumber 64) 350 (chosen .delayMs) p.delayMs

/-- Whether the settings of mail are what is chosen for them. -/
@[mk_iff]
structure EmailSettings.MadeOf (chosen : KnownSetting → Option Setting) (e : EmailSettings) : Prop where
  sender : Supplied ReadsText (chosen .sender) e.sender
  smtpHost : Supplied ReadsText (chosen .smtpHost) e.smtpHost
  smtpPort : Stands (ReadsNumber 16) 587 (chosen .smtpPort) e.smtpPort
  username : Setting.Optional ReadsText (chosen .username) e.username
  password : Setting.Optional ReadsText (chosen .password) e.password

/-- The values of the members of a table, as those of the settings of one section. -/
def KnownSetting.among (members : Members) (k : KnownSetting) : Option Setting := Keyed.get? members k.key

/-- The values in the sections of some layers. -/
def KnownSetting.within (m : Members) (k : KnownSetting) : Option Setting := inSection m k.sectionName k.key

theorem SchedulerSettings.ofTable_iff (home : Option String) (s : SchedulerSettings) :
    SchedulerSettings.ofSetting home (.table source m) = .ok s ↔ s.MadeOf home (KnownSetting.among m) := by
  rw [SchedulerSettings.madeOf_iff]
  simp only [KnownSetting.among, KnownSetting.key, stands_member unsigned_eq_ok, stands_member registryKind_eq_ok,
    stands_member text_eq_ok]
  simp only [SchedulerSettings.ofSetting, record, bind_eq_ok, pure_eq_ok]
  constructor
  · rintro ⟨databasePath, hpath, pageSize, hsize, timeout, htimeout, registry, hregistry, rfl⟩
    exact ⟨⟨_, htimeout, rfl⟩, ⟨_, hsize, rfl⟩, ⟨_, hregistry, rfl⟩, ⟨_, hpath, rfl⟩⟩
  · obtain ⟨_, _, _, _⟩ := s
    rintro ⟨⟨timeout, htimeout, rfl⟩, ⟨pageSize, hsize, rfl⟩, ⟨registry, hregistry, rfl⟩, ⟨databasePath, hpath, rfl⟩⟩
    exact ⟨_, hpath, _, hsize, _, htimeout, _, hregistry, rfl⟩

theorem RetryPolicy.ofTable_iff (p : RetryPolicy) :
    RetryPolicy.ofSetting (.table source m) = .ok p ↔ p.MadeOf (KnownSetting.among m) := by
  rw [RetryPolicy.madeOf_iff]
  simp only [KnownSetting.among, KnownSetting.key, stands_member unsigned_eq_ok]
  simp only [RetryPolicy.ofSetting, record, bind_eq_ok, pure_eq_ok]
  constructor
  · rintro ⟨delay, hdelay, attempts, hattempts, rfl⟩
    exact ⟨⟨_, hattempts, rfl⟩, ⟨_, hdelay, rfl⟩⟩
  · obtain ⟨_, _⟩ := p
    rintro ⟨⟨attempts, hattempts, rfl⟩, ⟨delay, hdelay, rfl⟩⟩
    exact ⟨_, hdelay, _, hattempts, rfl⟩

theorem EmailSettings.ofTable_iff (e : EmailSettings) :
    EmailSettings.ofSetting (.table source m) = .ok e ↔ e.MadeOf (KnownSetting.among m) := by
  rw [EmailSettings.madeOf_iff]
  simp only [KnownSetting.among, KnownSetting.key, stands_member unsigned_eq_ok, optional_member text_eq_ok,
    supplied_member text_eq_ok source "sender" e.sender, supplied_member text_eq_ok source "smtp_host" e.smtpHost]
  simp only [EmailSettings.ofSetting, record, bind_eq_ok, pure_eq_ok]
  constructor
  · rintro ⟨password, hpassword, sender, hsender, host, hhost, port, hport, username, husername, a, ha, b, hb, rfl⟩
    exact ⟨⟨_, hsender, ha⟩, ⟨_, hhost, hb⟩, ⟨_, hport, rfl⟩, husername, hpassword⟩
  · obtain ⟨_, _, _, _, _⟩ := e
    rintro ⟨⟨sender, hsender, ha⟩, ⟨host, hhost, hb⟩, ⟨port, hport, rfl⟩, husername, hpassword⟩
    exact ⟨_, hpassword, _, hsender, _, hhost, _, hport, _, husername, _, ha, _, hb, rfl⟩

/-- What a section decodes to that is a table: what its table does, and a missing one what an empty table does. -/
theorem Setting.section_iff {α : Type} (decode : Setting.Decoder α) (default : α) {sectionName : String}
    (h : SectionIs m sectionName fun _ _ => True) (hdefault : decode (.table .environment []) = .ok default)
    {made : (KnownSetting → Option Setting) → α → Prop}
    (htable : ∀ source members a, decode (.table source members) = .ok a ↔ made (KnownSetting.among members) a) (a : α) :
    (∃ o, member m sectionName decode = .ok o ∧ o.getD default = a) ↔ made (fun k => inSection m sectionName k.key) a := by
  cases hfound : Keyed.get? m sectionName with
  | none =>
    have hmissing : (fun k : KnownSetting => inSection m sectionName k.key) = KnownSetting.among [] := by
      funext k
      simp [inSection, hfound, KnownSetting.among]
    rw [hmissing, ← htable .environment, hdefault]
    simp [member_missing hfound]
  | some v =>
    obtain ⟨source, members, rfl, -⟩ := h v hfound
    have hmembers : (fun k : KnownSetting => inSection m sectionName k.key) = KnownSetting.among members := by
      funext k
      simp [inSection, hfound, KnownSetting.among, members?]
    rw [hmembers, ← htable source]
    simp [member_present hfound]

theorem SchedulerSettings.ofSection_iff {home : Option String} (h : SectionIs m "scheduler" fun _ _ => True)
    (s : SchedulerSettings) :
    (∃ o, member m "scheduler" (SchedulerSettings.ofSetting home) = .ok o ∧ o.getD (.standard home) = s) ↔
      s.MadeOf home (KnownSetting.within m) := by
  rw [section_iff (SchedulerSettings.ofSetting home) (.standard home) h rfl fun _ _ => SchedulerSettings.ofTable_iff home]
  simp only [SchedulerSettings.madeOf_iff]
  rfl

theorem RetryPolicy.ofSection_iff (h : SectionIs m "retry" fun _ _ => True) (p : RetryPolicy) :
    (∃ o, member m "retry" RetryPolicy.ofSetting = .ok o ∧ o.getD .standard = p) ↔ p.MadeOf (KnownSetting.within m) := by
  rw [section_iff RetryPolicy.ofSetting .standard h rfl fun _ _ => RetryPolicy.ofTable_iff]
  simp only [RetryPolicy.madeOf_iff]
  rfl

/-- The section of mail has no default: there are settings of mail if and only if the section is there. -/
theorem EmailSettings.ofSection_iff (h : SectionIs m "email" fun _ _ => True) (o : Option EmailSettings) :
    member m "email" EmailSettings.ofSetting = .ok o ↔
      (o.isSome ↔ (Keyed.get? m "email").isSome) ∧ ∀ e, o = some e → e.MadeOf (KnownSetting.within m) := by
  cases hfound : Keyed.get? m "email" with
  | none => cases o <;> simp [member_missing hfound]
  | some v =>
    obtain ⟨source, members, rfl, -⟩ := h v hfound
    have hwithin (e : EmailSettings) :
        e.MadeOf (KnownSetting.within m) ↔ EmailSettings.ofSetting (.table source members) = .ok e := by
      rw [EmailSettings.ofTable_iff]
      simp only [EmailSettings.madeOf_iff, KnownSetting.within, KnownSetting.sectionName, inSection, hfound]
      rfl
    rw [member_present hfound]
    cases o <;> simp [hwithin]

end StandingQuery
