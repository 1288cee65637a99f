import StandingQuery.Proofs.GuessedValues
import StandingQuery.Proofs.LayeredSettings

/-!
# Text settings

The settings that are texts and may be missing, and what they are loaded as when their variables are set. A load that succeeds
without the variable succeeds with it if its text, without blanks or quotes around it, stands for itself, and the setting is that
text character for character; if the text is a truth value, a number, a list or a table as a whole, the load fails, and the error
names the setting (`Settings.load_text`).
-/

namespace StandingQuery

open Setting

/-! ## One variable less -/

namespace Environment

open KnownSetting

/-- The variables but those of a setting. -/
def without (vars : List (String × String)) (k : KnownSetting) : List (String × String) :=
  vars.filter fun v => ofVariable? v.1 ≠ some k

variable {vars : List (String × String)} {k : KnownSetting}

theorem Conforms.without (h : Conforms vars) (k : KnownSetting) : Conforms (without vars k) where
  known v hv := h.known v (List.mem_of_mem_filter hv)
  once := h.once.sublist (List.filter_sublist.filterMap _)

/-- The other settings keep the values of their variables. -/
theorem variableValue_without {k' : KnownSetting} (hne : k' ≠ k) :
    variableValue (without vars k) k' = variableValue vars k' := by
  unfold variableValue without
  rw [List.find?_filter]
  congr 2
  funext v
  by_cases hv : ofVariable? v.1 = some k'
  · simp [hv, hne]
  · simp [hv]

/-- The value of a variable that is set once is what its text stands for. -/
theorem variableValue_of_mem (h : Conforms vars) {name text : String} (hset : (name, text) ∈ vars)
    (hname : ofVariable? name = some k) : variableValue vars k = some (valueOf text) := by
  obtain ⟨before, behind, rfl⟩ := List.append_of_mem hset
  have honce := h.once
  simp only [List.filterMap_append, List.filterMap_cons, hname] at honce
  have hnew : before.find? (fun v => ofVariable? v.1 == some k) = none := by
    rw [List.find?_eq_none]
    intro v hv hnames
    exact List.disjoint_of_nodup_append honce (List.mem_filterMap.2 ⟨v, hv, beq_iff_eq.1 hnames⟩) List.mem_cons_self
  unfold variableValue
  rw [List.find?_append, hnew, Option.none_or, List.find?_cons_of_pos (by simp [hname])]
  rfl

/-- One variable more is laid over the layer if it stands for a setting, and only in the section of that. -/
theorem get?_settings_snoc {v : String × String} (hknown : IsPrefixed v.1 → (ofVariable? v.1).isSome)
    (vars : List (String × String)) (sectionName : String) :
    Keyed.get? (settings (vars ++ [v])) sectionName =
      overlay (Keyed.get? (settings vars) sectionName)
        ((ofVariable? v.1).bind fun k => Keyed.get? (single k (valueOf v.2)) sectionName) := by
  cases hk : ofVariable? v.1 with
  | none =>
    have hnot : ¬IsPrefixed v.1 := by
      intro hprefixed
      simpa [hk] using hknown hprefixed
    rw [settings_snoc_of_not_prefixed vars hnot]
    rfl
  | some k =>
    rw [settings_snoc_of_setting vars hk, get?_mergeMembers _ (ordered_single k _)]
    rfl

/-- Without the variable of a setting the layer is the same in the other sections. -/
theorem get?_settings_without (h : Conforms vars) {sectionName : String} (hother : k.sectionName ≠ sectionName) :
    Keyed.get? (settings (without vars k)) sectionName = Keyed.get? (settings vars) sectionName := by
  have hknown := h.known
  clear h
  induction vars using List.reverseRecOn with
  | nil => rfl
  | append_singleton vars v ih =>
    have hbefore := ih fun w hw => hknown w (List.mem_append_left _ hw)
    have hlast := hknown v (by simp)
    by_cases hv : ofVariable? v.1 = some k
    · have hleft : without (vars ++ [v]) k = without vars k := by simp [without, hv]
      have habsent : Keyed.get? (single k (valueOf v.2)) sectionName = none := by
        rw [← Option.not_isSome_iff_eq_none, isSome_single]
        exact hother
      rw [hleft, hbefore, get?_settings_snoc hlast, hv, Option.bind_some, habsent]
      rfl
    · have hkept : without (vars ++ [v]) k = without vars k ++ [v] := by simp [without, hv]
      rw [hkept, get?_settings_snoc hlast, get?_settings_snoc hlast, hbefore]

end Environment

/-! ## What is wrong with a text -/

namespace Setting

variable {m : Members} {key : String} {v : Setting}

theorem member_congr {α : Type} {m' : Members} (h : Keyed.get? m key = Keyed.get? m' key) (decode : Decoder α) :
    member m key decode = member m' key decode := by
  unfold member
  rw [h]

theorem member_error {α : Type} {decode : Decoder α} (h : Keyed.get? m key = some v) {f : SettingFault}
    (hdecode : decode v = .error f) : member m key decode = .error (f.within key) := by
  unfold member
  rw [h]
  simp only [hdecode]
  rfl

/-- Whether a section of layers is there and is a table. -/
def HasTable (m : Members) (sectionName : String) : Prop :=
  ∃ source members, Keyed.get? m sectionName = some (.table source members)

theorem HasTable.sectionIs {sectionName : String} (h : HasTable m sectionName) : SectionIs m sectionName fun _ _ => True := by
  obtain ⟨source, members, htable⟩ := h
  intro v hv
  cases htable.symm.trans hv
  exact ⟨source, members, rfl, trivial⟩

theorem HasTable.isSome {sectionName : String} (h : HasTable m sectionName) : (Keyed.get? m sectionName).isSome := by
  obtain ⟨source, members, htable⟩ := h
  exact Option.isSome_of_eq_some htable

theorem hasTable_ofMembers {source : SettingSource} {file members : List (String × Toml)} {sectionName : String}
    (h : Keyed.get? file sectionName = some (.table members)) : HasTable (ofMembers source file) sectionName := by
  refine ⟨source, ofMembers source members, ?_⟩
  rw [get?_ofMembers, h, Option.map_some, ofToml]

theorem text_eq_error (h : ∀ t, ¬ReadsText v t) : text v = .error (v.mistyped "a string") := by
  unfold text
  split
  · exact absurd (.text _ _) (h _)
  · exact absurd (.character _ _) (h _)
  · rfl

/-- What a value is laid over shows neither in its source nor in what it is found to be. -/
theorem mistyped_laidOver (earlier : Option Setting) (v : Setting) (expected : String) :
    (laidOver earlier v).mistyped expected = v.mistyped expected := by
  rcases earlier with _ | _ | _ | _ <;> cases v <;> rfl

end Setting

/-! ## Sections -/

section Sections

variable {home : Option String} {chosen chosen' : KnownSetting → Option Setting} {v : Setting} {text : String}

/-- Settings of the scheduler with a text that is chosen for their path. -/
theorem SchedulerSettings.MadeOf.override {s : SchedulerSettings} (h : s.MadeOf home chosen)
    (hsame : ∀ k ≠ .databasePath, chosen' k = chosen k) (hv : chosen' .databasePath = some v) (hreads : ReadsText v text) :
    { s with databasePath := text }.MadeOf home chosen' where
  queryTimeoutMs := hsame .queryTimeoutMs nofun ▸ h.queryTimeoutMs
  pageSize := hsame .pageSize nofun ▸ h.pageSize
  registry := hsame .registry nofun ▸ h.registry
  databasePath := hv ▸ hreads

/-- Settings of mail with a text that is chosen for their password. -/
theorem EmailSettings.MadeOf.override_password {e : EmailSettings} (h : e.MadeOf chosen)
    (hsame : ∀ k ≠ .password, chosen' k = chosen k) (hv : chosen' .password = some v) (hreads : ReadsText v text) :
    { e with password := some text }.MadeOf chosen' where
  sender := hsame .sender nofun ▸ h.sender
  smtpHost := hsame .smtpHost nofun ▸ h.smtpHost
  smtpPort := hsame .smtpPort nofun ▸ h.smtpPort
  username := hsame .username nofun ▸ h.username
  password := hv ▸ ⟨text, hreads, rfl⟩

/-- Settings of mail with a text that is chosen for the name of their user. -/
theorem EmailSettings.MadeOf.override_username {e : EmailSettings} (h : e.MadeOf chosen)
    (hsame : ∀ k ≠ .username, chosen' k = chosen k) (hv : chosen' .username = some v) (hreads : ReadsText v text) :
    { e with username := some text }.MadeOf chosen' where
  sender := hsame .sender nofun ▸ h.sender
  smtpHost := hsame .smtpHost nofun ▸ h.smtpHost
  smtpPort := hsame .smtpPort nofun ▸ h.smtpPort
  username := hv ▸ ⟨text, hreads, rfl⟩
  password := hsame .password nofun ▸ h.password

variable {m : Members} {source : SettingSource} {f : SettingFault}

/-- A path that is no text fails the settings of the scheduler. -/
theorem SchedulerSettings.ofTable_error (h : member m "database_path" Setting.text = .error f) :
    SchedulerSettings.ofSetting home (.table source m) = .error f := by
  simp only [ofSetting, record, h]
  rfl

/-- A password that is no text fails the settings of mail. -/
theorem EmailSettings.ofTable_error_password (h : member m "password" Setting.text = .error f) :
    EmailSettings.ofSetting (.table source m) = .error f := by
  simp only [ofSetting, record, h]
  rfl

/-- So does the name of a user, if all that is decoded before it is sound. -/
theorem EmailSettings.ofTable_error_username {e : EmailSettings} (hmade : e.MadeOf chosen)
    (hsame : ∀ k : KnownSetting, k.sectionName = "email" → k ≠ .username → KnownSetting.among m k = chosen k)
    (h : member m "username" Setting.text = .error f) : EmailSettings.ofSetting (.table source m) = .error f := by
  obtain ⟨hsender, hhost, hport, -, hpassword⟩ := hmade
  rw [← hsame .sender rfl nofun] at hsender
  rw [← hsame .smtpHost rfl nofun] at hhost
  rw [← hsame .smtpPort rfl nofun] at hport
  rw [← hsame .password rfl nofun] at hpassword
  obtain ⟨sender, hsender, -⟩ := (supplied_member text_eq_ok source "sender" e.sender).1 hsender
  obtain ⟨host, hhost, -⟩ := (supplied_member text_eq_ok source "smtp_host" e.smtpHost).1 hhost
  obtain ⟨port, hport, -⟩ := (stands_member unsigned_eq_ok 587 e.smtpPort).1 hport
  have hpassword := (optional_member text_eq_ok e.password).1 hpassword
  simp only [KnownSetting.key] at hsender hhost hport hpassword
  simp only [ofSetting, record, hpassword, hsender, hhost, hport, h]
  rfl

/-- Settings of the scheduler that are decoded are made of what is chosen for them; a list of them chooses nothing. -/
theorem SchedulerSettings.exists_within {o : Option SchedulerSettings}
    (h : member m "scheduler" (SchedulerSettings.ofSetting home) = .ok o) :
    ∃ s : SchedulerSettings, s.MadeOf home (KnownSetting.within m) := by
  by_cases hsection : SectionIs m "scheduler" fun _ _ => True
  · exact ⟨_, (SchedulerSettings.ofSection_iff hsection _).1 ⟨o, h, rfl⟩⟩
  · have hnothing (k : KnownSetting) (hk : k.sectionName = "scheduler") : KnownSetting.within m k = none := by
      unfold KnownSetting.within inSection
      rw [hk]
      cases hfound : Keyed.get? m "scheduler" with
      | none => rfl
      | some v =>
        cases v with
        | scalar _ _ => rfl
        | list _ _ => rfl
        | table source members =>
          refine absurd ?_ hsection
          intro w hw
          cases hfound.symm.trans hw
          exact ⟨_, _, rfl, trivial⟩
    refine ⟨.standard home, ?_, ?_, ?_, ?_⟩
    all_goals rw [hnothing _ rfl]; rfl

end Sections

/-! ## Loading -/

/-- A setting that is a text and may be missing from the layers. -/
inductive TextSetting where
  | password
  | username
  | databasePath
  deriving DecidableEq, Repr

namespace TextSetting

/-- The setting among all of them. -/
def known : TextSetting → KnownSetting
  | .password => .password
  | .username => .username
  | .databasePath => .databasePath

/-- The text of the setting, if there is one. -/
def get (s : Settings) : TextSetting → Option String
  | .password => s.email.bind EmailSettings.password
  | .username => s.email.bind EmailSettings.username
  | .databasePath => some s.scheduler.databasePath

end TextSetting

namespace Settings

section Layers

variable (below : Members) {vars : List (String × String)} {k : KnownSetting}

/-- The other sections are the same without the variable of a setting. -/
theorem get?_without (hvars : Environment.Conforms vars) {sectionName : String} (hother : k.sectionName ≠ sectionName) :
    Keyed.get? (mergeMembers below (Environment.settings vars)) sectionName =
      Keyed.get? (mergeMembers below (Environment.settings (Environment.without vars k))) sectionName := by
  rw [get?_mergeMembers below (Environment.holds_settings hvars).ordered,
    get?_mergeMembers below (Environment.holds_settings (hvars.without k)).ordered,
    Environment.get?_settings_without hvars hother]

/-- What stands for a setting in the environment over what stands for it below. -/
theorem within_settings (hvars : Environment.Conforms vars) (k : KnownSetting) :
    KnownSetting.within (mergeMembers below (Environment.settings vars)) k =
      overlay (KnownSetting.within below k) (Environment.variableValue vars k) := by
  have henv := Environment.holds_settings hvars
  unfold KnownSetting.within
  rw [inSection_mergeMembers henv.ordered (henv.sections _), henv.values]

/-- The other settings are the same without the variable of a setting. -/
theorem within_without (hvars : Environment.Conforms vars) {k' : KnownSetting} (hne : k' ≠ k) :
    KnownSetting.within (mergeMembers below (Environment.settings vars)) k' =
      KnownSetting.within (mergeMembers below (Environment.settings (Environment.without vars k))) k' := by
  rw [within_settings below hvars, within_settings below (hvars.without k), Environment.variableValue_without hne]

/-- The section of a setting whose variable is set is a table, whatever stands below. -/
theorem hasTable_of_variable (hvars : Environment.Conforms vars) (hset : (Environment.variableValue vars k).isSome) :
    HasTable (mergeMembers below (Environment.settings vars)) k.sectionName := by
  have henv := Environment.holds_settings hvars
  obtain ⟨v, hv⟩ := Option.isSome_iff_exists.1 ((henv.present k.sectionName).2 ⟨k, rfl, hset⟩)
  obtain ⟨source, members, rfl, -⟩ := henv.sections _ v hv
  unfold HasTable
  rw [get?_mergeMembers below henv.ordered, hv]
  rcases Keyed.get? below k.sectionName with _ | _ | _ | _ <;> exact ⟨_, _, rfl⟩

/-- A section that is a table below stays one. -/
theorem hasTable_of_below {below : Members} (hvars : Environment.Conforms vars) {sectionName : String}
    (h : HasTable below sectionName) : HasTable (mergeMembers below (Environment.settings vars)) sectionName := by
  have henv := Environment.holds_settings hvars
  obtain ⟨source, members, htable⟩ := h
  unfold HasTable
  rw [get?_mergeMembers below henv.ordered, htable]
  cases habove : Keyed.get? (Environment.settings vars) sectionName with
  | none => exact ⟨source, members, rfl⟩
  | some v =>
    obtain ⟨source', members', rfl, -⟩ := henv.sections _ v habove
    exact ⟨_, _, rfl⟩

end Layers

theorem ofLayers_eq_ok {home : Option String} {m : Members} {s : Settings} :
    ofLayers home m = .ok s ↔ ∃ email, member m "email" EmailSettings.ofSetting = .ok email ∧
      ∃ retry, member m "retry" RetryPolicy.ofSetting = .ok retry ∧
        ∃ scheduler, member m "scheduler" (SchedulerSettings.ofSetting home) = .ok scheduler ∧
          ofOptions home scheduler retry email = s := by
  unfold ofLayers
  simp only [bind_eq_ok, pure_eq_ok]

theorem check_error {home : Option String} {m : Members} {f : SettingFault} (h : ofLayers home m = .error f) :
    check home m = .error ⟨f.message⟩ := by
  unfold check
  rw [h]

/-- What is wrong with a text setting whose variable stands for something else. -/
def notText (k : TextSetting) (v : Setting) : SettingFault :=
  ⟨.wrongType v.found "a string", [k.known.sectionName, k.known.key], .environment⟩

/-- Whether layers are others with a value from the environment for one setting. -/
structure Overrides (k : TextSetting) (v : Setting) (m m' : Members) : Prop where
  source : v.source = .environment
  table : HasTable m' k.known.sectionName
  chosen : ∃ earlier, KnownSetting.within m' k.known = some (laidOver earlier v)
  sections : ∀ sectionName, k.known.sectionName ≠ sectionName → Keyed.get? m' sectionName = Keyed.get? m sectionName
  others : ∀ k' ≠ k.known, KnownSetting.within m' k' = KnownSetting.within m k'

/-- The variable of a setting overrides what stands for it without the variable. -/
theorem overrides_settings (below : Members) {vars : List (String × String)} (hvars : Environment.Conforms vars) {k : TextSetting}
    {text : String} (hvalue : Environment.variableValue vars k.known = some (Environment.valueOf text)) :
    Overrides k (Environment.valueOf text) (mergeMembers below (Environment.settings (Environment.without vars k.known)))
      (mergeMembers below (Environment.settings vars)) where
  source := Environment.source_valueOf text
  table := hasTable_of_variable below hvars (Option.isSome_of_eq_some hvalue)
  chosen := ⟨_, (within_settings below hvars k.known).trans (congrArg (overlay _) hvalue)⟩
  sections _ hother := get?_without below hvars hother
  others _ hne := within_without below hvars hne

section Overriding

variable {home : Option String} {k : TextSetting} {v : Setting} {m m' : Members} {base : Settings}

/-- The member that a value stands for is mistyped if the value is no text. -/
theorem Overrides.member_error (h : Overrides k v m m') (hv : ∀ text, ¬ReadsText v text) :
    ∃ source members, Keyed.get? m' k.known.sectionName = some (.table source members) ∧
      (∀ k', k'.sectionName = k.known.sectionName → KnownSetting.among members k' = KnownSetting.within m' k') ∧
      member members k.known.key Setting.text = .error ⟨.wrongType v.found "a string", [k.known.key], .environment⟩ := by
  obtain ⟨source, members, htable⟩ := h.table
  obtain ⟨earlier, hchosen⟩ := h.chosen
  have hamong (k' : KnownSetting) (hk' : k'.sectionName = k.known.sectionName) :
      KnownSetting.among members k' = KnownSetting.within m' k' := by
    unfold KnownSetting.among KnownSetting.within inSection
    rw [hk', htable]
    rfl
  refine ⟨source, members, htable, hamong, ?_⟩
  have htext : ∀ text, ¬ReadsText (laidOver earlier v) text := by
    intro text hreads
    exact hv text ((ReadsText.ofScalars.laidOver_iff earlier v text).1 hreads)
  rw [Setting.member_error ((hamong _ rfl).trans hchosen) (text_eq_error htext), mistyped_laidOver]
  simp only [mistyped, fault, SettingFault.within, h.source]

/-- A text for the path of the database is what the settings of the scheduler then have. -/
theorem Overrides.ofLayers_databasePath (h : Overrides .databasePath v m m') (hbase : ofLayers home m = .ok base) {text : String}
    (hv : ReadsText v text) :
    ∃ s, ofLayers home m' = .ok s ∧ s.retry = base.retry ∧ TextSetting.databasePath.get s = some text := by
  obtain ⟨email, hemail, retry, hretry, scheduler, hscheduler, rfl⟩ := ofLayers_eq_ok.1 hbase
  obtain ⟨earlier, hchosen⟩ := h.chosen
  obtain ⟨s, hs⟩ := SchedulerSettings.exists_within hscheduler
  have hmade := hs.override h.others hchosen ((ReadsText.ofScalars.laidOver_iff earlier v text).2 hv)
  obtain ⟨scheduler', hscheduler', heq⟩ := (SchedulerSettings.ofSection_iff h.table.sectionIs _).2 hmade
  refine ⟨ofOptions home scheduler' retry email, ?_, rfl, congrArg (fun s : SchedulerSettings => some s.databasePath) heq⟩
  rw [← member_congr (h.sections "email" (by decide))] at hemail
  rw [← member_congr (h.sections "retry" (by decide))] at hretry
  exact ofLayers_eq_ok.2 ⟨_, hemail, _, hretry, _, hscheduler', rfl⟩

/-- Anything else for the path of the database fails the layers. -/
theorem Overrides.ofLayers_error_databasePath (h : Overrides .databasePath v m m') (hbase : ofLayers home m = .ok base)
    (hv : ∀ text, ¬ReadsText v text) : ofLayers home m' = .error (notText .databasePath v) := by
  obtain ⟨email, hemail, retry, hretry, -⟩ := ofLayers_eq_ok.1 hbase
  obtain ⟨source, members, htable, -, herror⟩ := h.member_error hv
  have hfault : SchedulerSettings.ofSetting home (.table source members) = .error _ := SchedulerSettings.ofTable_error herror
  have hscheduler := Setting.member_error htable hfault
  rw [← member_congr (h.sections "email" (by decide))] at hemail
  rw [← member_congr (h.sections "retry" (by decide))] at hretry
  change member m' "scheduler" _ = _ at hscheduler
  simp only [ofLayers, hemail, hretry, hscheduler]
  rfl

/-- Layers with a section of mail have settings of mail, and other such settings take their place if the layers differ in that
section only. -/
theorem ofLayers_mail (hmail : HasTable m "email")
    (hsections : ∀ sectionName, "email" ≠ sectionName → Keyed.get? m' sectionName = Keyed.get? m sectionName)
    (hbase : ofLayers home m = .ok base) :
    ∃ e : EmailSettings, e.MadeOf (KnownSetting.within m) ∧
      ∀ e', member m' "email" EmailSettings.ofSetting = .ok (some e') →
        ∃ s, ofLayers home m' = .ok s ∧ s.retry = base.retry ∧ s.email = some e' := by
  obtain ⟨email, hemail, retry, hretry, scheduler, hscheduler, rfl⟩ := ofLayers_eq_ok.1 hbase
  obtain ⟨hsome, hmade⟩ := (EmailSettings.ofSection_iff hmail.sectionIs email).1 hemail
  obtain ⟨e, rfl⟩ := Option.isSome_iff_exists.1 (hsome.2 hmail.isSome)
  refine ⟨e, hmade e rfl, fun e' he' => ⟨ofOptions home scheduler retry (some e'), ?_, rfl, rfl⟩⟩
  rw [← member_congr (hsections "retry" (by decide))] at hretry
  rw [← member_congr (hsections "scheduler" (by decide))] at hscheduler
  exact ofLayers_eq_ok.2 ⟨_, he', _, hretry, _, hscheduler, rfl⟩

/-- A table of settings of mail decodes to those that are made of what is chosen in it. -/
theorem Overrides.member_mail (h : Overrides k v m m') (hmail : k.known.sectionName = "email") {e : EmailSettings}
    (hmade : e.MadeOf (KnownSetting.within m')) : member m' "email" EmailSettings.ofSetting = .ok (some e) := by
  have htable : HasTable m' "email" := hmail ▸ h.table
  refine (EmailSettings.ofSection_iff htable.sectionIs _).2 ⟨by simp [htable.isSome], ?_⟩
  rintro _ ⟨⟩
  exact hmade

/-- Layers whose section of mail cannot be decoded fail with what is wrong there. -/
theorem ofLayers_error_mail {f : SettingFault} (h : member m "email" EmailSettings.ofSetting = .error f) :
    ofLayers home m = .error f := by
  simp only [ofLayers, h]
  rfl

/-- A text for a setting is what it then is. -/
theorem Overrides.ofLayers_ok (h : Overrides k v m m') (hbase : ofLayers home m = .ok base)
    (hmail : k.known.sectionName = "email" → HasTable m "email") {text : String}
    (hv : ReadsText v text) : ∃ s, ofLayers home m' = .ok s ∧ s.retry = base.retry ∧ k.get s = some text := by
  obtain ⟨earlier, hchosen⟩ := h.chosen
  have hreads := (ReadsText.ofScalars.laidOver_iff earlier v text).2 hv
  cases k with
  | databasePath => exact h.ofLayers_databasePath hbase hv
  | password =>
    obtain ⟨e, he, hdecoded⟩ := ofLayers_mail (hmail rfl) h.sections hbase
    have hmade := he.override_password h.others hchosen hreads
    obtain ⟨s, hs, hretry, hemail⟩ := hdecoded _ (h.member_mail rfl hmade)
    exact ⟨s, hs, hretry, congrArg (·.bind EmailSettings.password) hemail⟩
  | username =>
    obtain ⟨e, he, hdecoded⟩ := ofLayers_mail (hmail rfl) h.sections hbase
    have hmade := he.override_username h.others hchosen hreads
    obtain ⟨s, hs, hretry, hemail⟩ := hdecoded _ (h.member_mail rfl hmade)
    exact ⟨s, hs, hretry, congrArg (·.bind EmailSettings.username) hemail⟩

/-- Anything else for a setting fails the layers, and the error names the setting. -/
theorem Overrides.ofLayers_error (h : Overrides k v m m') (hbase : ofLayers home m = .ok base)
    (hmail : k.known.sectionName = "email" → HasTable m "email")
    (hv : ∀ text, ¬ReadsText v text) : ofLayers home m' = .error (notText k v) := by
  obtain ⟨source, members, htable, hamong, herror⟩ := h.member_error hv
  cases k with
  | databasePath => exact h.ofLayers_error_databasePath hbase hv
  | password => exact ofLayers_error_mail (Setting.member_error htable (EmailSettings.ofTable_error_password herror))
  | username =>
    obtain ⟨e, he, -⟩ := ofLayers_mail (hmail rfl) h.sections hbase
    have hsame (k' : KnownSetting) (hsection : k'.sectionName = "email") (hne : k' ≠ .username) :
        KnownSetting.among members k' = KnownSetting.within m k' := (hamong k' hsection).trans (h.others k' hne)
    exact ofLayers_error_mail (Setting.member_error htable (EmailSettings.ofTable_error_username he hsame herror))

end Overriding

/-- A text setting is overridden by its variable with any text, without blanks or quotes around it, that is not a truth value, a
number, a list or a table as a whole: a load that succeeds without the variable succeeds with it, and the setting is that text.
With one of those the load fails, and the error names the setting. -/
theorem load_text {home given : Option String} {read : String → Option String} {file : List (String × Toml)}
    {vars : List (String × String)} {k : TextSetting} {name text : String} (hfile : Holds read (filePath home given) file)
    (hvars : Environment.Conforms vars) (hset : (name, text) ∈ vars) (hname : KnownSetting.ofVariable? name = some k.known)
    (hmail : k.known.sectionName = "email" → ∃ members, Keyed.get? file "email" = some (.table members))
    (hload : ∃ base, load home given read (Environment.without vars k.known) = .ok base)
    (hbare : Environment.IsBare text.toList) :
    (¬Environment.StandsForOther text.toList → ∃ s, load home given read vars = .ok s ∧ k.get s = some text) ∧
    (Environment.StandsForOther text.toList →
      load home given read vars = .error ⟨(notText k (Environment.valueOf text)).message⟩) := by
  obtain ⟨base, hbase⟩ := hload
  rw [load_eq hfile] at hbase
  obtain ⟨hbase, hattempts⟩ := check_iff_ofLayers.1 hbase
  have hoverrides := overrides_settings (ofMembers (.file (filePath home given)) file) hvars
    (Environment.variableValue_of_mem hvars hset hname)
  have hsection (hemail : k.known.sectionName = "email") :
      HasTable (mergeMembers (ofMembers (.file (filePath home given)) file)
        (Environment.settings (Environment.without vars k.known))) "email" := by
    obtain ⟨members, hmembers⟩ := hmail hemail
    exact hasTable_of_below (hvars.without k.known) (hasTable_ofMembers hmembers)
  rw [load_eq hfile]
  constructor
  · intro hother
    have hreads := (Environment.readsText_valueOf_iff hbare).2 ⟨hother, rfl⟩
    obtain ⟨s, hs, hretry, hget⟩ := hoverrides.ofLayers_ok hbase hsection hreads
    exact ⟨s, check_iff_ofLayers.2 ⟨hs, hretry ▸ hattempts⟩, hget⟩
  · intro hother
    have hreads (t : String) : ¬ReadsText (Environment.valueOf text) t := by
      intro hreads
      exact ((Environment.readsText_valueOf_iff hbare).1 hreads).1 hother
    exact check_error (hoverrides.ofLayers_error hbase hsection hreads)

/-- A file with a section of mail that has what it needs. -/
def mailText : String := "[email]\nsender = \"beacon@example.com\"\nsmtp_host = \"mail.example.com\"\n"

/-- What the file holds. -/
def mailFile : List (String × Toml) := (Toml.parse mailText).get (by decide +kernel)

/-- What is loaded of it. -/
def mailSettings : Settings :=
  ⟨.standard (some "/home"), .standard, some ⟨"beacon@example.com", "mail.example.com", 587, none, none⟩⟩

/-- Reads the file and no other. -/
def readMail (path : String) : Option String := if path = "beacon.toml" then some mailText else none

/-- A bracket in front makes no list of a password, but brackets around it do. -/
theorem load_text_password :
    Holds readMail (filePath (some "/home") (some "beacon.toml")) mailFile ∧
    (∃ base, load (some "/home") (some "beacon.toml") readMail [] = .ok base) ∧
    (∃ s, load (some "/home") (some "beacon.toml") readMail [("BEACON_EMAIL__PASSWORD", "[se,cret")] = .ok s ∧
      TextSetting.password.get s = some "[se,cret") ∧
    load (some "/home") (some "beacon.toml") readMail [("BEACON_EMAIL__PASSWORD", "[se,cret]")] =
      .error ⟨(notText .password (Environment.valueOf "[se,cret]")).message⟩ := by
  have hfile : Holds readMail (filePath (some "/home") (some "beacon.toml")) mailFile :=
    Or.inr ⟨mailText, rfl, (Option.some_get _).symm⟩
  have hload : ∃ base, load (some "/home") (some "beacon.toml") readMail [] = .ok base := ⟨mailSettings, by decide +kernel⟩
  have hmail : ∃ members, Keyed.get? mailFile "email" = some (.table members) := by
    have htable : (Keyed.get? mailFile "email").any Toml.isTable = true := by decide +kernel
    obtain ⟨v, hv, htable⟩ := (Option.any_eq_true _ _).1 htable
    obtain ⟨members, rfl⟩ := Toml.isTable_iff.1 htable
    exact ⟨members, hv⟩
  have hopen : Environment.IsBare "[se,cret".toList := ⟨by rintro _ ⟨⟩; rfl, by rintro _ ⟨⟩; rfl, by rintro _ _ (rfl | rfl) ⟨⟩⟩
  have hclosed : Environment.IsBare "[se,cret]".toList := ⟨by rintro _ ⟨⟩; rfl, by rintro _ ⟨⟩; rfl, by rintro _ _ (rfl | rfl) ⟨⟩⟩
  have htext : ¬Environment.StandsForOther "[se,cret".toList := by
    have hreads : Setting.text (Environment.valueOf "[se,cret") = .ok "[se,cret" := by decide +kernel
    exact ((Environment.readsText_valueOf_iff hopen).1 (text_eq_ok.1 hreads)).1
  have hlist : Environment.StandsForOther "[se,cret]".toList := by
    by_contra hother
    have hreads := text_eq_ok.2 ((Environment.readsText_valueOf_iff hclosed).2 ⟨hother, rfl⟩)
    exact absurd hreads (by decide +kernel)
  refine ⟨hfile, hload, ?_, ?_⟩
  · have hvars : Environment.Conforms [("BEACON_EMAIL__PASSWORD", "[se,cret")] := ⟨by decide +kernel, by decide +kernel⟩
    exact (load_text (k := .password) hfile hvars List.mem_cons_self rfl (fun _ => hmail) hload hopen).1 htext
  · have hvars : Environment.Conforms [("BEACON_EMAIL__PASSWORD", "[se,cret]")] := ⟨by decide +kernel, by decide +kernel⟩
    exact (load_text (k := .password) hfile hvars List.mem_cons_self rfl (fun _ => hmail) hload hclosed).2 hlist

/-- A password of digits is taken for a number, and the load fails that succeeds without it. -/
theorem load_password_digits :
    (∃ base, load (some "/home") (some "beacon.toml") readMail [] = .ok base) ∧ Environment.IsBare "12345".toList ∧
    load (some "/home") (some "beacon.toml") readMail [("BEACON_EMAIL__PASSWORD", "12345")] =
      .error ⟨"invalid type: found unsigned int `12345`, expected a string for key \"EMAIL.PASSWORD\"" ++
        " in `BEACON_` environment variable(s)"⟩ := by
  have hbare : Environment.IsBare "12345".toList := ⟨by rintro _ ⟨⟩; rfl, by rintro _ ⟨⟩; rfl, by rintro _ _ (rfl | rfl) ⟨⟩⟩
  exact ⟨⟨mailSettings, by decide +kernel⟩, hbare, by decide +kernel⟩

end Settings

end StandingQuery
