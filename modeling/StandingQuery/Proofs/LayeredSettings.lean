import StandingQuery.Proofs.ReadSettings
import StandingQuery.Settings.Load

/-!
# Settings in layers

A load of settings takes each setting from the environment if its variable is set, or else from the file, or else its default, and
sees no other setting for it. It succeeds exactly when every chosen value is acceptable for the type of its setting, the section of
mail has what it needs if it is there, and an operation is to be attempted at all (`Settings.load_layered`).
-/

namespace StandingQuery

open Setting

namespace Toml

/-- Whether a value is a table. -/
def isTable : Toml → Bool
  | .table _ => true
  | _ => false

theorem isTable_iff {v : Toml} : v.isTable = true ↔ ∃ members, v = .table members := by
  cases v <;> simp [isTable]

end Toml

namespace RetryPolicy

variable {m : Type → Type} [Monad m] [LawfulMonad m] {α : Type}

/-- With an attempt to make, an operation is run before anything else. -/
theorem attempts_begins (pause : m Unit) (operation : m (Outcome α)) {n : Nat} (h : 1 ≤ n) :
    ∃ rest : Outcome α → m (Outcome α), attempts pause operation n = operation >>= rest := by
  match n, h with
  | 1, _ => exact ⟨pure, (bind_pure operation).symm⟩
  | n + 2, _ => exact ⟨_, rfl⟩

/-- Under a policy of at least one attempt an operation is run before anything else. -/
theorem run_begins (policy : RetryPolicy) (sleep : Nat → m Unit) (operation : m (Outcome α)) (h : 1 ≤ policy.maxAttempts) :
    ∃ rest : Outcome α → m (Outcome α), policy.run sleep operation = operation >>= rest := by
  obtain ⟨rest, hrest⟩ := attempts_begins (sleep policy.delayMs) operation h
  unfold run
  rw [hrest, bind_assoc]
  exact ⟨_, rfl⟩

end RetryPolicy

/-! ## What is acceptable -/

namespace Setting

variable {α : Type} {reads : Setting → α → Prop} {default : α} {chosen : Option Setting}

theorem Stands.readable {a : α} (h : Stands reads default chosen a) {v : Setting} (hv : chosen = some v) : ∃ a, reads v a := by
  subst hv
  exact ⟨a, h⟩

theorem Optional.readable {a : Option α} (h : Setting.Optional reads chosen a) {v : Setting} (hv : chosen = some v) :
    ∃ a, reads v a := by
  obtain ⟨_, b, hb, -⟩ := Stands.readable h hv
  exact ⟨b, hb⟩

theorem Supplied.readable {a : α} (h : Supplied reads chosen a) {v : Setting} (hv : chosen = some v) : ∃ a, reads v a := by
  obtain ⟨w, hw, hreads⟩ := h
  cases hw.symm.trans hv
  exact ⟨a, hreads⟩

theorem exists_stands (h : ∀ v, chosen = some v → ∃ a, reads v a) : ∃ a, Stands reads default chosen a := by
  cases chosen with
  | none => exact ⟨default, rfl⟩
  | some v => exact h v rfl

theorem exists_optional (h : ∀ v, chosen = some v → ∃ a, reads v a) : ∃ a, Setting.Optional reads chosen a := by
  refine exists_stands fun v hv => ?_
  obtain ⟨a, ha⟩ := h v hv
  exact ⟨some a, a, ha, rfl⟩

theorem exists_supplied (h : ∀ v, chosen = some v → ∃ a, reads v a) (hchosen : chosen.isSome) :
    ∃ a, Supplied reads chosen a := by
  obtain ⟨v, hv⟩ := Option.isSome_iff_exists.1 hchosen
  obtain ⟨a, ha⟩ := h v hv
  exact ⟨a, v, hv, ha⟩

/-- A value reads as at most one number. -/
theorem ReadsNumber.unique {bits : Nat} {v : Setting} {n k : Nat} (hn : ReadsNumber bits v n) (hk : ReadsNumber bits v k) :
    n = k := by
  rw [← unsigned_eq_ok] at hn hk
  exact Except.ok.inj (hn.symm.trans hk)

/-- A setting that is a number is settled by what is chosen for it. -/
theorem Stands.unique {bits : Nat} {default n k : Nat} (hn : Stands (ReadsNumber bits) default chosen n)
    (hk : Stands (ReadsNumber bits) default chosen k) : n = k := by
  cases chosen with
  | none => exact Eq.trans hn (Eq.symm hk)
  | some v => exact ReadsNumber.unique hn hk

end Setting

namespace KnownSetting

/-- Whether a value is acceptable for the type of a setting. -/
def Accepts (v : Setting) : KnownSetting → Prop
  | queryTimeoutMs | delayMs => ∃ n, ReadsNumber 64 v n
  | pageSize | maxAttempts => ∃ n, ReadsNumber 32 v n
  | smtpPort => ∃ n, ReadsNumber 16 v n
  | registry => ∃ kind, ReadsRegistry v kind
  | databasePath | sender | smtpHost | username | password => ∃ s, ReadsText v s

theorem sectionName_mem (k : KnownSetting) : k.sectionName ∈ ["scheduler", "retry", "email"] := by
  cases k <;> decide

end KnownSetting

section Acceptable

variable {home : Option String} {chosen : KnownSetting → Option Setting}

theorem SchedulerSettings.exists_madeOf (h : ∀ k v, chosen k = some v → k.Accepts v) :
    ∃ s : SchedulerSettings, s.MadeOf home chosen := by
  obtain ⟨queryTimeoutMs, hquery⟩ := exists_stands (h .queryTimeoutMs)
  obtain ⟨pageSize, hpage⟩ := exists_stands (h .pageSize)
  obtain ⟨registry, hregistry⟩ := exists_stands (h .registry)
  obtain ⟨databasePath, hdatabase⟩ := exists_stands (h .databasePath)
  exact ⟨⟨queryTimeoutMs, pageSize, registry, databasePath⟩, hquery, hpage, hregistry, hdatabase⟩

theorem RetryPolicy.exists_madeOf (h : ∀ k v, chosen k = some v → k.Accepts v) : ∃ p : RetryPolicy, p.MadeOf chosen := by
  obtain ⟨maxAttempts, hattempts⟩ := exists_stands (h .maxAttempts)
  obtain ⟨delayMs, hdelay⟩ := exists_stands (h .delayMs)
  exact ⟨⟨maxAttempts, delayMs⟩, hattempts, hdelay⟩

theorem EmailSettings.exists_madeOf (h : ∀ k v, chosen k = some v → k.Accepts v) (hsender : (chosen .sender).isSome)
    (hhost : (chosen .smtpHost).isSome) : ∃ e : EmailSettings, e.MadeOf chosen := by
  obtain ⟨sender, hsender⟩ := exists_supplied (h .sender) hsender
  obtain ⟨smtpHost, hhost⟩ := exists_supplied (h .smtpHost) hhost
  obtain ⟨smtpPort, hport⟩ := exists_stands (h .smtpPort)
  obtain ⟨username, husername⟩ := exists_optional (h .username)
  obtain ⟨password, hpassword⟩ := exists_optional (h .password)
  exact ⟨⟨sender, smtpHost, smtpPort, username, password⟩, hsender, hhost, hport, husername, hpassword⟩

end Acceptable

namespace Settings

/-- Whether settings are what is chosen for them, with a section of mail or without. -/
@[mk_iff]
structure MadeOf (home : Option String) (chosen : KnownSetting → Option Setting) (mail : Prop) (s : Settings) : Prop where
  scheduler : s.scheduler.MadeOf home chosen
  retry : s.retry.MadeOf chosen
  attempts : 1 ≤ s.retry.maxAttempts
  mail : s.email.isSome ↔ mail
  email : ∀ e, s.email = some e → e.MadeOf chosen

/-- Whether settings can be made of what is chosen for them. -/
structure Loadable (chosen : KnownSetting → Option Setting) (mail : Prop) : Prop where
  /-- Every chosen value is acceptable. -/
  acceptable : ∀ k v, chosen k = some v → k.Accepts v
  /-- A section of mail has the settings without a default. -/
  supplied : mail → (chosen .sender).isSome ∧ (chosen .smtpHost).isSome
  /-- The chosen number of attempts, or the default, is at least one. -/
  attempts : ∀ n, Stands (ReadsNumber 32) 4 (chosen .maxAttempts) n → 1 ≤ n

variable {home : Option String} {chosen : KnownSetting → Option Setting} {mail : Prop}

/-- The values that settings are made of are acceptable. -/
theorem MadeOf.acceptable {s : Settings} (h : MadeOf home chosen mail s)
    (hmail : ∀ k, k.sectionName = "email" → (chosen k).isSome → mail) {k : KnownSetting} {v : Setting} (hv : chosen k = some v) :
    k.Accepts v := by
  have hemail (hsection : k.sectionName = "email") : ∃ e : EmailSettings, e.MadeOf chosen := by
    obtain ⟨e, he⟩ := Option.isSome_iff_exists.1 (h.mail.2 (hmail k hsection (Option.isSome_of_eq_some hv)))
    exact ⟨e, h.email e he⟩
  cases k with
  | queryTimeoutMs => exact h.scheduler.queryTimeoutMs.readable hv
  | pageSize => exact h.scheduler.pageSize.readable hv
  | registry => exact h.scheduler.registry.readable hv
  | databasePath => exact h.scheduler.databasePath.readable hv
  | maxAttempts => exact h.retry.maxAttempts.readable hv
  | delayMs => exact h.retry.delayMs.readable hv
  | sender => exact (hemail rfl).elim fun _ he => he.sender.readable hv
  | smtpHost => exact (hemail rfl).elim fun _ he => he.smtpHost.readable hv
  | smtpPort => exact (hemail rfl).elim fun _ he => he.smtpPort.readable hv
  | username => exact (hemail rfl).elim fun _ he => he.username.readable hv
  | password => exact (hemail rfl).elim fun _ he => he.password.readable hv

/-- Settings can be made of what is chosen for them if and only if all of it is acceptable, provided that what is chosen for mail
comes with a section of mail. -/
theorem exists_madeOf_iff (hmail : ∀ k, k.sectionName = "email" → (chosen k).isSome → mail) :
    (∃ s, MadeOf home chosen mail s) ↔ Loadable chosen mail := by
  constructor
  · rintro ⟨s, hs⟩
    refine ⟨fun k v => hs.acceptable hmail, ?_, ?_⟩
    · intro hpresent
      obtain ⟨e, he⟩ := Option.isSome_iff_exists.1 (hs.mail.2 hpresent)
      obtain ⟨_, hsender, -⟩ := (hs.email e he).sender
      obtain ⟨_, hhost, -⟩ := (hs.email e he).smtpHost
      exact ⟨Option.isSome_of_eq_some hsender, Option.isSome_of_eq_some hhost⟩
    · intro n hn
      rw [hn.unique hs.retry.maxAttempts]
      exact hs.attempts
  · intro h
    obtain ⟨scheduler, hscheduler⟩ : ∃ s : SchedulerSettings, s.MadeOf home chosen :=
      SchedulerSettings.exists_madeOf h.acceptable
    obtain ⟨retry, hretry⟩ := RetryPolicy.exists_madeOf h.acceptable
    have hattempts := h.attempts _ hretry.maxAttempts
    by_cases hpresent : mail
    · obtain ⟨hsender, hhost⟩ := h.supplied hpresent
      obtain ⟨email, hemail⟩ := EmailSettings.exists_madeOf h.acceptable hsender hhost
      refine ⟨⟨scheduler, retry, some email⟩, hscheduler, hretry, hattempts, by simpa using hpresent, ?_⟩
      rintro _ ⟨⟩
      exact hemail
    · exact ⟨⟨scheduler, retry, none⟩, hscheduler, hretry, hattempts, by simpa using hpresent, nofun⟩

/-! ## Merged layers -/

/-- Layers pass the check if they hold settings with at least one attempt. -/
theorem check_iff_ofLayers {m : Members} {s : Settings} :
    check home m = .ok s ↔ ofLayers home m = .ok s ∧ 1 ≤ s.retry.maxAttempts := by
  unfold check
  cases ofLayers home m with
  | error f => simp
  | ok s' =>
    dsimp only
    split
    · rename_i hzero
      simp only [reduceCtorEq, Except.ok.injEq, false_iff]
      rintro ⟨rfl, hattempts⟩
      omega
    · rename_i hpositive
      simp only [Except.ok.injEq]
      refine ⟨?_, And.left⟩
      rintro rfl
      exact ⟨rfl, Nat.one_le_iff_ne_zero.2 hpositive⟩

/-- The settings of merged layers whose sections are tables are made of the values in the sections. -/
theorem check_eq_ok_iff {m : Members} (hsections : ∀ name ∈ ["scheduler", "retry", "email"], SectionIs m name fun _ _ => True)
    (s : Settings) :
    check home m = .ok s ↔ MadeOf home (KnownSetting.within m) ((Keyed.get? m "email").isSome) s := by
  rw [check_iff_ofLayers, madeOf_iff, ← SchedulerSettings.ofSection_iff (hsections _ (by simp)),
    ← RetryPolicy.ofSection_iff (hsections _ (by simp))]
  unfold ofLayers
  simp only [bind_eq_ok, pure_eq_ok]
  constructor
  · rintro ⟨⟨email, hemail, retry, hretry, scheduler, hscheduler, rfl⟩, hattempts⟩
    obtain ⟨hpresent, hmade⟩ := (EmailSettings.ofSection_iff (hsections _ (by simp)) email).1 hemail
    exact ⟨⟨_, hscheduler, rfl⟩, ⟨_, hretry, rfl⟩, hattempts, hpresent, hmade⟩
  · obtain ⟨_, _, email⟩ := s
    rintro ⟨⟨scheduler, hscheduler, rfl⟩, ⟨retry, hretry, rfl⟩, hattempts, hpresent, hmade⟩
    have hemail := (EmailSettings.ofSection_iff (hsections _ (by simp)) email).2 ⟨hpresent, hmade⟩
    exact ⟨⟨_, hemail, _, hretry, _, hscheduler, rfl⟩, hattempts⟩

/-- Of two layers the later one has the say for every setting. -/
theorem madeOf_overlay_iff (below above : KnownSetting → Option Setting) (s : Settings) :
    MadeOf home (fun k => overlay (below k) (above k)) mail s ↔ MadeOf home (fun k => (above k).or (below k)) mail s := by
  simp only [Settings.madeOf_iff, SchedulerSettings.madeOf_iff, RetryPolicy.madeOf_iff, EmailSettings.madeOf_iff, Setting.Optional,
    (ReadsNumber.ofScalars _).stands_overlay, ReadsRegistry.ofScalars.stands_overlay, ReadsText.ofScalars.stands_overlay,
    ReadsText.ofScalars.supplied_overlay, ReadsText.ofScalars.optional.stands_overlay]

/-! ## Loading -/

/-- Whether a file is the text of a TOML table, or there is no file and the table is empty. -/
def Holds (read : String → Option String) (path : String) (file : List (String × Toml)) : Prop :=
  (read path = none ∧ file = []) ∨ ∃ text, read path = some text ∧ Toml.parse text = some file

/-- Whether the sections of a file are tables where they are present. -/
def SectionsAreTables (file : List (String × Toml)) : Prop :=
  ∀ name ∈ ["scheduler", "retry", "email"], ∀ v ∈ Keyed.get? file name, v.isTable = true

instance (file : List (String × Toml)) : Decidable (SectionsAreTables file) := inferInstanceAs (Decidable (∀ name ∈ _, _))

/-- What a file holds for a setting, if anything. -/
def fileValue (source : SettingSource) (file : List (String × Toml)) (k : KnownSetting) : Option Setting :=
  match Keyed.get? file k.sectionName with
  | some (.table members) => (Keyed.get? members k.key).map (ofToml source)
  | _ => none

/-- What is chosen for a setting: what its variable stands for if it is set, or else what the file holds. -/
def chosenValue (source : SettingSource) (file : List (String × Toml)) (vars : List (String × String)) (k : KnownSetting) :
    Option Setting :=
  (Environment.variableValue vars k).or (fileValue source file k)

/-- Whether there is a section of mail: in the file, or because a variable of it is set. -/
def HasMail (file : List (String × Toml)) (vars : List (String × String)) : Prop :=
  (Keyed.get? file "email").isSome ∨ ∃ k : KnownSetting, k.sectionName = "email" ∧ (Environment.variableValue vars k).isSome

variable {file : List (String × Toml)} {vars : List (String × String)} {source : SettingSource}

/-- A chosen setting of mail has its section. -/
theorem hasMail_of_chosen (k : KnownSetting) (hsection : k.sectionName = "email")
    (h : (chosenValue source file vars k).isSome) : HasMail file vars := by
  unfold chosenValue at h
  rw [Option.isSome_or, Bool.or_eq_true] at h
  rcases h with h | h
  · exact Or.inr ⟨k, hsection, h⟩
  · refine Or.inl ?_
    unfold fileValue at h
    rw [hsection] at h
    cases hfound : Keyed.get? file "email" with
    | none => simp [hfound] at h
    | some v => rfl

/-- The sections of the layer of a file are tables. -/
theorem sectionIs_ofMembers (htables : SectionsAreTables file) {name : String} (hname : name ∈ ["scheduler", "retry", "email"]) :
    SectionIs (ofMembers source file) name fun _ _ => True := by
  intro v hv
  rw [get?_ofMembers, Option.map_eq_some_iff] at hv
  obtain ⟨toml, hfound, rfl⟩ := hv
  obtain ⟨members, rfl⟩ := Toml.isTable_iff.1 (htables name hname toml hfound)
  exact ⟨source, _, by rw [ofToml], trivial⟩

/-- The layer of a file holds for each setting what the file does. -/
theorem within_ofMembers (htables : SectionsAreTables file) (k : KnownSetting) :
    inSection (ofMembers source file) k.sectionName k.key = fileValue source file k := by
  unfold inSection fileValue
  rw [get?_ofMembers]
  cases hfound : Keyed.get? file k.sectionName with
  | none => rfl
  | some v =>
    obtain ⟨members, rfl⟩ := Toml.isTable_iff.1 (htables _ k.sectionName_mem v hfound)
    simp only [Option.map_some, bind, Option.bind, ofToml, members?, get?_ofMembers]

/-- A load checks the layer of the environment over that of the file. -/
theorem load_eq {given : Option String} {read : String → Option String} (hfile : Holds read (filePath home given) file) :
    load home given read vars =
      check home (mergeMembers (ofMembers (.file (filePath home given)) file) (Environment.settings vars)) := by
  unfold load
  rcases hfile with ⟨hread, rfl⟩ | ⟨text, hread, hparse⟩
  · simp only [hread]
    rfl
  · simp only [hread, layerOf, hparse]
    rfl

/-- A load gives settings if and only if they are made of what is chosen for them. -/
theorem load_eq_ok_iff {given : Option String} {read : String → Option String} (hfile : Holds read (filePath home given) file)
    (htables : SectionsAreTables file) (hvars : Environment.Conforms vars) (s : Settings) :
    load home given read vars = .ok s ↔
      MadeOf home (chosenValue (.file (filePath home given)) file vars) (HasMail file vars) s := by
  rw [load_eq hfile]
  generalize SettingSource.file (filePath home given) = source
  have henv := Environment.holds_settings hvars
  have hsections : ∀ name ∈ ["scheduler", "retry", "email"],
      SectionIs (mergeMembers (ofMembers source file) (Environment.settings vars)) name fun _ _ => True := by
    intro name hname
    exact (sectionIs_ofMembers htables hname).mergeMembers henv.ordered ((henv.sections name).mono fun _ => trivial)
      fun _ _ => trivial
  have hwithin : KnownSetting.within (mergeMembers (ofMembers source file) (Environment.settings vars)) =
      fun k => overlay (fileValue source file k) (Environment.variableValue vars k) := by
    funext k
    unfold KnownSetting.within
    rw [inSection_mergeMembers henv.ordered (henv.sections _), within_ofMembers htables, henv.values]
  have hmail : (Keyed.get? (mergeMembers (ofMembers source file) (Environment.settings vars)) "email").isSome ↔
      HasMail file vars := by
    rw [isSome_mergeMembers henv.ordered, henv.present, get?_ofMembers, Option.isSome_map]
    rfl
  rw [check_eq_ok_iff hsections, hwithin, madeOf_overlay_iff, propext hmail]
  rfl

/-- Settings are loaded layer by layer: each is what its variable stands for if it is set, or else what the file holds, or else its
default. A load succeeds if and only if all that is chosen so is acceptable, and then an operation is run at least once. -/
theorem load_layered {given : Option String} {read : String → Option String} (hfile : Holds read (filePath home given) file)
    (htables : SectionsAreTables file) (hvars : Environment.Conforms vars) :
    (∀ s, load home given read vars = .ok s ↔
      MadeOf home (chosenValue (.file (filePath home given)) file vars) (HasMail file vars) s) ∧
    ((∃ s, load home given read vars = .ok s) ↔
      Loadable (chosenValue (.file (filePath home given)) file vars) (HasMail file vars)) ∧
    ∀ s, load home given read vars = .ok s →
      ∀ {m : Type → Type} [Monad m] [LawfulMonad m] {α : Type} (sleep : Nat → m Unit) (operation : m (Outcome α)),
        ∃ rest : Outcome α → m (Outcome α), s.retry.run sleep operation = operation >>= rest := by
  have hload := load_eq_ok_iff hfile htables hvars
  refine ⟨hload, ?_, ?_⟩
  · simp only [hload]
    exact exists_madeOf_iff hasMail_of_chosen
  · intro s hs m _ _ α sleep operation
    exact s.retry.run_begins sleep operation ((hload s).1 hs).attempts

/-- A file with a number of attempts, a pause and the port of a section of mail. -/
def mixedText : String := "[retry]\nmax_attempts = 6\ndelay_ms = 20\n[email]\nsmtp_port = 25\n"

/-- What the file holds. -/
def mixedFile : List (String × Toml) := (Toml.parse mixedText).get (by decide +kernel)

/-- Variables with another number of attempts and what the section of mail needs, their names in upper and lower case. -/
def mixedVariables : List (String × String) :=
  [("HOME", "/home"), ("BEACON_RETRY__MAX_ATTEMPTS", "3"), ("beacon_email__sender", "a@b"), ("Beacon_Email__Smtp_Host", "'h'")]

/-- The number of attempts of the variable, the pause and the port of the file, and the defaults for what neither holds. -/
def mixedSettings : Settings :=
  ⟨.standard (some "/home"), ⟨3, 20⟩, some ⟨"a@b", "h", 25, none, none⟩⟩

theorem load_layered_mixed :
    Holds (fun path => if path = "beacon.toml" then some mixedText else none) (filePath (some "/home") (some "beacon.toml"))
      mixedFile ∧
    SectionsAreTables mixedFile ∧ Environment.Conforms mixedVariables ∧
    MadeOf (some "/home") (chosenValue (.file "beacon.toml") mixedFile mixedVariables) (HasMail mixedFile mixedVariables)
      mixedSettings ∧
    Loadable (chosenValue (.file "beacon.toml") mixedFile mixedVariables) (HasMail mixedFile mixedVariables) := by
  have hfile : Holds (fun path => if path = "beacon.toml" then some mixedText else none)
      (filePath (some "/home") (some "beacon.toml")) mixedFile :=
    Or.inr ⟨mixedText, rfl, (Option.some_get _).symm⟩
  have htables : SectionsAreTables mixedFile := by decide +kernel
  have hvars : Environment.Conforms mixedVariables := ⟨by decide +kernel, by decide +kernel⟩
  obtain ⟨hload, hloadable, -⟩ := load_layered hfile htables hvars
  have hsettings : load (some "/home") (some "beacon.toml") (fun path => if path = "beacon.toml" then some mixedText else none)
      mixedVariables = .ok mixedSettings := by decide +kernel
  exact ⟨hfile, htables, hvars, (hload _).1 hsettings, hloadable.1 ⟨_, hsettings⟩⟩

end Settings

end StandingQuery
