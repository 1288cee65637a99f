import Mathlib.Data.List.Induction
import Mathlib.Data.List.Nodup
import StandingQuery.Proofs.MergedLayers
import StandingQuery.Settings.Environment

/-!
# The layer of the environment

The settings of the three sections, and the variables that name them. Of an environment whose variables with the prefix each name a
setting, no two the same one, the layer holds for each setting what its variable stands for, and nothing else
(`Environment.holds_settings`).
-/

namespace StandingQuery

/-- A setting of one of the three sections. -/
inductive KnownSetting where
  | queryTimeoutMs
  | pageSize
  | registry
  | databasePath
  | maxAttempts
  | delayMs
  | sender
  | smtpHost
  | smtpPort
  | username
  | password
  deriving DecidableEq, Repr

namespace Environment

/-- The name of a variable as it counts: without blanks around it, and in lower case. -/
def counted (name : String) : List Char := (Text.trim name.toList).map Char.toLower

/-- Whether the name of a variable begins with the prefix. -/
def IsPrefixed (name : String) : Prop := namePrefix.toList.map Char.toLower <+: counted name

instance (name : String) : Decidable (IsPrefixed name) := inferInstanceAs (Decidable (_ <+: _))

end Environment

namespace KnownSetting

/-- Every setting. -/
def all : List KnownSetting :=
  [queryTimeoutMs, pageSize, registry, databasePath, maxAttempts, delayMs, sender, smtpHost, smtpPort, username, password]

/-- The section of a setting. -/
def sectionName : KnownSetting → String
  | .queryTimeoutMs | .pageSize | .registry | .databasePath => "scheduler"
  | .maxAttempts | .delayMs => "retry"
  | .sender | .smtpHost | .smtpPort | .username | .password => "email"

/-- The key of a setting in its section. -/
def key : KnownSetting → String
  | .queryTimeoutMs => "query_timeout_ms"
  | .pageSize => "page_size"
  | .registry => "registry"
  | .databasePath => "database_path"
  | .maxAttempts => "max_attempts"
  | .delayMs => "delay_ms"
  | .sender => "sender"
  | .smtpHost => "smtp_host"
  | .smtpPort => "smtp_port"
  | .username => "username"
  | .password => "password"

/-- The name of the variable of a setting. -/
def variableName (k : KnownSetting) : String := Environment.namePrefix ++ k.sectionName ++ "__" ++ k.key

/-- The setting whose variable has a name, case aside. -/
def ofVariable? (name : String) : Option KnownSetting :=
  all.find? fun k => Environment.counted name == k.variableName.toList.map Char.toLower

/-- Settings with the same key of the same section are the same. -/
theorem eq_of_key {k k' : KnownSetting} (hsection : k.sectionName = k'.sectionName) (hkey : k.key = k'.key) : k = k' := by
  revert hsection hkey
  cases k <;> cases k' <;> decide

/-- The variable of a setting stands for its key in its section. -/
theorem path_of_ofVariable? {name : String} {k : KnownSetting} (h : ofVariable? name = some k) :
    Environment.path name = [k.sectionName, k.key] := by
  have hname : (Text.trim name.toList).map Char.toLower = k.variableName.toList.map Char.toLower := by
    have hcounted := List.find?_some h
    exact beq_iff_eq.1 hcounted
  unfold Environment.path
  rw [hname]
  cases k <;> rfl

/-- A variable without the prefix stands for nothing. -/
theorem path_of_not_prefixed {name : String} (h : ¬Environment.IsPrefixed name) : Environment.path name = [] := by
  unfold Environment.IsPrefixed Environment.counted at h
  rw [List.prefix_iff_eq_take, eq_comm] at h
  unfold Environment.path
  dsimp only
  rw [decide_eq_false h, Bool.false_and]
  rfl

end KnownSetting

namespace Environment

open KnownSetting Setting

/-- Whether every variable with the prefix names a setting, and no two of them the same one. -/
structure Conforms (vars : List (String × String)) : Prop where
  known : ∀ v ∈ vars, IsPrefixed v.1 → (ofVariable? v.1).isSome
  once : (vars.filterMap fun v => ofVariable? v.1).Nodup

/-- What the variable of a setting stands for, if it is set. -/
def variableValue (vars : List (String × String)) (k : KnownSetting) : Option Setting :=
  (vars.find? fun v => ofVariable? v.1 == some k).map fun v => valueOf v.2

/-- Whether a layer holds for each setting what its variable stands for, and nothing else. -/
structure Holds (vars : List (String × String)) (layer : Members) : Prop where
  ordered : Keyed.Ordered layer
  sections : ∀ sectionName, SectionIs layer sectionName fun _ members => Keyed.Ordered members
  values : ∀ k : KnownSetting, inSection layer k.sectionName k.key = variableValue vars k
  present : ∀ sectionName, (Keyed.get? layer sectionName).isSome ↔
    ∃ k : KnownSetting, k.sectionName = sectionName ∧ (variableValue vars k).isSome

theorem holds_nil : Holds [] [] where
  ordered := .nil
  sections _ _ h := nomatch h
  values _ := rfl
  present _ := by simp [variableValue]

/-- One variable more. -/
theorem variableValue_snoc (vars : List (String × String)) (v : String × String) (k : KnownSetting) :
    variableValue (vars ++ [v]) k =
      (variableValue vars k).or (if ofVariable? v.1 = some k then some (valueOf v.2) else none) := by
  unfold variableValue
  rw [List.find?_append, Option.map_or, List.find?_singleton]
  simp only [beq_iff_eq]
  split <;> rfl

/-- The layer of one setting. -/
def single (k : KnownSetting) (value : Setting) : Members := [(k.sectionName, .table .environment [(k.key, value)])]

theorem ordered_single (k : KnownSetting) (value : Setting) : Keyed.Ordered (single k value) := List.pairwise_singleton _ _

theorem sectionIs_single (k : KnownSetting) (value : Setting) (sectionName : String) :
    SectionIs (single k value) sectionName fun _ members => Keyed.Ordered members := by
  intro w hw
  unfold single at hw
  rw [Keyed.get?_cons] at hw
  split at hw
  · cases hw
    exact ⟨_, _, rfl, List.pairwise_singleton _ _⟩
  · cases hw

/-- The layer of one setting holds that setting and no other. -/
theorem inSection_single (k k' : KnownSetting) (value : Setting) :
    inSection (single k value) k'.sectionName k'.key = if k = k' then some value else none := by
  unfold inSection single
  rw [Keyed.get?_cons]
  by_cases hsame : k = k'
  · subst hsame
    simp [members?, Keyed.get?_cons]
  · rw [if_neg hsame]
    by_cases hsection : k'.sectionName = k.sectionName
    · have hkey : k'.key ≠ k.key := fun heq => hsame (eq_of_key hsection heq).symm
      simp [hsection, members?, Keyed.get?_cons, hkey]
    · simp [hsection]

theorem isSome_single (k : KnownSetting) (value : Setting) (sectionName : String) :
    (Keyed.get? (single k value) sectionName).isSome ↔ k.sectionName = sectionName := by
  unfold single
  rw [Keyed.get?_cons]
  split <;> simp_all [eq_comm]

/-- A variable that names no setting of those that are set adds its own. -/
theorem Holds.set {vars : List (String × String)} {layer : Members} (h : Holds vars layer) {v : String × String}
    {k : KnownSetting} (hk : ofVariable? v.1 = some k) (hnew : variableValue vars k = none) :
    Holds (vars ++ [v]) (mergeMembers layer (single k (valueOf v.2))) := by
  generalize hvalue : valueOf v.2 = value
  have hsnoc (k' : KnownSetting) : variableValue (vars ++ [v]) k' =
      (variableValue vars k').or (if k = k' then some value else none) := by
    rw [variableValue_snoc, hk, hvalue]
    simp only [Option.some.injEq]
  refine ⟨ordered_mergeMembers h.ordered _, ?_, ?_, ?_⟩
  · intro sectionName
    exact (h.sections sectionName).mergeMembers (ordered_single k value) (sectionIs_single k value sectionName)
      fun hbelow _ => ordered_mergeMembers hbelow _
  · intro k'
    rw [inSection_mergeMembers (ordered_single k value) (sectionIs_single k value _), inSection_single, h.values, hsnoc]
    by_cases hsame : k = k'
    · subst hsame
      simp [hnew, overlay, laidOver]
    · rw [if_neg hsame, Option.or_none]
      rfl
  · intro sectionName
    rw [isSome_mergeMembers (ordered_single k value), h.present, isSome_single]
    simp only [hsnoc]
    constructor
    · rintro (⟨k', hsection, hset⟩ | hsection)
      · exact ⟨k', hsection, by simp [hset]⟩
      · exact ⟨k, hsection, by simp⟩
    · rintro ⟨k', hsection, hset⟩
      by_cases hsame : k = k'
      · exact Or.inr (hsame ▸ hsection)
      · exact Or.inl ⟨k', hsection, by simpa [hsame] using hset⟩

/-- One variable more that stands for a setting is merged over the layer. -/
theorem settings_snoc_of_setting (vars : List (String × String)) {v : String × String} {k : KnownSetting}
    (hk : ofVariable? v.1 = some k) : settings (vars ++ [v]) = mergeMembers (settings vars) (single k (valueOf v.2)) := by
  unfold settings
  rw [List.foldl_append, List.foldl_cons, List.foldl_nil, path_of_ofVariable? hk]
  rfl

/-- One variable more without the prefix adds nothing. -/
theorem settings_snoc_of_not_prefixed (vars : List (String × String)) {v : String × String} (h : ¬IsPrefixed v.1) :
    settings (vars ++ [v]) = settings vars := by
  unfold settings
  rw [List.foldl_append, List.foldl_cons, List.foldl_nil, path_of_not_prefixed h]

/-- The layer of an environment holds for each setting what its variable stands for. -/
theorem holds_settings {vars : List (String × String)} (h : Conforms vars) : Holds vars (settings vars) := by
  induction vars using List.reverseRecOn with
  | nil => exact holds_nil
  | append_singleton vars v ih =>
    obtain ⟨hknown, honce⟩ := h
    rw [List.filterMap_append, List.nodup_append] at honce
    obtain ⟨honce, -, hdisjoint⟩ := honce
    have hbefore := ih ⟨fun w hw => hknown w (List.mem_append_left _ hw), honce⟩
    cases hk : ofVariable? v.1 with
    | none =>
      have hnot : ¬IsPrefixed v.1 := by
        intro hprefixed
        have hsome := hknown v (by simp) hprefixed
        simp [hk] at hsome
      have hsame (k : KnownSetting) : variableValue (vars ++ [v]) k = variableValue vars k := by
        rw [variableValue_snoc, hk]
        simp
      rw [settings_snoc_of_not_prefixed vars hnot]
      exact ⟨hbefore.ordered, hbefore.sections, fun k => (hbefore.values k).trans (hsame k).symm,
        fun sectionName => by simp only [hsame, hbefore.present]⟩
    | some k =>
      have hnew : variableValue vars k = none := by
        unfold variableValue
        rw [Option.map_eq_none_iff, List.find?_eq_none]
        intro w hw hnames
        refine hdisjoint k (List.mem_filterMap.2 ⟨w, hw, beq_iff_eq.1 hnames⟩) k ?_ rfl
        simp [hk]
      rw [settings_snoc_of_setting vars hk]
      exact hbefore.set hk hnew

end Environment

end StandingQuery
