import StandingQuery.Proofs.KeyedMaps
import StandingQuery.Settings.Layer

/-!
# Merged layers

What stands at a key of merged tables: the value of the later one, over that of the earlier one if both are tables, or else the
value of the earlier one (`Setting.get?_mergeMembers`). The same holds one table deeper (`Setting.inSection_mergeMembers`), which is
as deep as the settings of an engine go.
-/

namespace StandingQuery

namespace Setting

/-- A value under one that may be there. -/
def laidOver (earlier : Option Setting) (value : Setting) : Setting :=
  match earlier with
  | some below => merge below value
  | none => value

/-- The later of two values that may be there, over the earlier one. -/
def overlay (earlier : Option Setting) : Option Setting → Option Setting
  | some value => some (laidOver earlier value)
  | none => earlier

/-- What stands at a key of merged tables, if the keys of the later one are in order. -/
theorem get?_mergeMembers (earlier : Members) {later : Members} (h : Keyed.Ordered later) (key : String) :
    Keyed.get? (mergeMembers earlier later) key = overlay (Keyed.get? earlier key) (Keyed.get? later key) := by
  induction later generalizing earlier with
  | nil => rfl
  | cons e rest ih =>
    obtain ⟨k, v⟩ := e
    rw [mergeMembers, ih _ (List.pairwise_cons.1 h).2, Keyed.get?_cons, Keyed.get?_set]
    by_cases hkey : key = k
    · subst hkey
      rw [if_pos rfl, if_pos rfl, h.get?_rest]
      rfl
    · rw [if_neg hkey, if_neg hkey]

/-- Merging into a table keeps its keys in order. -/
theorem ordered_mergeMembers {earlier : Members} (h : Keyed.Ordered earlier) (later : Members) :
    Keyed.Ordered (mergeMembers earlier later) := by
  induction later generalizing earlier with
  | nil => exact h
  | cons e rest ih =>
    rw [mergeMembers]
    exact ih (h.set _ _)

/-- The members of a table. -/
def members? : Setting → Option Members
  | .table _ members => some members
  | _ => none

/-- What stands at a key of a section. -/
def inSection (m : Members) (sectionName key : String) : Option Setting := do
  let members ← (← Keyed.get? m sectionName).members?
  Keyed.get? members key

/-- Whether a section is a table if it is there, of which something is true. -/
def SectionIs (m : Members) (sectionName : String) (p : SettingSource → Members → Prop) : Prop :=
  ∀ v, Keyed.get? m sectionName = some v → ∃ source members, v = .table source members ∧ p source members

theorem SectionIs.mono {m : Members} {sectionName : String} {p q : SettingSource → Members → Prop} (h : SectionIs m sectionName p)
    (hpq : ∀ {source members}, p source members → q source members) : SectionIs m sectionName q := by
  intro v hv
  obtain ⟨source, members, rfl, hp⟩ := h v hv
  exact ⟨source, members, rfl, hpq hp⟩

/-- What stands at a key of a section of merged layers: a section that is no table has nothing to merge with. -/
theorem inSection_mergeMembers {earlier later : Members} (h : Keyed.Ordered later) {sectionName : String}
    (hlater : SectionIs later sectionName fun _ members => Keyed.Ordered members) (key : String) :
    inSection (mergeMembers earlier later) sectionName key =
      overlay (inSection earlier sectionName key) (inSection later sectionName key) := by
  unfold inSection
  rw [get?_mergeMembers earlier h]
  cases habove : Keyed.get? later sectionName with
  | none => rfl
  | some above =>
    obtain ⟨source, members, rfl, hordered⟩ := hlater above habove
    have halone : Keyed.get? members key = overlay none (Keyed.get? members key) := by cases Keyed.get? members key <;> rfl
    cases Keyed.get? earlier sectionName with
    | none => exact halone
    | some below =>
      cases below with
      | scalar _ _ => exact halone
      | list _ _ => exact halone
      | table source' members' => exact get?_mergeMembers members' hordered key

/-- A key of merged tables is there if it is in either. -/
theorem isSome_mergeMembers {earlier later : Members} (h : Keyed.Ordered later) (key : String) :
    (Keyed.get? (mergeMembers earlier later) key).isSome ↔
      (Keyed.get? earlier key).isSome ∨ (Keyed.get? later key).isSome := by
  rw [get?_mergeMembers earlier h]
  cases Keyed.get? later key <;> simp [overlay]

/-- A section of merged layers is a table if it is one in both; what is true of both tables and kept by merging is true of it. -/
theorem SectionIs.mergeMembers {earlier later : Members} (h : Keyed.Ordered later) {sectionName : String}
    {p : SettingSource → Members → Prop} (hearlier : SectionIs earlier sectionName p) (hlater : SectionIs later sectionName p)
    (hp : ∀ {source source' below above}, p source' below → p source above → p source (mergeMembers below above)) :
    SectionIs (Setting.mergeMembers earlier later) sectionName p := by
  intro v hv
  rw [get?_mergeMembers earlier h] at hv
  cases habove : Keyed.get? later sectionName with
  | none =>
    rw [habove] at hv
    exact hearlier v hv
  | some above =>
    obtain ⟨source, members, rfl, hmembers⟩ := hlater above habove
    rw [habove] at hv
    cases hbelow : Keyed.get? earlier sectionName with
    | none =>
      rw [hbelow] at hv
      cases hv
      exact ⟨source, members, rfl, hmembers⟩
    | some below =>
      obtain ⟨source', members', rfl, hmembers'⟩ := hearlier below hbelow
      rw [hbelow] at hv
      cases hv
      exact ⟨source, _, rfl, hp hmembers' hmembers⟩

/-- What stands at a key of the settings of a TOML table. -/
theorem get?_ofMembers (source : SettingSource) (members : List (String × Toml)) (key : String) :
    Keyed.get? (ofMembers source members) key = (Keyed.get? members key).map (ofToml source) := by
  induction members with
  | nil => rfl
  | cons e rest ih =>
    obtain ⟨k, v⟩ := e
    rw [ofMembers, Keyed.get?_cons, Keyed.get?_cons, ih]
    split <;> rfl

end Setting

end StandingQuery
