import StandingQuery.Settings.Basic
import StandingQuery.Settings.Error
import StandingQuery.Settings.Layer

/-!
# Settings from layers

The decoding of merged layers into settings, and the words for what is wrong with them: the mismatch, the path of keys to it and
the source it came from.
-/

namespace StandingQuery

/-- Doubles in messages about settings are written positionally, integral ones without a point. -/
def settingDoubleLayout : Decimal.Layout where
  positional _ := true
  integralEnd := []
  plus := []

/-- The words for what was found among the settings. -/
def Found.inSettings : Found → String
  | .null => "unit"
  | .bool b => if b then "bool true" else "bool false"
  | .signed i => "signed int `" ++ Text.signedDecimal i ++ "`"
  | .unsigned n => "unsigned int `" ++ Text.decimal n ++ "`"
  | .double bits => "float `" ++ String.ofList (settingDoubleLayout.write bits) ++ "`"
  | .character c => "char '" ++ String.singleton c ++ "'"
  | .text s => "string " ++ Text.quoted s
  | .list => "sequence"
  | .object => "map"

/-- The message of a mismatch among the settings. -/
def Mismatch.inSettings : Mismatch → String
  | .wrongType found expected => "invalid type: found " ++ found.inSettings ++ ", expected " ++ expected
  | .outOfRange found expected => "invalid value " ++ found.inSettings ++ ", expected " ++ expected
  | .wrongLength found expected => "invalid length " ++ Text.decimal found ++ ", expected " ++ expected
  | .missingField name => "missing field `" ++ name ++ "`"
  | .duplicateField name => "duplicate field `" ++ name ++ "`"
  | .unknownVariant name variants =>
    "unknown variant: found `" ++ name ++ "`, expected `" ++ variantWords variants ++ "`"
  | .manyVariants => "invalid value map, expected map with a single key"
  | .refused message => message

/-- What is wrong with the settings, and where. -/
structure SettingFault where
  mismatch : Mismatch
  /-- The keys that lead to it. -/
  path : List String
  source : SettingSource
  deriving DecidableEq, Repr

namespace SettingFault

/-- The keys of a path with points between them, as the source spells them. -/
def keyText (source : SettingSource) (path : List String) : String :=
  match source with
  | .environment => ".".intercalate (path.map fun k => k.map Char.toUpper)
  | _ => ".".intercalate ("default" :: path)

/-- The name of a source. -/
def sourceText : SettingSource → String
  | .text => "TOML source string"
  | .file path => path ++ " TOML file"
  | .environment => "`BEACON_` environment variable(s)"

/-- The message of a fault. -/
def message (f : SettingFault) : String :=
  f.mismatch.inSettings ++ " for key " ++ Text.quoted (keyText f.source f.path) ++ " in " ++ sourceText f.source

/-- The fault as seen from the table or list above. -/
def within (key : String) (f : SettingFault) : SettingFault := { f with path := key :: f.path }

end SettingFault

namespace Setting

/-- Takes a setting apart, or says what is wrong with it. -/
abbrev Decoder (α : Type) := Setting → Except SettingFault α

/-- A fault of a setting itself. -/
def fault (s : Setting) (m : Mismatch) : SettingFault := ⟨m, [], s.source⟩

/-- The fault of a setting of another type. -/
def mistyped (s : Setting) (expected : String) : SettingFault := s.fault (.wrongType s.found expected)

/-- Decodes a text; a character is one. -/
def text : Decoder String
  | .scalar _ (.text s) => .ok s
  | .scalar _ (.character c) => .ok (String.singleton c)
  | s => .error (s.mistyped "a string")

/-- Decodes an unsigned integer of the given width. -/
def unsigned (bits : Nat) : Decoder Nat := fun s =>
  let name := "u" ++ Text.decimal bits
  match s with
  | .scalar _ (.unsigned n) => if n < Nat.pow 2 bits then .ok n else .error (s.fault (.outOfRange s.found name))
  | .scalar _ (.signed i) =>
    if 0 ≤ i ∧ i.toNat < Nat.pow 2 bits then .ok i.toNat else .error (s.fault (.outOfRange s.found name))
  | s => .error (s.mistyped name)

/-- The variant that a setting names. -/
def variantNamed {α : Type} (variants : List (String × α)) (s : Setting) (name : String) : Except SettingFault α :=
  match List.lookup name variants with
  | some a => .ok a
  | none => .error (s.fault (.unknownVariant name (variants.map (·.1))))

/-- Decodes a variant of a named enumeration. A table stands for the variant that its first key names, which may hold nothing,
and there is no setting that is nothing; what is wrong with such a key is reported of the setting below it. -/
def variant {α : Type} (name : String) (variants : List (String × α)) : Decoder α := fun s =>
  match s with
  | .scalar _ (.text v) => variantNamed variants s v
  | .table _ [] => .error (s.mistyped "enum")
  | .table _ ((key, value) :: _) =>
    match variantNamed variants value key with
    | .ok _ => .error ((value.mistyped "unit").within key)
    | .error f => .error (f.within key)
  | s => .error (s.mistyped ("enum " ++ name))

/-- Decodes a member if there is one. -/
def member {α : Type} (m : Members) (key : String) (decode : Decoder α) : Except SettingFault (Option α) :=
  match Keyed.get? m key with
  | none => .ok none
  | some s => ((decode s).map some).mapError (.within key)

/-- The value of a member that has to be there. -/
def required {α : Type} (source : SettingSource) (key : String) : Option α → Except SettingFault α
  | some a => .ok a
  | none => .error ⟨.missingField key, [], source⟩

/-- Decodes the item at a position, if there is one. -/
def item {α : Type} (items : List Setting) (i : Nat) (decode : Decoder α) : Except SettingFault (Option α) :=
  match items[i]? with
  | none => .ok none
  | some s => ((decode s).map some).mapError (.within (Text.decimal i))

/-- The value of an item that has to be there, in a list that stands for a record. -/
def requiredItem {α : Type} (source : SettingSource) (shape : String) (i : Nat) : Option α → Except SettingFault α
  | some a => .ok a
  | none => .error ⟨.wrongLength i shape, [], source⟩

/-- Decodes a record with a name from a table or from a list of its fields. -/
def record {α : Type} (name : String) (ofTable : SettingSource → Members → Except SettingFault α)
    (ofList : SettingSource → List Setting → Except SettingFault α) : Decoder α
  | .table source members => ofTable source members
  | .list source items => ofList source items
  | s => .error (s.mistyped ("struct " ++ name))

end Setting

open Setting

/-- Decodes the name of a registry's kind. -/
def RegistryKind.ofSetting : Setting.Decoder RegistryKind := variant "RegistryBackend" variants

/-- Decodes the settings of the scheduler. -/
def SchedulerSettings.ofSetting (home : Option String) : Setting.Decoder SchedulerSettings :=
  record "SchedulerConfig"
    (fun _ m => do
      let databasePath ← member m "database_path" text
      let pageSize ← member m "page_size" (unsigned 32)
      let queryTimeoutMs ← member m "query_timeout_ms" (unsigned 64)
      let registry ← member m "registry" RegistryKind.ofSetting
      return ofOptions home queryTimeoutMs pageSize registry databasePath)
    (fun _ items => do
      return ofOptions home (← item items 0 (unsigned 64)) (← item items 1 (unsigned 32))
        (← item items 2 RegistryKind.ofSetting) (← item items 3 text))

/-- Decodes a policy of retrying. -/
def RetryPolicy.ofSetting : Setting.Decoder RetryPolicy :=
  record "RetryConfig"
    (fun _ m => do
      let delayMs ← member m "delay_ms" (unsigned 64)
      let maxAttempts ← member m "max_attempts" (unsigned 32)
      return ofOptions maxAttempts delayMs)
    (fun _ items => do return ofOptions (← item items 0 (unsigned 32)) (← item items 1 (unsigned 64)))

/-- Decodes the settings of mail. -/
def EmailSettings.ofSetting : Setting.Decoder EmailSettings :=
  record "EmailConfig"
    (fun source m => do
      let password ← member m "password" text
      let sender ← member m "sender" text
      let smtpHost ← member m "smtp_host" text
      let smtpPort ← member m "smtp_port" (unsigned 16)
      let username ← member m "username" text
      return ⟨← required source "sender" sender, ← required source "smtp_host" smtpHost, smtpPort.getD standardPort,
        username, password⟩)
    (fun source items => do
      let shape := Json.rowShape "EmailConfig" 5
      let sender ← requiredItem source shape 0 (← item items 0 text)
      let smtpHost ← requiredItem source shape 1 (← item items 1 text)
      let smtpPort ← item items 2 (unsigned 16)
      let username ← requiredItem source shape 3 (← item items 3 text)
      let password ← requiredItem source shape 4 (← item items 4 text)
      return ⟨sender, smtpHost, smtpPort.getD standardPort, some username, some password⟩)

/-- The settings that merged layers hold. -/
def Settings.ofLayers (home : Option String) (m : Setting.Members) : Except SettingFault Settings := do
  let email ← member m "email" EmailSettings.ofSetting
  let retry ← member m "retry" RetryPolicy.ofSetting
  let scheduler ← member m "scheduler" (SchedulerSettings.ofSetting home)
  return ofOptions home scheduler retry email

end StandingQuery
