import StandingQuery.Json.Decode
import StandingQuery.Retry

/-!
# Settings

What an engine is set up with: how queries are run and where the registry lives, how claims are tried again, and how mail is
sent. Every setting has a default but the sender and the host of the mail section, which may be missing as a whole.
-/

namespace StandingQuery

/-- Where the registry of running jobs lives. -/
inductive RegistryKind where
  /-- In the memory of one process. -/
  | memory
  /-- In a table that processes share. -/
  | rows
  deriving DecidableEq, Repr, Inhabited

/-- How queries are run and where the registry lives. -/
structure SchedulerSettings where
  /-- The most milliseconds that one run of a query may take. -/
  queryTimeoutMs : Nat
  pageSize : Nat
  registry : RegistryKind
  /-- The file of a registry that processes share. -/
  databasePath : String
  deriving DecidableEq, Repr

/-- How mail is sent. -/
structure EmailSettings where
  sender : String
  smtpHost : String
  smtpPort : Nat
  username : Option String
  password : Option String
  deriving DecidableEq, Repr

/-- What an engine is set up with. -/
structure Settings where
  scheduler : SchedulerSettings
  retry : RetryPolicy
  /-- Mail is delivered only if there is a section for it. -/
  email : Option EmailSettings
  deriving DecidableEq, Repr

namespace RegistryKind

/-- The kinds with their names. -/
def variants : List (String × RegistryKind) := [("memory", .memory), ("sqlite", .rows)]

/-- The name of a kind. -/
def name : RegistryKind → String
  | .memory => "memory"
  | .rows => "sqlite"

end RegistryKind

/-- The directory below the home directory that holds the engine's files; without a home it is below the current one. -/
def settingsDirectory (home : Option String) : String := home.getD "." ++ "/.beacon"

namespace SchedulerSettings

/-- The settings with defaults for those that are missing. -/
def ofOptions (home : Option String) (queryTimeoutMs pageSize : Option Nat) (registry : Option RegistryKind)
    (databasePath : Option String) : SchedulerSettings :=
  ⟨queryTimeoutMs.getD 10000, pageSize.getD 250, registry.getD .memory,
    databasePath.getD (settingsDirectory home ++ "/beacon.db")⟩

/-- Every setting at its default. -/
def standard (home : Option String) : SchedulerSettings := ofOptions home none none none none

/-- The settings as a value. -/
def encode (s : SchedulerSettings) : Json :=
  .obj [("database_path", .str s.databasePath), ("page_size", .ofNat s.pageSize),
    ("query_timeout_ms", .ofNat s.queryTimeoutMs), ("registry", .str s.registry.name)]

end SchedulerSettings

namespace RetryPolicy

/-- The policy with defaults for what is missing. -/
def ofOptions (maxAttempts delayMs : Option Nat) : RetryPolicy :=
  ⟨maxAttempts.getD standard.maxAttempts, delayMs.getD standard.delayMs⟩

/-- A policy as a value. -/
def encode (p : RetryPolicy) : Json := .obj [("delay_ms", .ofNat p.delayMs), ("max_attempts", .ofNat p.maxAttempts)]

end RetryPolicy

namespace EmailSettings

/-- The port of the host when none is set. -/
def standardPort : Nat := 587

/-- The settings as a value. -/
def encode (s : EmailSettings) : Json :=
  .obj [("password", .ofOption .str s.password), ("sender", .str s.sender), ("smtp_host", .str s.smtpHost),
    ("smtp_port", .ofNat s.smtpPort), ("username", .ofOption .str s.username)]

end EmailSettings

namespace Settings

/-- The settings with defaults for the sections that are missing. -/
def ofOptions (home : Option String) (scheduler : Option SchedulerSettings) (retry : Option RetryPolicy)
    (email : Option EmailSettings) : Settings :=
  ⟨scheduler.getD (.standard home), retry.getD .standard, email⟩

/-- The settings as a value. -/
def encode (s : Settings) : Json :=
  .obj [("email", .ofOption EmailSettings.encode s.email), ("retry", s.retry.encode), ("scheduler", s.scheduler.encode)]

end Settings

/-! ## Settings in records -/

open Json

/-- Decodes the settings of the scheduler. -/
def SchedulerSettings.decode (home : Option String) : Decoder SchedulerSettings :=
  record "SchedulerConfig" 4
    (fun o => do
      let databasePath ← member o "database_path" text
      let pageSize ← member o "page_size" (unsigned 32)
      let queryTimeoutMs ← member o "query_timeout_ms" (unsigned 64)
      let registry ← member o "registry" (variant RegistryKind.variants)
      return ofOptions home queryTimeoutMs pageSize registry databasePath)
    (fun row => do
      let d := standard home
      return ⟨← row.get 0 (unsigned 64) (some d.queryTimeoutMs), ← row.get 1 (unsigned 32) (some d.pageSize),
        ← row.get 2 (variant RegistryKind.variants) (some d.registry), ← row.get 3 text (some d.databasePath)⟩)

/-- Decodes a policy of retrying. -/
def RetryPolicy.decode : Decoder RetryPolicy :=
  record "RetryConfig" 2
    (fun o => do
      let delayMs ← member o "delay_ms" (unsigned 64)
      let maxAttempts ← member o "max_attempts" (unsigned 32)
      return ofOptions maxAttempts delayMs)
    (fun row => do
      return ⟨← row.get 0 (unsigned 32) (some standard.maxAttempts), ← row.get 1 (unsigned 64) (some standard.delayMs)⟩)

/-- Decodes the settings of mail. -/
def EmailSettings.decode : Decoder EmailSettings :=
  record "EmailConfig" 5
    (fun o => do
      let password ← member o "password" (optional text)
      let sender ← member o "sender" text
      let smtpHost ← member o "smtp_host" text
      let smtpPort ← member o "smtp_port" (unsigned 16)
      let username ← member o "username" (optional text)
      return ⟨← required "sender" sender, ← required "smtp_host" smtpHost, smtpPort.getD standardPort, username.join,
        password.join⟩)
    (fun row => do
      return ⟨← row.get 0 text none, ← row.get 1 text none, ← row.get 2 (unsigned 16) (some standardPort),
        ← row.get 3 (optional text) none, ← row.get 4 (optional text) none⟩)

/-- Decodes settings. -/
def Settings.decode (home : Option String) : Decoder Settings :=
  record "BeaconConfig" 3
    (fun o => do
      let email ← member o "email" (optional EmailSettings.decode)
      let retry ← member o "retry" RetryPolicy.decode
      let scheduler ← member o "scheduler" (SchedulerSettings.decode home)
      return ofOptions home scheduler retry email.join)
    (fun row => do
      return ⟨← row.get 0 (SchedulerSettings.decode home) (some (.standard home)),
        ← row.get 1 RetryPolicy.decode (some .standard), ← row.get 2 (optional EmailSettings.decode) (some none)⟩)

end StandingQuery
