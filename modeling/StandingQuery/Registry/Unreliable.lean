import StandingQuery.Registry.Basic

/-!
# Registries behind an unreliable link

A registry that may refuse calls and may report a conflict that is none, as when reads lag behind writes. The claims made
through the link are kept in order.
-/

namespace StandingQuery

/-- The operations of a registry by their kind. -/
inductive RegistryCall where
  | get
  | put
  | remove
  | removeIfOwned
  deriving DecidableEq, Repr

namespace RegistryCall

/-- The name of an operation. -/
def name : RegistryCall → String
  | .get => "get"
  | .put => "put"
  | .remove => "remove"
  | .removeIfOwned => "remove_if_owned"

/-- What a refused call reports. -/
def refused (call : RegistryCall) : SchedulerError := .noTimers (call.name ++ " refused")

end RegistryCall

/-- What came of a claim. -/
inductive ClaimResult where
  /-- The call was refused. -/
  | refused
  /-- There was an entry, or the link said so. -/
  | conflict
  /-- The marker was entered. -/
  | entered
  deriving DecidableEq, Repr

/-- A claim of a query for a token. -/
structure ClaimMade where
  queryId : String
  token : Uuid
  result : ClaimResult
  deriving DecidableEq, Repr

/-- A registry with its link. -/
structure Unreliable (ρ : Type) where
  registry : ρ
  /-- The operations that are refused. -/
  refuses : RegistryCall → Bool
  /-- Whether a claim that is let through meets a conflict that is none, after these claims were let through. -/
  stale : List ClaimMade → String → Bool
  /-- Every claim made through the link, the oldest first. -/
  claims : List ClaimMade

namespace Unreliable

variable {ρ : Type}

/-- A registry behind a link that lets every call through. -/
def reliable (r : ρ) : Unreliable ρ := ⟨r, fun _ => false, fun _ _ => false, []⟩

/-- The claims that were let through. -/
def passed (u : Unreliable ρ) : List ClaimMade := u.claims.filter fun c => c.result != .refused

/-- The registry with one more claim on record. -/
def note (u : Unreliable ρ) (id : String) (token : Uuid) (result : ClaimResult) : Unreliable ρ :=
  { u with claims := u.claims ++ [⟨id, token, result⟩] }

variable [JobRegistry ρ]

instance : JobRegistry (Unreliable ρ) where
  get u id := if u.refuses .get then .error (RegistryCall.refused .get) else JobRegistry.get u.registry id
  putIfAbsent u id m :=
    if u.refuses .put then (.error (RegistryCall.refused .put), u.note id m.token .refused)
    else if u.stale u.passed id then (.ok false, u.note id m.token .conflict)
    else
      match JobRegistry.putIfAbsent u.registry id m with
      | (.ok true, r) => (.ok true, { u with registry := r }.note id m.token .entered)
      | (.ok false, r) => (.ok false, { u with registry := r }.note id m.token .conflict)
      | (.error e, r) => (.error e, { u with registry := r }.note id m.token .refused)
  remove u id :=
    if u.refuses .remove then (.error (RegistryCall.refused .remove), u)
    else
      match JobRegistry.remove u.registry id with
      | (answer, r) => (answer, { u with registry := r })
  removeIfOwned u id token :=
    if u.refuses .removeIfOwned then (.error (RegistryCall.refused .removeIfOwned), u)
    else
      match JobRegistry.removeIfOwned u.registry id token with
      | (answer, r) => (answer, { u with registry := r })

end Unreliable

end StandingQuery
