import StandingQuery.Json.Mismatch
import StandingQuery.Keyed
import StandingQuery.Toml.Basic

/-!
# Layers of settings

Settings are read from several sources, each a tree of values. Layers are merged table by table and key by key: where both have
a value that is not a table in each, the later layer has the say. Every value keeps its source for the sake of error messages.
-/

namespace StandingQuery

/-- Where a setting comes from. -/
inductive SettingSource where
  /-- A text at hand. -/
  | text
  /-- The file at a path. -/
  | file (path : String)
  /-- The variables of the environment. -/
  | environment
  deriving DecidableEq, Repr, Inhabited

/-- A value of a layer that is neither a list nor a table. -/
inductive Scalar where
  | boolean (b : Bool)
  | signed (i : Int)
  | unsigned (n : Nat)
  | double (bits : UInt64)
  | character (c : Char)
  | text (s : String)
  deriving DecidableEq, Repr, Inhabited

/-- A value of a layer with its source. -/
inductive Setting where
  | scalar (source : SettingSource) (value : Scalar)
  | list (source : SettingSource) (items : List Setting)
  | table (source : SettingSource) (members : List (String × Setting))
  deriving Repr, Inhabited

namespace Setting

/-- The settings of a table by their keys. -/
abbrev Members := Keyed Setting

/-- The source of a setting. -/
def source : Setting → SettingSource
  | .scalar source _ => source
  | .list source _ => source
  | .table source _ => source

/-- What a setting is when something else was expected; a character is taken for a text. -/
def found : Setting → Found
  | .scalar _ (.boolean b) => .bool b
  | .scalar _ (.signed i) => .signed i
  | .scalar _ (.unsigned n) => .unsigned n
  | .scalar _ (.double bits) => .double bits
  | .scalar _ (.character c) => .text (String.singleton c)
  | .scalar _ (.text s) => .text s
  | .list _ _ => .list
  | .table _ _ => .object

/-- The key of the only member of a date or a time, which is taken for a table. -/
def momentKey : String := "$__toml_private_datetime"

mutual

/-- A TOML value as a setting. -/
def ofToml (source : SettingSource) : Toml → Setting
  | .text s => .scalar source (.text s)
  | .integer i => .scalar source (.signed i)
  | .double bits => .scalar source (.double bits)
  | .boolean b => .scalar source (.boolean b)
  | .moment written => .table source [(momentKey, .scalar source (.text written))]
  | .list items => .list source (ofItems source items)
  | .table members => .table source (ofMembers source members)

/-- The items of a TOML list as settings. -/
def ofItems (source : SettingSource) : List Toml → List Setting
  | [] => []
  | item :: items => ofToml source item :: ofItems source items

/-- The members of a TOML table as settings. -/
def ofMembers (source : SettingSource) : List (String × Toml) → List (String × Setting)
  | [] => []
  | (key, value) :: members => (key, ofToml source value) :: ofMembers source members

end

mutual

/-- A setting under a later one. -/
def merge (earlier : Setting) : Setting → Setting
  | .scalar source value => .scalar source value
  | .list source items => .list source items
  | .table source members =>
    match earlier with
    | .table _ below => .table source (mergeMembers below members)
    | _ => .table source members

/-- The members of a table under those of a later one. -/
def mergeMembers (earlier : Members) : List (String × Setting) → Members
  | [] => earlier
  | (key, value) :: members =>
    let merged := match Keyed.get? earlier key with
      | some below => merge below value
      | none => value
    mergeMembers (Keyed.set key merged earlier) members

end

/-- The setting with a path of keys above it. -/
def nest (source : SettingSource) : List String → Setting → Setting
  | [], s => s
  | key :: path, s => .table source [(key, nest source path s)]

end Setting

end StandingQuery
