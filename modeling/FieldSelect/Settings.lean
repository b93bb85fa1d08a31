import FieldSelect.Cache.Spec
import FieldSelect.Json.Basic
import FieldSelect.Schema.Basic

/-! The settings of an engine. -/
namespace FieldSelect

structure Settings where
  /-- The cache of compiled filters. -/
  filterCache : CacheSpec
  /-- The cache of view tables. -/
  viewCache : CacheSpec
  includeBaseInViews : Bool
  addUnviewedToBase : Bool
  /-- Unresolved calls and unknown types are errors, and not passed over. -/
  strict : Bool
  defaultView : String
  deriving DecidableEq

/-- Why a document holds no settings. -/
inductive SettingsError where
  | wrongType
  | invalidCacheSpec (error : SpecError)
  deriving DecidableEq

namespace Settings

def standard : Settings := ⟨.standard, .standard, true, true, true, baseView⟩

def readSpec : Json → Except SettingsError CacheSpec
  | .string text => (CacheSpec.read text).mapError .invalidCacheSpec
  | _ => .error .wrongType

def readBoolean : Json → Except SettingsError Bool
  | .boolean truth => .ok truth
  | _ => .error .wrongType

def readString : Json → Except SettingsError String
  | .string text => .ok text
  | _ => .error .wrongType

/-- Entries under other keys are passed over. -/
def readEntry (settings : Settings) (entry : String × Json) : Except SettingsError Settings := do
  let (key, value) := entry
  match key with
  | "node_cache" => return { settings with filterCache := ← readSpec value }
  | "introspector_cache" => return { settings with viewCache := ← readSpec value }
  | "include_base_in_views" => return { settings with includeBaseInViews := ← readBoolean value }
  | "add_unviewed_to_base" => return { settings with addUnviewedToBase := ← readBoolean value }
  | "strict" => return { settings with strict := ← readBoolean value }
  | "default_view" => return { settings with defaultView := ← readString value }
  | _ => return settings

/-- What an object leaves out is standard. -/
def ofJson : Json → Except SettingsError Settings
  | .object entries => entries.foldlM readEntry standard
  | _ => .error .wrongType

end Settings
end FieldSelect
