import ConfigWords.Distinct
import ConfigWords.OrderedMap
import ConfigWords.Setting

/-! The catalogue of settings, and the snapshots of choices made in it. -/
namespace ConfigWords

abbrev Snapshot := OrderedMap Int String

structure Schema where
  settings : OrderedMap Int Setting

structure SchemaFault where
  index : Int

def SchemaFault.message (fault : SchemaFault) : String :=
  s!"Setting index {fault.index} already exists"

namespace Schema

def empty : Schema := ⟨OrderedMap.empty⟩

def add (schema : Schema) (setting : Setting) : Except SchemaFault Schema :=
  if schema.settings.contains setting.index then .error ⟨setting.index⟩
  else .ok ⟨schema.settings.insert setting.index setting⟩

def get? (schema : Schema) (index : Int) : Option Setting := schema.settings.get? index

def contains (schema : Schema) (index : Int) : Bool := schema.settings.contains index

def toList (schema : Schema) : List Setting := schema.settings.values

def indices (schema : Schema) : List Int := schema.settings.keys

def categories (schema : Schema) : List String :=
  distinct (schema.toList.map (·.category))

def ofCategory (schema : Schema) (category : String) : List Setting :=
  schema.toList.filter fun s => s.category == category

def informationalIndices (schema : Schema) : List Int :=
  (schema.settings.entries.filter fun e => e.2.informational).map (·.1)

def defaults (schema : Schema) : Snapshot := schema.settings.mapValues fun _ s => s.default

/-- The defaults overlaid with a snapshot; entries that the catalogue does not know stay. -/
def resolve (schema : Schema) (snapshot : Snapshot) : Snapshot := schema.defaults.overlay snapshot

end Schema
end ConfigWords
