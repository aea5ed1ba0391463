import ConfigWords.Text.Quoted

/-! Settings: one configuration choice each, with its options and its default. -/
namespace ConfigWords

structure Setting where
  index : Int
  name : String
  category : String
  options : List String
  default : String
  description : String
  /-- Shown to the user without a field of its own. -/
  informational : Bool
  index_nonneg : 0 ≤ index
  options_ne_nil : options ≠ []
  options_nodup : options.Nodup
  default_mem : default ∈ options

inductive SettingFault
  | negativeIndex (index : Int)
  | noOptions (index : Int)
  | duplicateOptions (index : Int)
  | defaultNotOption (index : Int) (default : String)
deriving DecidableEq

def SettingFault.message : SettingFault → String
  | .negativeIndex index => s!"Setting index must be >= 0, got {index}"
  | .noOptions index => s!"Setting {index} has no options"
  | .duplicateOptions index => s!"Setting {index} has duplicate options"
  | .defaultNotOption index default =>
    s!"Setting {index} default {Text.quoted default} is not one of its options"

structure Setting.Draft where
  index : Int
  name : String
  category : String
  options : List String
  default : String
  description : String := ""
  informational : Bool := false

/-- The setting of a draft, or the first fault: index, options, their difference, default. -/
def Setting.Draft.check (d : Setting.Draft) : Except SettingFault Setting :=
  if index_neg : d.index < 0 then .error (.negativeIndex d.index)
  else if none : d.options = [] then .error (.noOptions d.index)
  else if distinct : d.options.Nodup then
    if member : d.default ∈ d.options then
      .ok {
        index := d.index
        name := d.name
        category := d.category
        options := d.options
        default := d.default
        description := d.description
        informational := d.informational
        index_nonneg := by omega
        options_ne_nil := none
        options_nodup := distinct
        default_mem := member }
    else .error (.defaultNotOption d.index d.default)
  else .error (.duplicateOptions d.index)

end ConfigWords
