import ConfigWords.OrderedMap
import ConfigWords.Text.Quoted

/-! The catalogue of device families and the parts that each of them provides.
A part must belong to one family only; this is checked whenever parts are asked for, so a family
may change its parts at any time. -/
namespace ConfigWords

structure Catalogue where
  families : OrderedMap String (List String)

inductive CatalogueFault
  | familyTaken (family : String)
  | partClaimedTwice (part first second : String)
  | unknownPart (part : String) (available : List String)
  | noParts
deriving DecidableEq

def CatalogueFault.message : CatalogueFault → String
  | .familyTaken family => s!"Device family '{family}' already registered"
  | .partClaimedTwice part first second =>
    s!"Part '{part}' claimed by both '{first}' and '{second}'"
  | .unknownPart part available =>
    let listed := Text.quotedList available
    s!"Unknown device '{part}'. Available: {listed}"
  | .noParts =>
    "No devices registered! Ensure device modules are imported. " ++
      "Example: import pic32cfg.pic32mz_efh"

namespace Catalogue

def familyNames (c : Catalogue) : List String := c.families.keys

def claims (c : Catalogue) : List (String × String) :=
  c.families.entries.flatMap fun e => e.2.map fun part => (part, e.1)

def partIndex (c : Catalogue) : Except CatalogueFault (OrderedMap String String) :=
  c.claims.foldlM (fun m claim =>
    match m.get? claim.1 with
    | some first => .error (.partClaimedTwice claim.1 first claim.2)
    | none => .ok (m.insert claim.1 claim.2)) OrderedMap.empty

def parts (c : Catalogue) : Except CatalogueFault (List String) := c.partIndex.map (·.keys)

def familyOf (c : Catalogue) (part : String) : Except CatalogueFault String := do
  let index ← c.partIndex
  match index.get? part with
  | some family => return family
  | none => throw (.unknownPart part index.keys)

def verify (c : Catalogue) : Except CatalogueFault Unit := do
  if (← c.parts).isEmpty then throw .noParts

end Catalogue
end ConfigWords
