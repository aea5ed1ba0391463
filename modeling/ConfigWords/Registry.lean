import ConfigWords.Catalogue

/-! Families of devices as they are registered.
A family stands for a class, which lists the parts that it can be built for. A class may stand under
several names and may list other parts at any time, so every lookup goes through all lists again. -/
namespace ConfigWords

/-- The classes of the families by name, and the parts that every class lists now. -/
structure Registry (C : Type) where
  families : OrderedMap String C
  lists : C → List String

inductive LookupFault
  | catalogue (fault : CatalogueFault)
  | missingFamily (family : String)
deriving DecidableEq

inductive CreationFault (ε : Type)
  | lookup (fault : LookupFault)
  | construction (fault : ε)
deriving DecidableEq

namespace Registry

variable {C D ε : Type}

/-- No families yet; the classes are there already, with the parts that they list. -/
def empty (lists : C → List String) : Registry C := ⟨OrderedMap.empty, lists⟩

def register (family : String) (c : C) : ExceptT CatalogueFault (StateM (Registry C)) Unit := do
  let r ← get
  if r.families.contains family then throw (.familyTaken family)
  set { r with families := r.families.insert family c }

def relist [DecidableEq C] (r : Registry C) (c : C) (parts : List String) : Registry C :=
  { r with lists := fun k => if k = c then parts else r.lists k }

def catalogue (r : Registry C) : Catalogue := ⟨r.families.mapValues fun _ c => r.lists c⟩

def parts (r : Registry C) : Except CatalogueFault (List String) := r.catalogue.parts

def familyOf (r : Registry C) (part : String) : Except CatalogueFault String :=
  r.catalogue.familyOf part

def classOf (r : Registry C) (part : String) : Except LookupFault C := do
  let family ← (r.familyOf part).mapError .catalogue
  match r.families.get? family with
  | some c => return c
  | none => throw (.missingFamily family)

def create (construct : C → String → Except ε D) (r : Registry C) (part : String) :
    Except (CreationFault ε) D := do
  let c ← (r.classOf part).mapError .lookup
  (construct c part).mapError .construction

inductive Event (C : Type)
  | register (family : String) (c : C)
  | relist (c : C) (parts : List String)

def step [DecidableEq C] (r : Registry C) : Event C → Registry C
  | .register family c => ((register family c).run.run r).2
  | .relist c parts => r.relist c parts

def after [DecidableEq C] (lists : C → List String) (events : List (Event C)) : Registry C :=
  events.foldl step (empty lists)

end Registry
end ConfigWords
