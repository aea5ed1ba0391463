import ConfigWords.Field
import ConfigWords.Ordering

/-! The layout of all fields in the registers.
Fields are added one by one. An index that is taken and a field that shares a bit with an
earlier one are refused, so in every layout built by `add` the fields of a register are apart,
unless the register is NaN, which agrees with no register. -/
namespace ConfigWords

structure Layout where
  fields : OrderedMap Int Field

inductive LayoutFault
  | alreadyMapped (index : Int)
  | overlap (added existing : Field)

def Field.span (f : Field) : String := s!"[{f.stop - 1}:{f.start}]"

def LayoutFault.message : LayoutFault → String
  | .alreadyMapped index => s!"Setting {index} already mapped"
  | .overlap added existing =>
    s!"{added.register.plain}.{added.name} {added.span} overlaps {existing.name} {existing.span}"

namespace Layout

def empty : Layout := ⟨OrderedMap.empty⟩

def toList (layout : Layout) : List Field := layout.fields.values

def add (layout : Layout) (f : Field) : Except LayoutFault Layout :=
  if layout.fields.contains f.index then .error (.alreadyMapped f.index)
  else
    match layout.toList.find? fun g => f.overlaps g with
    | some g => .error (.overlap f g)
    | none => .ok ⟨layout.fields.insert f.index f⟩

def contains (layout : Layout) (index : Int) : Bool := layout.fields.contains index

def refuseOverlap (f g : Field) : ExceptT LayoutFault (StateM Layout) Unit :=
  if f.overlaps g then throw (.overlap f g) else pure ()

/-- The addition to a layout that is changed in place: the index is looked up, the fields are gone
through, and only then the field is written. -/
def addInPlace (f : Field) : ExceptT LayoutFault (StateM Layout) Unit := do
  let layout ← get
  if layout.contains f.index then throw (.alreadyMapped f.index)
  layout.toList.forM (refuseOverlap f)
  set (Layout.mk (layout.fields.insert f.index f))

def get? (layout : Layout) (index : Int) : Option Field := layout.fields.get? index

def fieldsOf (layout : Layout) (register : Scalar) : List Field :=
  (layout.toList.filter fun f => f.register.agrees register).mergeSort fun f g => f.start ≤ g.start

def registers (layout : Layout) : List Scalar :=
  distinct (layout.toList.map (·.register))

inductive Reachable : Layout → Prop
  | empty : Reachable empty
  | add {layout next : Layout} {f : Field} :
    Reachable layout → layout.add f = .ok next → Reachable next

end Layout
end ConfigWords
