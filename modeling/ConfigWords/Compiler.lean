import ConfigWords.Diagnostic
import ConfigWords.Layout
import ConfigWords.Register
import ConfigWords.Schema

/-! From a snapshot of labels to the words of the registers and back.
Every register starts from its reset value. An entry of the snapshot replaces the bits of its own
field and no others; an entry that has no field or an unknown label is reported and changes
nothing. Words are cut to 32 bits at the end. -/
namespace ConfigWords

structure Compiler where
  layout : Layout
  registers : Registers
  /-- Indices of settings that have no field and are passed over. -/
  informational : List Int

inductive Verdict
  | pass
  | report (problem : Diagnostic)
  | write (field : Field) (value : Nat)

structure Compiled where
  image : Image
  diagnostics : List Diagnostic

def Compiled.clean (result : Compiled) : Bool := result.diagnostics.isEmpty

namespace Compiler

def judge (c : Compiler) (index : Int) (label : String) : Verdict :=
  if index ∈ c.informational then .pass
  else
    match c.layout.get? index with
    | none => .report (.unknownSetting index label)
    | some f =>
      match f.encode? label with
      | none => .report (.unknownOption index label f.name)
      | some value => .write f value

def diagnostics (c : Compiler) (s : Snapshot) : List Diagnostic :=
  s.entries.filterMap fun e =>
    match c.judge e.1 e.2 with
    | .report problem => some problem
    | .pass | .write _ _ => none

def apply (c : Compiler) (words : OrderedMap Scalar Int) (e : Int × String) :
    Except UnknownRegister (OrderedMap Scalar Int) :=
  match c.judge e.1 e.2 with
  | .pass | .report _ => .ok words
  | .write f value =>
    match words.get? f.register with
    | none => .error ⟨f.register⟩
    | some word => .ok (words.insert f.register (f.write word value))

def compile (c : Compiler) (s : Snapshot) : Except UnknownRegister Compiled := do
  let words ← s.entries.foldlM c.apply (Image.erased c.registers).words
  return ⟨⟨words.mapValues fun _ w => Word.cut w⟩, c.diagnostics s⟩

inductive LoggedFault
  | register (fault : UnknownRegister)
  | unwritable (problem : Diagnostic)

def log (problem : Diagnostic) : ExceptT LoggedFault (StateM (List String)) Unit :=
  if problem.writable then modify fun lines => lines ++ [problem.message]
  else throw (.unwritable problem)

/-- The image of a snapshot. Its problems are logged one after the other, and one that cannot be put
in words stops it with the earlier ones logged. -/
def compileLogged (c : Compiler) (s : Snapshot) :
    ExceptT LoggedFault (StateM (List String)) Image := do
  match c.compile s with
  | .error fault => throw (.register fault)
  | .ok result =>
    result.diagnostics.forM log
    return result.image

def decode (c : Compiler) (image : Image) : Except UnknownRegister Snapshot := do
  let labels ← c.layout.toList.mapM fun f => do
    let value ← image.fieldValue f
    return (f.labelOf? value).map fun label => (f.index, label)
  return OrderedMap.ofList (labels.filterMap id)

end Compiler
end ConfigWords
