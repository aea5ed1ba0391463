import ConfigWords.Field
import ConfigWords.OrderedMap
import ConfigWords.Scalar
import ConfigWords.Word

/-! Configuration registers and images of them.
An image gives a word to each of some registers. Two images are the same when they give the same
words, in whatever order. -/
namespace ConfigWords

structure Register where
  name : Scalar
  address : Int
  width : Int := 4
  reset : Int := Word.erased

abbrev Registers := OrderedMap Scalar Register

def Registers.ofList (rs : List Register) : Registers :=
  OrderedMap.ofList (rs.map fun r => (r.name, r))

structure UnknownRegister where
  name : Scalar

def UnknownRegister.message (fault : UnknownRegister) : String := fault.name.quoted

structure Image where
  words : OrderedMap Scalar Int

namespace Image

def erased (registers : Registers) : Image := ⟨registers.mapValues fun _ r => r.reset⟩

def word (image : Image) (name : Scalar) : Except UnknownRegister Int :=
  match image.words.get? name with
  | some w => .ok w
  | none => .error ⟨name⟩

def hex (image : Image) (name : Scalar) : Except UnknownRegister String :=
  (image.word name).map Word.hex

def fieldValue (image : Image) (f : Field) : Except UnknownRegister Nat :=
  (image.word f.register).map f.extract

def hexWords (image : Image) : OrderedMap Scalar String := image.words.mapValues fun _ => Word.hex

def same (a b : Image) : Bool :=
  a.words.size == b.words.size &&
    a.words.entries.all fun e => b.words.get? e.1 == some e.2

/-- The digest of a word: its magnitude modulo `2 ^ 61 - 1` under its own sign, and -2 for -1. -/
def digestWord (n : Int) : Int :=
  let residue : Int := n.natAbs % 0x1FFFFFFFFFFFFFFF
  let signed := if n < 0 then -residue else residue
  if signed = -1 then -2 else signed

def sameDigest (a b : Image) : Bool :=
  same ⟨a.words.mapValues fun _ => digestWord⟩ ⟨b.words.mapValues fun _ => digestWord⟩

end Image
end ConfigWords
