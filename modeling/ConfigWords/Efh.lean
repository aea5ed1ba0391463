import ConfigWords.Catalogue
import ConfigWords.Description.Reading
import ConfigWords.Device
import ConfigWords.Efh.Pins
import ConfigWords.Efh.Settings

/-! The EFH family: four registers, eight parts in four packages, and what they have in common. -/
namespace ConfigWords.Efh

def familyName : String := "pic32mz_efh"

/-- The part that is meant where none is named: the largest package, which has every pin. -/
def defaultPart : String := "P32MZ2048EFH144"

def registers : List (String × Int) := [
  ("DEVCFG3", 0x1FC0FFC0),
  ("DEVCFG2", 0x1FC0FFC4),
  ("DEVCFG1", 0x1FC0FFC8),
  ("DEVCFG0", 0x1FC0FFCC)]

def parts : List PartEntry := [
  ⟨"P32MZ1024EFH064", 64, 1024, 512⟩,
  ⟨"P32MZ1024EFH100", 100, 1024, 512⟩,
  ⟨"P32MZ1024EFH124", 124, 1024, 512⟩,
  ⟨"P32MZ1024EFH144", 144, 1024, 512⟩,
  ⟨"P32MZ2048EFH064", 64, 2048, 512⟩,
  ⟨"P32MZ2048EFH100", 100, 2048, 512⟩,
  ⟨"P32MZ2048EFH124", 124, 2048, 512⟩,
  ⟨"P32MZ2048EFH144", 144, 2048, 512⟩]

def sheet : Sheet :=
  ⟨familyName, registers, parts, settings, groups, inputs, outputGroups, outputs⟩

def description : Except DescriptionFault Description := Description.ofTree sheet.toTree

def catalogue (d : Description) : Catalogue :=
  ⟨OrderedMap.empty.insert familyName (d.variants.keys.map Scalar.plain)⟩

def refusal (fault : UnknownPart) : String :=
  let listed := Text.bracketed (fault.available.map Scalar.quoted)
  s!"Unknown {familyName} part '{fault.part.plain}'. Available: {listed}"

end ConfigWords.Efh
