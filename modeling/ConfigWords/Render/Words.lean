import ConfigWords.Register

/-! Compiled words as text: a summary with one line for each register, and a C header. -/
namespace ConfigWords.Render

def joinLines (lines : List String) : String := "\n".intercalate lines ++ "\n"

def summaryLine (name : Scalar) (address : Int) (word : Int) : String :=
  name.plain ++ " @ " ++ Word.hex address ++ " = " ++ Word.hex word

def defineLine (name : Scalar) (address : Int) (word : Int) : String :=
  "#define " ++ name.plain ++ "_VALUE " ++ Word.hex word ++ "U  /* @ " ++ Word.hex address ++ " */"

def registerLines (line : Scalar → Int → Int → String) (image : Image) (registers : Registers) :
    Except UnknownRegister (List String) :=
  registers.entries.mapM fun e => (image.word e.1).map (line e.1 e.2.address)

def summary (image : Image) (registers : Registers) : Except UnknownRegister String :=
  (registerLines summaryLine image registers).map joinLines

def headerOpening : List String :=
  ["/* Generated configuration words */", "#ifndef CONFIG_WORDS_H", "#define CONFIG_WORDS_H", ""]

def headerClosing : List String := ["", "#endif /* CONFIG_WORDS_H */"]

def header (image : Image) (registers : Registers) : Except UnknownRegister String :=
  (registerLines defineLine image registers).map fun lines =>
    joinLines (headerOpening ++ lines ++ headerClosing)

inductive WordsFault
  | register (fault : UnknownRegister)
  | number (fault : NumberFault)

def checkNames (image : Image) (names : List Scalar) : Except WordsFault Unit :=
  names.forM fun name =>
    if name.writable then ((image.word name).map fun _ => ()).mapError .register
    else .error (.number .unwritable)

def writtenSummary (image : Image) (registers : Registers) : Except WordsFault String := do
  checkNames image registers.keys
  (summary image registers).mapError .register

def writtenHeader (image : Image) (registers : Registers) : Except WordsFault String := do
  checkNames image registers.keys
  (header image registers).mapError .register

end ConfigWords.Render
