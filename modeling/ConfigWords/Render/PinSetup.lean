import ConfigWords.Pins.Routing
import ConfigWords.Render.Words
import ConfigWords.Text.Lowercase

/-! The C function that writes the selectors of a routing.
Two dialects differ in their comments and in the suffix of numbers; both unlock the registers,
write inputs before outputs, each register once, and lock the registers again. -/
namespace ConfigWords.Render

inductive Dialect
  | harmony
  | mikroc
deriving DecidableEq

structure DialectFault where
  name : String

def DialectFault.message (fault : DialectFault) : String :=
  let listed := Text.quotedList ["harmony", "mikroc"]
  s!"Unknown PPS code style '{fault.name}'. Available: {listed}"

def Dialect.ofName (name : String) : Except DialectFault Dialect :=
  let lowered := Text.lowercase name
  if lowered = "harmony" then .ok .harmony
  else if lowered = "mikroc" then .ok .mikroc
  else .error ⟨name⟩

structure SetupForm where
  opening : List String
  comment : String → String
  unlockNote : String
  lockNote : String
  inputsNote : String
  outputsNote : String
  suffix : String
  inputRemark : PinTables → Assignment → String
  outputRemark : PinTables → Assignment → String

def setupIndent : String := "    "

def orElse (text other : String) : String := if text.isEmpty then other else text

def inputDescription (t : PinTables) (a : Assignment) : String :=
  match t.input? a.signal with
  | some s => orElse s.description a.signal
  | none => a.signal

def outputDescription (t : PinTables) (a : Assignment) : String :=
  match (t.output? a.pin).bind fun p => p.output? a.signal with
  | some o => orElse o.description a.pin
  | none => a.pin

def blockComment (text : String) : String := "/* " ++ text ++ " */"

def lineComment (text : String) : String := "// " ++ text

def Dialect.form : Dialect → SetupForm
  | .harmony => {
      opening := ["void PPS_Initialize(void)", "\x7b"]
      comment := blockComment
      unlockNote := "Unlock system for PPS configuration"
      lockNote := "Lock back the PPS"
      inputsNote := "PPS Input Mapping"
      outputsNote := "PPS Output Mapping"
      suffix := "U"
      inputRemark := fun t a => blockComment (inputDescription t a ++ " = " ++ a.pin)
      outputRemark := fun t a => blockComment (a.signal ++ " = " ++ outputDescription t a) }
  | .mikroc => {
      opening := ["// PPS Configuration", "void PPS_Initialize(void) \x7b"]
      comment := lineComment
      unlockNote := "Unlock PPS"
      lockNote := "Lock PPS"
      inputsNote := "Configure PPS Inputs"
      outputsNote := "Configure PPS Outputs"
      suffix := ""
      inputRemark := fun _ a => lineComment a.pin
      outputRemark := fun _ a => lineComment a.signal }

def unlockKeys : List Int := [0x00000000, 0xAA996655, 0x556699AA]

def lockKey : Int := 0x00000000

def keyLine (form : SetupForm) (key : Int) : String :=
  setupIndent ++ "SYSKEY = " ++ Word.hex key ++ form.suffix ++ ";"

def lockBitLine (bit : String) : String := setupIndent ++ "CFGCONbits.IOLOCK = " ++ bit ++ ";"

def writeLine (form : SetupForm) (x : Resolved) (remark : String) : String :=
  setupIndent ++ x.register ++ " = " ++ Text.hexInt x.selector ++ form.suffix ++ "; " ++ remark

def winners : List Resolved → List Resolved
  | [] => []
  | x :: rest => x :: (winners rest).filter fun y => y.register != x.register

def writeBlock (form : SetupForm) (note : String) (remark : Assignment → String)
    (items : List Resolved) : List String :=
  if items.isEmpty then []
  else (setupIndent ++ form.comment note) ::
    items.map (fun x => writeLine form x (remark x.assignment)) ++ [""]

def setupLines (form : SetupForm) (r : Routing) (t : PinTables) : List String :=
  form.opening ++ [setupIndent ++ form.comment form.unlockNote] ++
  unlockKeys.map (keyLine form) ++ [lockBitLine "0", ""] ++
  writeBlock form form.inputsNote (form.inputRemark t) (winners r.inputs) ++
  writeBlock form form.outputsNote (form.outputRemark t) (winners r.outputs) ++
  [setupIndent ++ form.comment form.lockNote, lockBitLine "1", keyLine form lockKey, "\x7d"]

def noSetup : String := "// No PPS configured\n"

def pinSetup (dialect : Dialect) (r : Routing) (t : PinTables) : String :=
  if r.selectors.entries.isEmpty then noSetup else joinLines (setupLines dialect.form r t)

def setupText (style : String) (r : Routing) (t : PinTables) : Except DialectFault String :=
  (Dialect.ofName style).map fun dialect => pinSetup dialect r t

end ConfigWords.Render
