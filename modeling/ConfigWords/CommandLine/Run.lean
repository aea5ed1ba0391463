import ConfigWords.CommandLine.Arguments
import ConfigWords.InputFile
import ConfigWords.Interchange
import ConfigWords.Render.Pragmas

/-! What the command line does on a request, given the content of the file it names.
Problems of the input are noted and do not change the exit status; a file that cannot be read and
a part that is not there are reported and end with status 2. Other failures are not caught. -/
namespace ConfigWords.CommandLine

inductive Level
  | debug
  | warning
  | error
deriving DecidableEq

def Level.name : Level → String
  | .debug => "DEBUG"
  | .warning => "WARNING"
  | .error => "ERROR"

structure Note where
  level : Level
  text : String
deriving DecidableEq

def Note.line (n : Note) : String := n.level.name ++ ": " ++ n.text

inductive Crash
  | description (fault : DescriptionFault)
  | catalogue (fault : CatalogueFault)
  | part (fault : UnknownPart)
  | input (fault : InputFault)
  | snapshot (fault : SnapshotFault)
  | assignments (fault : AssignmentFault)
  | register (fault : UnknownRegister)
  | warning (problem : Diagnostic)
  | clock (fault : ClockFault)

def Crash.message : Crash → String
  | .description _ => "the description of the parts contradicts itself"
  | .catalogue fault => fault.message
  | .part fault => Efh.refusal fault
  | .input (.scalar fault) => fault.message
  | .input .nullInName => "embedded null byte"
  | .input _ => "the file is no text in UTF-8"
  | .snapshot .unwritable => NumberFault.unwritable.message
  | .snapshot _ => "the index of a setting is no number"
  | .assignments _ => "an assignment is no mapping"
  | .register fault => "unknown register " ++ fault.message
  | .warning _ => NumberFault.unwritable.message
  | .clock fault => fault.message

inductive Ending
  | reported (text : String)
  | crash (fault : Crash)

def endingOf (failure : Option Failure) (crash : Crash) : Ending :=
  match failure with
  | some failure => .reported failure.message
  | none => .crash crash

structure Transcript where
  output : String := ""
  notes : List Note := []

/-- Work that writes and notes as it goes and may stop. What has been written stays written. -/
abbrev Session := ExceptT Ending (StateM Transcript)

def note (n : Note) : Session Unit := modify fun t => { t with notes := t.notes ++ [n] }

def write (text : String) : Session Unit := modify fun t => { t with output := t.output ++ text }

def attempt {ε α : Type} (ending : ε → Ending) (result : Except ε α) : Session α :=
  match result with
  | .ok a => return a
  | .error fault => throw (ending fault)

structure Outcome where
  exit : Except Crash Nat
  output : String
  notes : List Note

def badInput : Nat := 2

def outcome (session : Session Unit) : Outcome :=
  match session.run.run {} with
  | (.ok _, t) => ⟨.ok 0, t.output, t.notes⟩
  | (.error (.reported text), t) => ⟨.ok badInput, t.output, t.notes ++ [⟨.error, text⟩]⟩
  | (.error (.crash fault), t) => ⟨.error fault, t.output, t.notes⟩

def alignRight (width : Nat) (text : String) : String :=
  String.ofList (List.replicate (width - text.length) ' ' ++ text.toList)

def partLine (v : Variant) : String :=
  let pins := alignRight 3 (toString v.pins)
  let flash := alignRight 4 (toString v.flashKb)
  s!"{v.part.plain}  {pins} pins  {flash} KB flash  {v.ramKb} KB RAM\n"

def listParts (d : Description) : Session Unit :=
  d.variants.values.forM fun v => do
    note ⟨.debug, Device.creationNote ⟨d, v⟩ v.part⟩
    write (partLine v)

def warn (problem : Diagnostic) : Session Unit :=
  if problem.writable then note ⟨.warning, problem.message⟩
  else throw (.crash (.warning problem))

def writeFrequency (name : String) (mhz : Except ClockFault Binary64) : Session Unit := do
  let mhz ← attempt (fun fault => .crash (.clock fault)) mhz
  write s!"{name}  ~ {mhz.general} MHz\n"

def writeFrequencies (s : Snapshot) : Session Unit := do
  writeFrequency "SYSCLK" (Clock.systemFrequency s)
  writeFrequency "PBCLK2" (Clock.busFrequency s 2)
  writeFrequency "PBCLK3" (Clock.busFrequency s 3)

def writeRendered (words : Except UnknownRegister String) : Session Unit := do
  write (← attempt (fun fault => .crash (.register fault)) words)

def writeWords (device : Device) (s : Snapshot) (image : Image) : WordForm → Session Unit
  | .pragmas => write (Render.pragmas s image device.description.layout device.name)
  | .header => writeRendered (Render.header image device.description.registers)
  | .summary => do
    writeRendered (Render.summary image device.description.registers)
    writeFrequencies s

def compileSnapshot (device : Device) (form : WordForm) (s : Snapshot) : Session Unit := do
  let compiled ← attempt (fun fault => .crash (.register fault)) (device.compiler.compile s)
  compiled.diagnostics.forM warn
  writeWords device s compiled.image form

def filled (d : Description) (fill : Bool) (s : Snapshot) : Snapshot :=
  if fill then d.schema.resolve s else s

section

variable (content : Except OpenFault ByteArray) (parse : String → Except Yaml.Fault Tree)

def readInput (file : String) : Session Tree :=
  attempt (fun fault => endingOf fault.failure? (.input fault)) (InputFile.read file content parse)

def compileFile (device : Device) (file : String) (fill : Bool) (form : WordForm) :
    Session Unit := do
  let tree ← readInput content parse file
  let s ← attempt (fun fault => endingOf fault.failure? (.snapshot fault))
    (Interchange.readSnapshot tree)
  compileSnapshot device form (filled device.description fill s)

def routingNotes (r : Routing) : List Note :=
  r.repeats.map (fun x => ⟨.warning, x.message⟩) ++
  r.refused.map (fun x => ⟨.warning, x.diagnostic.message⟩) ++
  r.conflicts.map fun x => ⟨.warning, (Diagnostic.pinConflict x).message⟩

def pinsFile (device : Device) (file : String) (dialect : Render.Dialect) : Session Unit := do
  let tree ← readInput content parse file
  let assignments ← attempt (fun fault => endingOf fault.failure? (.assignments fault))
    (Interchange.readAssignments tree)
  let routing := device.route assignments none
  (routingNotes routing).forM note
  write (Render.pinSetup dialect routing device.description.pins)

def withPart (d : Description) (part : String) (work : Device → Session Unit) : Session Unit := do
  let parts ← attempt (fun fault => .crash (.catalogue fault)) (Efh.catalogue d).parts
  if part ∉ parts then throw (.reported (CatalogueFault.unknownPart part parts).message)
  let device ← attempt (fun fault => .crash (.part fault)) (Device.ofDescription d (.text part))
  note ⟨.debug, device.creationNote (.text part)⟩
  work device

def Command.file? : Command → Option String
  | .devices => none
  | .compile file _ _ _ | .pins file _ _ => some file

def Command.work (c : Command) (d : Description) : Session Unit :=
  match c with
  | .devices => listParts d
  | .compile file part fill form =>
    withPart d part fun device => compileFile content parse device file fill form
  | .pins file part dialect =>
    withPart d part fun device => pinsFile content parse device file dialect

def Request.work (r : Request) : Session Unit := do
  let d ← attempt (fun fault => .crash (.description fault)) Efh.description
  attempt (fun fault => .crash (.catalogue fault)) (Efh.catalogue d).verify
  r.command.work content parse d

end

def Request.run (r : Request) (content : Except OpenFault ByteArray)
    (parse : String → Except Yaml.Fault Tree := Yaml.read) : Outcome :=
  let result := outcome (r.work content parse)
  { result with notes := result.notes.filter fun n => r.verbose || n.level != .debug }

end ConfigWords.CommandLine
