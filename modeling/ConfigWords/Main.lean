import ConfigWords.CommandLine.Run

/-! The program: reads the arguments and the file that they name, and does what they ask for. -/
namespace ConfigWords

def usage : String :=
  "usage: pic32cfg [-h] [-v] COMMAND ...\n\n" ++
  "  devices                                  list the parts\n" ++
  "  compile FILE [--device PART] [--defaults] [--header | --pragmas]\n" ++
  "                                           compile a snapshot to configuration words\n" ++
  "  pps FILE [--device PART] [--style harmony|mikroc]\n" ++
  "                                           route signals to pins\n"

/-- The content of a file, or why it cannot be opened. The code of an error may come negated. -/
def openFile (path : String) : IO (Except OpenFault ByteArray) := do
  try
    return .ok (← IO.FS.readBinFile path)
  catch
    | .noFileOrDirectory .. => return .error .missing
    | .inappropriateType _ code details =>
      if code = 20 || code = -20 then return .error .notDirectory
      else if code = 21 || code = -21 then return .error .directory
      else return .error (.other details)
    | other => return .error (.other other.toString)

def commandContent (c : CommandLine.Command) : IO (Except OpenFault ByteArray) :=
  match c.file? with
  | some file => openFile file
  | none => return .error .missing

def run (args : List String) : IO UInt32 := do
  match CommandLine.parse args with
  | .error .help =>
    IO.print usage
    return 0
  | .error .usage =>
    IO.eprint usage
    return CommandLine.Stop.usage.exit.toUInt32
  | .ok request =>
    let outcome := request.run (← commandContent request.command)
    for note in outcome.notes do
      IO.eprintln note.line
    IO.print outcome.output
    match outcome.exit with
    | .ok status => return status.toUInt32
    | .error crash =>
      IO.eprintln crash.message
      return 1

end ConfigWords

def main (args : List String) : IO UInt32 := ConfigWords.run args
