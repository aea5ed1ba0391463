import ConfigWords.Efh
import ConfigWords.Render.PinSetup
import ConfigWords.Text.Digit

/-! The arguments of the command line.
Options may stand anywhere among the arguments of their command, long ones may be shortened as
long as they stay unique, and short ones may be written in one. Arguments are taken from the
left, so a request for help counts as long as no error comes before it. -/
namespace ConfigWords.CommandLine

inductive Flag
  | help
  | verbose
  | device
  | defaults
  | header
  | pragmas
  | style
deriving DecidableEq

def Flag.takesValue : Flag → Bool
  | .device | .style => true
  | _ => false

abbrev Flags := List (String × Flag)

def helpFlags : Flags := [("-h", .help), ("--help", .help)]
def mainFlags : Flags := helpFlags ++ [("-v", .verbose), ("--verbose", .verbose)]
def compileFlags : Flags := helpFlags ++
  [("--device", .device), ("--defaults", .defaults), ("--header", .header), ("--pragmas", .pragmas)]
def pinsFlags : Flags := helpFlags ++ [("--device", .device), ("--style", .style)]

inductive Stop
  | help
  | usage
deriving DecidableEq

def Stop.exit : Stop → Nat
  | .help => 0
  | .usage => 2

inductive Item
  | plain (text : String)
  | mark
  | option (flag : Flag) (value : Option String)
  | cluster (flag : Flag) (rest : List Char)
  | unknown
deriving DecidableEq

def dropLineEnd (cs : List Char) : List Char :=
  if cs.getLast? = some '\n' then cs.dropLast else cs

/-- Whether an argument is a negative number; one line end may follow it. -/
def isNegativeNumber (arg : String) : Bool :=
  match dropLineEnd arg.toList with
  | '-' :: rest =>
    (!rest.isEmpty && rest.all Text.isDigit) ||
    match rest.dropWhile Text.isDigit with
    | '.' :: digits => !digits.isEmpty && digits.all Text.isDigit
    | _ => false
  | _ => false

def splitValue (arg : String) : String × Option String :=
  match arg.splitOn "=" with
  | name :: first :: more => (name, some ("=".intercalate (first :: more)))
  | _ => (arg, none)

/-- The options that an argument may be short for, or that it holds several of. -/
def candidates (flags : Flags) (arg : String) : List Item :=
  if arg.startsWith "--" then
    let (name, value) := splitValue arg
    flags.filterMap fun f => if f.1.startsWith name then some (.option f.2 value) else none
  else
    let head := (arg.take 2).toString
    flags.filterMap fun f =>
      if f.1 = head then some (.cluster f.2 (arg.toList.drop 2))
      else if f.1.startsWith arg then some (.option f.2 none)
      else none

def classify (flags : Flags) (arg : String) : Except Stop Item :=
  if !arg.startsWith "-" then .ok (.plain arg)
  else
    match flags.lookup arg with
    | some flag => .ok (.option flag none)
    | none =>
      if arg.length = 1 then .ok (.plain arg)
      else
        let (name, value) := splitValue arg
        match value, flags.lookup name with
        | some value, some flag => .ok (.option flag (some value))
        | _, _ =>
          match candidates flags arg with
          | _ :: _ :: _ => .error .usage
          | [item] => .ok item
          | [] =>
            if isNegativeNumber arg || arg.contains ' ' then .ok (.plain arg) else .ok .unknown

def classifyAll (flags : Flags) : List String → Except Stop (List Item)
  | [] => .ok []
  | arg :: rest =>
    if arg = "--" then .ok (.mark :: rest.map Item.plain)
    else do return (← classify flags arg) :: (← classifyAll flags rest)

/-- The short options in what is written behind one, up to an unknown one, and whether there is
an unknown one. Signs have no place between short options. -/
def clustered (flags : Flags) : List Char → Except Stop (List Flag × Bool)
  | [] => .ok ([], false)
  | c :: rest =>
    if c = '-' || c = '=' then .error .usage
    else
      match flags.lookup (String.ofList ['-', c]) with
      | some flag => (clustered flags rest).map fun more => (flag :: more.1, more.2)
      | none => .ok ([], true)

structure Taken where
  file : Option String := none
  device : String := Efh.defaultPart
  fill : Bool := false
  header : Bool := false
  pragmas : Bool := false
  dialect : Render.Dialect := .harmony
  extra : Bool := false

def Taken.set (t : Taken) (flag : Flag) (value : String) : Except Stop Taken :=
  match flag with
  | .help => .error .help
  | .verbose => .error .usage
  | .device => .ok { t with device := value }
  | .defaults => .ok { t with fill := true }
  | .header => if t.pragmas then .error .usage else .ok { t with header := true }
  | .pragmas => if t.header then .error .usage else .ok { t with pragmas := true }
  | .style =>
    if value = "harmony" then .ok { t with dialect := .harmony }
    else if value = "mikroc" then .ok { t with dialect := .mikroc }
    else .error .usage

def takeItems (flags : Flags) (hasFile : Bool) : Taken → List Item → Except Stop Taken
  | t, [] => .ok t
  | t, .plain text :: rest =>
    if hasFile && t.file.isNone then
      match rest with
      | .mark :: rest => takeItems flags hasFile { t with file := some text } rest
      | rest => takeItems flags hasFile { t with file := some text } rest
    else takeItems flags hasFile { t with extra := true } rest
  | t, .mark :: rest =>
    match rest with
    | .plain text :: rest =>
      if hasFile && t.file.isNone then takeItems flags hasFile { t with file := some text } rest
      else takeItems flags hasFile { t with extra := true } rest
    | rest => takeItems flags hasFile { t with extra := true } rest
  | t, .unknown :: rest => takeItems flags hasFile { t with extra := true } rest
  | t, .option flag none :: rest =>
    if flag.takesValue then
      match rest with
      | .plain value :: rest => do takeItems flags hasFile (← t.set flag value) rest
      | _ => .error .usage
    else do takeItems flags hasFile (← t.set flag "") rest
  | t, .option flag (some value) :: rest =>
    if flag.takesValue then do takeItems flags hasFile (← t.set flag value) rest
    else .error .usage
  | t, .cluster flag behind :: rest => do
    let (more, extra) ← clustered flags behind
    let t ← (flag :: more).foldlM (fun t f => t.set f "") t
    takeItems flags hasFile { t with extra := t.extra || extra } rest

inductive WordForm
  | summary
  | header
  | pragmas
deriving DecidableEq

inductive Command
  | devices
  | compile (file device : String) (fill : Bool) (form : WordForm)
  | pins (file device : String) (dialect : Render.Dialect)
deriving DecidableEq

def command (name : String) (args : List String) : Except Stop (Command × Bool) := do
  if name = "devices" then
    let t ← takeItems helpFlags false {} (← classifyAll helpFlags args)
    return (.devices, t.extra)
  else if name = "compile" then
    let t ← takeItems compileFlags true {} (← classifyAll compileFlags args)
    let form := if t.header then .header else if t.pragmas then .pragmas else .summary
    match t.file with
    | some file => return (.compile file t.device t.fill form, t.extra)
    | none => throw .usage
  else if name = "pps" then
    let t ← takeItems pinsFlags true {} (← classifyAll pinsFlags args)
    match t.file with
    | some file => return (.pins file t.device t.dialect, t.extra)
    | none => throw .usage
  else throw .usage

structure Request where
  verbose : Bool
  command : Command
deriving DecidableEq

def takeMain (verbose extra : Bool) : List (Item × List String) → Except Stop Request
  | [] => .error .usage
  | (.unknown, _) :: rest => takeMain verbose true rest
  | (.option flag none, _) :: rest =>
    if flag = .help then .error .help else takeMain true extra rest
  | (.option _ (some _), _) :: _ => .error .usage
  | (.cluster flag behind, _) :: rest => do
    let (more, unknown) ← clustered mainFlags behind
    if .help ∈ flag :: more then throw .help
    takeMain true (extra || unknown) rest
  | (.plain _, name :: args) :: _ | (.mark, name :: args) :: _ => do
    let (command, left) ← command name args
    if extra || left then throw .usage
    return ⟨verbose, command⟩
  | (_, []) :: _ => .error .usage

def suffixes {α : Type} : List α → List (List α)
  | [] => []
  | a :: rest => (a :: rest) :: suffixes rest

def parse (args : List String) : Except Stop Request := do
  let items ← classifyAll mainFlags args
  takeMain false false (items.zip (suffixes args))

end ConfigWords.CommandLine
