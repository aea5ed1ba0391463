import ConfigWords.Failure
import ConfigWords.Yaml.Document

/-! Files that are read as YAML, and the ways in which that fails. -/
namespace ConfigWords

inductive OpenFault
  | missing
  | directory
  | notDirectory
  | other (text : String)
deriving DecidableEq

def OpenFault.message (name : String) : OpenFault → String
  | .missing => "[Errno 2] No such file or directory: " ++ Text.quoted name
  | .directory => "[Errno 21] Is a directory: " ++ Text.quoted name
  | .notDirectory => "[Errno 20] Not a directory: " ++ Text.quoted name
  | .other text => text ++ ": " ++ Text.quoted name

inductive InputFault
  | nullInName
  | unopened (name : String) (cause : OpenFault)
  | malformed (name : String)
  | undecodable
  | scalar (fault : Yaml.Fault)
deriving DecidableEq

namespace InputFault

/-- The failure that a fault is reported as; null characters in names, undecodable bytes and
scalars without a value are not reported. -/
def failure? : InputFault → Option Failure
  | .unopened name cause => some (.whole s!"Failed to parse {name}: {cause.message name}")
  | .malformed name => some (.whole s!"Failed to parse {name}: *")
  | .nullInName | .undecodable | .scalar _ => none

end InputFault

namespace InputFile

def pathParts (path : String) : List String :=
  (path.splitOn "/").filter fun part => part != "" && part != "."

/-- A path as it is shown: no doubled or trailing slashes, no single dots, and a dot for the
present directory. Two slashes in front stay two. -/
def tidyPath (path : String) : String :=
  let root :=
    if path.startsWith "//" && !path.startsWith "///" then "//"
    else if path.startsWith "/" then "/"
    else ""
  let tidy := root ++ "/".intercalate (pathParts path)
  if tidy.isEmpty then "." else tidy

def read (path : String) (content : Except OpenFault ByteArray)
    (parse : String → Except Yaml.Fault Tree := Yaml.read) : Except InputFault Tree :=
  let name := tidyPath path
  if '\x00' ∈ path.toList then .error .nullInName
  else
    match content with
    | .error cause => .error (.unopened name cause)
    | .ok bytes =>
      match String.fromUTF8? bytes with
      | none => .error .undecodable
      | some text =>
        (parse text).mapError fun
          | .malformed => .malformed name
          | fault => .scalar fault

end InputFile
end ConfigWords
