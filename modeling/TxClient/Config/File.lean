import TxClient.Config.Json

namespace TxClient

/-- What is found at the end of a path. -/
inductive PathTarget where
  | file (bytes : ByteArray)
  | directory
  | nothing
  /-- The path goes on below a plain file. -/
  | belowFile
  | emptyPath

/-- The whole text of a file. -/
def PathTarget.readText : PathTarget → Except FileFault String
  | file bytes =>
    match String.fromUTF8? bytes with
    | some text => .ok text
    | none => .error .notText
  | directory => .error .isDirectory
  | nothing => .error .notFound
  | belowFile => .error .notDirectory
  | emptyPath => .error .notFound

/-- The configuration in a file. The file is read as a whole before its text is looked at. -/
def Config.ofFile (target : PathTarget) : Except ConfigError Config :=
  match target.readText with
  | .ok text => ofJson text
  | .error fault => .error (.file fault)

end TxClient
