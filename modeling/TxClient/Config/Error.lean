import TxClient.Json.Fault

namespace TxClient

/-- Why a file gives no text. -/
inductive FileFault where
  /-- The path leads nowhere. -/
  | notFound
  | isDirectory
  /-- The path goes on below something that is not a directory. -/
  | notDirectory
  /-- The bytes are not the UTF-8 form of any text. -/
  | notText
  deriving DecidableEq, Repr

def FileFault.message : FileFault → String
  | notFound => "No such file or directory (os error 2)"
  | isDirectory => "Is a directory (os error 21)"
  | notDirectory => "Not a directory (os error 20)"
  | notText => "stream did not contain valid UTF-8"

/-- Why a configuration cannot be loaded. -/
inductive ConfigError where
  | json (error : Json.Error)
  | file (fault : FileFault)
  deriving DecidableEq, Repr

def ConfigError.message : ConfigError → String
  | json error => "invalid configuration: " ++ error.message
  | file fault => "io error: " ++ fault.message

end TxClient
