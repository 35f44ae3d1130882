namespace WaypointFlight

inductive ReadFault where
  | notFound
  | notDirectory
  | isDirectory
  | nameTooLong
  | badCharacter
  | notText
  | other (message : String)
  deriving DecidableEq, Repr

def ReadFault.message : ReadFault → String
  | .notFound => "No such file or directory (os error 2)"
  | .notDirectory => "Not a directory (os error 20)"
  | .isDirectory => "Is a directory (os error 21)"
  | .nameTooLong => "File name too long (os error 36)"
  | .badCharacter => "file name contained an unexpected NUL byte"
  | .notText => "stream did not contain valid UTF-8"
  | .other message => message

def paramsDirectory : String := "params"

def below (directory path : String) : String :=
  if path.startsWith "/" then path else directory ++ "/" ++ path

def pathFault? (path : String) : Option ReadFault :=
  if path.contains '\x00' then some .badCharacter else none

end WaypointFlight
