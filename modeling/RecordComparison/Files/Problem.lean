/-!
Why the text of a file cannot be had.
-/
namespace RecordComparison

inductive FileProblem where
  | absent
  | isDirectory
  | notDirectory
  | notText
  | nameNotAllowed
  | nameTooLong
  | other (message : String)
deriving DecidableEq

def FileProblem.message : FileProblem → String
  | absent => "No such file or directory (os error 2)"
  | isDirectory => "Is a directory (os error 21)"
  | notDirectory => "Not a directory (os error 20)"
  | notText => "stream did not contain valid UTF-8"
  | nameNotAllowed => "file name contained an unexpected NUL byte"
  | nameTooLong => "File name too long (os error 36)"
  | other message => message

abbrev Files := String → Except FileProblem String

end RecordComparison
