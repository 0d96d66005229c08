/-!
# Reasons why a source cannot be read

Either the system does not give the bytes of a source, or the bytes are not text.
-/

namespace SexprLexer.Command

/-- Why a file cannot be read. -/
inductive ReadFault where
  | notFound
  | notDirectory
  | isDirectory
  | nameTooLong
  /-- Any other reason, in the system's words. -/
  | other (reason : String)
  deriving DecidableEq

/-- A reason in the words of the system, with its number. -/
def ReadFault.message : ReadFault → String
  | notFound => "No such file or directory (os error 2)"
  | notDirectory => "Not a directory (os error 20)"
  | isDirectory => "Is a directory (os error 21)"
  | nameTooLong => "File name too long (os error 36)"
  | other reason => reason

/-- What is wrong with bytes that are not text. -/
def notText : String := "stream did not contain valid UTF-8"

end SexprLexer.Command
