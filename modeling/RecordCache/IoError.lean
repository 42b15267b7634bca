/-! Errors of stores and files. -/
namespace RecordCache

inductive IoErrorKind where
  | other
  | unexpectedEof
  | notFound
  | permissionDenied
  | interrupted
  | invalidData
  | invalidInput
  | timedOut
  | notADirectory
  | isADirectory
  | invalidFileName
  deriving DecidableEq, Repr

structure IoError where
  kind : IoErrorKind
  message : String
  deriving DecidableEq, Repr

def IoError.noSuchFile : IoError := ⟨.notFound, "No such file or directory (os error 2)"⟩

def IoError.invalidArgument : IoError := ⟨.invalidInput, "Invalid argument (os error 22)"⟩

def IoError.notADirectory : IoError := ⟨.notADirectory, "Not a directory (os error 20)"⟩

def IoError.isADirectory : IoError := ⟨.isADirectory, "Is a directory (os error 21)"⟩

def IoError.nameTooLong : IoError := ⟨.invalidFileName, "File name too long (os error 36)"⟩

def IoError.nulInPath : IoError := ⟨.invalidInput, "file name contained an unexpected NUL byte"⟩

def IoError.invalidUtf8 : IoError := ⟨.invalidData, "stream did not contain valid UTF-8"⟩

/-- A page that could not be loaded. Every caller that waited for the load gets the same value. -/
structure LoadError where
  cause : IoError
  deriving DecidableEq, Repr

def LoadError.message (e : LoadError) : String := "page load failed: " ++ e.cause.message

end RecordCache
