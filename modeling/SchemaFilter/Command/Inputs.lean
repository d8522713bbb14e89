import SchemaFilter.Text.Utf8

/-!
# What can be read, and why not

* `SystemError` — why the system does not give the bytes of a file;
* `Inputs` — the files that there are, and standard input.
-/

namespace SchemaFilter

/-- Why the system does not give the bytes of a file.  `other` has the system's own words and
    number. -/
inductive SystemError where
  | notFound
  | notADirectory
  | isADirectory
  | nameTooLong
  | nulInName
  | other (text : String) (number : Nat)
  deriving DecidableEq, Repr

namespace SystemError

/-- An error in the system's words, with its number. -/
def numbered (text : String) (number : Nat) : String :=
  text ++ " (os error " ++ toString number ++ ")"

/-- The wording of an error. -/
def message : SystemError → String
  | notFound => numbered "No such file or directory" 2
  | notADirectory => numbered "Not a directory" 20
  | isADirectory => numbered "Is a directory" 21
  | nameTooLong => numbered "File name too long" 36
  | nulInName => "file name contained an unexpected NUL byte"
  | other text number => numbered text number

end SystemError

/-- What can be read: files by their paths, and standard input. -/
structure Inputs where
  file : Bytes → Except SystemError Bytes
  standardInput : Except SystemError Bytes

end SchemaFilter
