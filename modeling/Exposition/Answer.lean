import Exposition.Text.Blank
import Exposition.Text.Lowercase
import Exposition.Text.Numeral
import Exposition.Text.Utf8

/-!
# Answer — what comes from the user

A command may read a file or standard input, and it may ask before it deletes.  Input has to be
text; the answer to a question is a yes or else a no, and a line that is no text is a no as well.
-/

namespace Exposition

open Text

/-! ## Input -/

/-- Input that could not be read. -/
inductive InputError
  /-- There is no such file. -/
  | noFile
  /-- The file is not UTF-8. -/
  | fileNotText
  /-- Standard input, or a line of it, is not UTF-8. -/
  | notText (fault : Utf8.Fault)
deriving DecidableEq, Repr

/-- What is wrong with the bytes. -/
def Text.Utf8.Fault.message (f : Utf8.Fault) : String :=
  match f.length with
  | some n =>
    "invalid utf-8 sequence of " ++ decimal n ++ " bytes from index " ++ decimal f.validUpTo
  | none => "incomplete utf-8 byte sequence from index " ++ decimal f.validUpTo

/-- The fields of a fault. -/
def Text.Utf8.Fault.report (f : Utf8.Fault) : String :=
  "Utf8Error \x7b valid_up_to: " ++ decimal f.validUpTo ++ ", error_len: " ++
    (match f.length with
      | some n => "Some(" ++ decimal n ++ ")"
      | none => "None") ++ " \x7d"

/-- What the user is told about unreadable input. -/
def InputError.message : InputError → String
  | .noFile => "No such file or directory (os error 2)"
  | .fileNotText => "stream did not contain valid UTF-8"
  | .notText fault => fault.message

/-- The fields of unreadable input. -/
def InputError.report : InputError → String
  | .noFile => "Os \x7b code: 2, kind: NotFound, message: \"No such file or directory\" \x7d"
  | .fileNotText =>
    "Error \x7b kind: InvalidData, message: \"stream did not contain valid UTF-8\" \x7d"
  | .notText fault => "Custom \x7b kind: InvalidData, error: " ++ fault.report ++ " \x7d"

/-! ## Answers -/

/-- **An answer is a yes** if it is `y` or `yes`, in any case and with blanks around it. -/
def isYes (answer : List Char) : Bool :=
  let word := String.ofList (lower (trim answer))
  word == "y" || word == "yes"

/-- The answer in a line of bytes; a line that is no text is a no, and so is the lack of a line. -/
def isYesLine (line : Option (List UInt8)) : Bool :=
  match line.map Utf8.decode with
  | some (.ok answer) => isYes answer
  | _ => false

/-- The question for a confirmation, left open for the answer. -/
def confirmation (question : String) : String := question ++ " [y/N] "

end Exposition
