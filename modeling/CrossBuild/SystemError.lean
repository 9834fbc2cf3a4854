-- What the operating system says when it refuses a request: a numbered code with a fixed
-- description, and the name that the request was about.
import CrossBuild.Text.Quoted

namespace CrossBuild

/-- The number by which the operating system gives the reason of a refusal. -/
structure ErrorCode where
  number : Nat
  deriving DecidableEq, Repr

namespace ErrorCode

def noEntry : ErrorCode := ⟨2⟩
def busy : ErrorCode := ⟨16⟩
def alreadyExists : ErrorCode := ⟨17⟩
def notFolder : ErrorCode := ⟨20⟩
def isFolder : ErrorCode := ⟨21⟩
def invalid : ErrorCode := ⟨22⟩
def nameTooLong : ErrorCode := ⟨36⟩
def notEmpty : ErrorCode := ⟨39⟩

/-- The descriptions of the codes from 0 on. -/
def descriptions : List String := [
  "Success", "Operation not permitted", "No such file or directory", "No such process",
  "Interrupted system call", "Input/output error", "No such device or address",
  "Argument list too long", "Exec format error", "Bad file descriptor", "No child processes",
  "Resource temporarily unavailable", "Cannot allocate memory", "Permission denied",
  "Bad address", "Block device required", "Device or resource busy", "File exists",
  "Invalid cross-device link", "No such device", "Not a directory", "Is a directory",
  "Invalid argument", "Too many open files in system", "Too many open files",
  "Inappropriate ioctl for device", "Text file busy", "File too large",
  "No space left on device", "Illegal seek", "Read-only file system", "Too many links",
  "Broken pipe", "Numerical argument out of domain", "Numerical result out of range",
  "Resource deadlock avoided", "File name too long", "No locks available",
  "Function not implemented", "Directory not empty", "Too many levels of symbolic links"]

def description (code : ErrorCode) : String :=
  (descriptions[code.number]?).getD s!"Unknown error {code.number}"

end ErrorCode

/-- A refusal of the operating system. -/
structure SystemError where
  code : ErrorCode
  /-- The program or the path, as the request named it. -/
  subject : String
  deriving DecidableEq, Repr

namespace SystemError

/-- The text of a refusal inside a message. -/
def text (e : SystemError) : String :=
  s!"[Errno {e.code.number}] {e.code.description}: {Text.quoted e.subject}"

instance : ToString SystemError := ⟨text⟩

end SystemError

end CrossBuild
