/-!
Failures as the operating system reports them. An error number has a symbol and a text; a failed
operation shows the text with the number behind it.
-/

namespace LineShell

/-- An error number of the operating system. -/
structure Errno where
  code : Nat
  deriving DecidableEq, Repr

namespace Errno

def eperm : Errno := ⟨1⟩
def enoent : Errno := ⟨2⟩
def esrch : Errno := ⟨3⟩
def eintr : Errno := ⟨4⟩
def e2big : Errno := ⟨7⟩
def enoexec : Errno := ⟨8⟩
def ebadf : Errno := ⟨9⟩
def echild : Errno := ⟨10⟩
def eacces : Errno := ⟨13⟩
def eexist : Errno := ⟨17⟩
def enotdir : Errno := ⟨20⟩
def eisdir : Errno := ⟨21⟩
def einval : Errno := ⟨22⟩
def espipe : Errno := ⟨29⟩
def epipe : Errno := ⟨32⟩
def enametoolong : Errno := ⟨36⟩
def enotempty : Errno := ⟨39⟩
def eloop : Errno := ⟨40⟩

/-- The numbers that have a symbol and a text of their own. -/
def table : List (Nat × String × String) := [
  (1, "EPERM", "Operation not permitted"),
  (2, "ENOENT", "No such file or directory"),
  (3, "ESRCH", "No such process"),
  (4, "EINTR", "Interrupted system call"),
  (5, "EIO", "Input/output error"),
  (6, "ENXIO", "No such device or address"),
  (7, "E2BIG", "Argument list too long"),
  (8, "ENOEXEC", "Exec format error"),
  (9, "EBADF", "Bad file descriptor"),
  (10, "ECHILD", "No child processes"),
  (11, "EAGAIN", "Resource temporarily unavailable"),
  (12, "ENOMEM", "Cannot allocate memory"),
  (13, "EACCES", "Permission denied"),
  (14, "EFAULT", "Bad address"),
  (15, "ENOTBLK", "Block device required"),
  (16, "EBUSY", "Device or resource busy"),
  (17, "EEXIST", "File exists"),
  (18, "EXDEV", "Invalid cross-device link"),
  (19, "ENODEV", "No such device"),
  (20, "ENOTDIR", "Not a directory"),
  (21, "EISDIR", "Is a directory"),
  (22, "EINVAL", "Invalid argument"),
  (23, "ENFILE", "Too many open files in system"),
  (24, "EMFILE", "Too many open files"),
  (25, "ENOTTY", "Inappropriate ioctl for device"),
  (26, "ETXTBSY", "Text file busy"),
  (27, "EFBIG", "File too large"),
  (28, "ENOSPC", "No space left on device"),
  (29, "ESPIPE", "Illegal seek"),
  (30, "EROFS", "Read-only file system"),
  (31, "EMLINK", "Too many links"),
  (32, "EPIPE", "Broken pipe"),
  (33, "EDOM", "Numerical argument out of domain"),
  (34, "ERANGE", "Numerical result out of range"),
  (35, "EDEADLK", "Resource deadlock avoided"),
  (36, "ENAMETOOLONG", "File name too long"),
  (37, "ENOLCK", "No locks available"),
  (38, "ENOSYS", "Function not implemented"),
  (39, "ENOTEMPTY", "Directory not empty"),
  (40, "ELOOP", "Too many levels of symbolic links")]

/-- The text of an error number. -/
def text (e : Errno) : String :=
  match table.lookup e.code with
  | some (_, t) => t
  | none => s!"Unknown error {e.code}"

/-- The symbol of an error number and its text, as a failed pipe is reported. -/
def symbolAndText (e : Errno) : String :=
  match table.lookup e.code with
  | some (symbol, t) => symbol ++ ": " ++ t
  | none => "UnknownErrno: Unknown errno"

end Errno

/-- Why an operation failed. A path or an argument that holds a NUL byte never reaches the operating
system, and a text file that is no text is refused after it was read. -/
inductive Fault where
  | os (errno : Errno)
  | nulInPath
  | nulInArgument
  | notUtf8
  deriving DecidableEq, Repr

/-- The text of a failure. -/
def Fault.message : Fault → String
  | .os e => s!"{e.text} (os error {e.code})"
  | .nulInPath => "file name contained an unexpected NUL byte"
  | .nulInArgument => "nul byte found in provided data"
  | .notUtf8 => "stream did not contain valid UTF-8"

end LineShell
