/-
This file holds the error numbers of the kernel, their symbols and their descriptions.
-/

namespace LinuxCalls

/-- An error number. Every number is allowed, and only some of them are described. -/
structure Errno where
  raw : Int32
  deriving DecidableEq

namespace Errno

def interrupted : Errno := ⟨4⟩

def transferFailed : Errno := ⟨5⟩

def noMemory : Errno := ⟨12⟩

def accessDenied : Errno := ⟨13⟩

def busy : Errno := ⟨16⟩

def invalidArgument : Errno := ⟨22⟩

def noSpace : Errno := ⟨28⟩

def notImplemented : Errno := ⟨38⟩

def noData : Errno := ⟨61⟩

def illegalSequence : Errno := ⟨84⟩

/-- The largest number that a raw return can carry as an error. -/
def largest : Int32 := 4095

structure Entry where
  symbol : String
  number : Int32
  description : String

def entries : List Entry := [
  ⟨"EPERM", 1, "Operation not permitted"⟩,
  ⟨"ENOENT", 2, "No such file or directory"⟩,
  ⟨"ESRCH", 3, "No such process"⟩,
  ⟨"EINTR", 4, "Interrupted system call"⟩,
  ⟨"EIO", 5, "I/O error"⟩,
  ⟨"ENXIO", 6, "No such device or address"⟩,
  ⟨"E2BIG", 7, "Argument list too long"⟩,
  ⟨"ENOEXEC", 8, "Exec format error"⟩,
  ⟨"EBADF", 9, "Bad file descriptor"⟩,
  ⟨"ECHILD", 10, "No child processes"⟩,
  ⟨"EAGAIN", 11, "Resource temporarily unavailable"⟩,
  ⟨"ENOMEM", 12, "Out of memory"⟩,
  ⟨"EACCES", 13, "Permission denied"⟩,
  ⟨"EFAULT", 14, "Bad address"⟩,
  ⟨"ENOTBLK", 15, "Block device required"⟩,
  ⟨"EBUSY", 16, "Device or resource busy"⟩,
  ⟨"EEXIST", 17, "File exists"⟩,
  ⟨"EXDEV", 18, "Cross-device link"⟩,
  ⟨"ENODEV", 19, "No such device"⟩,
  ⟨"ENOTDIR", 20, "Not a directory"⟩,
  ⟨"EISDIR", 21, "Is a directory"⟩,
  ⟨"EINVAL", 22, "Invalid argument"⟩,
  ⟨"ENFILE", 23, "Too many open files in system"⟩,
  ⟨"EMFILE", 24, "Too many open files"⟩,
  ⟨"ENOTTY", 25, "Inappropriate ioctl for device"⟩,
  ⟨"ETXTBSY", 26, "Text file busy"⟩,
  ⟨"EFBIG", 27, "File too large"⟩,
  ⟨"ENOSPC", 28, "No space left on device"⟩,
  ⟨"ESPIPE", 29, "Illegal seek"⟩,
  ⟨"EROFS", 30, "Read-only file system"⟩,
  ⟨"EMLINK", 31, "Too many links"⟩,
  ⟨"EPIPE", 32, "Broken pipe"⟩,
  ⟨"EDOM", 33, "Numerical argument out of domain"⟩,
  ⟨"ERANGE", 34, "Numerical result out of range"⟩,
  ⟨"EDEADLK", 35, "Resource deadlock avoided"⟩,
  ⟨"ENAMETOOLONG", 36, "File name too long"⟩,
  ⟨"ENOLCK", 37, "No locks available"⟩,
  ⟨"ENOSYS", 38, "Function not implemented"⟩,
  ⟨"ENOTEMPTY", 39, "Directory not empty"⟩,
  ⟨"ELOOP", 40, "Too many levels of symbolic links"⟩,
  ⟨"ENODATA", 61, "No data available"⟩,
  ⟨"EOVERFLOW", 75, "Value too large for defined data type"⟩,
  ⟨"EILSEQ", 84, "Invalid or incomplete multibyte or wide character"⟩,
  ⟨"EOPNOTSUPP", 95, "Operation not supported"⟩,
  ⟨"EADDRINUSE", 98, "Address already in use"⟩,
  ⟨"ECONNRESET", 104, "Connection reset by peer"⟩,
  ⟨"ETIMEDOUT", 110, "Connection timed out"⟩,
  ⟨"ECONNREFUSED", 111, "Connection refused"⟩,
  ⟨"ECANCELED", 125, "Operation canceled"⟩]

/-- The symbols with their numbers. One number has a second symbol. -/
def symbols : List (String × Int32) :=
  entries.map (fun entry => (entry.symbol, entry.number)) ++ [("EWOULDBLOCK", 11)]

/-- The description of an error number, which is the same for all numbers without one. -/
def description (error : Errno) : String :=
  match entries.find? (fun entry => entry.number == error.raw) with
  | some entry => entry.description
  | none => "Unknown error"

def longForm (error : Errno) : String :=
  "Errno(" ++ toString error.raw.toInt ++ ": " ++ error.description ++ ")"

def order (first second : Errno) : Ordering := compare first.raw second.raw

end Errno

end LinuxCalls
