/-!
# Error numbers of the operating system

The operating system reports a failure by a number. `texts` holds the wording of
each number, at the index of that number; a number without a wording of its own,
and one outside the table, is an unknown error.
-/

namespace FileServer

/-- The number of a failed system call. -/
abbrev ErrorNumber := Int

namespace ErrorNumber

/-- The wordings, indexed by number. -/
def texts : Array String :=
  #["Success", "Operation not permitted", "No such file or directory", "No such process",
    "Interrupted system call", "Input/output error", "No such device or address",
    "Argument list too long", "Exec format error", "Bad file descriptor", "No child processes",
    "Resource temporarily unavailable", "Cannot allocate memory", "Permission denied",
    "Bad address", "Block device required", "Device or resource busy", "File exists",
    "Invalid cross-device link", "No such device", "Not a directory", "Is a directory",
    "Invalid argument", "Too many open files in system", "Too many open files",
    "Inappropriate ioctl for device", "Text file busy", "File too large",
    "No space left on device", "Illegal seek", "Read-only file system", "Too many links",
    "Broken pipe", "Numerical argument out of domain", "Numerical result out of range",
    "Resource deadlock avoided", "File name too long", "No locks available",
    "Function not implemented", "Directory not empty", "Too many levels of symbolic links", "",
    "No message of desired type", "Identifier removed", "Channel number out of range",
    "Level 2 not synchronized", "Level 3 halted", "Level 3 reset", "Link number out of range",
    "Protocol driver not attached", "No CSI structure available", "Level 2 halted",
    "Invalid exchange", "Invalid request descriptor", "Exchange full", "No anode",
    "Invalid request code", "Invalid slot", "", "Bad font file format", "Device not a stream",
    "No data available", "Timer expired", "Out of streams resources",
    "Machine is not on the network", "Package not installed", "Object is remote",
    "Link has been severed", "Advertise error", "Srmount error", "Communication error on send",
    "Protocol error", "Multihop attempted", "RFS specific error", "Bad message",
    "Value too large for defined data type", "Name not unique on network",
    "File descriptor in bad state", "Remote address changed",
    "Can not access a needed shared library", "Accessing a corrupted shared library",
    ".lib section in a.out corrupted", "Attempting to link in too many shared libraries",
    "Cannot exec a shared library directly", "Invalid or incomplete multibyte or wide character",
    "Interrupted system call should be restarted", "Streams pipe error", "Too many users",
    "Socket operation on non-socket", "Destination address required", "Message too long",
    "Protocol wrong type for socket", "Protocol not available", "Protocol not supported",
    "Socket type not supported", "Operation not supported", "Protocol family not supported",
    "Address family not supported by protocol", "Address already in use",
    "Cannot assign requested address", "Network is down", "Network is unreachable",
    "Network dropped connection on reset", "Software caused connection abort",
    "Connection reset by peer", "No buffer space available",
    "Transport endpoint is already connected", "Transport endpoint is not connected",
    "Cannot send after transport endpoint shutdown", "Too many references: cannot splice",
    "Connection timed out", "Connection refused", "Host is down", "No route to host",
    "Operation already in progress", "Operation now in progress", "Stale file handle",
    "Structure needs cleaning", "Not a XENIX named type file", "No XENIX semaphores available",
    "Is a named type file", "Remote I/O error", "Disk quota exceeded", "No medium found",
    "Wrong medium type", "Operation canceled", "Required key not available", "Key has expired",
    "Key has been revoked", "Key was rejected by service", "Owner died", "State not recoverable",
    "Operation not possible due to RF-kill", "Memory page has hardware error"]

/-- The wording of a number. -/
def text (n : ErrorNumber) : String :=
  match n with
  | .ofNat i =>
    match texts[i]? with
    | some t => if t.isEmpty then s!"Unknown error {n}" else t
    | none => s!"Unknown error {n}"
  | .negSucc _ => s!"Unknown error {n}"

/-- Operation not permitted. -/
def notPermitted : ErrorNumber := 1
/-- No such file or directory. -/
def noEntry : ErrorNumber := 2
/-- Interrupted system call. -/
def interrupted : ErrorNumber := 4
/-- Bad file descriptor. -/
def badDescriptor : ErrorNumber := 9
/-- Resource temporarily unavailable. -/
def again : ErrorNumber := 11
/-- File exists. -/
def entryExists : ErrorNumber := 17
/-- Not a directory. -/
def notDirectory : ErrorNumber := 20
/-- Is a directory. -/
def isDirectory : ErrorNumber := 21
/-- Invalid argument. -/
def invalid : ErrorNumber := 22
/-- The file would grow too large. -/
def fileTooLarge : ErrorNumber := 27
/-- The file has no positions. -/
def notSeekable : ErrorNumber := 29
/-- Broken pipe. -/
def brokenPipe : ErrorNumber := 32
/-- File name too long. -/
def nameTooLong : ErrorNumber := 36
/-- Too many levels of symbolic links. -/
def tooManyLinks : ErrorNumber := 40
/-- A value is too large for its type. -/
def overflow : ErrorNumber := 75
/-- Address already in use. -/
def addressInUse : ErrorNumber := 98
/-- Network is unreachable. -/
def networkUnreachable : ErrorNumber := 101
/-- Connection reset by peer. -/
def connectionReset : ErrorNumber := 104
/-- Transport endpoint is not connected. -/
def notConnected : ErrorNumber := 107

end ErrorNumber

end FileServer
