import FileServer.SystemError.Number

/-!
# Failures of input and output

A failure is either one that the operating system reported by number or one that
this program found by itself. Its kind says what went wrong, whoever noticed;
its message is the wording of the number followed by the number, or the text
that came with it.
-/

namespace FileServer

/-- What went wrong. -/
inductive ErrorKind
  /-- A name or an entry is missing. -/
  | notFound
  /-- The operation is not permitted. -/
  | permissionDenied
  /-- The peer refused the connection. -/
  | connectionRefused
  /-- The peer reset the connection. -/
  | connectionReset
  /-- The host cannot be reached. -/
  | hostUnreachable
  /-- The network cannot be reached. -/
  | networkUnreachable
  /-- The connection was aborted. -/
  | connectionAborted
  /-- The socket is not connected. -/
  | notConnected
  /-- The address is taken. -/
  | addrInUse
  /-- The address is not a local one. -/
  | addrNotAvailable
  /-- The network is down. -/
  | networkDown
  /-- Nobody can read what is written. -/
  | brokenPipe
  /-- The entry is there already. -/
  | alreadyExists
  /-- The operation would have to wait. -/
  | wouldBlock
  /-- A directory was needed. -/
  | notADirectory
  /-- The path names a directory. -/
  | isADirectory
  /-- The directory is not empty. -/
  | directoryNotEmpty
  /-- The file system is read-only. -/
  | readOnlyFilesystem
  /-- Too many symbolic links. -/
  | filesystemLoop
  /-- The network file handle is stale. -/
  | staleNetworkFileHandle
  /-- An argument is not acceptable. -/
  | invalidInput
  /-- The data are not in the expected form. -/
  | invalidData
  /-- The time allowed has passed. -/
  | timedOut
  /-- A write took nothing. -/
  | writeZero
  /-- No room is left. -/
  | storageFull
  /-- The file has no positions. -/
  | notSeekable
  /-- The quota is used up. -/
  | quotaExceeded
  /-- The file would grow too large. -/
  | fileTooLarge
  /-- The resource is busy. -/
  | resourceBusy
  /-- The program file is being run. -/
  | executableFileBusy
  /-- Waiting would never end. -/
  | deadlock
  /-- The two paths are on different devices. -/
  | crossesDevices
  /-- The file has too many links. -/
  | tooManyLinks
  /-- The name is not acceptable. -/
  | invalidFilename
  /-- The argument list is too long. -/
  | argumentListTooLong
  /-- A signal cut the operation short. -/
  | interrupted
  /-- The operation is not supported. -/
  | unsupported
  /-- The data ended early. -/
  | unexpectedEof
  /-- Memory is used up. -/
  | outOfMemory
  /-- The operation has not finished. -/
  | inProgress
  /-- A failure that no system call reported. -/
  | other
  /-- A number that belongs to no other kind. -/
  | uncategorized
  deriving DecidableEq, Repr

/-- The kind of failure that a number stands for. -/
def ErrorNumber.kind : ErrorNumber → ErrorKind
  | .ofNat 1 => .permissionDenied
  | .ofNat 2 => .notFound
  | .ofNat 4 => .interrupted
  | .ofNat 7 => .argumentListTooLong
  | .ofNat 11 => .wouldBlock
  | .ofNat 12 => .outOfMemory
  | .ofNat 13 => .permissionDenied
  | .ofNat 16 => .resourceBusy
  | .ofNat 17 => .alreadyExists
  | .ofNat 18 => .crossesDevices
  | .ofNat 20 => .notADirectory
  | .ofNat 21 => .isADirectory
  | .ofNat 22 => .invalidInput
  | .ofNat 26 => .executableFileBusy
  | .ofNat 27 => .fileTooLarge
  | .ofNat 28 => .storageFull
  | .ofNat 29 => .notSeekable
  | .ofNat 30 => .readOnlyFilesystem
  | .ofNat 31 => .tooManyLinks
  | .ofNat 32 => .brokenPipe
  | .ofNat 35 => .deadlock
  | .ofNat 36 => .invalidFilename
  | .ofNat 38 => .unsupported
  | .ofNat 39 => .directoryNotEmpty
  | .ofNat 40 => .filesystemLoop
  | .ofNat 95 => .unsupported
  | .ofNat 98 => .addrInUse
  | .ofNat 99 => .addrNotAvailable
  | .ofNat 100 => .networkDown
  | .ofNat 101 => .networkUnreachable
  | .ofNat 103 => .connectionAborted
  | .ofNat 104 => .connectionReset
  | .ofNat 107 => .notConnected
  | .ofNat 110 => .timedOut
  | .ofNat 111 => .connectionRefused
  | .ofNat 113 => .hostUnreachable
  | .ofNat 115 => .inProgress
  | .ofNat 116 => .staleNetworkFileHandle
  | .ofNat 122 => .quotaExceeded
  | _ => .uncategorized

/-- A failure of input or output. -/
inductive SystemError
  /-- Reported by the operating system. -/
  | os (number : ErrorNumber)
  /-- Found by the program itself. -/
  | own (kind : ErrorKind) (text : String)
  deriving DecidableEq, Repr

namespace SystemError

/-- The kind of the failure. -/
def kind : SystemError → ErrorKind
  | os n => n.kind
  | own k _ => k

/-- The wording of the failure. -/
def message : SystemError → String
  | os n => s!"{n.text} (os error {n})"
  | own _ t => t

/-- A descriptor that is not open. -/
def badDescriptor : SystemError := os .badDescriptor

/-- An argument that the kernel does not accept. -/
def invalid : SystemError := os .invalid

/-- Nobody can read what is written any more. -/
def brokenPipe : SystemError := os .brokenPipe

/-- Nothing of the name is there. -/
def noEntry : SystemError := os .noEntry

/-- The operation would have to wait. -/
def again : SystemError := os .again

end SystemError

end FileServer
