/-! # Errors of the operating system

A failed system call has a kind, by which programs decide what to do, and a text for people. Kinds
that no rule of this library looks at are kept by name.
-/

namespace DocumentCursor.Net

/-- What kind of failure a system call reports. -/
inductive ErrorKind where
  | notFound
  | permissionDenied
  | connectionRefused
  | connectionReset
  | networkUnreachable
  | brokenPipe
  | wouldBlock
  | invalidInput
  | invalidData
  | timedOut
  | writeZero
  | interrupted
  | isADirectory
  | notADirectory
  | invalidFilename
  /-- A kind that no rule distinguishes. -/
  | other (name : String)
  deriving DecidableEq, Repr

/-- The kinds that have a name of their own. -/
def ErrorKind.named : List (String × ErrorKind) := [
  ("NotFound", notFound), ("PermissionDenied", permissionDenied),
  ("ConnectionRefused", connectionRefused), ("ConnectionReset", connectionReset),
  ("NetworkUnreachable", networkUnreachable), ("BrokenPipe", brokenPipe),
  ("WouldBlock", wouldBlock), ("InvalidInput", invalidInput), ("InvalidData", invalidData),
  ("TimedOut", timedOut), ("WriteZero", writeZero), ("Interrupted", interrupted),
  ("IsADirectory", isADirectory), ("NotADirectory", notADirectory),
  ("InvalidFilename", invalidFilename)]

/-- The name of a kind. -/
def ErrorKind.name : ErrorKind → String
  | other name => name
  | kind => ((named.find? (·.2 = kind)).map (·.1)).getD ""

/-- The kind of a name. -/
def ErrorKind.ofName (name : String) : ErrorKind :=
  (named.lookup name).getD (other name)

/-- A failed system call. -/
structure SystemError where
  kind : ErrorKind
  message : String
  deriving DecidableEq, Repr

namespace SystemError

/-- A file that does not exist. -/
def notFound : SystemError := ⟨.notFound, "No such file or directory (os error 2)"⟩

/-- A path through a file that is no directory. -/
def notADirectory : SystemError := ⟨.notADirectory, "Not a directory (os error 20)"⟩

/-- A directory read as a file. -/
def isADirectory : SystemError := ⟨.isADirectory, "Is a directory (os error 21)"⟩

/-- A path component that is longer than file systems allow. -/
def nameTooLong : SystemError := ⟨.invalidFilename, "File name too long (os error 36)"⟩

/-- A name with a NUL byte, which no system call can take. -/
def nulInName : SystemError :=
  ⟨.invalidInput, "file name contained an unexpected NUL byte"⟩

/-- Bytes that are no UTF-8 where text was asked for. -/
def invalidText : SystemError := ⟨.invalidData, "stream did not contain valid UTF-8"⟩

/-- A socket whose other end went away. -/
def brokenPipe : SystemError := ⟨.brokenPipe, "Broken pipe (os error 32)"⟩

/-- A socket that has nothing to read for now. -/
def wouldBlock : SystemError := ⟨.wouldBlock, "Resource temporarily unavailable (os error 11)"⟩

/-- A host without a route. -/
def networkUnreachable : SystemError :=
  ⟨.networkUnreachable, "Network is unreachable (os error 101)"⟩

/-- A connection that its other end reset. -/
def connectionReset : SystemError := ⟨.connectionReset, "Connection reset by peer (os error 104)"⟩

/-- A port that nobody listens on. -/
def connectionRefused : SystemError := ⟨.connectionRefused, "Connection refused (os error 111)"⟩

/-- A channel that takes no byte of a write. -/
def writeZero : SystemError := ⟨.writeZero, "write zero"⟩

/-- A channel that takes no byte of a write that asks for all of them. -/
def wholeBufferRefused : SystemError := ⟨.writeZero, "failed to write whole buffer"⟩

end SystemError

end DocumentCursor.Net
