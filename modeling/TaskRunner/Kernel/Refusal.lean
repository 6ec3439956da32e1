import TaskRunner.Fault

/-! Why the kernel refuses what a process asks for. -/

namespace TaskRunner

/-- Why the kernel refuses a request. -/
inductive Refusal where
  | notPermitted
  | noEntry
  | noProcess
  | interrupted
  | badData
  | noDevice
  | notExecutable
  | badDescriptor
  | noChild
  | denied
  | alreadyThere
  | otherDevice
  | notDirectory
  | isDirectory
  | invalid
  | noTerminal
  | noSpace
  | noOffset
  | brokenPipe
  | notEmpty
  | linksTooDeep
  | nameTooLong
  | busy
deriving DecidableEq, Repr

namespace Refusal

/-- The text shown to a user. -/
def message : Refusal → String
  | notPermitted => "Operation not permitted"
  | noEntry => "No such file or directory"
  | noProcess => "No such process"
  | interrupted => "Interrupted system call"
  | badData => "Input/output error"
  | noDevice => "No such device or address"
  | notExecutable => "Exec format error"
  | badDescriptor => "Bad file descriptor"
  | noChild => "No child processes"
  | denied => "Permission denied"
  | alreadyThere => "File exists"
  | otherDevice => "Invalid cross-device link"
  | notDirectory => "Not a directory"
  | isDirectory => "Is a directory"
  | invalid => "Invalid argument"
  | noTerminal => "Inappropriate ioctl for device"
  | noSpace => "No space left on device"
  | noOffset => "Illegal seek"
  | brokenPipe => "Broken pipe"
  | notEmpty => "Directory not empty"
  | linksTooDeep => "Too many levels of symbolic links"
  | nameTooLong => "File name too long"
  | busy => "Device or resource busy"

/-- The fault of the surroundings that a refusal amounts to. -/
def fault : Refusal → Fault
  | notDirectory => .notDirectory
  | isDirectory => .isDirectory
  | nameTooLong => .nameTooLong
  | denied => .permissionDenied
  | notPermitted => .permissionDenied
  | linksTooDeep => .tooManyLinks
  | notExecutable => .notExecutable
  | _ => .notFound

end Refusal

end TaskRunner
