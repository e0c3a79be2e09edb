/-!
Refusals by the system that the program runs on: a numbered one, or one known by its text only.
-/
namespace Quiesce

inductive HostFault where
  | numbered (number : Nat)
  | other (text : String)
  deriving DecidableEq

namespace HostFault

def notPermitted : HostFault := numbered 1
def noSuchFile : HostFault := numbered 2
def noSuchProcess : HostFault := numbered 3
def accessDenied : HostFault := numbered 13
def notADirectory : HostFault := numbered 20
def isADirectory : HostFault := numbered 21
def fileBusy : HostFault := numbered 26
def nameTooLong : HostFault := numbered 36
def addressInUse : HostFault := numbered 98
def addressUnavailable : HostFault := numbered 99

def title : Nat → String
  | 1 => "Operation not permitted"
  | 2 => "No such file or directory"
  | 3 => "No such process"
  | 13 => "Permission denied"
  | 20 => "Not a directory"
  | 21 => "Is a directory"
  | 26 => "Text file busy"
  | 36 => "File name too long"
  | 98 => "Address already in use"
  | 99 => "Cannot assign requested address"
  | n => s!"Unknown error {n}"

def message : HostFault → String
  | numbered n => s!"{title n} (os error {n})"
  | other text => text

end HostFault

end Quiesce
