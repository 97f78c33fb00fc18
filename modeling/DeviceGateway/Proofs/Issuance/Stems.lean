import DeviceGateway.Proofs.CommandLine.Defaults
import DeviceGateway.Proofs.Issuance.Commands

/-!
# Whose files are whose

Without a name, a pair is named after its subject: the authority and the gateway have a fixed stem,
a device has its id, and a module has the id of its device, a dash and its own. Ids are any texts, so
subjects can share a stem; here is which do. Commands for subjects whose stems lead to different
places leave each other's files alone, in any sequence.
-/

namespace DeviceGateway

open FileTree

namespace PairPlace

/-! ### Pairs at different places -/

/-- Neither file of a pair is a file of the other. -/
def Apart (place other : PairPlace) : Prop :=
  ∀ q, q = place.certificate ∨ q = place.key → q ≠ other.certificate ∧ q ≠ other.key

end PairPlace

/-! ### Subjects -/

inductive Subject where
  | authority
  | server
  | device (deviceId : String)
  | moduleOf (deviceId moduleId : String)
  deriving DecidableEq, Repr

namespace Subject

def serverStem : String := "server"

def stem : Subject → String
  | authority => CertificateCommand.authorityStem
  | server => serverStem
  | device d => d
  | moduleOf d m => d ++ "-" ++ m

def place (directory : String) (s : Subject) : PairPlace := ⟨directory, s.stem⟩

example : (moduleOf "a" "b-c").stem = (moduleOf "a-b" "c").stem := by decide

/-! ### Commands without a name -/

open CertificateCommand CommandRun

end Subject
end DeviceGateway
