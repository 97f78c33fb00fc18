import DeviceGateway.Program.Paths
import DeviceGateway.Program.Run

/-!
# The program

The outer layer: it collects the files that a run looks at, runs the program on them, puts back
what has changed and prints. It has no sockets, so that no address can be bound.
-/

open DeviceGateway

namespace DeviceGateway.Shell

def look (t : FileTree) (path : String) : IO FileTree := do
  let parts := FileTree.partsOf path
  try
    let content ← IO.FS.readBinFile path
    return t.put parts (.file content.toList)
  catch
    | .inappropriateType .. =>
      return if t.isBelowFile parts then t else t.put parts .directory
    | _ => return t

def collect (t : FileTree) (paths : List String) : IO FileTree :=
  (paths.flatMap FileTree.waypoints).foldlM look t

/-- Put back what has changed at a path. -/
def restore (before after : FileTree) (path : String) : IO Unit := do
  match before.find path, after.find path with
  | .error _, .ok .directory => IO.FS.createDir path
  | old, .ok (.file content) =>
    match old with
    | .ok (.file same) => if same ≠ content then IO.FS.writeBinFile path ⟨content.toArray⟩
    | _ => IO.FS.writeBinFile path ⟨content.toArray⟩
  | _, _ => pure ()

def environment : IO (List (String × String)) := do
  try return Environment.ofBlock (← IO.FS.readBinFile "/proc/self/environ").toList
  catch _ => return []

def clock : IO (Nat × Nat) := do
  let (handle, path) ← IO.FS.createTempFile
  handle.putStrLn ""
  handle.flush
  let time := (← path.metadata).modified
  IO.FS.removeFile path
  return (time.sec.toNat, time.nsec.toNat / 1000)

def printLine (time : String) : OutputLine → IO Unit
  | .plain text => IO.println text
  | .words e => IO.println (e.line time)
  | .document e => IO.println (e.jsonLine time)

def inputs (environment : List (String × String)) (args : List Bytes) : IO FileTree := do
  match Invocation.read environment args with
  | .error _ => return ⟨[]⟩
  | .ok i =>
    let t ← collect ⟨[]⟩ i.paths
    match Config.load t (i.config.map Utf8.repair) environment with
    | .error _ => return t
    | .ok c => collect t c.paths

/-- The paths that a run may write to, with the directories above them. -/
def outputs (environment : List (String × String)) (args : List Bytes) : List String :=
  match Invocation.read environment args with
  | .error _ => []
  | .ok i => (i.paths.flatMap FileTree.waypoints).eraseDups

end DeviceGateway.Shell

open DeviceGateway.Shell in
def main (arguments : List String) : IO UInt32 := do
  let args := arguments.map Utf8.encodeText
  let environment ← environment
  let files ← inputs environment args
  let (seconds, micros) ← clock
  let entropy ← IO.getRandomBytes 64
  let network : Network := ⟨fun _ => false, fun _ => false⟩
  let ending := Program.run ⟨environment, files, network, 0⟩ seconds
    (SigningKey.generate entropy.toList) args
  (outputs environment args).forM (restore files ending.files)
  let time := (Calendar.Instant.ofSeconds seconds).text micros
  ending.output.forM (printLine time)
  ending.errors.forM IO.eprintln
  return UInt32.ofNat ending.exitCode
