import SecretScan.Command.Run
import Std.Time.DateTime.Timestamp

/-!
# The program

The outer layer of the command. It takes in the tree below the working directory, performs the run
on that tree, and then prints and writes what the run leaves behind. The files that a run can see
are those below the working directory: a link keeps its meaning if it leads to one of them. A
directory that can be listed is taken to be one that can be written to.
-/

namespace SecretScan.Program

/-- The target of a link that leads nowhere: a name that no file has. -/
def nowhere : String := "\x00"

/-- The target of a link, as a path from the top directory if it lies below that. -/
def targetBelow (top place : String) : String :=
  if place.startsWith (top ++ "/") then (place.drop top.length).toString else place

/-- The result of an action, unless it fails. -/
def attempt {α : Type} (action : IO α) : IO (Option α) :=
  try some <$> action catch _ => pure none

/-- The node of a directory entry. A file or a directory that cannot be opened is locked. Nodes that
are neither file, directory nor link are left out, and so are those of which this is not known. -/
partial def nodeOf (top : String) (entry : IO.FS.DirEntry) : IO (Option Node) := do
  let some data ← attempt entry.path.symlinkMetadata | return none
  match data.type with
  | .file =>
    let some content ← attempt (IO.FS.readBinFile entry.path) | return some .lockedFile
    return some (.file content.toList)
  | .symlink =>
    let place ← attempt (toString <$> IO.FS.realPath entry.path)
    return some (.link (targetBelow top (place.getD nowhere)))
  | .dir =>
    let some inners ← attempt entry.path.readDir | return some .lockedDir
    let mut entries := #[]
    for inner in inners do
      if let some node ← nodeOf top inner then entries := entries.push (inner.fileName, node)
    return some (.dir entries.toList)
  | .other => return none

/-- The tree below the working directory. -/
def workingTree : IO Node := do
  let top ← IO.FS.realPath (← IO.currentDir)
  let some inners ← attempt top.readDir | return .lockedDir
  let mut entries := #[]
  for entry in inners do
    if let some node ← nodeOf (toString top) entry then
      entries := entries.push (entry.fileName, node)
  return .dir entries.toList

/-- The number of processors that the system lists, and one if it lists none. -/
def processors : IO Nat := do
  let lines := (← attempt (IO.FS.lines "/proc/cpuinfo")).getD #[]
  return max 1 (lines.toList.countP (·.startsWith "processor"))

/-- The present point in time. -/
def now : IO Timestamp := do
  let time ← Std.Time.Timestamp.now
  return ⟨time.val.second.val, time.val.nano.val.toNat⟩

/-- The run of the command on the working directory. The clock is read before and after the scan. -/
def outcome (arguments : List String) : IO RunOutcome := do
  let files ← workingTree
  let workers ← processors
  let startedAt ← now
  let start ← IO.monoNanosNow
  match ← IO.lazyPure fun _ => Command.scan arguments files workers with
  | .error outcome => return outcome
  | .ok u =>
    let elapsed : Duration := ⟨(← IO.monoNanosNow) - start⟩
    return Command.report files u ⟨startedAt, elapsed⟩

end SecretScan.Program

open SecretScan in
/-- Runs the command, writes the output file if there is one, and ends with the code of the run. -/
def main (arguments : List String) : IO UInt32 := do
  let outcome ← Program.outcome arguments
  if let some path := outcome.written then
    if let .ok content := outcome.files.read path then
      IO.FS.writeBinFile path.text ⟨content.toArray⟩
  IO.print (String.ofList outcome.stdout)
  IO.eprint (String.ofList outcome.stderr)
  return outcome.code.toUInt32
