import SecretScan.Files.Walk
import SecretScan.Pool.Run
import SecretScan.Scan.Content
import SecretScan.Tally

/-!
# The scan of a directory

A scan checks its root, finds the candidates, and has each candidate read by a worker of a pool. A
candidate that cannot be read fails the whole scan.
-/

namespace SecretScan

/-- Why a scan has no result. -/
inductive ScanError where
  | rootNotFound (root : Path)
  | rootAccess (root : Path) (cause : AccessError)
  | rootNotADirectory (root : Path)
  | fileAccess (file : Path) (cause : AccessError)
  deriving DecidableEq, Repr

/-- The wording of an error. -/
def ScanError.message : ScanError → String
  | rootNotFound root => "directory does not exist: " ++ root.text
  | rootAccess root cause => "cannot access directory '" ++ root.text ++ "': " ++ cause.message
  | rootNotADirectory root => "path is not a directory: " ++ root.text
  | fileAccess file cause => "unable to read file '" ++ file.text ++ "': " ++ cause.message

/-- Checks that the root of a scan is a directory. -/
def checkRoot (files : Node) (root : Path) : Except ScanError Unit :=
  match files.lookup root with
  | .ok node => if node.isDir then .ok () else .error (.rootNotADirectory root)
  | .error .notFound => .error (.rootNotFound root)
  | .error cause => .error (.rootAccess root cause)

/-- The hits in a file below a root. -/
def scanFile (m : Matchers) (files : Node) (root file : Path) : Except ScanError (List Hit) :=
  match files.read (root.join file) with
  | .ok content => .ok (m.scan content)
  | .error cause => .error (.fileAccess file cause)

/-- A hit as a match of its file. -/
def Hit.toMatch (file : Path) (h : Hit) : Match :=
  ⟨file, h.number, Blank.trim (String.ofList h.line), String.ofList h.secret⟩

/-- What to scan and how. -/
structure ScanRequest where
  root : Path
  matchers : Matchers
  extensions : List String
  excluded : List String
  concurrency : Nat

/-- What a worker does with a match: it tells the caller, and in a step of its own it records the
match. -/
inductive MatchEvent where
  | told (m : Match)
  | recorded (m : Match)
  deriving DecidableEq, Repr

namespace MatchEvent

/-- The match that the caller is told of. -/
def told? : MatchEvent → Option Match
  | told m => some m
  | recorded _ => none

/-- The match that is recorded. -/
def recorded? : MatchEvent → Option Match
  | told _ => none
  | recorded m => some m

/-- What a worker does with each of some matches. -/
def ofMatches (ms : List Match) : List MatchEvent := ms.flatMap fun m => [told m, recorded m]

end MatchEvent

/-- The course of a scan: the announced candidates, the matches that the caller was told of, in this
order, and the result. -/
structure ScanCourse where
  progress : List (Path × Nat × Nat) := []
  found : List Match := []
  result : Except ScanError ScanResult

namespace ScanRequest

/-- The candidates of a scan. -/
def candidates (r : ScanRequest) (files : Node) : List Path :=
  (Walker.ofLists r.extensions r.excluded).walk files r.root

/-- The work on a candidate: its matches are told and recorded unless it cannot be read. -/
def work (r : ScanRequest) (files : Path → Node) (file : Path) : Pool.Work MatchEvent ScanError :=
  match scanFile r.matchers (files file) r.root file with
  | .ok hits => ⟨MatchEvent.ofMatches (hits.map (Hit.toMatch file)), none⟩
  | .error e => ⟨[], some e⟩

/-- The course of a scan that a state of the pool amounts to. -/
def courseOf (candidates : List Path) (s : Pool.State Path MatchEvent ScanError) : ScanCourse :=
  let events := s.recorded.map Prod.snd
  ⟨s.announced, events.filterMap MatchEvent.told?, s.result.map fun _ =>
    (Tally.ofMatches (events.filterMap MatchEvent.recorded?)).finish candidates⟩

/-- Runs a scan. `seen` are the files that are there when a candidate is read. -/
def runSeeing (r : ScanRequest) (files : Node) (seen : Path → Node) : ScanCourse :=
  match checkRoot files r.root with
  | .error e => ⟨[], [], .error e⟩
  | .ok () =>
    let candidates := r.candidates files
    courseOf candidates (Pool.run candidates (r.work seen) r.concurrency)

/-- Runs a scan of files that do not change. -/
def run (r : ScanRequest) (files : Node) : ScanCourse := r.runSeeing files fun _ => files

end ScanRequest

end SecretScan
