import SchemaBeans.Command.Run

/-! The command line.

A run is a function of the files it looks at. It is computed on the files seen so far, the paths it looked
at are then read from the disk, and it is computed again until it looks at nothing new. Only then its new
files are written. -/

namespace SchemaBeans.Main

def look (path : String) : IO (Option FileNode) := do
  let place := (← IO.currentDir) / path
  if ← place.isDir then return some .directory
  else if ← place.pathExists then return some (.file (← IO.FS.readBinFile place).toList)
  else return none

def pathOf (names : List String) : String := "/" ++ String.intercalate "/" names

/-- Adds to the files what stands on the disk on the way to a path. -/
def observe (files : Files) (path : String) : IO Files := do
  let mut seen := files
  let mut names : List String := []
  for piece in Text.pieces '/' (Path.join files.workingDirectory path) do
    if piece = ".." then
      names := names.dropLast
    else if piece ≠ "" && piece ≠ "." then
      names := names ++ [piece]
      unless seen.entries.contains names do
        if let some node ← look (pathOf names) then
          seen := seen.put names node
  return seen

/-- Computes a run on the files it looks at, and gives these files too. -/
partial def compute (environment : Command.Environment) (arguments : List String) (files : Files)
    (observed : List String) : IO (Files × Command.Report) := do
  let report := Command.run files environment arguments
  match report.consulted.filter (· ∉ observed) with
  | [] => return (files, report)
  | fresh =>
    let files ← fresh.foldlM observe files
    compute environment arguments files (observed ++ fresh)

def commit (before after : Files) : IO Unit := do
  for (names, node) in after.entries do
    unless before.entries.get? names = some node do
      match node with
      | .directory => IO.FS.createDirAll (pathOf names)
      | .file content => IO.FS.writeBinFile (pathOf names) ⟨content.toArray⟩

def readEnvironment : IO Command.Environment := do
  let names := ["JSONSCHEMA_ROOT_URI", "JSONSCHEMA_DEFAULT_NAMESPACE", "RUST_LOG"]
  names.filterMapM fun name => return (← IO.getEnv name).map ((name, ·))

def run (arguments : List String) : IO UInt32 := do
  let files ← observe ⟨(← IO.currentDir).toString, []⟩ "."
  let (before, report) ← compute (← readEnvironment) arguments files []
  commit before report.files
  IO.print report.output
  for line in report.lines do
    IO.eprintln line
  return UInt32.ofNat report.status

end SchemaBeans.Main

def main (arguments : List String) : IO UInt32 :=
  SchemaBeans.Main.run arguments
