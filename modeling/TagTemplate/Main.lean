import TagTemplate.CommandLine.Run

/-!
# The program

The only part that touches real files. A command is run on the files known so far; as long as it
stops for want of a file that was not looked for yet, that file is looked for and the command is run
again. At the end the files that the command wrote are written.
-/

namespace TagTemplate.Program

open TagTemplate.CommandLine

/-- The files known so far and the paths that were looked for. -/
structure Known where
  files : FileStore
  tried : List String

/-- The time of the last change of a file in nanoseconds. -/
def changed (path : String) : IO Nat := do
  let place := (← IO.currentDir) / path
  let time := (← place.metadata).modified
  pure (time.sec.toNat * 1000000000 + time.nsec.toNat)

/-- Looks for a file. -/
def Known.look (known : Known) (path : String) : IO Known := do
  let tried := path :: known.tried
  if known.tried.contains path then pure known
  else
    try
      let content ← IO.FS.readBinFile path
      let time ← changed path
      let files := known.files
      let made := ((FilePath.parent? path).bind files.createDirectories?).getD files
      pure ⟨(made.putFile? path content time).getD made, tried⟩
    catch _ => pure ⟨known.files, tried⟩

/-- Looks for files. -/
def Known.lookAll (known : Known) (paths : List String) : IO Known :=
  paths.foldlM Known.look known

/-- The file that a command stopped for. -/
def wanted? (error : Option Error) : Option String :=
  match error.map Error.rootCause with
  | some (.fileNotFound path) => some path
  | some (.dataFile path) => some path
  | _ => none

/-- Looks for a file that a command stopped for, and for its template in the cache. -/
def Known.supply (known : Known) (arguments : List String) (path : String) : IO Known := do
  let cache := match Request.read? arguments with
    | some (.run invocation) => cacheOf? known.files invocation
    | _ => none
  known.lookAll (path :: (cache.map fun c => c.path path).toList)

/-- Runs a command, looking for files as they are wanted; `fuel` bounds their number. -/
def attempt (arguments : List String) : Nat → Known → IO Outcome
  | 0, known => pure (run known.files arguments)
  | fuel + 1, known => do
    let outcome := run known.files arguments
    match wanted? outcome.error with
    | none => pure outcome
    | some path =>
      if known.tried.contains path then pure outcome
      else attempt arguments fuel (← known.supply arguments path)

/-- Writes the files that a command changed. -/
def writeBack (start : Nat) (files : FileStore) : IO Unit := do
  for (path, entry) in files.entries.entries do
    match entry with
    | .file content time =>
      if start < time then
        if let some parent := FilePath.parent? path then IO.FS.createDirAll parent
        IO.FS.writeBinFile path content
    | .directory _ => pure ()

/-- The files to start with: the settings of the project. -/
def begin (arguments : List String) : IO Known := do
  let directory := (← IO.currentDir).toString
  let now := (← IO.monoNanosNow) + 4000000000 * 1000000000
  let files := FileStore.empty directory now
  let files := (files.createDirectories? directory).getD files
  let root := match Request.read? arguments with
    | some (.run invocation) => invocation.root.getD directory
    | _ => directory
  Known.lookAll ⟨files, []⟩ (Project.candidates.map (FilePath.join root))

end TagTemplate.Program

open TagTemplate TagTemplate.Program in
/-- Runs the program: prints what the command prints and answers with its exit code. -/
def main (arguments : List String) : IO UInt32 := do
  let known ← begin arguments
  let outcome ← attempt arguments 100000 known
  writeBack known.files.clock outcome.files
  IO.print outcome.output
  if let some error := outcome.error then IO.eprintln s!"error: {error.message}"
  pure (UInt32.ofNat outcome.code)
