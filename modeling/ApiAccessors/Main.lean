import ApiAccessors.CommandLine.Run

/-!
# The program

The outer layer of the command line.  It looks at the files that the arguments and the environment
name, lets the run happen on them as a value, and then writes down what the run has changed and
prints what it has printed.  The external program for types is never found from here.
-/

namespace ApiAccessors
namespace Program

/-- The names that settings have in the environment. -/
def settings : List String := CommandLine.Command.generate.switches.filterMap (·.environment)

/-- The settings that are set. -/
def readEnvironment : IO (List (String × String)) := do
  let values ← settings.mapM (fun name => do
    let value ← IO.getEnv name
    pure (value.map (fun text => (name, text))))
  pure (values.filterMap id)

/-- The texts that may be paths: whole arguments, and what stands behind a switch in one. -/
def pathTexts (environment : List (String × String)) (arguments : List String) : List String :=
  let behind := arguments.filterMap (fun argument =>
    (Text.cutFirst '=' argument.toList).2.map String.ofList)
  let attached := arguments.map (fun argument => String.ofList (argument.toList.drop 2))
  [Config.defaultSchema, Config.defaultOutput] ++ environment.map (·.2) ++ arguments ++ behind ++
    attached

/-- The locations on the way to a path, and that of the path itself. -/
def locationsOf (home : FilePath) (text : String) : List Location :=
  let parts := (home.resolve (FilePath.ofText text)).parts
  (List.range parts.length).map (fun count => parts.take (count + 1))

def fileNameOf (location : Location) : String := "/" ++ "/".intercalate location

/-- What can be read where something stands: a directory has no content. -/
def readEntry (handle : IO.FS.Handle) : IO Entry := do
  try
    let content ← handle.readBinToEnd
    pure (.file content.toList)
  catch _ => pure .directory

/-- What stands at a location. -/
def look (location : Location) : IO (Option Entry) := do
  try
    let handle ← IO.FS.Handle.mk (fileNameOf location) .read
    let entry ← readEntry handle
    pure (some entry)
  catch _ => pure none

/-- The part of the file tree that the given locations show. -/
def readTree (locations : List Location) : IO FileTree := do
  let mut tree : FileTree := { entries := [] }
  for location in locations do
    match ← look location with
    | some entry => tree := tree.put location entry
    | none => pure ()
  pure tree

/-- Write down the entries that are new or different. -/
def writeTree (before after : FileTree) : IO Unit := do
  for (location, entry) in after.entries do
    if before.get? location != some entry then
      match entry with
      | .directory => IO.FS.createDirAll (fileNameOf location)
      | .file content => IO.FS.writeBinFile (fileNameOf location) ⟨content.toArray⟩
      -- Runs make no links, and those that were there are looked through when the files are read.
      | .link _ => pure ()

def run (arguments : List String) : IO UInt32 := do
  let environment ← readEnvironment
  let home := FilePath.ofText (← IO.currentDir).toString
  let texts := "." :: pathTexts environment arguments
  let before ← readTree ((texts.flatMap (locationsOf home)).eraseDups)
  let machine := Machine.start Platform.usual before home.parts ⟨none, 0, none⟩
  let finish := CommandLine.run ⟨environment, false, machine⟩ arguments
  writeTree before finish.machine.files
  (← IO.getStdout).putStr finish.output
  (← IO.getStderr).putStr finish.errors
  pure finish.exitCode.toUInt32

end Program
end ApiAccessors

/-- The program with its arguments. -/
def main (arguments : List String) : IO UInt32 := ApiAccessors.Program.run arguments
