import ApiAccessors.Files.Tree
import ApiAccessors.Log
import ApiAccessors.Platform
import ApiAccessors.Problem

namespace ApiAccessors

/-!
# Runs

A run of the generator reads and writes files, calls one external program and reports what it does.
All of that is a value, the machine, which a run leaves behind also where it stops.
-/

/-- The external program: where it is found, if it is, and how it ends. -/
structure Tool where
  place : Option String
  status : Int
  complaint : Option String
deriving Repr

/-- What a run acts on. -/
structure Machine where
  platform : Platform
  files : FileTree
  home : Location
  tool : Tool
  /-- The commands that were given to the external program. -/
  commands : List (List String)
  log : List LogEntry

/-- A machine that nothing has been done with. -/
def Machine.start (platform : Platform) (files : FileTree) (home : Location) (tool : Tool) :
    Machine :=
  ⟨platform, files, home, tool, [], []⟩

/-- A run of the generator, or a part of one. -/
abbrev Run := ExceptT Problem (StateM Machine)

namespace Run

def stop {α : Type} (fault : Fault) : Run α := throw (.fault fault)

/-- Stop where a computation stops. -/
def lift {α : Type} : Except Fault α → Run α
  | .ok value => pure value
  | .error fault => stop fault

/-- Take part in a computation that reports. -/
def logged {α : Type} (computation : Logged α) : Run α := do
  let (result, entries) := computation.runLog
  modify (fun machine => { machine with log := machine.log ++ entries })
  lift result

def report (level : Level) (logger message : String) : Run Unit :=
  modify (fun machine => { machine with log := machine.log ++ [⟨level, logger, message⟩] })

/-- Whether a path has a character that no file name has. -/
def isImpossible (path : FilePath) : Bool :=
  path.parts.any (fun part => part.toList.contains '\x00')

/-- Stop where the system refuses something. -/
def permit {α : Type} : Except FileFault α → Run α
  | .ok value => pure value
  | .error fault => stop (.file fault)

/-- What stands at a path. -/
def entryAt (path : FilePath) : Run (Option Entry) := do
  if isImpossible path then pure none
  else
    let machine ← get
    permit (machine.files.look machine.home path)

/-- Make a directory with all those above it. -/
def makeDirectories (path : FilePath) (mayExist : Bool) : Run Unit := do
  if isImpossible path then stop .badValue
  let machine ← get
  let (fault, files) := FileTree.makeAll machine.home path mayExist machine.files
  set { machine with files }
  match fault with
  | some fault => stop (.file fault)
  | none => pure ()

def writeText (path : FilePath) (text : String) : Run Unit := do
  if isImpossible path then stop .badValue
  let machine ← get
  let files ← permit (machine.files.writeFile machine.home path (Text.Utf8.encode text.toList))
  set { machine with files }

end Run
end ApiAccessors
