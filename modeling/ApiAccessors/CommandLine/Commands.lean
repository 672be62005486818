import ApiAccessors.CommandLine.Usage
import ApiAccessors.Config

namespace ApiAccessors
namespace CommandLine

/-!
# Commands

The program and its two commands, with the switches that they take and the texts that they show.
-/

def program : String := "resourcegen"

def versionText : String := program ++ ", version 0.1.0\n"

/-- The command that generates, and the one that tells how to begin. -/
inductive Command where
  | generate
  | start
deriving DecidableEq, Repr

namespace Command

def name : Command → String
  | .generate => "generate"
  | .start => "init"

def all : List Command := [.generate, .start]

def ofName? (name : String) : Option Command := all.find? (fun command => command.name == name)

def summary : Command → String
  | .generate => "Generate accessor modules from an OpenAPI schema."
  | .start => "Show how to get started."

end Command

def requestSwitch (long : String) : Switch := ⟨long, none, .request, none, none⟩

def helpSwitch : Switch := requestSwitch "help"

def versionSwitch : Switch := requestSwitch "version"

def programSwitches : List Switch := [versionSwitch, helpSwitch]

def schemaSwitch : Switch :=
  ⟨"schema", some 's', .path true true, some "RESOURCEGEN_SCHEMA", some Config.defaultSchema⟩

def outputSwitch : Switch :=
  ⟨"output", some 'o', .path false true, some "RESOURCEGEN_OUTPUT", some Config.defaultOutput⟩

def typesSwitch : Switch := ⟨"types", some 't', .flag, some "RESOURCEGEN_TYPES", none⟩

def typesOutputSwitch : Switch :=
  ⟨"types-output", none, .path true false, some "RESOURCEGEN_TYPES_OUTPUT", none⟩

def runtimeSwitch : Switch :=
  ⟨"runtime-import", none, .text, some "RESOURCEGEN_RUNTIME_IMPORT", some Config.defaultRuntime⟩

def apiPrefixSwitch : Switch :=
  ⟨"api-prefix", none, .text, some "RESOURCEGEN_API_PREFIX", some ""⟩

def baseUrlSwitch : Switch :=
  ⟨"base-url", none, .text, some "RESOURCEGEN_BASE_URL", some Config.defaultBaseUrl⟩

def tokenSwitch : Switch :=
  ⟨"token-env-var", none, .text, some "RESOURCEGEN_TOKEN_ENV_VAR",
    some Config.defaultTokenVariable⟩

def manifestSwitch : Switch :=
  ⟨"manifest", none, .path true false, some "RESOURCEGEN_MANIFEST", none⟩

def verboseSwitch : Switch := ⟨"verbose", some 'v', .flag, none, none⟩

def quietSwitch : Switch := ⟨"quiet", some 'q', .flag, none, none⟩

namespace Command

/-- The switches of a command, in the order in which they are declared. -/
def switches : Command → List Switch
  | .generate => [
      schemaSwitch, outputSwitch, typesSwitch, typesOutputSwitch, runtimeSwitch, apiPrefixSwitch,
      baseUrlSwitch, tokenSwitch, manifestSwitch, verboseSwitch, quietSwitch, helpSwitch]
  | .start => [helpSwitch]

end Command

/-- How the program or one of its commands is called. -/
def usageLine : Option Command → String
  | none => "Usage: " ++ program ++ " [OPTIONS] COMMAND [ARGS]...\n"
  | some command => "Usage: " ++ program ++ " " ++ command.name ++ " [OPTIONS]\n"

/-- Where to look for help. -/
def hintLine (command : Option Command) : String :=
  let called :=
    match command with
    | none => program
    | some command => program ++ " " ++ command.name
  "Try '" ++ called ++ " --help' for help.\n"

def programHelp : String :=
  usageLine none ++
    "\n" ++
    "  resourcegen: generate per-resource API accessors from OpenAPI schemas.\n" ++
    "\n" ++
    "Options:\n" ++
    "  --version  Show the version and exit.\n" ++
    "  --help     Show this message and exit.\n" ++
    "\n" ++
    "Commands:\n" ++
    "  generate  " ++ Command.generate.summary ++ "\n" ++
    "  init      " ++ Command.start.summary ++ "\n"

def commandHelp (command : Command) : String :=
  usageLine (some command) ++ "\n  " ++ command.summary ++ "\n"

/-- How to begin. -/
def startText : String :=
  "To generate accessors, run:\n" ++
    "  resourcegen generate --schema " ++ Config.defaultSchema ++ " --output " ++
      Config.defaultOutput ++ "\n" ++
    "Then, in your code:\n" ++
    "  from api_client import create_client, TasksApi\n" ++
    "  tasks = TasksApi(create_client())\n"

end CommandLine
end ApiAccessors
