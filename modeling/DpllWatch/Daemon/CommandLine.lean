/-! The command line. Options are taken from left to right; the first fault, or the first request
for help or the version, decides. -/

namespace DpllWatch.CommandLine

structure Options where
  config : String
  interfaces : List String
  logJson : Bool
deriving DecidableEq, Repr

inductive Request where
  | watch (options : Options)
  | help
  | version
deriving DecidableEq, Repr

def defaultConfig : String := "/etc/dpllsync/config.json"

def versionLine : String := "dpllsync 0.3.2"

def helpLines : List String :=
  ["DPLL lock-status monitoring and holdover decision daemon for PTP grandmaster nodes",
    "",
    "Usage: dpllsync [OPTIONS]",
    "",
    "Options:",
    "  -c, --config <CONFIG>        Daemon configuration file (JSON) [default: " ++
      defaultConfig ++ "]",
    "  -i, --interface <INTERFACE>  " ++
      "Monitor only these interfaces (overrides the config file, repeatable)",
    "      --log-json               Print every DPLL event as a JSON line on stdout",
    "  -h, --help                   Print help",
    "  -V, --version                Print version"]

inductive Flag where
  | config
  | interface
  | logJson
  | help
  | version
deriving DecidableEq, Repr

namespace Flag

def ofLong? : String → Option Flag
  | "config" => some config
  | "interface" => some interface
  | "log-json" => some logJson
  | "help" => some help
  | "version" => some version
  | _ => none

def ofShort? : Char → Option Flag
  | 'c' => some config
  | 'i' => some interface
  | 'h' => some help
  | 'V' => some version
  | _ => none

def takesValue : Flag → Bool
  | config | interface => true
  | logJson | help | version => false

end Flag

structure Mention where
  flag : Flag
  attached : Option String
deriving DecidableEq, Repr

def longMention? (body : List Char) : Option Mention := do
  let name := body.takeWhile (· != '=')
  let flag ← Flag.ofLong? (String.ofList name)
  match body.drop name.length with
  | [] => some ⟨flag, none⟩
  | _ :: value => some ⟨flag, some (String.ofList value)⟩

/-- A value follows at once, with or without an equals sign. What stands behind a letter that takes
no value is never reached, because such a letter decides. -/
def shortMention? (letter : Char) (rest : List Char) : Option Mention := do
  let flag ← Flag.ofShort? letter
  if !flag.takesValue || rest.isEmpty then some ⟨flag, none⟩
  else some ⟨flag, some (String.ofList (if rest.head? = some '=' then rest.tail else rest))⟩

def mention? (argument : String) : Option Mention :=
  match argument.toList with
  | '-' :: '-' :: body => longMention? body
  | '-' :: letter :: rest => shortMention? letter rest
  | _ => none

def looksLikeOption (argument : String) : Bool := argument.startsWith "-" && argument != "-"

structure Draft where
  config : Option String
  interfaces : List String
  logJson : Bool
deriving DecidableEq, Repr

namespace Draft

def empty : Draft := ⟨none, [], false⟩

def options (d : Draft) : Options := ⟨d.config.getD defaultConfig, d.interfaces, d.logJson⟩

/-- The configuration is given at most once and has a name; interfaces may be repeated. -/
def takeValue? (d : Draft) (flag : Flag) (value : String) : Option Draft :=
  match flag with
  | .config =>
    if d.config.isSome || value.isEmpty then none else some { d with config := some value }
  | .interface => some { d with interfaces := d.interfaces ++ [value] }
  | .logJson | .help | .version => none

end Draft

def parseFrom (d : Draft) : List String → Option Request
  | [] => some (.watch d.options)
  | argument :: rest =>
    if argument = "--" then if rest.isEmpty then some (.watch d.options) else none
    else
      match mention? argument, rest with
      | some ⟨.help, none⟩, _ => some .help
      | some ⟨.version, none⟩, _ => some .version
      | some ⟨.logJson, none⟩, rest =>
        if d.logJson then none else parseFrom { d with logJson := true } rest
      | some ⟨flag, some value⟩, rest => do parseFrom (← d.takeValue? flag value) rest
      | some ⟨flag, none⟩, value :: rest =>
        if looksLikeOption value then none else do parseFrom (← d.takeValue? flag value) rest
      | some _, [] => none
      | none, _ => none

def parse (arguments : List String) : Option Request := parseFrom .empty arguments

end DpllWatch.CommandLine
