import DpllWatch.Daemon
import DpllWatch.Json.Printer
import DpllWatch.Netlink.Transport
import Std.Time.DateTime.Timestamp

/-! The program. It reads files, prints and waits; clocks are read from status files, since no
netlink sockets are at hand. -/

namespace DpllWatch.Main

def addFile (t : FileTree) (path : String) : IO FileTree := do
  match ← (IO.FS.readBinFile path).toBaseIO with
  | .ok content => return t.insert path content.toList
  | .error _ => return t

def clockFiles (root : String) (interfaces : List String) : List String :=
  interfaces.flatMap fun interface =>
    [StatusFiles.frequencyPath root interface, StatusFiles.phasePath root interface,
      StatusFiles.offsetPath root interface, ClockId.configPath root interface]

def timeOfDay : IO Int64 :=
  return .ofInt (← Std.Time.Timestamp.now).toMillisecondsSinceUnixEpoch.val

def logLine (level : Daemon.Level) (message : String) : IO Unit :=
  IO.eprintln ("[" ++ level.name ++ "] " ++ message)

def printLine (line : String) : IO Unit := do
  IO.println line
  (← IO.getStdout).flush

def perform (logJson : Bool) : Daemon.Act → IO Unit
  | .print line => printLine line
  | .log level message => logLine level message
  | .report report => do
    let event := report.stamp (← timeOfDay)
    if logJson then printLine event.toJson.render else logLine .info event.line
  | .notice _ => return
  | .fail layers => IO.eprintln ("Error: " ++ Text.Fault.render layers)

def performAll (logJson : Bool) (acts : List Daemon.Act) : IO Unit :=
  acts.forM (perform logJson)

def hostOf (files : FileTree) (locked : Bool) : Daemon.Host Netlink.SocketKernel where
  files := files
  locked := locked
  manager := .absent
  transport := Netlink.SocketKernel.transport
  kernel timeout := .ofScripts timeout []

/-- Reads the status files again after each interval, until the program is ended from outside. -/
partial def tend (interfaces : List String) (d : Daemon Netlink.SocketKernel) : IO Unit := do
  IO.sleep (UInt32.ofNat (min d.node.timing.pollSpan.millis (UInt32.size - 1)))
  let files ← (clockFiles d.node.timing.statusRoot interfaces).foldlM addFile .empty
  let (acts, d) := d.tend files
  performAll d.logJson acts
  tend interfaces d

def watch (options : CommandLine.Options) : IO UInt32 := do
  let config ← addFile .empty options.config
  let files ← match Daemon.settingsFor (hostOf config false) options with
    | .error _ => pure config
    | .ok d => (clockFiles d.timing.statusRoot d.interfaces).foldlM addFile config
  let (acts, result) := Daemon.launch (hostOf files false) options
  performAll options.logJson acts
  match result with
  | .error failure =>
    performAll options.logJson failure.acts
    return UInt32.ofNat failure.status
  | .ok d =>
    tend (d.node.members.map (·.monitor.settings.interface)) d
    return 0

def run (arguments : List String) : IO UInt32 := do
  match CommandLine.parse arguments with
  | some (.watch options) =>
    let lock ← IO.FS.Handle.mk Daemon.lockPath .write
    if ← lock.tryLock then watch options
    else
      let session := Daemon.session (hostOf .empty true) arguments 0 0
      performAll session.logJson session.acts
      return UInt32.ofNat session.status
  | _ =>
    let session := Daemon.session (hostOf .empty false) arguments 0 0
    performAll session.logJson session.acts
    return UInt32.ofNat session.status

end DpllWatch.Main

def main (arguments : List String) : IO UInt32 := DpllWatch.Main.run arguments
