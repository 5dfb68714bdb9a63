import NetConsole.Client.Message
import NetConsole.Console.Run
import Std.Async.DNS
import Std.Async.TCP

/-!
# The program

Gathers the scene of a run, makes the run, and brings about what its outcome says. What a run sends
and gets is decided by the run alone: it is made again with each reply that came in, until it asks
for no more.
-/

set_option autoImplicit false

namespace NetConsole.Main

open Console

/-! ## The environment and the files -/

def splitZeros : List UInt8 → List (List UInt8)
  | [] => [[]]
  | b :: rest =>
      match b, splitZeros rest with
      | 0, parts => [] :: parts
      | b, part :: parts => (b :: part) :: parts
      | b, [] => [[b]]

def variableOf (bytes : List UInt8) : String × String :=
  let cs := (Text.lossyText bytes).toList
  (String.ofList (cs.takeWhile (· ≠ '=')), String.ofList ((cs.dropWhile (· ≠ '=')).drop 1))

def environment : IO Environment := do
  let bytes ← IO.FS.readBinFile "/proc/self/environ"
  return ((splitZeros bytes.toList).filter (· ≠ [])).map variableOf

/-- Files with what is at a path: the text of a file, or a directory with the texts of the files in
it. -/
def withPath (files : Files) (path : String) : IO Files := do
  let place := (← IO.currentDir) / path
  if !(← place.pathExists) then return files
  else if ← place.isDir then
    let files := files.place (Path.ofText path) .directory
    (← place.readDir).foldlM (fun files entry => do
      if ← entry.path.isDir then return files
      let bytes ← IO.FS.readBinFile entry.path
      let name := Path.ofText (Path.joinText path entry.fileName)
      return files.place name (.text (Text.lossyText bytes.toList))) files
  else
    let bytes ← IO.FS.readBinFile place
    return files.place (Path.ofText path) (.text (Text.lossyText bytes.toList))

/-- The path of the certificates that a run reads, if it reads any. -/
def certificatePath? (options : Options) (config : Config) : Option String :=
  ((config.profile? (profileName options config)).bind (·.caCert))

/-- The files that a run may look at: the configuration, and, if it can be read, the store and the
certificates that it names. -/
def filesFor (options : Options) (environment : Environment) (home : String) : IO Files := do
  let files ← withPath Files.empty (Config.filePath home)
  match Config.load files environment home with
  | .error _ => return files
  | .ok config =>
      let files ← withPath files (storeDirectory options config home)
      match certificatePath? options config with
      | some path => withPath files path
      | none => return files

/-- Changes the files on disk from what they were before a run to what it left. -/
def writeFiles (before after : Files) : IO Unit := do
  for (path, entry) in after.entries do
    if before.at? path ≠ some entry then
      match entry with
      | .directory => IO.FS.createDirAll (Path.toText path)
      | .text content =>
          IO.FS.writeBinFile (Path.toText path) (Text.bytes content).toByteArray
  for (path, _) in before.entries do
    if !after.exists? path then IO.FS.removeFile (Path.toText path)

/-! ## Connections

A run is given the answers to its requests. Those that are fetched here come over plain connections
as their peers word them: redirects are not followed and bodies are not decoded. -/

/-- All bytes that come over a connection until the peer closes it. -/
partial def receiveAll (socket : Std.Async.TCP.Socket.Client) (before : List UInt8) :
    Std.Async.Async (List UInt8) := do
  match ← socket.recv? 65536 with
  | some bytes => receiveAll socket (before ++ bytes.toList)
  | none => return before

/-- Sends a request over a connection of its own and takes all that comes back. -/
def converse (request : Sent) (host : String) (port : UInt16) :
    Std.Async.Async (List UInt8) := do
  let found ← Std.Async.DNS.getAddrInfo host (toString port)
  match found[0]? with
  | none => return []
  | some address =>
      let peer : Std.Net.SocketAddress := match address with
        | .v4 address => .v4 ⟨address, port⟩
        | .v6 address => .v6 ⟨address, port⟩
      let socket ← Std.Async.TCP.Socket.Client.mk
      socket.connect peer
      socket.send request.bytes.toByteArray
      receiveAll socket []

/-- Waits for a task, in steps of ten milliseconds. -/
def waitFor {α : Type} (task : Task α) : Nat → IO (Option α)
  | 0 => return none
  | steps + 1 => do
      if ← IO.hasFinished task then return some (← IO.wait task)
      IO.sleep 10
      waitFor task steps

def bareHost (host : Url.Host) : String :=
  String.ofList (host.text.toList.filter fun c => c ≠ '[' && c ≠ ']')

/-- The reply to a request, which may take a number of seconds. -/
def replyTo (request : Sent) (seconds : Nat) : IO Reply := do
  match request.url.authority with
  | none => return .dropped
  | some authority =>
      let port := (authority.port.getD 80).toUInt16
      let task ← IO.asTask (converse request (bareHost authority.host) port).block
      match ← waitFor task (100 * seconds) with
      | none => return .silent
      | some (.error _) => return .dropped
      | some (.ok bytes) =>
          match Answer.ofBytes? bytes with
          | some answer => return .answer answer
          | none => return .dropped

/-! ## Runs -/

def maxRequests : Nat := 8

/-- Makes a run with the replies that are known, and again with one more for as long as it sends a
request that has none. -/
def runWith (invocation : Invocation) (scene : Scene) (seconds : Nat) :
    Nat → List Reply → IO Outcome
  | 0, replies => return invocation.run { scene with wire := { scene.wire with replies } }
  | fuel + 1, replies => do
      let outcome := invocation.run { scene with wire := { scene.wire with replies } }
      match outcome.sent[replies.length]? with
      | none => return outcome
      | some request =>
          runWith invocation scene seconds fuel (replies ++ [← replyTo request seconds])

/-- The number of seconds that an answer may take. -/
def secondsFor (options : Options) (scene : Scene) : Nat :=
  let wanted := do
    let config ← (Config.load scene.files scene.environment scene.home).toOption
    (connection options config scene.environment scene.secrets scene.home).toOption
  (wanted.map (·.transport.seconds)).getD 0

/-- What the user is told of a failure. -/
def report (failure : Failure) : String :=
  let own := match failure with
    | .config cause => cause.message?.getD "the configuration cannot be read"
    | .store cause => cause.message
    | _ => "the run failed"
  let advice := (failure.advice?.map fun advice => "\n  help: " ++ advice).getD ""
  failure.message?.getD own ++ advice ++ "\n"

/-- Says what ended the reading of the command line. -/
def say (stop : Arguments.Stop) : IO Unit := do
  match stop with
  | .version said => IO.print said
  | .help => IO.print "Usage: unified [OPTIONS] <COMMAND>\n"
  | _ => IO.eprint "Usage: unified [OPTIONS] <COMMAND>\n"

/-- Writes the output of a run. That it cannot be written matters only for the body of an answer. -/
def writeOutput (command : Command) (output : List UInt8) : IO (Except Failure Unit) := do
  try
    (← IO.getStdout).write output.toByteArray
    return .ok ()
  catch cause =>
    match command with
    | .controller (.raw _) => return .error (.ofClient (.writing (toString cause)))
    | _ => return .ok ()

/-- Makes a run and brings about its outcome; yields the status to exit with. There is no keyring. -/
def perform (invocation : Invocation) (environment : Environment) : IO UInt32 := do
  let home := (environment.find? "HOME").getD "/"
  let files ← filesFor invocation.options environment home
  let wire : Wire := { reaches := fun url => url.scheme == "http", replies := [], sent := [] }
  let scene : Scene := { home, environment, files, wire }
  let seconds := secondsFor invocation.options scene
  let outcome ← runWith invocation scene seconds maxRequests []
  let written ← writeOutput invocation.command outcome.output
  if written.isOk then writeFiles files outcome.files
  IO.eprint outcome.notices
  match written.bind fun _ => outcome.result with
  | .ok () => return 0
  | .error failure =>
      IO.eprint (report failure)
      return failure.exitStatus.toUInt32

end NetConsole.Main

open NetConsole in
/-- Reads the command line and makes the run that it asks for. -/
def main (arguments : List String) : IO UInt32 := do
  let environment ← Main.environment
  match Console.Invocation.read environment arguments with
  | .error stop =>
      Main.say stop
      return stop.exitStatus.toUInt32
  | .ok invocation => Main.perform invocation environment
