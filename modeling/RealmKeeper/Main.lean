import RealmKeeper.Command.Run

/-!
# The client program

The command line of the client program. It has no network of its own: the provider is one that
cannot be reached.
-/

namespace RealmKeeper.Main

open RealmKeeper.Command RealmKeeper.Http RealmKeeper.Text

/-- The names of all variables that stand in for options. -/
def variableNames : List String :=
  (commonOptions ++ clientOptions).filterMap (·.variableName)

/-- The variables that are set. -/
def readEnvironment : IO Environment := do
  let values ← variableNames.filterMapM fun name => do
    return (← IO.getEnv name).map fun value => (name, Utf8.bytes value)
  return fun name => (values.find? (·.1 = name)).map Prod.snd

/-- Reads octets up to the end of a line. -/
partial def readLine (input : IO.FS.Stream) (done : List UInt8) : IO (List UInt8) := do
  match (← input.read 1).toList with
  | [] => return done.reverse
  | b :: _ => if b = 0x0A then return (b :: done).reverse else readLine input (b :: done)

/-- Asks, if there is something to ask, and reads the answer. -/
def ask (prompt : String) : IO (List UInt8) := do
  if prompt.isEmpty then return []
  let output ← IO.getStdout
  output.putStr prompt
  output.flush
  readLine (← IO.getStdin) []

/-- The world in which the provider cannot be reached. -/
def isolated : Provider.World :=
  .start (HeaderValue.ofString? Settings.defaultUserAgent) [] ⟨.unreachable, 0⟩

/-- Shows output and error, and gives the exit code. -/
def leave (output : String) (error : Option String) (exitCode : Nat) : IO UInt32 := do
  (← IO.getStdout).putStr output
  if let some text := error then (← IO.getStderr).putStr (text ++ "\n")
  return exitCode.toUInt32

/-- Runs an invocation. -/
def runInvocation (invocation : Invocation) : IO UInt32 := do
  match adminOf invocation with
  | .error _ =>
    let transcript := (isolated.perform (perform invocation [])).1.transcript
    leave transcript.output transcript.error transcript.exitCode
  | .ok _ =>
    let input ← ask (promptOf invocation.action)
    let outcome := (isolated.perform (perform invocation input)).1
    let transcript := outcome.transcript
    leave outcome.output transcript.error transcript.exitCode

/-- Runs the words of a command line. -/
def runWords (words : List String) : IO UInt32 := do
  let environment ← readEnvironment
  match Invocation.ofWords environment (words.map Utf8.bytes) with
  | .error h =>
    let transcript := haltTranscript h
    leave transcript.output transcript.error transcript.exitCode
  | .ok invocation => runInvocation invocation

end RealmKeeper.Main

/-- **Runs a command line.** -/
def main (arguments : List String) : IO UInt32 :=
  RealmKeeper.Main.runWords arguments
