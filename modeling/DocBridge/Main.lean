import DocBridge.CommandLine

/-!
# The program

Carries out what the command line asks for, with the real arguments, files and streams.  No store
answers here: a call of one fails as it does where none can be reached.
-/

namespace DocBridge

/-- What the program says about its use. -/
def usageText : String := "\n".intercalate [
  "Exposes MDDB documents as MCP resources and MDDB operations as MCP tools",
  "",
  "Usage: " ++ CommandLine.programName ++ " [OPTIONS]",
  "",
  "Options:",
  "      --config <PATH>  Path to the YAML configuration file [env: " ++
    CommandLine.configVariable ++ "] [default: " ++ CommandLine.defaultConfigPath ++ "]",
  "      --stdio          Serve JSON-RPC over stdin/stdout instead of HTTP",
  "      --listen <ADDR>  Override the HTTP listen address",
  "  -v, --verbose        Enable debug logging to stderr",
  "  -h, --help           Print help",
  "  -V, --version        Print version"]

/-- What is found under a path.  Error 21 says that it is a directory; any other wrong type is that
of something on the way, so that there is nothing under the path. -/
def readConfigFile (path : String) : IO ConfigFile := do
  try
    let bytes ← IO.FS.readBinFile path
    return .contents bytes.toList
  catch failure =>
    match failure with
    | .noFileOrDirectory .. => return .absent
    | .inappropriateType _ 21 _ => return .directory
    | .inappropriateType .. => return .absent
    | _ => return .unreadable (toString failure)

/-- The bytes of a line, up to the one that ends it; none are left at the end of the stream.  The
bytes that were read before are given in reverse. -/
partial def readLine (input : IO.FS.Stream) (before : Bytes) : IO Bytes := do
  match (← input.read 1).toList with
  | [] => return before.reverse
  | byte :: _ =>
    if byte = newline then return (byte :: before).reverse else readLine input (byte :: before)

/-- Answers lines as they come until there are no more. -/
partial def answerLines (client : FailoverClient (Grpc.Channel Unit))
    (world : ClientWorld (Grpc.Channel Unit)) (input output : IO.FS.Stream) : IO Unit := do
  let line ← readLine input []
  if line.isEmpty then return
  let (response, after) := answerLine client.transport line world
  if let some response := response then
    output.write ⟨(responseLine response).toArray⟩
    output.flush
  answerLines client after input output

end DocBridge

open DocBridge

def main (arguments : List String) : IO UInt32 := do
  let names := CommandLine.configVariable :: ConfigLayer.knownVariables.map (·.name)
  let values ← names.mapM fun name => return (name, ← IO.getEnv name)
  let environment (name : String) : Option String := (values.lookup name).join
  let path := match CommandLine.Request.ofArguments arguments with
    | .run options => options.configPath environment
    | _ => CommandLine.defaultConfigPath
  let file ← readConfigFile path
  let start := CommandLine.start ⟨environment, fun _ => file, Wires.unreachable⟩ arguments
  match start with
  | .help =>
    IO.println usageText
    return 0
  | .version =>
    IO.println CommandLine.versionText
    return 0
  | .refused =>
    IO.eprintln usageText
    return 2
  | .failed message =>
    IO.eprintln (CommandLine.errorText message)
    return 1
  | .serving options config client =>
    if options.stdio then
      answerLines client { world := { world := () } } (← IO.getStdin) (← IO.getStdout)
      return 0
    else
      IO.eprintln (CommandLine.errorText ("Server error: cannot listen on " ++
        config.listenAddress))
      return 1
