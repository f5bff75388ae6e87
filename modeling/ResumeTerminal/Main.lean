import Std.Time.Zoned
import ResumeTerminal.Config.Reading
import ResumeTerminal.Host
import ResumeTerminal.Profile.Reading

/-! The program: settings and profile from files, then a session on the standard
streams. Each line of input is typed key by key and entered. -/
namespace ResumeTerminal.Main

def defaultConfig : String := "cyberdesk.toml"

/-- Only a path with nothing at it counts as missing. -/
def readFile (path : String) : IO FileContent := do
  try
    return .bytes (← IO.FS.readBinFile path)
  catch
    | .noFileOrDirectory .. => return .missing
    | _ => return .directory

def now : IO Timestamp := do
  let moment ← Std.Time.DateTime.now
  let nanos := moment.toTimestamp.toNanosecondsSinceUnixEpoch.val
  return ⟨nanos / 1000000000, (nanos % 1000000000).toNat, moment.offset.second.val⟩

def write (text : String) : IO Unit := do
  let output ← IO.getStdout
  output.putStr text
  output.flush

/-- The keys of a line, the last of them Enter. -/
def keysOf (line : String) : List Key :=
  (line.toList.filter (· ≠ '\n')).map (fun c => { code := .char c }) ++ [{ code := .enter }]

/-- Takes a turn for each key, until one of them quits. -/
def typeKeys (host : Host) : List Key → IO (Option Host)
  | [] => return some host
  | key :: keys => do
    let (host, action, written) := host.turnAt (← now) key
    write written
    if action = .quit then return none else typeKeys host keys

partial def loop (input : IO.FS.Stream) (host : Host) : IO Unit := do
  let line ← input.getLine
  if line.isEmpty then return
  if let some host ← typeKeys host (keysOf line) then loop input host

def run (config : Config) : IO Unit := do
  let file ← readFile config.profilePath
  let profile := (Profile.ofFile config.profilePath file).toOption.getD Profile.fallback
  let (host, written) := Host.start config profile (← now)
  write written
  loop (← IO.getStdin) host
  write Console.finish

end ResumeTerminal.Main

/-- The configuration is named by the first argument or by the environment. -/
def main (args : List String) : IO UInt32 := do
  let named := args.head? <|> (← IO.getEnv "CYBERDESK_CONFIG")
  let path := named.getD ResumeTerminal.Main.defaultConfig
  match ResumeTerminal.Config.ofFile (← ResumeTerminal.Main.readFile path) with
  | .ok config =>
    ResumeTerminal.Main.run config
    return 0
  | .error failure =>
    IO.eprintln s!"loading config {path}: {failure.message}"
    return 1
