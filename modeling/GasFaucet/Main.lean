import GasFaucet.Program.Console

/-!
# The command line

Settings come from the environment and from a file.  What a network would carry goes over standard
output and input: a call to the node is a line, and so is its reply; while the faucet runs, further
lines ask for pages or have the node checked, and the end of input stops it.  The log and the complaints
go to standard error.
-/

namespace GasFaucet.CommandLine

abbrev Heard := List (Call × Outcome)

def Heard.node (heard : Heard) (c : Call) : Delivery :=
  ⟨0, (heard.lookup c).getD (.refusal "not asked")⟩

/-- The next line of input without its end; `none` at the end of input. -/
def readLine : IO (Option String) := do
  let line ← (← IO.getStdin).getLine
  return if line.isEmpty then none else some (String.ofList (line.toList.takeWhile (· ≠ '\n')))

def say (lines : List String) : IO Unit := do
  let out ← IO.getStdout
  for line in lines do
    out.putStrLn line
  out.flush

def ask (heard : Heard) (calls : List Call) : IO Heard :=
  calls.foldlM (fun heard c => do
    say [c.line]
    return (c, (← readLine).elim (.refusal "no reply") .ofLine) :: heard) heard

def environment (names : List String) : IO (String → Option String) := do
  let values ← names.mapM fun name => return (name, ← IO.getEnv name)
  return fun name => (values.lookup name).join

def fileBytes? (path : String) : IO (Option ByteArray) := do
  try return some (← IO.FS.readBinFile path)
  catch _ => return none

def logAll (s : Settings) (filter : Logging.Filter) (events : List Announcement) : IO Unit := do
  for a in events do
    if filter.admits a.event then
      IO.eprintln (a.record s.logging.json)

/-- Obeys commands until the end of input. -/
partial def serve (p : Installation) (note : List Announcement → IO Unit) (started : Nat)
    (checks : List Bool) : IO Unit := do
  match ← readLine with
  | none => return
  | some line =>
      match (Command.ofLine? line).filter (·.isServed p.settings) with
      | none =>
          say ["no such command"]
          serve p note started checks
      | some (.status target) =>
          let heard ← ask [] (Pages.calls p.pool target)
          let uptime := ((← IO.monoMsNow) - started) / 1000
          say ((p.statusSite heard.node uptime).answer "GET" target).lines
          serve p note started checks
      | some (.metrics target) =>
          say ((p.metricsSite checks).answer "GET" target).lines
          serve p note started checks
      | some .check =>
          let heard ← ask [] [.blockNumber]
          let notices := p.healthNotices heard.node
          note notices
          serve p note started (checks ++ [notices.isEmpty])

/-- Starts on accepted settings and runs to the end; the result is the exit code. -/
def run (s : Settings) (filter : Logging.Filter) : IO UInt32 := do
  let note := logAll s filter
  let heard ← ask [] ((Link.connect s.network (.fresh [])).2.calls.map (·.2))
  let heard ←
    match Launch.ofSettings s heard.node with
    | .running p _ => ask heard (Pages.calls p.pool "/signers")
    | _ => pure heard
  let launch := Launch.ofSettings s heard.node
  match launch with
  | .misconfigured _ => pure ()
  | .refused _ said _ => note said
  | .running p said =>
      note said
      serve p note (← IO.monoMsNow) []
      note [.signalled, .stopped]
  launch.complaint?.forM IO.eprintln
  return launch.exitCode.toUInt32

end GasFaucet.CommandLine

open GasFaucet GasFaucet.CommandLine in
def main : IO UInt32 := do
  let env ← environment ["FAUCET_CONFIG", "RUST_LOG"]
  let path := Settings.path env
  let bytes? ← fileBytes? path
  let text := (bytes?.bind String.fromUTF8?).getD ""
  let env ← environment (["FAUCET_CONFIG", "RUST_LOG"] ++
    (Environment.references 0 text.toList).map String.ofList)
  match Settings.load env (fun _ => bytes?) path with
  | .error e =>
      let launch := Launch.misconfigured e
      launch.complaint?.forM IO.eprintln
      return launch.exitCode.toUInt32
  | .ok s =>
      let (filter, complaints) := Logging.chosen (env "RUST_LOG") s.logging.filter
      complaints.forM IO.eprintln
      run s filter
