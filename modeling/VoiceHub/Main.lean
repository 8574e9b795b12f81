import Std.Time.Zoned
import VoiceHub.Program
import VoiceHub.Session

/-!
The program: it starts as `Program.start` says and prints the records that are
shown.  Without a network it takes one payload per line of standard input, as
`POST /api/intent` does, and prints the body of the answer.
-/

namespace VoiceHub.Main

/-- The variables that the program looks at. -/
def variableNames : List String :=
  [Program.levelKey, Config.pathKey] ++ Config.settings.map Config.Setting.key

def readEnvironment : IO Environment := do
  let mut env : Environment := Dict.empty
  for name in variableNames do
    if let some value ← IO.getEnv name then env := env.insert name value
  return env

def fault : IO.Error → FileError
  | .inappropriateType _ code _ => if code = 21 then .isDirectory else .notDirectory
  | _ => .notFound

def readFile (path : String) : IO (Except FileError (List UInt8)) := do
  try
    return .ok (← IO.FS.readBinFile path).toList
  catch e =>
    return .error (fault e)

/-- The files that the start may ask for. -/
def readFiles (env : Environment) : IO Files := do
  let variablesFile ← readFile Program.variablesPath
  let known : Files := fun path =>
    if path = Program.variablesPath then variablesFile else .error .notFound
  let configPath := ((Program.environment env known).find? Config.pathKey).getD Config.defaultPath
  let configFile ← readFile configPath
  return fun path => if path = configPath then configFile else known path

def readClock : IO TimeOfDay := do
  let time ← Std.Time.PlainTime.now
  return { hour := time.hour.val.toNat, minute := time.minute.val.toNat }

def levelText : Level → String
  | .trace => "TRACE"
  | .debug => "DEBUG"
  | .info => "INFO"
  | .warn => "WARN"
  | .error => "ERROR"

def printRecords (records : List Record) : IO Unit :=
  records.forM fun r => IO.println (levelText r.level ++ " " ++ r.line)

/-- Lets the time pass that has passed, and answers one payload. -/
def answerLine (hub : Hub) (elapsed : Nat) (line : String) : Session.Answer × Hub :=
  (do
    let _ ← Session.perform (.advance elapsed)
    Session.perform
      (.request { method := "POST", target := "/api/intent", body := Utf8.encode line })
    : HubM Session.Answer).run hub

/-- `time` is that of the last line, in milliseconds. -/
partial def serve (env : Environment) (hub : Hub) (time : Nat) : IO Unit := do
  let line ← (← IO.getStdin).getLine
  if line.isEmpty then return
  let now ← IO.monoMsNow
  let payload := String.ofList (line.toList.filter (· ≠ '\n'))
  let (answer, hub) := answerLine { hub with clock := ← readClock } (now - time) payload
  if let .ok f := Program.filter env then
    printRecords (Program.shownRecords f hub.world.journal)
  if let .http a := answer then IO.println a.body
  serve env { hub with world := { hub.world with journal := [] } } now

end VoiceHub.Main

open VoiceHub

def main : IO UInt32 := do
  let env ← Main.readEnvironment
  let files ← Main.readFiles env
  let start := Program.start env files {} (← Main.readClock) fun _ => none
  Main.printRecords start.shown
  match start.outcome with
  | .error e =>
      IO.eprintln ("Error: " ++ e.report)
      return 1
  | .ok hub =>
      let hub := { hub with world := { hub.world with journal := [] } }
      Main.serve (Program.environment env files) hub (← IO.monoMsNow)
      return 0
