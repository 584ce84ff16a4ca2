import CommandGate.Plugin.Registration
import CommandGate.Text.Blank
/-!
The plugin that turns the computer off or restarts it. Each operating system that is known has its own
command; the output of the command is the answer.
-/
namespace CommandGate.Power

inductive Operation where
  | shutdown
  | restart
  deriving DecidableEq, Repr

structure CommandLine where
  program : String
  arguments : List String
  deriving DecidableEq, Repr

def Operation.commandLine? (operation : Operation) (os : String) : Option CommandLine :=
  if os = "windows" then
    match operation with
    | .shutdown => some ⟨"shutdown", ["/s", "/t", "0"]⟩
    | .restart => some ⟨"shutdown", ["/r", "/t", "0"]⟩
  else if os = "linux" ∨ os = "macos" then
    match operation with
    | .shutdown => some ⟨"sudo", ["shutdown", "-h", "now"]⟩
    | .restart => some ⟨"sudo", ["reboot"]⟩
  else none

inductive ExitStatus where
  | code (n : Nat)
  | signal (n : Nat)
  deriving DecidableEq, Repr

def signalNames : List (Nat × String) := [
  (1, "SIGHUP"), (2, "SIGINT"), (3, "SIGQUIT"), (4, "SIGILL"), (5, "SIGTRAP"), (6, "SIGABRT"),
  (7, "SIGBUS"), (8, "SIGFPE"), (9, "SIGKILL"), (10, "SIGUSR1"), (11, "SIGSEGV"),
  (12, "SIGUSR2"), (13, "SIGPIPE"), (14, "SIGALRM"), (15, "SIGTERM"), (16, "SIGSTKFLT"),
  (17, "SIGCHLD"), (18, "SIGCONT"), (19, "SIGSTOP"), (20, "SIGTSTP"), (21, "SIGTTIN"),
  (22, "SIGTTOU"), (23, "SIGURG"), (24, "SIGXCPU"), (25, "SIGXFSZ"), (26, "SIGVTALRM"),
  (27, "SIGPROF"), (28, "SIGWINCH"), (29, "SIGIO"), (30, "SIGPWR"), (31, "SIGSYS")]

def ExitStatus.describe : ExitStatus → String
  | code n => "exit status: " ++ toString n
  | signal n =>
    match signalNames.find? (·.1 == n) with
    | some (_, name) => "signal: " ++ toString n ++ " (" ++ name ++ ")"
    | none => "signal: " ++ toString n

inductive Run where
  | absent
  | finished (status : ExitStatus) (output errors : String)

abbrev Launcher (σ : Type) := CommandLine → σ → Run × σ

def answerOf (command : CommandLine) : Run → Except ActionError Json
  | .absent => .error (.io "No such file or directory (os error 2)")
  | .finished status output errors =>
    if status = .code 0 then .ok (.object [("message", .string (Text.trimmed output))])
    else
      .error (.failed
        (command.program ++ " exited with " ++ status.describe ++ ": " ++ Text.trimmed errors))

def Operation.run {σ : Type} (operation : Operation) (os : String) (launch : Launcher σ) :
    Handler σ :=
  fun _ state =>
    match operation.commandLine? os with
    | none => (.failed (.failed ("Operating system '" ++ os ++ "' is not supported")), state)
    | some command =>
      let (run, state) := launch command state
      (.ofExcept (answerOf command run), state)

def registration {σ : Type} (os : String) (launch : Launcher σ) : PluginRegistration σ where
  name := "pc_control"
  description := "Controls basic PC operations (shutdown, restart)."
  actions := [
    { name := "shutdown_pc"
      action := {
        description := "Shuts the computer down. Requires confirmation."
        parameters := [("confirm", "boolean (true to confirm the shutdown)")]
        dangerous := true
        handler := Operation.shutdown.run os launch } },
    { name := "restart_pc"
      action := {
        description := "Restarts the computer. Requires confirmation."
        parameters := [("confirm", "boolean (true to confirm the restart)")]
        dangerous := true
        handler := Operation.restart.run os launch } }]

end CommandGate.Power
