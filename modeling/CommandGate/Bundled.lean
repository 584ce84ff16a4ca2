import CommandGate.Files.Reader
import CommandGate.Gate
import CommandGate.Lights
import CommandGate.Mail.Sender
import CommandGate.Oracle.Client
import CommandGate.Power
/-!
The plugins that come with a gate, in the order in which they are installed, and a gate made of them
and of an oracle behind a server.
-/
namespace CommandGate

structure Facilities (σ : Type) where
  os : String
  launch : Power.Launcher σ
  files : σ → Files.FileSystem
  network : Http.Network σ
  mail : Mail.Service σ

namespace Facilities

variable {σ : Type}

def constructors (facilities : Facilities σ) : List (String × PluginConstructor σ) := [
  ("pc_control", fun _ => .ok (Power.registration facilities.os facilities.launch)),
  ("email_sender", fun _ => .ok facilities.mail.registration),
  ("file_reader", fun settings => .ok (Files.registration facilities.files settings.fileReader)),
  ("home_automation", Lights.register facilities.network)]

def registry (facilities : Facilities σ) (settings : PluginSettings) : Registry σ :=
  (Registry.load facilities.constructors settings).registry

def gate (facilities : Facilities σ) (settings : Settings) : Gate σ :=
  .ofSettings (facilities.registry settings.plugins)
    (settings.oracle.client facilities.network) settings Policy.permitAll

end Facilities

end CommandGate
