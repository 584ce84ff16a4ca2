import CommandGate.Bundled
import CommandGate.Proofs.CleanMails
import CommandGate.Proofs.PluginLoading

/-!
The gate of the bundled plugins with its mails watched. All bundled plugins but the mail plugin act on
the rest of the surroundings alone, so the gate is one of those whose mails are clean.
-/

namespace CommandGate

open Mail

variable {σ τ : Type}

/-! ### The rest of the surroundings -/

theorem Power.registration_outside (os : String) (launch : Power.Launcher τ) :
    Power.registration os (fun command => Surroundings.outside (launch command)) =
      (Power.registration os launch).outside := by
  have runs (operation : Power.Operation) :
      operation.run os (fun command => Surroundings.outside (launch command)) =
        fun parameters => Surroundings.outside (operation.run os launch parameters) := by
    funext parameters reached
    simp only [Power.Operation.run, Surroundings.outside]
    split <;> rfl
  simp only [Power.registration, PluginRegistration.outside, List.map_cons, List.map_nil,
    Action.outside, runs]

theorem Files.registration_outside (files : τ → Files.FileSystem) (settings : FileReaderSettings) :
    Files.registration (fun reached : Surroundings τ => files reached.state.2) settings =
      (Files.registration files settings).outside := rfl

theorem Http.Request.send_outside (request : Http.Request) (network : Http.Network τ) :
    request.send (fun request => Surroundings.outside (network request)) =
      Surroundings.outside (request.send network) := by
  funext reached
  simp only [Http.Request.send, Surroundings.outside]
  rcases network request reached.state.2 with ⟨delivery, rest⟩
  cases delivery <;> rfl

theorem Lights.register_outside (network : Http.Network τ) (settings : PluginSettings) :
    Lights.register (fun request => Surroundings.outside (network request)) settings =
      (Lights.register network settings).map PluginRegistration.outside := by
  have toggles (server : Lights.Server) :
      server.toggle (fun request => Surroundings.outside (network request)) =
        fun parameters => Surroundings.outside (server.toggle network parameters) := by
    funext parameters reached
    simp only [Lights.Server.toggle, Http.Request.send_outside, Surroundings.outside]
    cases Lights.Order.ofParameters parameters with
    | error fault => rfl
    | ok order =>
      simp only
      cases server.request order with
      | error fault => rfl
      | ok request =>
        simp only
        rcases request.send network reached.state.2 with ⟨fault | reply, rest⟩
        · rfl
        · simp only
          cases Http.statusFault? request.url reply.status <;> rfl
  simp only [Lights.register, toggles]
  split <;> rfl

theorem OracleSettings.client_outside (settings : OracleSettings) (network : Http.Network τ) :
    settings.client (fun request => Surroundings.outside (network request)) =
      (settings.client network).outside := by
  have generates : settings.generate (fun request => Surroundings.outside (network request)) =
      fun request => Surroundings.outside (settings.generate network request) := by
    funext request reached
    simp only [OracleSettings.generate, Http.Request.send_outside, Surroundings.outside]
    cases Http.Request.build "POST" (settings.endpoint "/api/generate") none (some request.toJson)
        (some settings.timeoutSecs) with
    | error fault => rfl
    | ok message =>
      simp only
      rcases message.send network reached.state.2 with ⟨fault | reply, rest⟩
      · rfl
      · simp only
        cases reply.body <;> rfl
  have checks : settings.check (fun request => Surroundings.outside (network request)) =
      Surroundings.outside (settings.check network) := by
    funext reached
    simp only [OracleSettings.check, Http.Request.send_outside, Surroundings.outside]
    cases Http.Request.build "GET" (settings.endpoint "/api/tags") none none
        (some OracleSettings.checkPatience) with
    | error fault => rfl
    | ok message =>
      simp only
      rcases message.send network reached.state.2 with ⟨fault | reply, rest⟩
      · rfl
      · simp only
        split <;> rfl
  simp only [OracleSettings.client, Oracle.outside, generates, checks]

/-! ### The gate -/

namespace Facilities

/-- The same facilities with a mail plugin of their own, whose transport is watched. -/
def watched (facilities : Facilities τ) (transport : Transport τ) : Facilities (Surroundings τ) where
  os := facilities.os
  launch command := Surroundings.outside (facilities.launch command)
  files reached := facilities.files reached.state.2
  network request := Surroundings.outside (facilities.network request)
  mail := (Service.beside transport).recorded

def installs (facilities : Facilities τ) :
    List (String × (PluginSettings → Except RegistrationError (Installed τ))) := [
  ("pc_control", fun _ => .ok (.other (Power.registration facilities.os facilities.launch))),
  ("email_sender", fun _ => .ok .mail),
  ("file_reader", fun settings => .ok (.other (Files.registration facilities.files settings.fileReader))),
  ("home_automation", fun settings => (Lights.register facilities.network settings).map .other)]

theorem constructors_watched (facilities : Facilities τ) (transport : Transport τ) :
    (facilities.watched transport).constructors = facilities.installs.map fun entry =>
      (entry.1, fun settings => (entry.2 settings).map (Installed.registration transport)) := by
  have lights (settings : PluginSettings) :
      Lights.register (facilities.watched transport).network settings =
        ((Lights.register facilities.network settings).map Installed.other).map
          (Installed.registration transport) := by
    rw [watched, Lights.register_outside]
    cases Lights.register facilities.network settings <;> rfl
  simp only [constructors, installs, List.map_cons, List.map_nil, ← lights]
  simp only [watched, Power.registration_outside, Files.registration_outside]
  rfl

/-- The bundled plugins make one of the gates whose mails are clean. -/
theorem gate_watched (facilities : Facilities τ) (transport : Transport τ) (settings : Settings) :
    (facilities.watched transport).gate settings =
      Gate.mailing transport (Registry.enabledAmong settings.plugins facilities.installs)
        (settings.oracle.client facilities.network) settings Policy.permitAll := by
  have loaded : (facilities.watched transport).registry settings.plugins =
      Registry.empty.registerAll
        ((Registry.enabledAmong settings.plugins facilities.installs).map
          (Installed.registration transport)) := by
    rw [registry, Registry.load_registry, constructors_watched, Registry.enabledAmong_map]
  rw [gate, loaded, watched, OracleSettings.client_outside]
  rfl

end Facilities

end CommandGate
