import DevcontainerBridge.Cli.AuthToken

/-! The settings of the two daemons. A config file and the environment are
laid over the defaults, and each daemon then takes its flags into account in a
way of its own. -/
namespace DevcontainerBridge

open Text

/-- Default control channel port. -/
def defaultControlPort : UInt16 := 19285

/-- Default data channel port. -/
def defaultDataPort : UInt16 := 19286

/-- Default scan interval in milliseconds. -/
def defaultScanIntervalMs : UInt64 := 1000

/-- Configuration for Unix socket forwarding. -/
structure SocketForwardingConfig where
  enabled : Bool
  watchPaths : List String
  containerPathPrefix : Option String
  scanIntervalMs : UInt64
  maxSocketForwards : UInt64
  deriving DecidableEq, Repr

def SocketForwardingConfig.default : SocketForwardingConfig where
  enabled := false
  watchPaths := []
  containerPathPrefix := none
  scanIntervalMs := 2000
  maxSocketForwards := 16

inductive ConfigError where
  | invalidPort (value : String)
  | configFile (message : String)
  deriving DecidableEq, Repr

/-- The `[socket_forwarding]` section of the config file. -/
structure FileSocketForwardingConfig where
  enabled : Option Bool
  watchPaths : Option (List String)
  containerPathPrefix : Option String
  scanIntervalMs : Option UInt64
  maxSocketForwards : Option UInt64
  deriving DecidableEq, Repr

structure FileClipboardConfig where
  enabled : Bool
  deriving DecidableEq, Repr

/-- The structure of the config file. All fields are optional. -/
structure FileConfig where
  controlPort : Option UInt16
  dataPort : Option UInt16
  hostAddr : Option String
  scanIntervalMs : Option UInt64
  logLevel : Option String
  logFormat : Option String
  logFile : Option String
  excludePorts : Option (List UInt16)
  includePorts : Option (List UInt16)
  noAuth : Option Bool
  socketForwarding : Option FileSocketForwardingConfig
  clipboard : Option FileClipboardConfig
  deriving DecidableEq, Repr

/-- Runtime configuration for both host and container daemons. -/
structure Config where
  controlPort : UInt16
  dataPort : UInt16
  hostAddr : Option String
  scanIntervalMs : UInt64
  logLevel : String
  logFormat : String
  logFile : Option String
  excludePorts : List UInt16
  includePorts : List UInt16
  noAuth : Bool
  socketForwarding : SocketForwardingConfig
  clipboardEnabled : Bool
  deriving DecidableEq, Repr

def Config.default : Config where
  controlPort := defaultControlPort
  dataPort := defaultDataPort
  hostAddr := none
  scanIntervalMs := defaultScanIntervalMs
  logLevel := "info"
  logFormat := "text"
  logFile := none
  excludePorts := []
  includePorts := []
  noAuth := false
  socketForwarding := .default
  clipboardEnabled := false

/-- The `[socket_forwarding]` section over what is configured so far. -/
def applySocketForwarding (config : SocketForwardingConfig) (file : FileSocketForwardingConfig) :
    SocketForwardingConfig where
  -- paths enable the forwarding unless it is disabled explicitly
  enabled :=
    match file.enabled with
    | some enabled => enabled
    | none => config.enabled || file.watchPaths.any (!·.isEmpty)
  watchPaths := file.watchPaths.getD config.watchPaths
  containerPathPrefix := file.containerPathPrefix <|> config.containerPathPrefix
  scanIntervalMs := file.scanIntervalMs.getD config.scanIntervalMs
  maxSocketForwards := file.maxSocketForwards.getD config.maxSocketForwards

/-- A port of the config file over what is configured so far. -/
def applyPort (config : UInt16) : Option UInt16 → Except ConfigError UInt16
  | none => .ok config
  | some port => if port = 0 then .error (.invalidPort "0") else .ok port

/-- Apply values from a parsed config file onto a configuration. -/
def applyFileConfig (config : Config) (file : FileConfig) : Except ConfigError Config := do
  let controlPort ← applyPort config.controlPort file.controlPort
  let dataPort ← applyPort config.dataPort file.dataPort
  .ok {
    controlPort := controlPort
    dataPort := dataPort
    hostAddr := file.hostAddr.filter (!·.isEmpty) <|> config.hostAddr
    scanIntervalMs := file.scanIntervalMs.getD config.scanIntervalMs
    logLevel := file.logLevel.getD config.logLevel
    logFormat := file.logFormat.getD config.logFormat
    logFile := file.logFile <|> config.logFile
    excludePorts := file.excludePorts.getD config.excludePorts
    includePorts := file.includePorts.getD config.includePorts
    noAuth := file.noAuth.getD config.noAuth
    socketForwarding := (file.socketForwarding.map (applySocketForwarding config.socketForwarding)).getD
      config.socketForwarding
    clipboardEnabled := (file.clipboard.map FileClipboardConfig.enabled).getD config.clipboardEnabled }

/-- The surroundings of a daemon. -/
structure DaemonSetting extends TokenSetting where
  /-- `DCBRIDGE_HOST` -/
  envHost : EnvVar
  /-- `DCBRIDGE_HOST_PORT` -/
  envHostPort : EnvVar

/-- The port that the environment sets, if it does. -/
def parseHostPort : Option String → Except ConfigError (Option UInt16)
  | none => .ok none
  | some text =>
      if text.isEmpty then .ok none
      else
        match parseUnsigned 10 (2 ^ 16) text.toList with
        | none => .error (.invalidPort text)
        | some port => if port = 0 then .error (.invalidPort "0") else .ok (some (UInt16.ofNat port))

namespace DaemonSetting

/-- Return the path to the config file. -/
def configFilePath (setting : DaemonSetting) : Option String :=
  setting.home.var.map fun home => joinPath (joinPath (joinPath home ".config") "dbr") "config.toml"

/-- The parsed config file, where there is one. -/
def readConfigFile (toml : String → Except String FileConfig) (setting : DaemonSetting) :
    Except ConfigError (Option FileConfig) :=
  match setting.configFilePath with
  | none => .ok none
  | some path =>
      match setting.files path with
      | .notFound => .ok none
      | .failed error => .error (.configFile (path ++ ": " ++ error))
      | .contents text =>
          match toml text with
          | .error error => .error (.configFile (path ++ ": " ++ error))
          | .ok file => .ok (some file)

/-- The config file over the defaults. -/
def loadFile (toml : String → Except String FileConfig) (setting : DaemonSetting) : Except ConfigError Config :=
  match setting.readConfigFile toml with
  | .error e => .error e
  | .ok none => .ok .default
  | .ok (some file) => applyFileConfig .default file

/-- Layer the config file and the environment variables over the defaults. -/
def loadConfig (toml : String → Except String FileConfig) (setting : DaemonSetting) : Except ConfigError Config := do
  let config ← setting.loadFile toml
  let hostPort ← parseHostPort setting.envHostPort.var
  .ok { config with
    hostAddr := setting.envHost.var.filter (!·.isEmpty) <|> config.hostAddr
    controlPort := hostPort.getD config.controlPort }

end DaemonSetting

/-- The flags of `dbr host-daemon`. The command line parser puts the defaults
in where a port is not given. -/
structure HostFlags where
  controlPort : Option UInt16
  dataPort : Option UInt16
  noAuth : Bool
  allowClipboard : Bool
  noClipboard : Bool
  socketWatchPaths : List String
  socketContainerPathPrefix : Option String
  socketScanIntervalMs : Option UInt64
  noSocketForwarding : Bool

/-- The flags of `dbr container-daemon`. -/
structure ContainerFlags where
  hostAddr : Option String
  scanInterval : Option UInt64
  excludePorts : List UInt16

inductive StartError where
  | config (e : ConfigError)
  | auth (e : AuthError)
  deriving DecidableEq, Repr

/-- What the host daemon is started with. Without authentication there is no
token. -/
structure HostDaemonConfig where
  controlPort : UInt16
  dataPort : UInt16
  authToken : Option String
  allowClipboard : Bool
  socketForwarding : SocketForwardingConfig

/-- The flags for socket forwarding over the config file. -/
def HostFlags.socketForwarding (flags : HostFlags) (config : SocketForwardingConfig) : SocketForwardingConfig :=
  if flags.noSocketForwarding then .default
  else
    { config with
      enabled := config.enabled || !flags.socketWatchPaths.isEmpty
      watchPaths := if flags.socketWatchPaths.isEmpty then config.watchPaths else flags.socketWatchPaths
      containerPathPrefix := flags.socketContainerPathPrefix <|> config.containerPathPrefix
      scanIntervalMs := flags.socketScanIntervalMs.getD config.scanIntervalMs }

namespace DaemonSetting

/-- The token resolution of `dbr host-daemon`, with the outcome of generating
and writing a new token. -/
def hostToken (setting : DaemonSetting) (generated : Except AuthError String) : Except AuthError String :=
  match setting.tokenFilePath with
  | .error e => .error e
  | .ok defaultPath =>
      match setting.resolveToken setting.authToken setting.authTokenFile defaultPath with
      | .error (.noTokenSource _) =>
          match setting.readTokenFile defaultPath with
          | .error (.tokenNotFound _) => generated
          | result => result
      | result => result

/-- The token of the host daemon, none where authentication is disabled. -/
def hostAuth (setting : DaemonSetting) (generated : Except AuthError String) (noAuth : Bool) :
    Except AuthError (Option String) :=
  if noAuth then .ok none else (setting.hostToken generated).map some

/-- `dbr host-daemon` up to the start of the daemon. -/
def hostDaemon (toml : String → Except String FileConfig) (setting : DaemonSetting)
    (generated : Except AuthError String) (flags : HostFlags) : Except StartError HostDaemonConfig := do
  let config ← (setting.loadConfig toml).mapError .config
  let authToken ← (setting.hostAuth generated flags.noAuth).mapError .auth
  .ok {
    controlPort := flags.controlPort.getD defaultControlPort
    dataPort := flags.dataPort.getD defaultDataPort
    authToken := authToken
    allowClipboard := !flags.noClipboard && (flags.allowClipboard || config.clipboardEnabled)
    socketForwarding := flags.socketForwarding config.socketForwarding }

/-- `dbr container-daemon` up to the start of the daemon. -/
def containerDaemon (toml : String → Except String FileConfig) (setting : DaemonSetting)
    (flags : ContainerFlags) : Except StartError (Config × String) := do
  let config ← (setting.loadConfig toml).mapError .config
  let authToken ← setting.containerToken.mapError .auth
  .ok ({ config with
    hostAddr := flags.hostAddr <|> config.hostAddr
    scanIntervalMs := flags.scanInterval.getD defaultScanIntervalMs
    excludePorts := if flags.excludePorts.isEmpty then config.excludePorts else flags.excludePorts }, authToken)

end DaemonSetting

/-- The shortest interval between two scans, in milliseconds. -/
def minScanIntervalMs : UInt64 := 100

/-- The interval at which `container::run` scans. -/
def Config.scanInterval (config : Config) : UInt64 :=
  max config.scanIntervalMs minScanIntervalMs

/-- The value of the first layer that supplies one. -/
def layered {Value : Type*} (flag env file : Option Value) (default : Value) : Value :=
  (flag <|> env <|> file).getD default

namespace DaemonSetting

/-- What the config file supplies for a field. -/
def fileValue {Value : Type*} (toml : String → Except String FileConfig) (setting : DaemonSetting)
    (field : FileConfig → Option Value) : Option Value :=
  match setting.readConfigFile toml with
  | .ok file => file.bind field
  | .error _ => none

/-- What the environment supplies for the control port. -/
def envControlPort (setting : DaemonSetting) : Option UInt16 :=
  match parseHostPort setting.envHostPort.var with
  | .ok port => port
  | .error _ => none

variable (toml : String → Except String FileConfig) (setting : DaemonSetting)

/-- The host daemon runs with the first layer of each of its settings. -/
structure HostLayered (flags : HostFlags) (host : HostDaemonConfig) : Prop where
  controlPort : host.controlPort = layered flags.controlPort setting.envControlPort
    (setting.fileValue toml FileConfig.controlPort) defaultControlPort
  dataPort : host.dataPort = layered flags.dataPort none (setting.fileValue toml FileConfig.dataPort) defaultDataPort
  noAuth : host.authToken.isNone = layered (if flags.noAuth then some true else none) none
    (setting.fileValue toml FileConfig.noAuth) false

/-- The container daemon runs with the first layer of each of its settings.
It has no flags for the ports. -/
structure ContainerLayered (flags : ContainerFlags) (config : Config) : Prop where
  controlPort : config.controlPort = layered none setting.envControlPort
    (setting.fileValue toml FileConfig.controlPort) defaultControlPort
  dataPort : config.dataPort = layered none none (setting.fileValue toml FileConfig.dataPort) defaultDataPort
  scanIntervalMs : config.scanInterval = layered flags.scanInterval none
    (setting.fileValue toml FileConfig.scanIntervalMs) defaultScanIntervalMs

/-- Each port is given as a flag, or no other layer sets it to another value
than the default; authentication is disabled by the flag or not at all. -/
structure HostFlagsDecide (flags : HostFlags) : Prop where
  controlPort : flags.controlPort = none → ∀ port,
    (setting.envControlPort <|> setting.fileValue toml FileConfig.controlPort) = some port → port = defaultControlPort
  dataPort : flags.dataPort = none → ∀ port,
    setting.fileValue toml FileConfig.dataPort = some port → port = defaultDataPort
  noAuth : flags.noAuth = false → setting.fileValue toml FileConfig.noAuth ≠ some true

/-- The scan interval is given as a flag and not too short, or the config file
does not set it to another value than the default. -/
structure ScanFlagDecides (flags : ContainerFlags) : Prop where
  unset : flags.scanInterval = none → ∀ interval,
    setting.fileValue toml FileConfig.scanIntervalMs = some interval → interval = defaultScanIntervalMs
  given : ∀ interval, flags.scanInterval = some interval → minScanIntervalMs ≤ interval

variable {toml setting} {config : Config} {generated : Except AuthError String} {hostFlags : HostFlags}
  {containerFlags : ContainerFlags}

theorem except_bind_eq_ok {Error Value Result : Type} {first : Except Error Value} {rest : Value → Except Error Result}
    {result : Result} (h : (first >>= rest) = .ok result) :
    ∃ value, first = .ok value ∧ rest value = .ok result := by
  cases first with
  | error e => cases h
  | ok value => exact ⟨value, rfl, h⟩

theorem mapError_eq_ok {Error Other Value : Type} {make : Error → Other} {first : Except Error Value}
    {value : Value} (h : first.mapError make = .ok value) : first = .ok value := by
  cases first with
  | error e => cases h
  | ok other => exact congrArg Except.ok (Except.ok.inj h)

theorem applyPort_eq_ok {port result : UInt16} {filePort : Option UInt16} (h : applyPort port filePort = .ok result) :
    result = filePort.getD port := by
  cases filePort with
  | none =>
      cases h
      rfl
  | some given =>
      simp only [applyPort] at h
      split_ifs at h
      cases h
      rfl

/-- The fields that the file sets go over the configuration before. -/
theorem applyFileConfig_eq_ok {file : FileConfig} {before : Config} (h : applyFileConfig before file = .ok config) :
    config.controlPort = file.controlPort.getD before.controlPort ∧
      config.dataPort = file.dataPort.getD before.dataPort ∧
      config.scanIntervalMs = file.scanIntervalMs.getD before.scanIntervalMs := by
  obtain ⟨controlPort, hControl, h⟩ := except_bind_eq_ok h
  obtain ⟨dataPort, hData, h⟩ := except_bind_eq_ok h
  cases h
  exact ⟨applyPort_eq_ok hControl, applyPort_eq_ok hData, rfl⟩

/-- Loading layers the environment over the file over the defaults. -/
theorem loadConfig_eq_ok (h : setting.loadConfig toml = .ok config) :
    config.controlPort = layered none setting.envControlPort
        (setting.fileValue toml FileConfig.controlPort) defaultControlPort ∧
      config.dataPort = layered none none (setting.fileValue toml FileConfig.dataPort) defaultDataPort ∧
      config.scanIntervalMs = (setting.fileValue toml FileConfig.scanIntervalMs).getD defaultScanIntervalMs := by
  obtain ⟨before, hBefore, h⟩ := except_bind_eq_ok h
  obtain ⟨port, hPort, h⟩ := except_bind_eq_ok h
  cases h
  have hEnv : setting.envControlPort = port := by rw [envControlPort, hPort]
  rw [hEnv]
  unfold loadFile at hBefore
  unfold fileValue layered
  split at hBefore
  case h_1 => cases hBefore
  case h_2 hFile =>
    cases hBefore
    rw [hFile]
    cases port <;> exact ⟨rfl, rfl, rfl⟩
  case h_3 file hFile =>
    obtain ⟨hControl, hData, hScan⟩ := applyFileConfig_eq_ok hBefore
    rw [hFile]
    refine ⟨?_, hData, hScan⟩
    cases port with
    | none => exact hControl
    | some port => rfl

/-- A flag that is filled with the default decides alone exactly if no lower
layer has another value. -/
theorem getD_eq_layered_iff {Value : Type} (flag env file : Option Value) (default : Value) :
    flag.getD default = layered flag env file default ↔
      (flag = none → ∀ value, (env <|> file) = some value → value = default) := by
  unfold layered
  cases flag with
  | some value => simp
  | none =>
      rw [show (none <|> env <|> file) = (env <|> file) from rfl]
      cases (env <|> file) with
      | none => simp
      | some value => simp [eq_comm]

theorem hostAuth_eq_ok {noAuth : Bool} {token : Option String} (h : setting.hostAuth generated noAuth = .ok token) :
    token.isNone = noAuth := by
  unfold hostAuth at h
  split_ifs at h with hNoAuth
  · cases h
    exact hNoAuth.symm
  · cases hToken : setting.hostToken generated with
    | error e =>
        rw [hToken] at h
        cases h
    | ok value =>
        rw [hToken] at h
        cases h
        exact (Bool.not_eq_true _ ▸ hNoAuth).symm

theorem hostDaemon_eq_ok {host : HostDaemonConfig} (h : setting.hostDaemon toml generated hostFlags = .ok host) :
    host.controlPort = hostFlags.controlPort.getD defaultControlPort ∧
      host.dataPort = hostFlags.dataPort.getD defaultDataPort ∧ host.authToken.isNone = hostFlags.noAuth := by
  obtain ⟨config, -, h⟩ := except_bind_eq_ok h
  obtain ⟨authToken, hToken, h⟩ := except_bind_eq_ok h
  cases h
  exact ⟨rfl, rfl, hostAuth_eq_ok (mapError_eq_ok hToken)⟩

theorem containerDaemon_eq_ok {token : String}
    (h : setting.containerDaemon toml containerFlags = .ok (config, token)) :
    ∃ loaded, setting.loadConfig toml = .ok loaded ∧ config.controlPort = loaded.controlPort ∧
      config.dataPort = loaded.dataPort ∧
      config.scanIntervalMs = containerFlags.scanInterval.getD defaultScanIntervalMs := by
  obtain ⟨loaded, hLoad, h⟩ := except_bind_eq_ok h
  obtain ⟨authToken, -, h⟩ := except_bind_eq_ok h
  cases h
  exact ⟨loaded, mapError_eq_ok hLoad, rfl, rfl, rfl⟩

theorem max_minScanIntervalMs_eq_iff (interval : UInt64) :
    max interval minScanIntervalMs = interval ↔ minScanIntervalMs ≤ interval := by
  show (if interval ≤ minScanIntervalMs then minScanIntervalMs else interval) = interval ↔ _
  split_ifs with hShort
  · exact ⟨fun hSame => hSame ▸ UInt64.le_refl _, fun hLong => UInt64.le_antisymm hLong hShort⟩
  · exact iff_of_true rfl (UInt64.le_of_lt (UInt64.not_le.mp hShort))

/-- What becomes of the flag of the scan interval. -/
theorem scanInterval_eq_layered_iff (flag file : Option UInt64) :
    max (flag.getD defaultScanIntervalMs) minScanIntervalMs = layered flag none file defaultScanIntervalMs ↔
      (flag = none → ∀ interval, file = some interval → interval = defaultScanIntervalMs) ∧
        ∀ interval, flag = some interval → minScanIntervalMs ≤ interval := by
  cases flag with
  | some interval => simp [layered, max_minScanIntervalMs_eq_iff]
  | none =>
      have hDefault : max defaultScanIntervalMs minScanIntervalMs = defaultScanIntervalMs := by decide
      cases file with
      | none => simp [layered, hDefault]
      | some interval => simp [layered, hDefault, eq_comm]

theorem noAuth_eq_layered_iff (flag : Bool) (file : Option Bool) :
    flag = layered (if flag then some true else none) none file false ↔ (flag = false → file ≠ some true) := by
  cases flag <;> rcases file with _ | _ | _ <;> decide

/-- Where the daemons start, when they run with the first layer of each of
their settings. -/
theorem layering_iff (toml : String → Except String FileConfig) (setting : DaemonSetting)
    (generated : Except AuthError String) (hostFlags : HostFlags) (containerFlags : ContainerFlags) :
    (∀ host, setting.hostDaemon toml generated hostFlags = .ok host →
        (setting.HostLayered toml hostFlags host ↔ setting.HostFlagsDecide toml hostFlags)) ∧
      ∀ config token, setting.containerDaemon toml containerFlags = .ok (config, token) →
        (setting.ContainerLayered toml containerFlags config ↔ setting.ScanFlagDecides toml containerFlags) := by
  constructor
  · intro host hStart
    obtain ⟨hControl, hData, hAuth⟩ := hostDaemon_eq_ok hStart
    constructor
    · intro h
      refine ⟨?_, ?_, ?_⟩
      · exact (getD_eq_layered_iff _ _ _ _).mp (hControl.symm.trans h.controlPort)
      · exact (getD_eq_layered_iff _ _ _ _).mp (hData.symm.trans h.dataPort)
      · exact (noAuth_eq_layered_iff _ _).mp (hAuth.symm.trans h.noAuth)
    · intro h
      refine ⟨?_, ?_, ?_⟩
      · exact hControl.trans ((getD_eq_layered_iff _ _ _ _).mpr h.controlPort)
      · exact hData.trans ((getD_eq_layered_iff _ _ _ _).mpr h.dataPort)
      · exact hAuth.trans ((noAuth_eq_layered_iff _ _).mpr h.noAuth)
  · intro config token hStart
    obtain ⟨loaded, hLoad, hControl, hData, hScan⟩ := containerDaemon_eq_ok hStart
    obtain ⟨hLoadedControl, hLoadedData, -⟩ := loadConfig_eq_ok hLoad
    have hRuns : config.scanInterval = max (containerFlags.scanInterval.getD defaultScanIntervalMs)
        minScanIntervalMs := by
      rw [Config.scanInterval, hScan]
    constructor
    · intro h
      obtain ⟨hUnset, hGiven⟩ := (scanInterval_eq_layered_iff _ _).mp (hRuns.symm.trans h.scanIntervalMs)
      exact ⟨hUnset, hGiven⟩
    · intro h
      exact ⟨hControl.trans hLoadedControl, hData.trans hLoadedData,
        hRuns.trans ((scanInterval_eq_layered_iff _ _).mpr ⟨h.unset, h.given⟩)⟩

/-- A config file that sets the control port and the scan interval. -/
def portsFile : String := "control_port = 20000\nscan_interval_ms = 5000\n"

/-- What the parser makes of that file. -/
def parsePortsFile (text : String) : Except String FileConfig :=
  if text = portsFile then
    .ok {
      controlPort := some 20000
      dataPort := none
      hostAddr := none
      scanIntervalMs := some 5000
      logLevel := none
      logFormat := none
      logFile := none
      excludePorts := none
      includePorts := none
      noAuth := none
      socketForwarding := none
      clipboard := none }
  else .error "expected newline"

/-- A home directory with that file, and a token given as a flag. -/
def portsSetting : DaemonSetting where
  authToken := some TokenSetting.zeroToken
  authTokenFile := none
  envAuthToken := .unset
  envAuthTokenFile := .unset
  home := .text "/root"
  files := fun path => if path = "/root/.config/dbr/config.toml" then .contents portsFile else .notFound
  envHost := .unset
  envHostPort := .unset

/-- A host daemon with at most the flag for its control port. -/
def hostPortFlag (controlPort : Option UInt16) : HostFlags where
  controlPort := controlPort
  dataPort := none
  noAuth := false
  allowClipboard := false
  noClipboard := false
  socketWatchPaths := []
  socketContainerPathPrefix := none
  socketScanIntervalMs := none
  noSocketForwarding := false

/-- A container daemon with at most the flag for its scan interval. -/
def scanIntervalFlag (scanInterval : Option UInt64) : ContainerFlags where
  hostAddr := none
  scanInterval := scanInterval
  excludePorts := []

theorem exists_of_toOption {Error Value : Type} (result : Except Error Value) (test : Value → Bool)
    (h : result.toOption.any test = true) : ∃ value, result = .ok value ∧ test value = true := by
  cases result with
  | error e => cases h
  | ok value => exact ⟨value, rfl, h⟩

/-- The daemons run with the file's settings where the flags repeat them. -/
theorem layering_given :
    ∃ host config token,
      portsSetting.hostDaemon parsePortsFile (.error (.io "")) (hostPortFlag (some 20000)) = .ok host ∧
      portsSetting.HostLayered parsePortsFile (hostPortFlag (some 20000)) host ∧
      portsSetting.containerDaemon parsePortsFile (scanIntervalFlag (some 5000)) = .ok (config, token) ∧
      portsSetting.ContainerLayered parsePortsFile (scanIntervalFlag (some 5000)) config := by
  have hBoth := layering_iff parsePortsFile portsSetting (.error (.io "")) (hostPortFlag (some 20000))
    (scanIntervalFlag (some 5000))
  obtain ⟨host, hHost, -⟩ := exists_of_toOption (portsSetting.hostDaemon parsePortsFile (.error (.io ""))
    (hostPortFlag (some 20000))) (fun _ => true) (by decide)
  obtain ⟨⟨config, token⟩, hContainer, -⟩ := exists_of_toOption (portsSetting.containerDaemon parsePortsFile
    (scanIntervalFlag (some 5000))) (fun _ => true) (by decide)
  have hData : portsSetting.fileValue parsePortsFile FileConfig.dataPort = none := by decide
  have hNoAuth : portsSetting.fileValue parsePortsFile FileConfig.noAuth = none := by decide
  refine ⟨host, config, token, hHost, (hBoth.1 host hHost).mpr ⟨?_, ?_, ?_⟩, hContainer,
    (hBoth.2 config token hContainer).mpr ⟨?_, ?_⟩⟩
  · intro hNone
    cases hNone
  · intro _ port hPort
    rw [hData] at hPort
    cases hPort
  · intro _ hFile
    rw [hNoAuth] at hFile
    cases hFile
  · intro hNone
    cases hNone
  · intro interval hGiven
    cases hGiven
    decide

/-- Without the flags both daemons pass over the file. -/
theorem layering_ignored :
    ∃ host config token,
      portsSetting.hostDaemon parsePortsFile (.error (.io "")) (hostPortFlag none) = .ok host ∧
      host.controlPort = 19285 ∧ ¬portsSetting.HostLayered parsePortsFile (hostPortFlag none) host ∧
      portsSetting.containerDaemon parsePortsFile (scanIntervalFlag none) = .ok (config, token) ∧
      config.controlPort = 20000 ∧ config.scanInterval = 1000 ∧
      ¬portsSetting.ContainerLayered parsePortsFile (scanIntervalFlag none) config := by
  obtain ⟨host, hHost, hPort⟩ := exists_of_toOption (portsSetting.hostDaemon parsePortsFile (.error (.io ""))
    (hostPortFlag none)) (fun host => host.controlPort == 19285) (by decide)
  obtain ⟨⟨config, token⟩, hContainer, hConfig⟩ := exists_of_toOption (portsSetting.containerDaemon parsePortsFile
    (scanIntervalFlag none)) (fun started => started.1.controlPort == 20000 && started.1.scanInterval == 1000)
    (by decide)
  simp only [Bool.and_eq_true, beq_iff_eq] at hPort hConfig
  have hControl : layered none portsSetting.envControlPort
      (portsSetting.fileValue parsePortsFile FileConfig.controlPort) defaultControlPort = 20000 := by decide
  have hScan : layered none none (portsSetting.fileValue parsePortsFile FileConfig.scanIntervalMs)
      defaultScanIntervalMs = 5000 := by decide
  refine ⟨host, config, token, hHost, hPort, fun h => ?_, hContainer, hConfig.1, hConfig.2, fun h => ?_⟩
  · have hLayered := h.controlPort
    rw [hPort, show (hostPortFlag none).controlPort = none from rfl, hControl] at hLayered
    exact absurd hLayered (by decide)
  · have hLayered := h.scanIntervalMs
    rw [hConfig.2, show (scanIntervalFlag none).scanInterval = none from rfl, hScan] at hLayered
    exact absurd hLayered (by decide)

end DaemonSetting

end DevcontainerBridge
