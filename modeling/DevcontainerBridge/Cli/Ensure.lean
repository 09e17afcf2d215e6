import DevcontainerBridge.Cli.Config
import DevcontainerBridge.Cli.TokenStore
import DevcontainerBridge.Host.Daemon

/-! The token of a daemon that `dbr ensure` spawns. It is handed over as a flag,
and the commands that talk to the daemon later look for theirs in the
environment first. -/
namespace DevcontainerBridge

open Table Text

/-- The text of an error. -/
def AuthError.text : AuthError → String
  | .io source => "auth token I/O error: " ++ source
  | .invalidToken length => "invalid auth token format: expected " ++ toString tokenHexLength ++
      " hex characters, got " ++ toString length ++ " chars"
  | .tokenNotFound path => "auth token file not found: " ++ path
  | .noTokenSource path =>
      "no auth token available: set --auth-token, DCBRIDGE_AUTH_TOKEN, or ensure " ++ path ++ " exists"

inductive EnsureError where
  | portConflict (port : UInt16)
  | spawnFailed (reason : String)
  | spawnTimeout (timeoutSecs : Nat)
  | io (source : String)
  | notRunning (port : UInt16)
  deriving DecidableEq, Repr

namespace TokenSetting

/-- Resolve an auth token for CLI commands. -/
def cliToken (setting : TokenSetting) : String :=
  match setting.tokenFilePath with
  | .error _ => ""
  | .ok defaultPath =>
      match setting.resolveToken setting.authToken setting.authTokenFile defaultPath with
      | .ok token => token
      | .error _ => ""

/-- `ensure_token` where no other process creates the file, with the files
behind it. -/
def ensureToken (setting : TokenSetting) (random : Except String TokenBytes) (path : String) :
    Except AuthError (String × (String → FileState)) :=
  match setting.readTokenFile path with
  | .ok token => .ok (token, setting.files)
  | .error (.tokenNotFound _) =>
      match random with
      | .ok bytes =>
          let token := generateToken bytes
          .ok (token, Function.update setting.files path (.contents (tokenLine token)))
      | .error e => .error (.io e)
  | .error e => .error e

/-- The variable that a command without flags takes its token from. -/
def envSource (setting : TokenSetting) : Option TokenSource :=
  match setting.envAuthToken.var.filter fun token => !(trimmed token).isEmpty with
  | some token => some (.value token)
  | none => (setting.envAuthTokenFile.var.filter (!·.isEmpty)).map .file

end TokenSetting

/-- The daemon that `run_ensure` spawns, by the flag that it gives it and by its
surroundings. -/
structure SpawnedDaemon where
  noAuth : Bool
  setting : DaemonSetting

namespace DaemonSetting

/-- `run_ensure` on its way to the spawn. The fields for the flags are those of
`dbr ensure` before and those of `dbr host-daemon` behind it. -/
def spawn (setting : DaemonSetting) (random : Except String TokenBytes) (noAuth : Bool) :
    Except EnsureError SpawnedDaemon :=
  if noAuth then
    .ok { noAuth := true, setting := { setting with authToken := none, authTokenFile := none } }
  else
    match setting.authToken, setting.authTokenFile with
    | some _, _ => .ok { noAuth := false, setting := { setting with authTokenFile := none } }
    | none, some _ => .ok { noAuth := false, setting }
    | none, none =>
        match setting.tokenFilePath with
        | .error e => .error (.spawnFailed ("auth: " ++ e.text))
        | .ok defaultPath =>
            match setting.ensureToken random defaultPath with
            | .error e => .error (.spawnFailed ("auth: " ++ e.text))
            | .ok (token, files) => .ok { noAuth := false, setting := { setting with authToken := some token, files } }

end DaemonSetting

/-- A command that is given the flags of `dbr ensure` again, in the same
environment. -/
def SpawnedDaemon.command (spawned : SpawnedDaemon) (setting : DaemonSetting) : TokenSetting :=
  { setting.toTokenSetting with files := spawned.setting.files }

variable {setting : DaemonSetting} {random : Except String TokenBytes} {spawned : SpawnedDaemon} {token path : String}

theorem trimmed_of_solid (h : ∀ c ∈ token.toList, isWhitespace c = false) : trimmed token = token := by
  rw [trimmed, trim_of_none h, String.ofList_toList]

namespace TokenSetting

variable {setting : TokenSetting}

/-- A token passes its own check. -/
theorem checkToken_of_valid (h : validateTokenFormat token = true) : checkToken token = .ok token := by
  have hSolid : ∀ c ∈ token.toList, isWhitespace c = false := fun c hMember =>
    isWhitespace_of_hexdigit ((validateTokenFormat_iff.mp h).2 c hMember)
  rw [checkToken_eq, trimmed_of_solid hSolid, if_pos h]

theorem valid_of_checkToken {text : String} (h : checkToken text = .ok token) : validateTokenFormat token = true := by
  rcases checkToken_cases text with ⟨hValid, hOk⟩ | ⟨-, hError⟩
  · rw [hOk] at h
    exact Except.ok.inj h ▸ hValid
  · rw [hError] at h
    cases h

theorem valid_of_readTokenFile (h : setting.readTokenFile path = .ok token) : validateTokenFormat token = true := by
  unfold readTokenFile at h
  split at h
  case h_1 text => exact valid_of_checkToken h
  case h_2 => cases h
  case h_3 => cases h

/-- What `ensure_token` returns is a token, and the file holds it. -/
theorem ensureToken_ok {files : String → FileState} (h : setting.ensureToken random path = .ok (token, files)) :
    validateTokenFormat token = true ∧ ({ setting with files } : TokenSetting).readTokenFile path = .ok token := by
  unfold ensureToken at h
  split at h
  case h_1 held hRead =>
    cases h
    exact ⟨valid_of_readTokenFile hRead, hRead⟩
  case h_2 missing hRead =>
    split at h
    case h_1 bytes =>
      cases h
      have hValid := validateTokenFormat_generateToken bytes
      refine ⟨hValid, ?_⟩
      unfold readTokenFile
      dsimp only
      rw [Function.update_self]
      exact checkToken_tokenLine hValid
    case h_2 => cases h
  case h_3 => cases h

/-- Behind the flags, the resolution reads the first variable that is there. -/
theorem resolveEnvironment_eq (setting : TokenSetting) (path : String) :
    setting.resolveEnvironment path =
      match setting.envSource with
      | some source => setting.readSource source
      | none => setting.readDefaultFile path := by
  unfold resolveEnvironment envSource
  cases hToken : setting.envAuthToken.var with
  | some text =>
      cases hBlank : (trimmed text).isEmpty with
      | true =>
          cases hFile : setting.envAuthTokenFile.var with
          | some file => cases hEmpty : file.isEmpty <;> simp [Option.filter, hBlank, hEmpty, readSource]
          | none => simp [Option.filter, hBlank]
      | false => simp [Option.filter, hBlank, readSource]
  | none =>
      cases hFile : setting.envAuthTokenFile.var with
      | some file => cases hEmpty : file.isEmpty <;> simp [Option.filter, hEmpty, readSource]
      | none => simp [Option.filter]

theorem cliToken_eq (hHome : setting.tokenFilePath = .ok path)
    (h : setting.resolveToken setting.authToken setting.authTokenFile path = .ok token) : setting.cliToken = token := by
  rw [cliToken, hHome]
  dsimp only
  rw [h]

end TokenSetting

/-- A token that the first configured source yields is the one of the daemon. -/
theorem DaemonSetting.hostToken_of_source {generated : Except AuthError String} {source : TokenSource}
    (hFirst : setting.firstSource = some source) (hText : source ≠ .notUnicode)
    (h : setting.hostToken generated = .ok token) :
    setting.readSource source = .ok token ∧ ∃ path, setting.tokenFilePath = .ok path := by
  unfold hostToken at h
  split at h
  case h_1 => cases h
  case h_2 path hHome =>
    rw [TokenSetting.resolveToken_eq_readSource hFirst hText] at h
    split at h
    case h_1 missing hError => exact absurd rfl ((TokenSetting.readSource_error hError).2 missing)
    case h_2 => exact ⟨h, path, hHome⟩

/-- A daemon that is given its token as a flag holds that token. -/
theorem DaemonSetting.hostAuth_eq_ok_iff {generated : Except AuthError String} {noAuth : Bool} {auth : Option String} :
    setting.hostAuth generated noAuth = .ok auth ↔
      noAuth = true ∧ auth = none ∨
        noAuth = false ∧ ∃ token, setting.hostToken generated = .ok token ∧ auth = some token := by
  unfold hostAuth
  cases noAuth with
  | true => simp [eq_comm]
  | false =>
      cases setting.hostToken generated with
      | error e => simp [Except.map]
      | ok token => simp [Except.map, eq_comm]

namespace SpawnedDaemon

/-- The commands of the environment look for the token where the daemon has
got it, or find the same one where they look. -/
def Shares (spawned : SpawnedDaemon) (setting : DaemonSetting) (noAuth : Bool) : Prop :=
  noAuth = true ∨ setting.authToken.isSome = true ∨ setting.authTokenFile.isSome = true ∨
    ∀ path source, setting.tokenFilePath = .ok path → setting.envSource = some source →
      (spawned.command setting).readSource source = (spawned.command setting).readTokenFile path

theorem cliToken_of_source {source : TokenSource} (hFirst : (spawned.command setting).firstSource = some source)
    (hText : source ≠ .notUnicode) (hHome : setting.tokenFilePath = .ok path)
    (h : (spawned.command setting).readSource source = .ok token) :
    (spawned.command setting).cliToken = token := by
  have hPath : (spawned.command setting).tokenFilePath = .ok path := hHome
  refine TokenSetting.cliToken_eq hPath ?_
  rw [TokenSetting.resolveToken_eq_readSource hFirst hText, h]

/-- Without flags, the environment is asked before the file that the daemon has
its token from. -/
theorem cliToken_eq_iff (hToken : setting.authToken = none) (hTokenFile : setting.authTokenFile = none)
    (hHome : setting.tokenFilePath = .ok path) (hValid : validateTokenFormat token = true)
    (hFile : (spawned.command setting).readTokenFile path = .ok token) :
    (spawned.command setting).cliToken = token ↔ ∀ source, setting.envSource = some source →
      (spawned.command setting).readSource source = .ok token := by
  have hPath : (spawned.command setting).tokenFilePath = .ok path := hHome
  have hResolve : (spawned.command setting).resolveToken (spawned.command setting).authToken
      (spawned.command setting).authTokenFile path = (spawned.command setting).resolveEnvironment path := by
    have hNone : (spawned.command setting).authToken = none := hToken
    have hNoFile : (spawned.command setting).authTokenFile = none := hTokenFile
    rw [hNone, hNoFile]
    rfl
  have hSame : (spawned.command setting).envSource = setting.envSource := rfl
  rw [TokenSetting.cliToken, hPath]
  dsimp only
  rw [hResolve, TokenSetting.resolveEnvironment_eq, hSame]
  cases setting.envSource with
  | none => simp [TokenSetting.readDefaultFile, hFile]
  | some source =>
      dsimp only
      cases hRead : (spawned.command setting).readSource source with
      | ok other => simp [hRead]
      | error e =>
          have hNonempty : "" ≠ token := by
            rintro rfl
            exact absurd hValid (by decide)
          simp [hRead, hNonempty]

/-- Where the daemon and a command read the same flag, the command is accepted. -/
theorem accepts_of_source (source : TokenSource) {generated : Except AuthError String} {auth : Option String}
    {cfg : HostConfig} (hFirst : spawned.setting.firstSource = some source)
    (hCommand : (spawned.command setting).firstSource = some source) (hText : source ≠ .notUnicode)
    (hSame : spawned.setting.readSource source = (spawned.command setting).readSource source)
    (hHome : spawned.setting.home = setting.home) (hAuth : spawned.setting.hostAuth generated false = .ok auth)
    (hConfig : cfg.authToken = auth) : cfg.accepts (spawned.command setting).cliToken = true := by
  rw [DaemonSetting.hostAuth_eq_ok_iff] at hAuth
  obtain ⟨hFalse, -⟩ | ⟨-, token, hToken, rfl⟩ := hAuth
  · cases hFalse
  obtain ⟨hRead, path, hPath⟩ := DaemonSetting.hostToken_of_source hFirst hText hToken
  have hThere : setting.tokenFilePath = .ok path := by
    unfold TokenSetting.tokenFilePath at hPath ⊢
    rw [← hPath, hHome]
  rw [cliToken_of_source hCommand hText hThere (hSame ▸ hRead), HostConfig.accepts, hConfig]
  exact beq_self_eq_true token

end SpawnedDaemon

theorem dispatchFirst_shutdown_iff {cfg : HostConfig} :
    dispatchFirst cfg (.shutdown token) = .signalShutdown ↔ cfg.accepts token = true := by
  unfold dispatchFirst
  dsimp only
  split_ifs with hAccepts
  · simp [hAccepts]
  · simp [hAccepts]

/-- Where `dbr ensure` has spawned a daemon, the commands that are given the
same flags in the same environment are accepted by it exactly where its token
is their first: with a flag, without authentication, or with no variable that
names another token than the default file holds. -/
theorem spawned_accepts_iff {generated : Except AuthError String} {noAuth : Bool} {auth : Option String}
    (hSpawn : setting.spawn random noAuth = .ok spawned)
    (hAuth : spawned.setting.hostAuth generated spawned.noAuth = .ok auth) (cfg : HostConfig)
    (hConfig : cfg.authToken = auth) :
    dispatchFirst cfg (.shutdown (spawned.command setting).cliToken) = .signalShutdown ↔
      spawned.Shares setting noAuth := by
  unfold DaemonSetting.spawn at hSpawn
  split_ifs at hSpawn with hNoAuth
  · cases hSpawn
    cases hAuth
    rw [dispatchFirst_shutdown_iff, HostConfig.accepts, hConfig]
    exact ⟨fun _ => .inl hNoAuth, fun _ => rfl⟩
  split at hSpawn
  case h_1 given hToken =>
    cases hSpawn
    have hFlag : setting.authToken.isSome = true := by rw [hToken]; rfl
    rw [dispatchFirst_shutdown_iff]
    refine ⟨fun _ => .inr (.inl hFlag),
      fun _ => SpawnedDaemon.accepts_of_source (.value given) ?_ ?_ nofun rfl rfl hAuth hConfig⟩
    · simp [TokenSetting.firstSource, hToken]
    · simp [TokenSetting.firstSource, SpawnedDaemon.command, hToken]
  case h_2 given hToken hTokenFile =>
    cases hSpawn
    have hFlag : setting.authTokenFile.isSome = true := by rw [hTokenFile]; rfl
    rw [dispatchFirst_shutdown_iff]
    refine ⟨fun _ => .inr (.inr (.inl hFlag)),
      fun _ => SpawnedDaemon.accepts_of_source (.file given) ?_ ?_ nofun rfl rfl hAuth hConfig⟩
    · simp [TokenSetting.firstSource, hToken, hTokenFile]
    · simp [TokenSetting.firstSource, SpawnedDaemon.command, hToken, hTokenFile]
  case h_3 hToken hTokenFile =>
    split at hSpawn
    case h_1 => cases hSpawn
    case h_2 path hHome =>
      split at hSpawn
      case h_1 => cases hSpawn
      case h_2 token files hEnsure =>
        obtain ⟨hValid, hFile⟩ := TokenSetting.ensureToken_ok hEnsure
        have hSpawned := Except.ok.inj hSpawn
        have hThere : (spawned.command setting).readTokenFile path = .ok token := hSpawned ▸ hFile
        have hFirst : spawned.setting.firstSource = some (.value token) := hSpawned ▸ rfl
        have hChecked : spawned.noAuth = false := hSpawned ▸ rfl
        rw [DaemonSetting.hostAuth_eq_ok_iff, hChecked] at hAuth
        obtain ⟨hFalse, -⟩ | ⟨-, other, hOther, rfl⟩ := hAuth
        · cases hFalse
        obtain ⟨hRead, -⟩ := DaemonSetting.hostToken_of_source hFirst nofun hOther
        obtain rfl : other = token :=
          Except.ok.inj (hRead.symm.trans (TokenSetting.checkToken_of_valid hValid))
        rw [dispatchFirst_shutdown_iff, HostConfig.accepts, hConfig]
        dsimp only
        rw [beq_iff_eq, SpawnedDaemon.cliToken_eq_iff hToken hTokenFile hHome hValid hThere]
        constructor
        · intro hSources
          refine .inr (.inr (.inr fun path' source hPath hSource => ?_))
          obtain rfl : path = path' := Except.ok.inj (hHome.symm.trans hPath)
          exact (hSources source hSource).trans hThere.symm
        · rintro (hTrue | hTrue | hTrue | hSources) source hSource
          · exact absurd hTrue hNoAuth
          · rw [hToken] at hTrue
            cases hTrue
          · rw [hTokenFile] at hTrue
            cases hTrue
          · exact (hSources path source hHome hSource).trans hThere

/-- A home directory without a token file, and a token in the environment. -/
def tokenInEnvironment : DaemonSetting where
  authToken := none
  authTokenFile := none
  envAuthToken := .text TokenSetting.zeroToken
  envAuthTokenFile := .unset
  home := .text "/root"
  files := fun _ => .notFound
  envHost := .unset
  envHostPort := .unset

/-- `dbr stop` does not stop the daemon that `dbr ensure` has spawned. -/
theorem spawned_accepts_iff_environment : ∃ spawned token,
    tokenInEnvironment.spawn (.ok (TokenStore.repeatedBytes 7)) false = .ok spawned ∧
      spawned.setting.hostAuth (.error (.io "unused")) spawned.noAuth = .ok (some token) ∧
      dispatchFirst { HostConfig.basic with authToken := some token }
        (.shutdown (spawned.command tokenInEnvironment).cliToken) ≠ .signalShutdown := by
  have hValid := validateTokenFormat_generateToken (TokenStore.repeatedBytes 7)
  generalize hToken : generateToken (TokenStore.repeatedBytes 7) = token at hValid
  obtain ⟨path, hHome⟩ : ∃ path, tokenInEnvironment.tokenFilePath = .ok path := ⟨_, rfl⟩
  have hMissing : tokenInEnvironment.readTokenFile path = .error (.tokenNotFound path) := rfl
  obtain ⟨spawned, hSpawn, rfl⟩ : ∃ spawned, tokenInEnvironment.spawn (.ok (TokenStore.repeatedBytes 7)) false =
      .ok spawned ∧ spawned = { noAuth := false, setting := { tokenInEnvironment with
        authToken := some token
        files := Function.update tokenInEnvironment.files path (.contents (tokenLine token)) } } := by
    refine ⟨_, ?_, rfl⟩
    simp only [DaemonSetting.spawn, hHome, TokenSetting.ensureToken, hMissing, hToken]
    rfl
  have hAuth : DaemonSetting.hostAuth { tokenInEnvironment with
      authToken := some token
      files := Function.update tokenInEnvironment.files path (.contents (tokenLine token)) }
      (.error (.io "unused")) false = .ok (some token) := by
    refine DaemonSetting.hostAuth_eq_ok_iff.mpr (.inr ⟨rfl, token, ?_, rfl⟩)
    have hPath : TokenSetting.tokenFilePath { tokenInEnvironment.toTokenSetting with
        authToken := some token
        files := Function.update tokenInEnvironment.files path (.contents (tokenLine token)) } = .ok path := hHome
    rw [DaemonSetting.hostToken, hPath]
    dsimp only [TokenSetting.resolveToken]
    rw [TokenSetting.checkToken_of_valid hValid]
  refine ⟨_, token, hSpawn, hAuth, fun hStopped => ?_⟩
  rcases (spawned_accepts_iff hSpawn hAuth _ rfl).mp hStopped with h | h | h | h
  · cases h
  · cases h
  · cases h
  · have hOther := h path (.value TokenSetting.zeroToken) hHome rfl
    have hZero : checkToken TokenSetting.zeroToken = .ok TokenSetting.zeroToken := by decide
    have hFile : TokenSetting.readTokenFile { tokenInEnvironment.toTokenSetting with
        files := Function.update tokenInEnvironment.files path (.contents (tokenLine token)) } path = .ok token := by
      unfold TokenSetting.readTokenFile
      dsimp only
      rw [Function.update_self]
      exact checkToken_tokenLine hValid
    have hSame : TokenSetting.zeroToken = token := Except.ok.inj (hZero.symm.trans (hOther.trans hFile))
    rw [← hToken] at hSame
    exact absurd hSame (by decide +kernel)

end DevcontainerBridge
