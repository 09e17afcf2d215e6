import DevcontainerBridge.Control.Framing
import DevcontainerBridge.Socket.Scanner
import DevcontainerBridge.Text.Rows

/-! Where the commands take their authentication token from. Each has flags
and environment variables first and default files last, and each tries the
resolution again with another default file on some of its errors. -/
namespace DevcontainerBridge

open Text

/-- An environment variable. One that is not Unicode reads as if it were unset. -/
inductive EnvVar where
  | unset
  | notUnicode
  | text (value : String)
  deriving DecidableEq, Repr

/-- Rust's `std::env::var`, without the kind of its error. -/
def EnvVar.var : EnvVar → Option String
  | .text value => some value
  | _ => none

/-- What reading a file yields. -/
inductive FileState where
  | contents (text : String)
  | notFound
  | failed (error : String)
  deriving DecidableEq, Repr

inductive AuthError where
  | io (source : String)
  | invalidToken (length : Nat)
  | tokenNotFound (path : String)
  | noTokenSource (path : String)
  deriving DecidableEq, Repr

/-- The flags and the surroundings of a command that needs a token. -/
structure TokenSetting where
  authToken : Option String
  authTokenFile : Option String
  envAuthToken : EnvVar
  envAuthTokenFile : EnvVar
  home : EnvVar
  files : String → FileState

/-- Length of a valid auth token in hex characters. -/
def tokenHexLength : Nat := 64

/-- Default container-side token file path. -/
def defaultContainerTokenPath : String := "/run/secrets/dbr-auth-token"

/-- Rust's `str::trim`. -/
def trimmed (text : String) : String :=
  String.ofList (trim isWhitespace text.toList)

def isAsciiHexdigit (c : Char) : Bool :=
  c.isDigit || ('a' ≤ c && c ≤ 'f') || ('A' ≤ c && c ≤ 'F')

/-- Validates that a token string has the correct format. -/
def validateTokenFormat (token : String) : Bool :=
  token.utf8ByteSize = tokenHexLength && token.toList.all isAsciiHexdigit

/-- A text as a token, trimmed and checked. -/
def checkToken (text : String) : Except AuthError String :=
  let token := trimmed text
  if validateTokenFormat token then .ok token else .error (.invalidToken token.utf8ByteSize)

namespace TokenSetting

/-- Reads an auth token from a file, trimming whitespace. -/
def readTokenFile (setting : TokenSetting) (path : String) : Except AuthError String :=
  match setting.files path with
  | .contents text => checkToken text
  | .notFound => .error (.tokenNotFound path)
  | .failed error => .error (.io error)

/-- The last step of the resolution. -/
def readDefaultFile (setting : TokenSetting) (defaultFile : String) : Except AuthError String :=
  match setting.readTokenFile defaultFile with
  | .error (.tokenNotFound _) => .error (.noTokenSource defaultFile)
  | result => result

/-- The steps behind the flags. -/
def resolveEnvironment (setting : TokenSetting) (defaultFile : String) : Except AuthError String :=
  let fromFile :=
    match setting.envAuthTokenFile.var with
    | some path =>
        if path.isEmpty then setting.readDefaultFile defaultFile else setting.readTokenFile path
    | none => setting.readDefaultFile defaultFile
  match setting.envAuthToken.var with
  | some token => if (trimmed token).isEmpty then fromFile else checkToken token
  | none => fromFile

/-- Resolves an auth token from multiple sources in priority order. -/
def resolveToken (setting : TokenSetting) (cliToken cliTokenFile : Option String) (defaultFile : String) :
    Except AuthError String :=
  match cliToken, cliTokenFile with
  | some token, _ => checkToken token
  | none, some path => setting.readTokenFile path
  | none, none => setting.resolveEnvironment defaultFile

/-- Returns the default token file path. -/
def tokenFilePath (setting : TokenSetting) : Except AuthError String :=
  match setting.home.var with
  | some home => .ok (joinPath (joinPath (joinPath home ".config") "dbr") "auth-token")
  | none => .error (.io "HOME environment variable not set")

/-- The token resolution of `dbr paste`. -/
def pasteToken (setting : TokenSetting) : Except AuthError String :=
  match setting.resolveToken setting.authToken setting.authTokenFile defaultContainerTokenPath with
  | .error (.noTokenSource _) =>
      match setting.tokenFilePath with
      | .ok defaultPath => setting.resolveToken none none defaultPath
      | .error e => .error e
  | result => result

/-- The last resort of `dbr container-daemon`: an empty token stands for a
connection without authentication. -/
def fallbackToken (setting : TokenSetting) : String :=
  match setting.tokenFilePath with
  | .ok defaultPath =>
      match setting.resolveToken none none defaultPath with
      | .ok token => token
      | .error _ => ""
  | .error _ => ""

/-- The token resolution of `dbr container-daemon`. -/
def containerToken (setting : TokenSetting) : Except AuthError String :=
  match setting.resolveToken setting.authToken setting.authTokenFile defaultContainerTokenPath with
  | .error (.noTokenSource _) | .error (.tokenNotFound _) => .ok setting.fallbackToken
  | result => result

end TokenSetting

/-- What a source says about the token. -/
inductive TokenSource where
  | value (text : String)
  | file (path : String)
  /-- a variable that is set and is no text -/
  | notUnicode
  deriving DecidableEq, Repr

/-- A variable that is set and not blank is a source. -/
def EnvVar.source (make : String → TokenSource) : EnvVar → Option TokenSource
  | .unset => none
  | .notUnicode => some .notUnicode
  | .text value => if (trimmed value).isEmpty then none else some (make value)

namespace TokenSetting

/-- The first source that is configured explicitly. -/
def firstSource (setting : TokenSetting) : Option TokenSource :=
  setting.authToken.map .value <|> setting.authTokenFile.map .file <|>
    setting.envAuthToken.source .value <|> setting.envAuthTokenFile.source .file

/-- The state of the file that a source names. -/
def stateOf (setting : TokenSetting) : TokenSource → Option FileState
  | .file path => some (setting.files path)
  | _ => none

/-- The text that a source holds. -/
def textOf (setting : TokenSetting) : TokenSource → Option String
  | .value text => some text
  | .file path =>
      match setting.files path with
      | .contents text => some text
      | _ => none
  | .notUnicode => none

/-- The resolution goes by the first configured source alone: its trimmed
value is the outcome if it has the format of a token, anything else is an
error, and nothing besides it changes the outcome. -/
def Heeds (command : TokenSetting → Except AuthError String) (setting : TokenSetting) : Prop :=
  ∀ source, setting.firstSource = some source →
    (match (setting.textOf source).map trimmed with
      | some token => if validateTokenFormat token then command setting = .ok token
          else ∃ e, command setting = .error e
      | none => ∃ e, command setting = .error e) ∧
    ∀ other : TokenSetting, other.firstSource = some source → other.stateOf source = setting.stateOf source →
      command other = command setting

/-- Reading one source. -/
def readSource (setting : TokenSetting) : TokenSource → Except AuthError String
  | .value text => checkToken text
  | .file path => setting.readTokenFile path
  | .notUnicode => .error (.io "not Unicode")

variable {setting other : TokenSetting} {source : TokenSource} {command : TokenSetting → Except AuthError String}

theorem checkToken_eq (text : String) :
    checkToken text = if validateTokenFormat (trimmed text) then .ok (trimmed text)
      else .error (.invalidToken (trimmed text).utf8ByteSize) := rfl

/-- A text yields its trimmed value or an error. -/
theorem checkToken_cases (text : String) :
    validateTokenFormat (trimmed text) = true ∧ checkToken text = .ok (trimmed text) ∨
      ¬validateTokenFormat (trimmed text) = true ∧
        checkToken text = .error (.invalidToken (trimmed text).utf8ByteSize) := by
  rw [checkToken_eq]
  cases validateTokenFormat (trimmed text) with
  | true => exact .inl ⟨rfl, if_pos rfl⟩
  | false => exact .inr ⟨Bool.false_ne_true, if_neg Bool.false_ne_true⟩

@[simp] theorem readSource_value (setting : TokenSetting) (text : String) :
    setting.readSource (.value text) = checkToken text := rfl

theorem readSource_contents {path text : String} (hFile : setting.files path = .contents text) :
    setting.readSource (.file path) = checkToken text := by
  rw [readSource, readTokenFile, hFile]

theorem readSource_notFound {path : String} (hFile : setting.files path = .notFound) :
    setting.readSource (.file path) = .error (.tokenNotFound path) := by
  rw [readSource, readTokenFile, hFile]

theorem readSource_failed {path error : String} (hFile : setting.files path = .failed error) :
    setting.readSource (.file path) = .error (.io error) := by
  rw [readSource, readTokenFile, hFile]

/-- A source with a text yields its trimmed value or an error, and the others
yield an error. -/
theorem readSource_spec (setting : TokenSetting) (source : TokenSource) :
    match (setting.textOf source).map trimmed with
    | some token => if validateTokenFormat token then setting.readSource source = .ok token
        else ∃ e, setting.readSource source = .error e
    | none => ∃ e, setting.readSource source = .error e := by
  cases source with
  | value text =>
      simp only [textOf, Option.map_some, readSource_value]
      rw [ite_prop_iff_or]
      exact (checkToken_cases text).imp_right fun hInvalid => ⟨hInvalid.1, _, hInvalid.2⟩
  | file path =>
      cases hFile : setting.files path with
      | contents text =>
          simp only [textOf, hFile, Option.map_some, readSource_contents hFile]
          rw [ite_prop_iff_or]
          exact (checkToken_cases text).imp_right fun hInvalid => ⟨hInvalid.1, _, hInvalid.2⟩
      | notFound =>
          simp only [textOf, hFile, Option.map_none]
          exact ⟨_, readSource_notFound hFile⟩
      | failed error =>
          simp only [textOf, hFile, Option.map_none]
          exact ⟨_, readSource_failed hFile⟩
  | notUnicode => exact ⟨_, rfl⟩

theorem readSource_congr (h : other.stateOf source = setting.stateOf source) :
    other.readSource source = setting.readSource source := by
  cases source with
  | value text => rfl
  | notUnicode => rfl
  | file path =>
      have hFile : other.files path = setting.files path := Option.some.inj h
      unfold readSource readTokenFile
      dsimp only
      rw [hFile]

theorem checkToken_error {text : String} {e : AuthError} (h : checkToken text = .error e) :
    (∀ path, e ≠ .tokenNotFound path) ∧ ∀ path, e ≠ .noTokenSource path := by
  rcases checkToken_cases text with ⟨-, hOk⟩ | ⟨-, hError⟩
  · rw [hOk] at h
    cases h
  · rw [hError] at h
    cases h
    exact ⟨by simp, by simp⟩

/-- Only a file that does not exist is reported as missing, and no source as
the lack of sources. -/
theorem readSource_error {e : AuthError} (h : setting.readSource source = .error e) :
    (∀ path, e = .tokenNotFound path → setting.stateOf source = some .notFound) ∧
      ∀ path, e ≠ .noTokenSource path := by
  have text {text : String} (hText : setting.readSource source = checkToken text) :
      (∀ path, e = .tokenNotFound path → setting.stateOf source = some .notFound) ∧
        ∀ path, e ≠ .noTokenSource path := by
    rw [hText] at h
    obtain ⟨hFound, hSource⟩ := checkToken_error h
    exact ⟨fun path hMissing => absurd hMissing (hFound path), hSource⟩
  cases source with
  | value here => exact text (readSource_value setting here)
  | notUnicode =>
      cases h
      exact ⟨by simp, by simp⟩
  | file path =>
      cases hFile : setting.files path with
      | contents here => exact text (readSource_contents hFile)
      | notFound =>
          rw [readSource_notFound hFile] at h
          cases h
          exact ⟨fun _ _ => by rw [stateOf, hFile], by simp⟩
      | failed error =>
          rw [readSource_failed hFile] at h
          cases h
          exact ⟨by simp, by simp⟩

theorem source_eq_some {make : String → TokenSource} {envVar : EnvVar}
    (h : envVar.source make = some source) (hText : source ≠ .notUnicode) :
    ∃ value, envVar = .text value ∧ (trimmed value).isEmpty = false ∧ source = make value := by
  unfold EnvVar.source at h
  split at h
  · cases h
  · exact absurd (Option.some.inj h).symm hText
  · split_ifs at h with hBlank
    exact ⟨_, rfl, Bool.not_eq_true _ ▸ hBlank, (Option.some.inj h).symm⟩

theorem source_eq_none {make : String → TokenSource} {envVar : EnvVar} (h : envVar.source make = none) :
    envVar = .unset ∨ ∃ value, envVar = .text value ∧ (trimmed value).isEmpty = true := by
  unfold EnvVar.source at h
  split at h
  · exact .inl rfl
  · cases h
  · split_ifs at h with hBlank
    exact .inr ⟨_, rfl, hBlank⟩

/-- Behind the flags the resolution reads the first variable that is set and
not blank, unless that is no text. -/
theorem resolveEnvironment_eq_readSource
    (hFirst : (setting.envAuthToken.source .value <|> setting.envAuthTokenFile.source .file) = some source)
    (hText : source ≠ .notUnicode) (defaultFile : String) :
    setting.resolveEnvironment defaultFile = setting.readSource source := by
  unfold resolveEnvironment
  cases hToken : setting.envAuthToken.source .value with
  | some first =>
      rw [hToken] at hFirst
      obtain rfl := Option.some.inj hFirst
      obtain ⟨value, hValue, hBlank, rfl⟩ := source_eq_some hToken hText
      simp only [hValue, EnvVar.var, hBlank]
      rw [if_neg Bool.false_ne_true, readSource_value]
  | none =>
      rw [hToken] at hFirst
      obtain ⟨path, hPath, hBlank, rfl⟩ := source_eq_some hFirst hText
      have hSkip : (trimmed path).isEmpty = false → path.isEmpty = false := by
        intro hFalse
        by_contra hEmpty
        rw [Bool.not_eq_false, String.isEmpty_iff] at hEmpty
        rw [hEmpty] at hFalse
        exact absurd hFalse (by decide)
      rcases source_eq_none hToken with hUnset | ⟨value, hValue, hNone⟩
      · simp [hUnset, hPath, EnvVar.var, hSkip hBlank]
        rfl
      · simp [hValue, hNone, hPath, EnvVar.var, hSkip hBlank]
        rfl

/-- The resolution reads the first configured source, unless that is a
variable that is no text. -/
theorem resolveToken_eq_readSource (hFirst : setting.firstSource = some source) (hText : source ≠ .notUnicode)
    (defaultFile : String) :
    setting.resolveToken setting.authToken setting.authTokenFile defaultFile = setting.readSource source := by
  unfold firstSource at hFirst
  unfold resolveToken
  cases hToken : setting.authToken with
  | some token =>
      rw [hToken] at hFirst
      cases hFirst
      rfl
  | none =>
      cases hTokenFile : setting.authTokenFile with
      | some path =>
          rw [hToken, hTokenFile] at hFirst
          cases hFirst
          rfl
      | none =>
          rw [hToken, hTokenFile] at hFirst
          exact resolveEnvironment_eq_readSource hFirst hText defaultFile

/-- A command that reads the first source, wherever that is in the same state,
heeds it. -/
theorem heeds_of_readSource (hFirst : setting.firstSource = some source)
    (hReads : ∀ other : TokenSetting, other.firstSource = some source →
      other.stateOf source = setting.stateOf source → command other = other.readSource source) :
    setting.Heeds command := by
  intro here hHere
  obtain rfl : source = here := Option.some.inj (hFirst.symm.trans hHere)
  have hCommand := hReads setting hFirst rfl
  constructor
  · rw [hCommand]
    exact readSource_spec setting source
  · intro other hOther hState
    rw [hReads other hOther hState, hCommand, readSource_congr hState]

theorem pasteToken_eq_readSource (hFirst : setting.firstSource = some source) (hText : source ≠ .notUnicode) :
    setting.pasteToken = setting.readSource source := by
  unfold pasteToken
  rw [resolveToken_eq_readSource hFirst hText]
  split
  case h_1 path hError => exact absurd rfl ((readSource_error hError).2 path)
  case h_2 => rfl

theorem containerToken_eq_readSource (hFirst : setting.firstSource = some source) (hText : source ≠ .notUnicode)
    (hThere : setting.stateOf source ≠ some .notFound) :
    setting.containerToken = setting.readSource source := by
  unfold containerToken
  rw [resolveToken_eq_readSource hFirst hText]
  split
  case h_1 path hError => exact absurd rfl ((readSource_error hError).2 path)
  case h_2 path hError => exact absurd ((readSource_error hError).1 path rfl) hThere
  case h_3 => rfl

/-- The daemon goes on without the file that it was given. -/
theorem containerToken_of_missing {path : String} (hFirst : setting.firstSource = some (.file path))
    (hMissing : setting.files path = .notFound) : setting.containerToken = .ok setting.fallbackToken := by
  unfold containerToken
  rw [resolveToken_eq_readSource hFirst (by simp), readSource_notFound hMissing]

/-- A token that has the right format. -/
def zeroToken : String := String.ofList (List.replicate tokenHexLength '0')

/-- A variable that is no text, and the same token in every file. -/
def garbledSetting : TokenSetting where
  authToken := none
  authTokenFile := none
  envAuthToken := .notUnicode
  envAuthTokenFile := .unset
  home := .unset
  files := fun _ => .contents zeroToken

/-- A variable that is no text does not keep a command from the default files. -/
theorem not_heeds_of_garbled (hFirst : setting.firstSource = some .notUnicode)
    (hGarbled : command garbledSetting = .ok zeroToken) : ¬setting.Heeds command := by
  intro hHeeds
  obtain ⟨hError, hSame⟩ := hHeeds .notUnicode hFirst
  obtain ⟨e, hError⟩ : ∃ e, command setting = .error e := hError
  have hOther := hSame garbledSetting rfl rfl
  rw [hGarbled, hError] at hOther
  cases hOther

/-- When the commands heed the source that is configured first: `dbr paste`
unless it is a variable that is no text, and `dbr container-daemon` unless it
is such a variable or a file that does not exist. -/
theorem heeds_iff (setting : TokenSetting) :
    (setting.Heeds pasteToken ↔ setting.firstSource ≠ some .notUnicode) ∧
      (setting.Heeds containerToken ↔ setting.firstSource ≠ some .notUnicode ∧
        ∀ path, setting.firstSource = some (.file path) → setting.files path ≠ .notFound) := by
  constructor
  · constructor
    · intro hHeeds hFirst
      exact not_heeds_of_garbled hFirst (by decide) hHeeds
    · intro hText source hFirst
      refine heeds_of_readSource hFirst (fun other hOther _ => ?_) source hFirst
      exact pasteToken_eq_readSource hOther fun hEq => hText (hEq ▸ hFirst)
  · constructor
    · intro hHeeds
      refine ⟨fun hFirst => not_heeds_of_garbled hFirst (by decide) hHeeds, fun path hFirst hMissing => ?_⟩
      have hError := (hHeeds (.file path) hFirst).1
      simp only [textOf, hMissing, Option.map_none] at hError
      obtain ⟨e, hError⟩ := hError
      rw [containerToken_of_missing hFirst hMissing] at hError
      cases hError
    · rintro ⟨hText, hThere⟩ source hFirst
      refine heeds_of_readSource hFirst (fun other hOther hState => ?_) source hFirst
      refine containerToken_eq_readSource hOther (fun hEq => hText (hEq ▸ hFirst)) fun hMissing => ?_
      rw [hState] at hMissing
      cases source with
      | file path => exact hThere path hFirst (Option.some.inj hMissing)
      | value text => cases hMissing
      | notUnicode => cases hMissing

/-- The daemon is given a token file that is not there, next to a token in its
home directory. -/
def missingFileSetting : TokenSetting where
  authToken := none
  authTokenFile := some "/run/token"
  envAuthToken := .unset
  envAuthTokenFile := .unset
  home := .text "/root"
  files := fun path => if path = "/root/.config/dbr/auth-token" then .contents zeroToken else .notFound

theorem not_heeds_missingFile :
    missingFileSetting.firstSource = some (.file "/run/token") ∧
      missingFileSetting.containerToken = .ok zeroToken ∧ ¬missingFileSetting.Heeds containerToken := by
  have hToken : missingFileSetting.containerToken = .ok zeroToken := by decide
  refine ⟨rfl, hToken, fun hHeeds => ?_⟩
  obtain ⟨e, hError⟩ : ∃ e, missingFileSetting.containerToken = .error e :=
    (hHeeds (.file "/run/token") rfl).1
  rw [hToken] at hError
  cases hError

end TokenSetting

end DevcontainerBridge
