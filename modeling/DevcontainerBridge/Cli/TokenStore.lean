import DevcontainerBridge.Cli.AuthToken
import DevcontainerBridge.Files.Tree
import DevcontainerBridge.Protocol.Size
import DevcontainerBridge.Text.Hex
import DevcontainerBridge.Transition.Run

/-! The token file of the host. A process that needs the token reads the file,
and where there is none it makes the directory, restricts it, writes a new
token and restricts the file. Any number of processes may do so at once. -/
namespace DevcontainerBridge

open Text Transition

/-- Length of random bytes used to generate a token. -/
def tokenByteLength : Nat := 32

/-- What the random number generator fills a buffer with. -/
abbrev TokenBytes := { bytes : List UInt8 // bytes.length = tokenByteLength }

/-- Hex-encodes a byte slice to a lowercase hex string. -/
def hexEncode (bytes : List UInt8) : String := String.ofList (hex bytes)

/-- Generates a new random authentication token. -/
def generateToken (bytes : TokenBytes) : String := hexEncode bytes.val

/-- What is written for a token. -/
def tokenLine (token : String) : String := token ++ "\n"

/-- `ensure_token` by where it is. A token that is new goes to the steps of
`write_token_file`. -/
inductive Ensuring where
  | reading
  | generating
  | makingDirectory (token : String)
  | securingDirectory (token : String)
  | opening (token : String)
  | writing (token : String)
  | securingFile (token : String)
  | returned (result : Except AuthError String)
  deriving DecidableEq

/-- The process has found no file and has not returned yet. -/
def Ensuring.creating : Ensuring → Bool
  | .reading | .returned _ => false
  | _ => true

/-- The process has restricted the directory. -/
def Ensuring.sheltered : Ensuring → Bool
  | .opening _ | .writing _ | .securingFile _ => true
  | _ => false

/-- The token that a process has generated. -/
def Ensuring.token : Ensuring → Option String
  | .makingDirectory token | .securingDirectory token | .opening token | .writing token | .securingFile token =>
      some token
  | _ => none

inductive StoreInput where
  | proceed
  | random (bytes : TokenBytes)
  /-- some of the text is written, and then an error occurs -/
  | tear (written : Nat) (error : String)
  | fail (error : String)

/-- The token file with its mode, and the mode of its directory. -/
structure TokenStore where
  directory : Option Nat
  file : Option (Nat × String)
  processes : Nat → Ensuring

namespace TokenStore

def start (directory : Option Nat) (file : Option (Nat × String)) : TokenStore where
  directory := directory
  file := file
  processes := fun _ => .reading

def setProcess (s : TokenStore) (id : Nat) (next : Ensuring) : TokenStore :=
  { s with processes := Function.update s.processes id next }

/-- `read_token_file` as `ensure_token` uses it. -/
def readFile (s : TokenStore) : Ensuring :=
  match s.file with
  | none => .generating
  | some (_, text) => .returned (checkToken text)

/-- The file is made, or truncated. -/
def openFile (umask : Nat) (s : TokenStore) : TokenStore :=
  match s.file with
  | none => { s with file := some (Files.masked umask 0o666, "") }
  | some (mode, _) => { s with file := some (mode, "") }

/-- A text is written over the beginning of the file. -/
def writeFile (s : TokenStore) (text : String) : TokenStore :=
  match s.file with
  | none => s
  | some (mode, old) => { s with file := some (mode, text ++ String.ofList (old.toList.drop text.length)) }

def secureFile (s : TokenStore) : TokenStore :=
  { s with file := s.file.map fun (_, text) => (0o600, text) }

/-- One step of one process. -/
def step (umask : Nat) (s : TokenStore) (action : Nat × StoreInput) : Option TokenStore :=
  let id := action.1
  match s.processes id, action.2 with
  | .reading, .proceed => some (s.setProcess id s.readFile)
  | .generating, .random bytes =>
      let token := generateToken bytes
      some (s.setProcess id (if validateTokenFormat token then .makingDirectory token
        else .returned (.error (.invalidToken token.utf8ByteSize))))
  | .makingDirectory token, .proceed =>
      let directory := some (s.directory.getD (Files.masked umask 0o777))
      some ({ s with directory := directory }.setProcess id (.securingDirectory token))
  | .securingDirectory token, .proceed =>
      some ({ s with directory := some 0o700 }.setProcess id (.opening token))
  | .opening token, .proceed => some ((s.openFile umask).setProcess id (.writing token))
  | .writing token, .proceed => some ((s.writeFile (tokenLine token)).setProcess id (.securingFile token))
  | .writing token, .tear written error =>
      let part := String.ofList ((tokenLine token).toList.take written)
      some ((s.writeFile part).setProcess id (.returned (.error (.io error))))
  | .securingFile token, .proceed => some (s.secureFile.setProcess id (.returned (.ok token)))
  | .returned _, _ => none
  | _, .fail error => some (s.setProcess id (.returned (.error (.io error))))
  | _, _ => none

/-- Others may read the token file: its mode and that of its directory let them. -/
def Exposed (s : TokenStore) : Prop :=
  ∃ mode text directory, s.file = some (mode, text) ∧ s.directory = some directory ∧
    mode &&& 0o044 ≠ 0 ∧ directory &&& 0o011 ≠ 0

/-- Nobody reads the file while somebody else is creating it. -/
def Alone (s : TokenStore) (action : Nat × StoreInput) : Prop :=
  s.processes action.1 = .reading → ∀ other, (s.processes other).creating = false

/-- What one step is. -/
inductive Step (umask : Nat) (s : TokenStore) (id : Nat) : StoreInput → TokenStore → Prop where
  | found {mode : Nat} {text : String} (hProcess : s.processes id = .reading) (hFile : s.file = some (mode, text)) :
      s.Step umask id .proceed (s.setProcess id (.returned (checkToken text)))
  | missing (hProcess : s.processes id = .reading) (hFile : s.file = none) :
      s.Step umask id .proceed (s.setProcess id .generating)
  | generated {bytes : TokenBytes} (hProcess : s.processes id = .generating) :
      s.Step umask id (.random bytes) (s.setProcess id (.makingDirectory (generateToken bytes)))
  | made {token : String} (hProcess : s.processes id = .makingDirectory token) :
      s.Step umask id .proceed ({ s with
        directory := some (s.directory.getD (Files.masked umask 0o777)) }.setProcess id (.securingDirectory token))
  | secured {token : String} (hProcess : s.processes id = .securingDirectory token) :
      s.Step umask id .proceed ({ s with directory := some 0o700 }.setProcess id (.opening token))
  | opened {token : String} (hProcess : s.processes id = .opening token) :
      s.Step umask id .proceed ((s.openFile umask).setProcess id (.writing token))
  | written {token : String} (hProcess : s.processes id = .writing token) :
      s.Step umask id .proceed ((s.writeFile (tokenLine token)).setProcess id (.securingFile token))
  | torn {token error : String} {written : Nat} (hProcess : s.processes id = .writing token) :
      s.Step umask id (.tear written error)
        ((s.writeFile (String.ofList ((tokenLine token).toList.take written))).setProcess id
          (.returned (.error (.io error))))
  | finished {token : String} (hProcess : s.processes id = .securingFile token) :
      s.Step umask id .proceed (s.secureFile.setProcess id (.returned (.ok token)))
  | failed {error : String} (hLive : ∀ result, s.processes id ≠ .returned result) :
      s.Step umask id (.fail error) (s.setProcess id (.returned (.error (.io error))))

end TokenStore

variable {umask id other : Nat} {s s' : TokenStore} {action : Nat × StoreInput} {token text : String} {mode : Nat}
  {trace : List (TokenStore × (Nat × StoreInput))}

theorem validateTokenFormat_iff : validateTokenFormat token = true ↔
    token.utf8ByteSize = tokenHexLength ∧ ∀ c ∈ token.toList, isAsciiHexdigit c = true := by
  unfold validateTokenFormat
  rw [Bool.and_eq_true, decide_eq_true_eq, List.all_eq_true]

theorem isAsciiHexdigit_hexDigit {value : Nat} (h : value < 16) : isAsciiHexdigit (hexDigit value) = true := by
  have hAll : ∀ value < 16, isAsciiHexdigit (hexDigit value) = true := by decide
  exact hAll value h

theorem toNat_of_hexdigit {c : Char} (h : isAsciiHexdigit c = true) : 48 ≤ c.toNat ∧ c.toNat ≤ 102 := by
  unfold isAsciiHexdigit Char.isDigit at h
  simp only [Bool.or_eq_true, Bool.and_eq_true, decide_eq_true_eq, ge_iff_le, Char.le_def,
    UInt32.le_iff_toNat_le] at h
  change 48 ≤ c.val.toNat ∧ c.val.toNat ≤ 102
  change ((48 ≤ c.val.toNat ∧ c.val.toNat ≤ 57) ∨ (97 ≤ c.val.toNat ∧ c.val.toNat ≤ 102)) ∨
    (65 ≤ c.val.toNat ∧ c.val.toNat ≤ 70) at h
  omega

theorem utf8Size_of_hexdigit {c : Char} (h : isAsciiHexdigit c = true) : c.utf8Size = 1 := by
  have hRange := toNat_of_hexdigit h
  change 48 ≤ c.val.toNat ∧ c.val.toNat ≤ 102 at hRange
  rw [Char.utf8Size, if_pos]
  rw [UInt32.le_iff_toNat_le]
  exact hRange.2.trans (by decide)

theorem isWhitespace_of_hexdigit {c : Char} (h : isAsciiHexdigit c = true) : isWhitespace c = false := by
  have hRange := toNat_of_hexdigit h
  unfold isWhitespace
  simp only [Bool.or_eq_false_iff, Bool.and_eq_false_iff, decide_eq_false_iff_not]
  omega

/-- A generated token has the format that is asked of tokens. -/
theorem validateTokenFormat_generateToken (bytes : TokenBytes) : validateTokenFormat (generateToken bytes) = true := by
  have hDigits : ∀ c ∈ hex bytes.val, isAsciiHexdigit c = true := by
    intro c hMember
    obtain ⟨value, hValue, rfl⟩ := mem_hex hMember
    exact isAsciiHexdigit_hexDigit hValue
  refine validateTokenFormat_iff.mpr ⟨?_, ?_⟩
  · unfold generateToken hexEncode
    rw [utf8ByteSize_ofList, byteCount_of_ascii fun c hMember => utf8Size_of_hexdigit (hDigits c hMember),
      length_hex, bytes.property]
    rfl
  · unfold generateToken hexEncode
    rw [String.toList_ofList]
    exact hDigits

/-- A token is read back from the line that is written for it. -/
theorem checkToken_tokenLine (h : validateTokenFormat token = true) : checkToken (tokenLine token) = .ok token := by
  have hTrim : trimmed (tokenLine token) = token := by
    unfold trimmed tokenLine
    rw [String.toList_append]
    change String.ofList (trim isWhitespace (token.toList ++ ['\n'])) = token
    rw [trim_terminated (fun c hMember => isWhitespace_of_hexdigit ((validateTokenFormat_iff.mp h).2 c hMember))
      (by decide), String.ofList_toList]
  unfold checkToken
  rw [hTrim]
  exact if_pos h

namespace TokenStore

theorem step_cases (h : s.step umask action = some s') : s.Step umask action.1 action.2 s' := by
  obtain ⟨id, input⟩ := action
  unfold step at h
  dsimp only at h ⊢
  split at h
  case h_1 hProcess =>
    cases h
    unfold readFile
    cases hFile : s.file with
    | none => exact .missing hProcess hFile
    | some entry => exact .found hProcess hFile
  case h_2 hProcess =>
    cases h
    rw [if_pos (validateTokenFormat_generateToken _)]
    exact .generated hProcess
  case h_3 hProcess =>
    cases h
    exact .made hProcess
  case h_4 hProcess =>
    cases h
    exact .secured hProcess
  case h_5 hProcess =>
    cases h
    exact .opened hProcess
  case h_6 hProcess =>
    cases h
    exact .written hProcess
  case h_7 hProcess =>
    cases h
    exact .torn hProcess
  case h_8 hProcess =>
    cases h
    exact .finished hProcess
  case h_9 => cases h
  case h_10 hLive =>
    cases h
    exact .failed fun result hReturned => hLive result hReturned
  case h_11 => cases h

@[simp] theorem setProcess_file (s : TokenStore) (id : Nat) (next : Ensuring) :
    (s.setProcess id next).file = s.file := rfl

@[simp] theorem setProcess_directory (s : TokenStore) (id : Nat) (next : Ensuring) :
    (s.setProcess id next).directory = s.directory := rfl

@[simp] theorem setProcess_here (s : TokenStore) (id : Nat) (next : Ensuring) :
    (s.setProcess id next).processes id = next := Function.update_self ..

theorem setProcess_other (s : TokenStore) (next : Ensuring) (h : other ≠ id) :
    (s.setProcess id next).processes other = s.processes other := Function.update_of_ne h _ _

theorem openFile_frame (umask : Nat) (s : TokenStore) : ∃ mode, s.openFile umask = { s with file := some (mode, "") } := by
  unfold openFile
  split <;> exact ⟨_, rfl⟩

theorem writeFile_frame (s : TokenStore) (text : String) : ∃ file, s.writeFile text = { s with file := file } ∧
    (s.file ≠ none → file ≠ none) := by
  unfold writeFile
  split
  case h_1 hNone => exact ⟨s.file, rfl, id⟩
  case h_2 => exact ⟨_, rfl, fun _ => Option.some_ne_none _⟩

/-- Nothing happens to a file that is there before anybody looks. -/
structure Untouched (start s : TokenStore) : Prop where
  file : s.file = start.file
  directory : s.directory = start.directory
  processes : ∀ id, (s.processes id).creating = false

theorem Untouched.step {start : TokenStore} (h : start.Untouched s) (hFile : start.file ≠ none)
    (hStep : s.step umask action = some s') : start.Untouched s' := by
  obtain ⟨id, input⟩ := action
  have idle {next : Ensuring} (hNext : next.creating = false) (other : Nat) :
      ((s.setProcess id next).processes other).creating = false := by
    by_cases hHere : other = id
    · rw [hHere, setProcess_here, hNext]
    · rw [setProcess_other s next hHere, h.processes]
  have busy {p : Prop} {position : Ensuring} (hProcess : s.processes id = position)
      (hCreating : position.creating = true) : p := by
    have hIdle := h.processes id
    rw [hProcess, hCreating] at hIdle
    cases hIdle
  cases step_cases hStep with
  | found => exact ⟨h.file, h.directory, idle rfl⟩
  | missing _ hNone => exact absurd (h.file.symm.trans hNone) hFile
  | generated hProcess => exact busy hProcess rfl
  | made hProcess => exact busy hProcess rfl
  | secured hProcess => exact busy hProcess rfl
  | opened hProcess => exact busy hProcess rfl
  | written hProcess => exact busy hProcess rfl
  | torn hProcess => exact busy hProcess rfl
  | finished hProcess => exact busy hProcess rfl
  | failed => exact ⟨h.file, h.directory, idle rfl⟩

structure Sheltered (s : TokenStore) : Prop where
  file : s.file ≠ none → s.directory = some 0o700
  processes : ∀ id, (s.processes id).sheltered = true → s.directory = some 0o700

theorem Sheltered.step (h : s.Sheltered) (hStep : s.step umask action = some s') : s'.Sheltered := by
  obtain ⟨id, input⟩ := action
  have moved {after : TokenStore} {next : Ensuring} (hProcesses : after.processes = s.processes)
      (hDirectory : s.directory = some 0o700 → after.directory = some 0o700)
      (hFile : after.file ≠ none → after.directory = some 0o700)
      (hNext : next.sheltered = true → after.directory = some 0o700) : (after.setProcess id next).Sheltered := by
    refine ⟨hFile, fun other hSheltered => ?_⟩
    by_cases hHere : other = id
    · rw [hHere, setProcess_here] at hSheltered
      exact hNext hSheltered
    · rw [setProcess_other after next hHere, hProcesses] at hSheltered
      exact hDirectory (h.processes other hSheltered)
  have here {position : Ensuring} (hProcess : s.processes id = position) (hSheltered : position.sheltered = true) :
      s.directory = some 0o700 := h.processes id (by rw [hProcess, hSheltered])
  cases step_cases hStep with
  | found => exact moved rfl (fun hKept => hKept) h.file fun hNext => (nomatch hNext)
  | missing => exact moved rfl (fun hKept => hKept) h.file fun hNext => (nomatch hNext)
  | generated => exact moved rfl (fun hKept => hKept) h.file fun hNext => (nomatch hNext)
  | made =>
      have kept (hDirectory : s.directory = some 0o700) :
          some (s.directory.getD (Files.masked umask 0o777)) = some 0o700 := by rw [hDirectory]; rfl
      exact moved rfl kept (fun hFile => kept (h.file hFile)) fun hNext => (nomatch hNext)
  | secured => exact moved rfl (fun _ => rfl) (fun _ => rfl) fun _ => rfl
  | opened hProcess =>
      obtain ⟨mode, hOpen⟩ := s.openFile_frame umask
      rw [hOpen]
      exact moved rfl (fun hKept => hKept) (fun _ => here hProcess rfl) fun _ => here hProcess rfl
  | @written token hProcess =>
      obtain ⟨file, hWrite, -⟩ := s.writeFile_frame (tokenLine token)
      rw [hWrite]
      exact moved rfl (fun hKept => hKept) (fun _ => here hProcess rfl) fun _ => here hProcess rfl
  | @torn token error written hProcess =>
      obtain ⟨file, hWrite, -⟩ := s.writeFile_frame (String.ofList ((tokenLine token).toList.take written))
      rw [hWrite]
      exact moved rfl (fun hKept => hKept) (fun _ => here hProcess rfl) fun hNext => (nomatch hNext)
  | finished hProcess => exact moved rfl (fun hKept => hKept) (fun _ => here hProcess rfl) fun hNext => (nomatch hNext)
  | failed => exact moved rfl (fun hKept => hKept) h.file fun hNext => (nomatch hNext)

/-- However the processes are interleaved and wherever they fail, others may
read the token file only if they could before: a file that is made is in a
restricted directory from the beginning, and one that was there is left as it is. -/
theorem exposed_iff {directory : Option Nat} {file : Option (Nat × String)}
    (hReach : Reachable (step umask) (start directory file) s) : s.Exposed ↔ (start directory file).Exposed := by
  cases hFile : file with
  | some entry =>
      subst hFile
      have hSame := hReach.invariant (start directory (some entry)).Untouched ⟨rfl, rfl, fun _ => rfl⟩
        fun middle action after hMiddle hStep => hMiddle.step (Option.some_ne_none entry) hStep
      unfold Exposed
      rw [hSame.file, hSame.directory]
  | none =>
      subst hFile
      have hSheltered := hReach.invariant Sheltered
        ⟨fun hNone => absurd rfl hNone, fun _ hNext => (nomatch hNext)⟩ fun middle action after => Sheltered.step
      constructor
      · rintro ⟨mode, text, found, hFound, hDirectory, -, hSearch⟩
        rw [hSheltered.file (by rw [hFound]; exact Option.some_ne_none _)] at hDirectory
        cases hDirectory
        exact absurd rfl hSearch
      · rintro ⟨mode, text, found, hFound, -⟩
        cases hFound

/-- What the file holds while a process creates it. -/
def Creates (s : TokenStore) : Ensuring → Prop
  | .writing token => validateTokenFormat token = true ∧ ∃ mode, s.file = some (mode, "")
  | .securingFile token => validateTokenFormat token = true ∧ ∃ mode, s.file = some (mode, tokenLine token)
  | .makingDirectory token | .securingDirectory token | .opening token =>
      validateTokenFormat token = true ∧ s.file = none
  | .generating => s.file = none
  | _ => True

/-- The file holds this token. -/
def Holds (s : TokenStore) (token : String) : Prop :=
  ∃ mode text, s.file = some (mode, text) ∧ checkToken text = .ok token

/-- One process at most is creating the file, and whoever has returned a token
has returned the one in the file. -/
structure Agreed (s : TokenStore) : Prop where
  single : ∀ id other, (s.processes id).creating = true → (s.processes other).creating = true → id = other
  creates : ∀ id, s.Creates (s.processes id)
  results : ∀ id token, s.processes id = .returned (.ok token) → s.Holds token

theorem checkToken_empty : checkToken "" = .error (.invalidToken 0) := rfl

/-- While a process is about to fill the file, no token has been returned. -/
theorem Agreed.none_returned (h : s.Agreed) (hProcess : s.processes id = .writing token) {other : Nat}
    {result : String} : s.processes other ≠ .returned (.ok result) := by
  intro hReturned
  have hCreates := h.creates id
  rw [hProcess] at hCreates
  obtain ⟨-, mode, hFile⟩ := hCreates
  obtain ⟨_, text, hHeld, hCheck⟩ := h.results other result hReturned
  rw [hFile] at hHeld
  cases hHeld
  cases hCheck

/-- The process moves on and the others are as they were. -/
theorem Agreed.move (h : s.Agreed) {after : TokenStore} {next : Ensuring} (hProcesses : after.processes = s.processes)
    (hBusy : next.creating = true → ∀ other, (s.processes other).creating = true → other = id)
    (hNext : after.Creates next) (hResult : ∀ token, next = .returned (.ok token) → after.Holds token)
    (hOthers : ∀ other, other ≠ id → s.Creates (s.processes other) → after.Creates (s.processes other))
    (hResults : ∀ other token, s.processes other = .returned (.ok token) → after.Holds token) :
    (after.setProcess id next).Agreed where
  single := by
    intro first second hFirst hSecond
    by_cases hHere : first = id
    · by_cases hThere : second = id
      · rw [hHere, hThere]
      · rw [hHere, setProcess_here] at hFirst
        rw [setProcess_other after next hThere, hProcesses] at hSecond
        rw [hHere, hBusy hFirst second hSecond]
    · rw [setProcess_other after next hHere, hProcesses] at hFirst
      by_cases hThere : second = id
      · rw [hThere, setProcess_here] at hSecond
        rw [hThere, hBusy hSecond first hFirst]
      · rw [setProcess_other after next hThere, hProcesses] at hSecond
        exact h.single first second hFirst hSecond
  creates := by
    intro other
    have hSame {position : Ensuring} (hCreates : after.Creates position) :
        (after.setProcess id next).Creates position := by
      cases position <;> exact hCreates
    by_cases hHere : other = id
    · rw [hHere, setProcess_here]
      exact hSame hNext
    · rw [setProcess_other after next hHere, hProcesses]
      exact hSame (hOthers other hHere (h.creates other))
  results := by
    intro other token hReturned
    by_cases hHere : other = id
    · rw [hHere, setProcess_here] at hReturned
      exact hResult token hReturned
    · rw [setProcess_other after next hHere, hProcesses] at hReturned
      exact hResults other token hReturned

/-- What only concerns the others who are creating the file holds of nobody. -/
theorem Agreed.others (h : s.Agreed) {after : TokenStore} {position : Ensuring} (hProcess : s.processes id = position)
    (hCreating : position.creating = true) (hOther : other ≠ id) : after.Creates (s.processes other) := by
  have hIdle : (s.processes other).creating = false := by
    by_contra hBusy
    exact hOther (h.single other id (by simpa using hBusy) (by rw [hProcess, hCreating]))
  cases hPosition : s.processes other <;> rw [hPosition] at hIdle <;> trivial

theorem Agreed.step (h : s.Agreed) (hAlone : s.Alone action) (hStep : s.step umask action = some s') :
    s'.Agreed := by
  obtain ⟨id, input⟩ := action
  have alone {position next : Ensuring} (hProcess : s.processes id = position) (hCreating : position.creating = true) :
      next.creating = true → ∀ other, (s.processes other).creating = true → other = id :=
    fun _ other hOther => h.single other id hOther (by rw [hProcess, hCreating])
  have creates {position : Ensuring} (hProcess : s.processes id = position) : s.Creates position :=
    hProcess ▸ h.creates id
  cases step_cases hStep with
  | @found mode text hProcess hFile =>
      refine h.move rfl (fun hNext => (nomatch hNext)) trivial ?_ (fun _ _ hSame => hSame) h.results
      intro token hToken
      exact ⟨mode, text, hFile, Ensuring.returned.inj hToken⟩
  | missing hProcess hFile =>
      refine h.move rfl ?_ hFile (fun _ hToken => (nomatch hToken)) (fun _ _ hSame => hSame) h.results
      intro _ other hOther
      rw [hAlone hProcess other] at hOther
      cases hOther
  | @generated bytes hProcess =>
      exact h.move rfl (alone hProcess rfl) ⟨validateTokenFormat_generateToken bytes, creates hProcess⟩
        (fun _ hToken => (nomatch hToken)) (fun _ _ hSame => hSame) h.results
  | made hProcess =>
      exact h.move rfl (alone hProcess rfl) (creates hProcess) (fun _ hToken => (nomatch hToken))
        (fun _ hOther _ => h.others hProcess rfl hOther) h.results
  | secured hProcess =>
      exact h.move rfl (alone hProcess rfl) (creates hProcess) (fun _ hToken => (nomatch hToken))
        (fun _ hOther _ => h.others hProcess rfl hOther) h.results
  | opened hProcess =>
      obtain ⟨mode, hOpen⟩ := s.openFile_frame umask
      obtain ⟨hToken, hFile⟩ := creates hProcess
      rw [hOpen]
      refine h.move rfl (alone hProcess rfl) ⟨hToken, mode, rfl⟩ (fun _ hToken => (nomatch hToken))
        (fun _ hOther _ => h.others hProcess rfl hOther) fun other token hReturned => ?_
      obtain ⟨_, _, hHeld, -⟩ := h.results other token hReturned
      rw [hFile] at hHeld
      cases hHeld
  | @written token hProcess =>
      obtain ⟨hToken, mode, hFile⟩ := creates hProcess
      have hWrite : (s.writeFile (tokenLine token)).file = some (mode, tokenLine token) := by
        unfold writeFile
        rw [hFile]
        simp
      have hProcesses : (s.writeFile (tokenLine token)).processes = s.processes := by
        obtain ⟨_, hFrame, -⟩ := s.writeFile_frame (tokenLine token)
        rw [hFrame]
      exact h.move hProcesses (alone hProcess rfl) ⟨hToken, mode, hWrite⟩ (fun _ hToken => (nomatch hToken))
        (fun _ hOther _ => h.others hProcess rfl hOther)
        fun other token hReturned => absurd hReturned (h.none_returned hProcess)
  | @torn token error written hProcess =>
      obtain ⟨_, hFrame, -⟩ := s.writeFile_frame (String.ofList ((tokenLine token).toList.take written))
      rw [hFrame]
      exact h.move rfl (fun hNext => (nomatch hNext)) trivial (fun _ hToken => (nomatch hToken))
        (fun _ hOther _ => h.others hProcess rfl hOther)
        fun other token hReturned => absurd hReturned (h.none_returned hProcess)
  | @finished token hProcess =>
      obtain ⟨hToken, mode, hFile⟩ := creates hProcess
      have hSecure : s.secureFile.file = some (0o600, tokenLine token) := by
        unfold secureFile
        rw [hFile]
        rfl
      refine h.move rfl (fun hNext => (nomatch hNext)) trivial ?_ (fun _ hOther _ => h.others hProcess rfl hOther) ?_
      · intro result hResult
        cases hResult
        exact ⟨_, _, hSecure, checkToken_tokenLine hToken⟩
      · intro other result hReturned
        obtain ⟨_, text, hHeld, hCheck⟩ := h.results other result hReturned
        rw [hFile] at hHeld
        cases hHeld
        exact ⟨_, _, hSecure, hCheck⟩
  | failed =>
      exact h.move rfl (fun hNext => (nomatch hNext)) trivial (fun _ hToken => (nomatch hToken)) (fun _ _ hSame => hSame)
        h.results

/-- Where nobody reads the file while it is being created, all processes that
return a token return the same one, and the file holds it. -/
theorem ensureToken_agrees {directory : Option Nat} {file : Option (Nat × String)}
    (run : Run (step umask) (start directory file) trace s) (hAlone : Guarded Alone trace) {first second : Nat}
    {token token' : String} (hFirst : s.processes first = .returned (.ok token))
    (hSecond : s.processes second = .returned (.ok token')) : token = token' ∧ s.Holds token := by
  have hStart : (start directory file).Agreed :=
    ⟨fun _ _ hIdle => (nomatch hIdle), fun _ => trivial, fun _ _ hReturned => (nomatch hReturned)⟩
  have hAgreed := run.invariant hAlone hStart fun _ _ _ => Agreed.step
  have hHolds := hAgreed.results first token hFirst
  obtain ⟨_, text, hFile, hCheck⟩ := hHolds
  obtain ⟨_, text', hFile', hCheck'⟩ := hAgreed.results second token' hSecond
  rw [hFile] at hFile'
  cases hFile'
  rw [hCheck] at hCheck'
  exact ⟨Except.ok.inj hCheck', hAgreed.results first token hFirst⟩

theorem step_other (hStep : s.step umask action = some s') (hOther : other ≠ action.1) :
    s'.processes other = s.processes other := by
  obtain ⟨id, input⟩ := action
  cases step_cases hStep with
  | opened =>
      obtain ⟨_, hOpen⟩ := s.openFile_frame umask
      rw [hOpen, setProcess_other _ _ hOther]
  | @written token =>
      obtain ⟨_, hWrite, -⟩ := s.writeFile_frame (tokenLine token)
      rw [hWrite, setProcess_other _ _ hOther]
  | @torn token error written =>
      obtain ⟨_, hWrite, -⟩ := s.writeFile_frame (String.ofList ((tokenLine token).toList.take written))
      rw [hWrite, setProcess_other _ _ hOther]
  | _ => exact setProcess_other _ _ hOther

/-- As long as one process moves only, it is alone. -/
theorem guarded_alone {directory : Option Nat} {file : Option (Nat × String)}
    (run : Run (step umask) (start directory file) trace s) (hOnly : ∀ entry ∈ trace, entry.2.1 = id) :
    Guarded Alone trace ∧ ∀ other, other ≠ id → s.processes other = .reading := by
  have hGuard : Guarded (fun (_ : TokenStore) (action : Nat × StoreInput) => action.1 = id) trace := hOnly
  have hThroughout : Throughout (fun s => ∀ other, other ≠ id → s.processes other = .reading) trace s :=
    run.throughout hGuard (fun _ _ => rfl) fun middle action after hMiddle hHere hStep other hOther => by
      rw [step_other hStep (hHere ▸ hOther), hMiddle other hOther]
  refine ⟨fun entry hEntry hReading other => ?_, hThroughout.2⟩
  rw [hOnly entry hEntry] at hReading
  by_cases hHere : other = id
  · rw [hHere, hReading]
    rfl
  · rw [hThroughout.1 entry hEntry other hHere]
    rfl

/-- The steps of a process that creates the file. -/
def createSchedule (id : Nat) (bytes : TokenBytes) : List (Nat × StoreInput) :=
  [(id, .random bytes), (id, .proceed), (id, .proceed), (id, .proceed), (id, .proceed), (id, .proceed)]

/-- The same byte over and over. -/
def repeatedBytes (byte : UInt8) : TokenBytes :=
  ⟨List.replicate tokenByteLength byte, List.length_replicate⟩

theorem ensureToken_agrees_later :
    ∃ trace s token token', Run (step 0o022) (start none none) trace s ∧ Guarded Alone trace ∧
      s.processes 0 = .returned (.ok token) ∧ s.processes 1 = .returned (.ok token') ∧
      token = token' ∧ s.Holds token := by
  have hFirst : (exec (step 0o022) (start none none) ((0, .proceed) :: createSchedule 0 (repeatedBytes 7))).any
      fun s => (step 0o022 s (1, .proceed)).any fun s' =>
        s.processes 0 == .returned (.ok (generateToken (repeatedBytes 7))) && s'.processes 0 == s.processes 0 &&
          s'.processes 1 == .returned (.ok (generateToken (repeatedBytes 7))) := by
    decide +kernel
  obtain ⟨s, hExec, hRest⟩ := (Option.any_eq_true _ _).mp hFirst
  obtain ⟨s', hStep, hEnd⟩ := (Option.any_eq_true _ _).mp hRest
  simp only [Bool.and_eq_true, beq_iff_eq] at hEnd
  obtain ⟨⟨hReturned, hSame⟩, hSecond⟩ := hEnd
  obtain ⟨trace, hActions, run⟩ := run_of_exec hExec
  have hOnly : ∀ entry ∈ trace, entry.2.1 = 0 := by
    intro entry hEntry
    have hMember : entry.2 ∈ (0, StoreInput.proceed) :: createSchedule 0 (repeatedBytes 7) :=
      hActions ▸ List.mem_map_of_mem hEntry
    have hAll : ∀ action ∈ (0, StoreInput.proceed) :: createSchedule 0 (repeatedBytes 7), action.1 = 0 := by
      simp [createSchedule]
    exact hAll entry.2 hMember
  obtain ⟨hAlone, hOthers⟩ := guarded_alone run hOnly
  have hGuard : Guarded Alone (trace ++ [(s, (1, .proceed))]) := by
    refine hAlone.append fun entry hEntry _ other => ?_
    rw [List.mem_singleton.mp hEntry]
    by_cases hHere : other = 0
    · rw [hHere, hReturned]
      rfl
    · rw [hOthers other hHere]
      rfl
  exact ⟨_, s', _, _, run.tail hStep, hGuard, hSame.trans hReturned, hSecond,
    ensureToken_agrees (run.tail hStep) hGuard (hSame.trans hReturned) hSecond⟩

theorem exposed_iff_created :
    ∃ s, Reachable (step 0o022) (start (some 0o755) none) s ∧
      s.processes 0 = .returned (.ok (generateToken (repeatedBytes 7))) ∧
      (s.Exposed ↔ (start (some 0o755) none).Exposed) := by
  have hRun : (exec (step 0o022) (start (some 0o755) none)
      ((0, .proceed) :: createSchedule 0 (repeatedBytes 7))).any
      fun s => s.processes 0 == .returned (.ok (generateToken (repeatedBytes 7))) := by
    decide +kernel
  obtain ⟨s, hExec, hEnd⟩ := (Option.any_eq_true _ _).mp hRun
  have hReach := reachable_of_exec hExec
  exact ⟨s, hReach, beq_iff_eq.mp hEnd, exposed_iff hReach⟩

/-- Two processes look for the file before either has made it. Both return a
token, and the file holds the one that was written last. -/
theorem ensureToken_disagrees :
    ∃ trace s first second, Run (step 0o022) (start none none) trace s ∧
      s.processes 0 = .returned (.ok first) ∧ s.processes 1 = .returned (.ok second) ∧ first ≠ second ∧
      s.Holds second := by
  have hRun : (exec (step 0o022) (start none none) ((0, .proceed) :: (1, .proceed) ::
      createSchedule 0 (repeatedBytes 7) ++ createSchedule 1 (repeatedBytes 8))).any fun s =>
        s.processes 0 == .returned (.ok (generateToken (repeatedBytes 7))) &&
          s.processes 1 == .returned (.ok (generateToken (repeatedBytes 8))) &&
          s.file == some (0o600, tokenLine (generateToken (repeatedBytes 8))) := by
    decide +kernel
  obtain ⟨s, hExec, hEnd⟩ := (Option.any_eq_true _ _).mp hRun
  simp only [Bool.and_eq_true, beq_iff_eq] at hEnd
  obtain ⟨⟨hFirst, hSecond⟩, hFile⟩ := hEnd
  obtain ⟨trace, -, run⟩ := run_of_exec hExec
  have hDifferent : generateToken (repeatedBytes 7) ≠ generateToken (repeatedBytes 8) := by
    decide +kernel
  exact ⟨trace, s, _, _, run, hFirst, hSecond, hDifferent, _, _, hFile,
    checkToken_tokenLine (validateTokenFormat_generateToken _)⟩

/-- The file is as it was, and whoever has moved meanwhile has failed. -/
structure Stuck (stopped : Nat → Prop) (old s : TokenStore) : Prop where
  file : s.file = old.file
  idle : ∀ id, (s.processes id).creating = true → stopped id
  processes : ∀ id, s.processes id = old.processes id ∨ ∃ error, s.processes id = .returned (.error error)

theorem Stuck.step {stopped : Nat → Prop} {old : TokenStore} {error : AuthError} (h : Stuck stopped old s)
    (hFile : old.file = some (mode, text)) (hText : checkToken text = .error error) (hStopped : ¬stopped action.1)
    (hStep : s.step umask action = some s') : Stuck stopped old s' := by
  obtain ⟨id, input⟩ := action
  have fails (error : AuthError) : Stuck stopped old (s.setProcess id (.returned (.error error))) := by
    refine ⟨h.file, fun other hBusy => ?_, fun other => ?_⟩
    · by_cases hHere : other = id
      · rw [hHere, setProcess_here] at hBusy
        cases hBusy
      · rw [setProcess_other s _ hHere] at hBusy
        exact h.idle other hBusy
    · by_cases hHere : other = id
      · exact .inr ⟨error, by rw [hHere, setProcess_here]⟩
      · rw [setProcess_other s _ hHere]
        exact h.processes other
  have busy {p : Prop} {position : Ensuring} (hProcess : s.processes id = position)
      (hCreating : position.creating = true) : p :=
    absurd (h.idle id (by rw [hProcess, hCreating])) hStopped
  cases step_cases hStep with
  | found hProcess hFound =>
      rw [h.file, hFile] at hFound
      cases hFound
      rw [hText]
      exact fails error
  | missing hProcess hMissing =>
      rw [h.file, hFile] at hMissing
      cases hMissing
  | generated hProcess => exact busy hProcess rfl
  | made hProcess => exact busy hProcess rfl
  | secured hProcess => exact busy hProcess rfl
  | opened hProcess => exact busy hProcess rfl
  | written hProcess => exact busy hProcess rfl
  | torn hProcess => exact busy hProcess rfl
  | finished hProcess => exact busy hProcess rfl
  | failed => exact fails _

/-- A token file that holds no token is not repaired. Where the processes that
are creating it have stopped, such as one that was killed between truncating the
file and writing the token, every other process fails. -/
theorem stuck_forever {stopped : Nat → Prop} {old : TokenStore} {error : AuthError}
    (run : Run (step umask) old trace s) (hStopped : Guarded (fun _ action => ¬stopped action.1) trace)
    (hIdle : ∀ id, (old.processes id).creating = true → stopped id) (hFile : old.file = some (mode, text))
    (hText : checkToken text = .error error) : Stuck stopped old s :=
  run.invariant hStopped ⟨rfl, hIdle, fun _ => .inl rfl⟩ fun _ _ _ hMiddle hAllowed =>
    hMiddle.step hFile hText hAllowed

theorem stuck_forever_truncated :
    ∃ old s trace, s.processes 1 = .returned (.error (.invalidToken 0)) ∧ Run (step 0o022) old trace s ∧
      old.file = some (0o644, "") ∧ Stuck (fun id => id = 0) old s := by
  have hFirst : (exec (step 0o022) (start none none)
      ((0, .proceed) :: (createSchedule 0 (repeatedBytes 7)).take 4)).any fun old =>
        (step 0o022 old (1, .proceed)).any fun s =>
          old.file == some (0o644, "") && s.processes 1 == .returned (.error (.invalidToken 0)) := by
    decide +kernel
  obtain ⟨old, hExec, hRest⟩ := (Option.any_eq_true _ _).mp hFirst
  obtain ⟨s, hStep, hEnd⟩ := (Option.any_eq_true _ _).mp hRest
  simp only [Bool.and_eq_true, beq_iff_eq] at hEnd
  obtain ⟨trace, hActions, run⟩ := run_of_exec hExec
  have hOnly : ∀ entry ∈ trace, entry.2.1 = 0 := by
    intro entry hEntry
    have hMember : entry.2 ∈ (0, StoreInput.proceed) :: (createSchedule 0 (repeatedBytes 7)).take 4 :=
      hActions ▸ List.mem_map_of_mem hEntry
    have hAll : ∀ action ∈ (0, StoreInput.proceed) :: (createSchedule 0 (repeatedBytes 7)).take 4, action.1 = 0 := by
      simp [createSchedule]
    exact hAll entry.2 hMember
  have hIdle : ∀ id, (old.processes id).creating = true → id = 0 := by
    intro id hBusy
    by_contra hOther
    rw [(guarded_alone run hOnly).2 id hOther] at hBusy
    cases hBusy
  have hLater : Run (step 0o022) old [(old, (1, .proceed))] s := Run.refl.tail hStep
  refine ⟨old, s, _, hEnd.2, hLater, hEnd.1, stuck_forever hLater ?_ hIdle hEnd.1 checkToken_empty⟩
  intro entry hEntry
  rw [List.mem_singleton.mp hEntry]
  exact Nat.one_ne_zero

end TokenStore
end DevcontainerBridge
