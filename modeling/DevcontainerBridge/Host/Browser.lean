import DevcontainerBridge.Protocol.Message
import DevcontainerBridge.Table.Lookup

/-! The host's browser opener: URL validation, the sliding-window rate limit
and the rewriting of loopback ports. Launching the browser process happens
outside the lock and is left to the environment. -/
namespace DevcontainerBridge

open Table

/-- Maximum number of browser opens per second. -/
def rateLimitPerSec : Nat := 5

/-- Nanoseconds of a monotonic clock. -/
abbrev Instant := Nat

inductive BrowserError where
  | validation (error : UrlValidationError)
  | rateLimited
  | openFailed
  | timeout
  deriving DecidableEq, Repr

/-- Split a text just after the first `"://"`. -/
def splitScheme : List Char → Option (List Char × List Char)
  | ':' :: '/' :: '/' :: rest => some ([':', '/', '/'], rest)
  | c :: rest => (splitScheme rest).map fun (before, after) => (c :: before, after)
  | [] => none

/-- Rust's `str::parse::<u16>` on a text of ASCII digits. -/
def parsePort (digits : List Char) : Option UInt16 :=
  if digits.isEmpty then
    none
  else
    let value := digits.foldl (fun acc c => acc * 10 + (c.toNat - '0'.toNat)) 0
    if value < 65536 then some (UInt16.ofNat value) else none

/-- Rewrite the port that follows `hostPrefix`, when it is a mapped one. -/
def rewritePort (scheme hostPart afterHost : List Char) (portMap : Map UInt16 UInt16) :
    Option (List Char) :=
  let portText := afterHost.takeWhile Char.isDigit
  match (parsePort portText).bind portMap.lookup with
  | some hostPort =>
      some (scheme ++ hostPart ++ (toString hostPort.toNat).toList ++ afterHost.drop portText.length)
  | none => none

/-- Rewrite loopback ports in a URL using the port map. The first loopback
prefix that matches decides; the others are not tried after it. -/
def rewriteUrl (url : String) (portMap : Map UInt16 UInt16) : String :=
  match splitScheme url.toList with
  | none => url
  | some (scheme, rest) =>
      if portMap.keys.card = 0 then
        url
      else
        let lowerRest := toAsciiLowercase rest
        match ["localhost:".toList, "127.0.0.1:".toList, "[::1]:".toList].find?
            (fun hostPrefix => hostPrefix.isPrefixOf lowerRest) with
        | none => url
        | some hostPrefix =>
            match rewritePort scheme (rest.take hostPrefix.length) (rest.drop hostPrefix.length)
                portMap with
            | some rewritten => String.ofList rewritten
            | none => url

structure BrowserOpener where
  /-- Container port to host port, for URL rewriting. -/
  portMap : Map UInt16 UInt16
  /-- Times of recent opens, oldest first. -/
  recentOpens : List Instant
  browserCmd : Option String

def BrowserOpener.withCmd (cmd : Option String) : BrowserOpener :=
  { portMap := ∅, recentOpens := [], browserCmd := cmd }

def BrowserOpener.addPortMapping (b : BrowserOpener) (containerPort hostPort : UInt16) : BrowserOpener :=
  { b with portMap := b.portMap.insert containerPort hostPort }

def BrowserOpener.removePortMapping (b : BrowserOpener) (containerPort : UInt16) : BrowserOpener :=
  { b with portMap := b.portMap.erase containerPort }

/-- `removePortMapping` for each port of a removed set of forwards. -/
def BrowserOpener.removePortMappings {Entry : Type} (b : BrowserOpener) (forwards : Map UInt16 Entry) :
    BrowserOpener :=
  { b with portMap := eraseEach (fun port _ => port) forwards b.portMap }

/-- Validate, rate-limit and rewrite a URL. The result carries the target and
the command to run; a rejected call may still have expired old entries. -/
def BrowserOpener.prepare (b : BrowserOpener) (url : String) (now : Instant) :
    BrowserOpener × Except BrowserError (String × Option String) :=
  match validateOpenUrl url with
  | .error e => (b, .error (.validation e))
  | .ok () =>
      let recent := b.recentOpens.dropWhile fun t => (now - t) / 1000000000 ≥ 1
      if recent.length ≥ rateLimitPerSec then
        ({ b with recentOpens := recent }, .error .rateLimited)
      else
        ({ b with recentOpens := recent ++ [now] }, .ok (rewriteUrl url b.portMap, b.browserCmd))

@[simp] theorem BrowserOpener.addPortMapping_portMap (b : BrowserOpener) (containerPort hostPort : UInt16) :
    (b.addPortMapping containerPort hostPort).portMap = b.portMap.insert containerPort hostPort := rfl

@[simp] theorem BrowserOpener.removePortMapping_portMap (b : BrowserOpener) (containerPort : UInt16) :
    (b.removePortMapping containerPort).portMap = b.portMap.erase containerPort := rfl

@[simp] theorem BrowserOpener.removePortMappings_portMap {Entry : Type} (b : BrowserOpener)
    (forwards : Map UInt16 Entry) :
    (b.removePortMappings forwards).portMap = eraseEach (fun port _ => port) forwards b.portMap := rfl

theorem BrowserOpener.removePortMappings_comm {Entry : Type} (b : BrowserOpener)
    (first second : Map UInt16 Entry) :
    (b.removePortMappings first).removePortMappings second =
      (b.removePortMappings second).removePortMappings first := by
  simp only [removePortMappings, eraseEach_comm (fun port _ => port) (fun port _ => port) first second]

/-- Opening a URL consults the port map and never changes it. -/
@[simp] theorem BrowserOpener.prepare_portMap (b : BrowserOpener) (url : String) (now : Instant) :
    (b.prepare url now).1.portMap = b.portMap := by
  unfold BrowserOpener.prepare
  split
  · rfl
  · dsimp only
    split <;> rfl

theorem splitScheme_append {scheme : List Char} (h : ':' ∉ scheme) (rest : List Char) :
    splitScheme (scheme ++ "://".toList ++ rest) = some (scheme ++ "://".toList, rest) := by
  induction scheme with
  | nil => rfl
  | cons c scheme ih =>
      simp only [List.mem_cons, not_or] at h
      have hTail : splitScheme (scheme ++ "://".toList ++ rest) = some (scheme ++ "://".toList, rest) :=
        ih h.2
      rw [List.cons_append, List.cons_append, splitScheme, hTail]
      · rfl
      · rintro tail hColon
        exact absurd hColon.symm h.1

theorem parsePort_toDigits (port : UInt16) : parsePort (Nat.toDigits 10 port.toNat) = some port := by
  have hValue : (Nat.toDigits 10 port.toNat).foldl (fun acc c => acc * 10 + (c.toNat - '0'.toNat)) 0 =
      port.toNat := by
    have hDigits := Nat.ofDigitChars_ten_toDigits (n := port.toNat)
    rw [Nat.ofDigitChars_eq_foldl] at hDigits
    simpa [Nat.mul_comm] using hDigits
  have hNonempty : (Nat.toDigits 10 port.toNat).isEmpty = false := by simp
  have hSmall : port.toNat < 65536 := port.toNat_lt
  simp only [parsePort, hNonempty, hValue, hSmall]
  simp

theorem takeWhile_digits_append {digits rest : List Char} (hDigits : ∀ c ∈ digits, c.isDigit = true)
    (hRest : ∀ c ∈ rest.head?, c.isDigit = false) :
    (digits ++ rest).takeWhile Char.isDigit = digits := by
  induction digits with
  | nil =>
      cases rest with
      | nil => rfl
      | cons c rest => simp [hRest c rfl]
  | cons c digits ih =>
      have hHead : c.isDigit = true := hDigits c List.mem_cons_self
      have hTail := ih fun d hd => hDigits d (List.mem_cons_of_mem c hd)
      rw [List.cons_append, List.takeWhile_cons, if_pos hHead, hTail]

/-- A mapped loopback port is rewritten and the rest of the URL kept. -/
theorem rewriteUrl_localhost {portMap : Map UInt16 UInt16} {port hostPort : UInt16}
    (hMapped : portMap.lookup port = some hostPort) {scheme path : List Char} (hScheme : ':' ∉ scheme)
    (hPath : ∀ c ∈ path.head?, c.isDigit = false) :
    rewriteUrl (String.ofList (scheme ++ "://".toList ++ ("localhost:".toList ++
        Nat.toDigits 10 port.toNat ++ path))) portMap =
      String.ofList (scheme ++ "://".toList ++ ("localhost:".toList ++
        Nat.toDigits 10 hostPort.toNat ++ path)) := by
  have hCard : portMap.keys.card ≠ 0 := by
    rw [Finset.card_ne_zero]
    exact ⟨port, Finmap.mem_keys.mpr (Finmap.mem_of_lookup_eq_some hMapped)⟩
  have hDigits : (Nat.toDigits 10 port.toNat ++ path).takeWhile Char.isDigit =
      Nat.toDigits 10 port.toNat := by
    refine takeWhile_digits_append ?_ hPath
    intro c hChar
    exact Nat.isDigit_of_mem_toDigits (by decide) (by decide) hChar
  have hFound : ["localhost:".toList, "127.0.0.1:".toList, "[::1]:".toList].find?
      (fun hostPrefix => hostPrefix.isPrefixOf (toAsciiLowercase ("localhost:".toList ++
        Nat.toDigits 10 port.toNat ++ path))) = some "localhost:".toList := by
    simp [toAsciiLowercase]
  have hRewritten : rewritePort (scheme ++ "://".toList) "localhost:".toList
      (Nat.toDigits 10 port.toNat ++ path) portMap =
      some (scheme ++ "://".toList ++ "localhost:".toList ++ Nat.toDigits 10 hostPort.toNat ++ path) := by
    simp only [rewritePort, hDigits, parsePort_toDigits, Option.bind_some, hMapped,
      List.drop_left, Nat.toString_eq_ofList_toDigits, String.toList_ofList]
  unfold rewriteUrl
  rw [String.toList_ofList, splitScheme_append hScheme]
  dsimp only
  rw [if_neg hCard, hFound]
  dsimp only
  rw [List.append_assoc "localhost:".toList, List.take_left, List.drop_left, hRewritten]
  simp only [List.append_assoc]

example : rewriteUrl "http://localhost:3000/callback" ((∅ : Map UInt16 UInt16).insert 3000 3001) =
    "http://localhost:3001/callback" := by decide

end DevcontainerBridge
