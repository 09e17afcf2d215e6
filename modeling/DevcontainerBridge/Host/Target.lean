import DevcontainerBridge.Host.Rewriting
import DevcontainerBridge.Protocol.Size

/-! What `prepare` hands to the browser. The URL is validated before its port
is rewritten, so its length is bounded but not by the length of a URL that may
be opened. -/
namespace DevcontainerBridge

open Table

variable {url : String} {portMap : Map UInt16 UInt16}

/-- The target is the URL with a mapped port in the place of some digits. -/
def Substitutes (url target : String) (portMap : Map UInt16 UInt16) (replaced mapped : List Char) : Prop :=
  ∃ scheme host suffix port hostPort, url.toList = scheme ++ (host ++ (replaced ++ suffix)) ∧
    toAsciiLowercase scheme ∈ openSchemes ∧ LoopbackAuthority (host ++ replaced) host replaced port ∧
    portMap.lookup port = some hostPort ∧ mapped = Nat.toDigits 10 hostPort.toNat ∧
    target.toList = scheme ++ (host ++ (mapped ++ suffix))

theorem utf8Size_of_isDigit {c : Char} (h : c.isDigit = true) : c.utf8Size = 1 := by
  rw [Char.utf8Size_eq_one_iff]
  have hBounds := Char.isDigit_iff_toNat.mp h
  exact UInt32.le_iff_toNat_le.mpr (hBounds.2.trans (by decide))

theorem isAsciiControl_of_isDigit {c : Char} (h : c.isDigit = true) : isAsciiControl c = false := by
  have hBounds := Char.isDigit_iff_toNat.mp h
  have hValue : c.val.toNat = c.toNat := rfl
  simp only [isAsciiControl, Bool.or_eq_false_iff, decide_eq_false_iff_not, beq_eq_false_iff_ne, ne_eq,
    UInt32.lt_iff_toNat_lt, ← UInt32.toNat_inj, hValue]
  constructor
  · exact Nat.not_lt.mpr (le_trans (by decide) hBounds.1)
  · exact fun hDelete => absurd (hDelete ▸ hBounds.2) (by decide)

theorem isDigit_of_mem_toDigits {n : Nat} : ∀ c ∈ Nat.toDigits 10 n, c.isDigit = true :=
  fun _ hChar => Nat.isDigit_of_mem_toDigits (by decide) (by decide) hChar

/-- What a rewritten URL consists of. -/
theorem rewriteUrl_substitutes (hValid : validateOpenUrl url = .ok ()) (portMap : Map UInt16 UInt16) :
    rewriteUrl url portMap = url ∨
      ∃ replaced mapped, Substitutes url (rewriteUrl url portMap) portMap replaced mapped := by
  obtain ⟨scheme, rest, hSplit, hUrl, hScheme⟩ := splitScheme_of_valid hValid
  refine (rewriteUrl_cases hSplit portMap).imp_right ?_
  rintro ⟨host, digits, suffix, port, hostPort, rfl, hHost, hMapped, hStop⟩
  refine ⟨digits, Nat.toDigits 10 hostPort.toNat, scheme, host, suffix, port, hostPort, hUrl, hScheme, hHost,
    hMapped, rfl, ?_⟩
  rw [rewriteUrl_of_loopback hSplit hHost hMapped hStop, String.toList_ofList, List.append_assoc,
    List.append_assoc]

theorem utf8ByteSize_eq_byteCount (text : String) : text.utf8ByteSize = byteCount text.toList := by
  rw [← utf8ByteSize_ofList, String.ofList_toList]

namespace Substitutes

variable {target : String} {replaced mapped : List Char}

theorem size (h : Substitutes url target portMap replaced mapped) :
    target.utf8ByteSize + replaced.length = url.utf8ByteSize + mapped.length := by
  obtain ⟨scheme, host, suffix, port, hostPort, hUrl, -, hHost, -, rfl, hTarget⟩ := h
  have hReplaced := byteCount_of_ascii fun c hChar => utf8Size_of_isDigit (hHost.isDigit c hChar)
  have hMapped := byteCount_of_ascii fun c (hChar : c ∈ Nat.toDigits 10 hostPort.toNat) =>
    utf8Size_of_isDigit (isDigit_of_mem_toDigits c hChar)
  rw [utf8ByteSize_eq_byteCount, utf8ByteSize_eq_byteCount, hUrl, hTarget]
  simp only [byteCount_append, hReplaced, hMapped]
  omega

/-- A mapped port has at most four digits more than the port it replaces. -/
theorem length_le (h : Substitutes url target portMap replaced mapped) :
    mapped.length ≤ replaced.length + 4 := by
  obtain ⟨scheme, host, suffix, port, hostPort, -, -, hHost, -, rfl, -⟩ := h
  have hMapped : (Nat.toDigits 10 hostPort.toNat).length ≤ 5 :=
    (Nat.length_toDigits_le_iff (by decide) (by decide)).mpr (hostPort.toNat_lt.trans (by decide))
  have hReplaced : 0 < replaced.length := by
    apply List.length_pos_of_ne_nil
    rintro rfl
    cases hHost.port
  omega

theorem not_control (h : Substitutes url target portMap replaced mapped)
    (hUrl : ∀ c ∈ url.toList, isAsciiControl c = false) : ∀ c ∈ target.toList, isAsciiControl c = false := by
  obtain ⟨scheme, host, suffix, port, hostPort, hText, -, -, -, rfl, hTarget⟩ := h
  rw [hText] at hUrl
  rw [hTarget]
  intro c hChar
  simp only [List.mem_append] at hChar hUrl
  rcases hChar with hScheme | hHost | hMapped | hSuffix
  · exact hUrl c (.inl hScheme)
  · exact hUrl c (.inr (.inl hHost))
  · exact isAsciiControl_of_isDigit (isDigit_of_mem_toDigits c hMapped)
  · exact hUrl c (.inr (.inr (.inr hSuffix)))

theorem openScheme (h : Substitutes url target portMap replaced mapped) :
    ∃ scheme ∈ openSchemes, scheme <+: toAsciiLowercase target.toList := by
  obtain ⟨scheme, host, suffix, port, hostPort, -, hScheme, -, -, -, hTarget⟩ := h
  refine ⟨toAsciiLowercase scheme, hScheme, ?_⟩
  rw [hTarget, toAsciiLowercase, toAsciiLowercase, List.map_append]
  exact List.prefix_append _ _

theorem isEmpty (h : Substitutes url target portMap replaced mapped) : target.isEmpty = false := by
  obtain ⟨scheme, hOpen, hScheme⟩ := h.openScheme
  rw [String.isEmpty_eq_false_iff]
  rintro rfl
  have hNil : scheme = [] := List.prefix_nil.mp hScheme
  rw [hNil] at hOpen
  exact absurd hOpen (by decide)

/-- A rewritten URL passes every check but, perhaps, the one of its length. -/
theorem validateOpenUrl_iff (h : Substitutes url target portMap replaced mapped)
    (hValid : validateOpenUrl url = .ok ()) :
    validateOpenUrl target = .ok () ↔ target.utf8ByteSize ≤ maxUrlLength := by
  obtain ⟨-, -, hControl, -⟩ := validateOpenUrl_eq_ok_iff.mp hValid
  rw [validateOpenUrl_eq_ok_iff]
  exact ⟨fun hTarget => hTarget.2.1, fun hSize => ⟨h.isEmpty, hSize, h.not_control hControl, h.openScheme⟩⟩

end Substitutes

/-- A prepared URL is one that may be opened, rewritten. -/
theorem BrowserOpener.prepare_eq_ok {b : BrowserOpener} {now : Instant} {target : String}
    {command : Option String} (h : (b.prepare url now).2 = .ok (target, command)) :
    validateOpenUrl url = .ok () ∧ target = rewriteUrl url b.portMap := by
  unfold BrowserOpener.prepare at h
  split at h
  case h_1 => cases h
  case h_2 hValid =>
    dsimp only at h
    split_ifs at h
    cases h
    exact ⟨hValid, rfl⟩

/-- The target of a prepared URL passes every check of a URL that may be opened
but, where a port is replaced by a longer one, that of its length. -/
theorem prepare_target (b : BrowserOpener) (url : String) (now : Instant) (target : String)
    (command : Option String) (h : (b.prepare url now).2 = .ok (target, command)) :
    target.isEmpty = false ∧ (∀ c ∈ target.toList, isAsciiControl c = false) ∧
      (∃ scheme ∈ openSchemes, scheme <+: toAsciiLowercase target.toList) ∧
      (validateOpenUrl target = .ok () ↔ target.utf8ByteSize ≤ maxUrlLength) ∧
      (validateOpenUrl target = .ok () ∨ ∃ replaced mapped,
        Substitutes url target b.portMap replaced mapped ∧ mapped.length ≤ replaced.length + 4 ∧
        target.utf8ByteSize + replaced.length = url.utf8ByteSize + mapped.length) := by
  obtain ⟨hValid, rfl⟩ := BrowserOpener.prepare_eq_ok h
  rcases rewriteUrl_substitutes hValid b.portMap with hSame | ⟨replaced, mapped, hTarget⟩
  · obtain ⟨hEmpty, hSize, hControl, hScheme⟩ := validateOpenUrl_eq_ok_iff.mp hValid
    rw [hSame]
    exact ⟨hEmpty, hControl, hScheme, iff_of_true hValid hSize, .inl hValid⟩
  · obtain ⟨-, -, hControl, -⟩ := validateOpenUrl_eq_ok_iff.mp hValid
    exact ⟨hTarget.isEmpty, hTarget.not_control hControl, hTarget.openScheme, hTarget.validateOpenUrl_iff hValid,
      .inr ⟨replaced, mapped, hTarget, hTarget.length_le, hTarget.size⟩⟩

/-- An opener that knows port 80 under another number. -/
def opener80 : BrowserOpener :=
  { BrowserOpener.withCmd none with portMap := Finmap.singleton 80 8080 }

/-- The target of an ordinary URL is one that may be opened. -/
theorem prepare_target_localhost :
    (opener80.prepare "http://localhost:80/" 0).2 = .ok ("http://localhost:8080/", none) ∧
      validateOpenUrl "http://localhost:8080/" = .ok () := by
  have hPrepared : (opener80.prepare "http://localhost:80/" 0).2 = .ok ("http://localhost:8080/", none) := by
    decide
  obtain ⟨-, -, -, hSize, -⟩ :=
    prepare_target opener80 "http://localhost:80/" 0 "http://localhost:8080/" none hPrepared
  exact ⟨hPrepared, hSize.mpr (by decide)⟩

/-- A URL of a port on the local host with a path of some length. -/
def paddedUrl (filler : Nat) (port : UInt16) : List Char :=
  "http".toList ++ "://".toList ++ ("localhost:".toList ++ Nat.toDigits 10 port.toNat ++
    '/' :: List.replicate filler 'a')

theorem size_paddedUrl (filler : Nat) (port : UInt16) :
    byteCount (paddedUrl filler port) = filler + 18 + (Nat.toDigits 10 port.toNat).length := by
  have hDigits := byteCount_of_ascii fun c (hChar : c ∈ Nat.toDigits 10 port.toNat) =>
    utf8Size_of_isDigit (isDigit_of_mem_toDigits c hChar)
  have hPath : byteCount ('/' :: List.replicate filler 'a') = filler + 1 := by
    have hAscii : ∀ c ∈ '/' :: List.replicate filler 'a', c.utf8Size = 1 := by
      intro c hChar
      rcases List.mem_cons.mp hChar with rfl | hRest
      · rfl
      · rw [List.eq_of_mem_replicate hRest]
        rfl
    rw [byteCount_of_ascii hAscii, List.length_cons, List.length_replicate]
  have hScheme : byteCount "http".toList + byteCount "://".toList + byteCount "localhost:".toList = 17 := by
    decide
  unfold paddedUrl
  simp only [byteCount_append, hDigits, hPath]
  omega

theorem notControl_of_any {text : List Char} (h : text.any isAsciiControl = false) :
    ∀ c ∈ text, isAsciiControl c = false := by
  simpa only [List.any_eq_false, Bool.not_eq_true] using h

theorem validateOpenUrl_paddedUrl {filler : Nat} (h : filler ≤ 2028) :
    validateOpenUrl (String.ofList (paddedUrl filler 80)) = .ok () := by
  have hDigits : (Nat.toDigits 10 (80 : UInt16).toNat).length = 2 := by decide
  have hSize := size_paddedUrl filler 80
  rw [← utf8ByteSize_ofList] at hSize
  rw [validateOpenUrl_eq_ok_iff, String.toList_ofList]
  refine ⟨?_, ?_, ?_, "http://".toList, by decide, ?_⟩
  · rw [String.isEmpty_eq_false_iff]
    intro hEmpty
    rw [hEmpty, hDigits, String.utf8ByteSize_empty] at hSize
    omega
  · rw [hSize, hDigits, maxUrlLength]
    omega
  · intro c hChar
    simp only [paddedUrl, List.mem_append, List.mem_cons (a := c)] at hChar
    rcases hChar with (hName | hMark) | (hHost | hDigits) | rfl | hPath
    · exact notControl_of_any (by decide) c hName
    · exact notControl_of_any (by decide) c hMark
    · exact notControl_of_any (by decide) c hHost
    · exact isAsciiControl_of_isDigit (isDigit_of_mem_toDigits c hDigits)
    · rfl
    · rw [List.eq_of_mem_replicate hPath]
      rfl
  · have hScheme : ("http".toList ++ "://".toList).map Char.toLower = "http://".toList := by decide
    rw [paddedUrl, toAsciiLowercase, List.map_append, hScheme]
    exact List.prefix_append _ _

/-- A URL of the greatest length is opened with a longer one in its place. -/
theorem prepare_tooLong : ¬∀ (b : BrowserOpener) (url : String) (now : Instant) (target : String)
    (command : Option String), (b.prepare url now).2 = .ok (target, command) → validateOpenUrl target = .ok () := by
  intro h
  obtain ⟨filler, hFiller⟩ : ∃ filler, filler = 2028 := ⟨2028, rfl⟩
  have hMapped : opener80.portMap.lookup 80 = some 8080 := by decide
  have hTarget : rewriteUrl (String.ofList (paddedUrl filler 80)) opener80.portMap =
      String.ofList (paddedUrl filler 8080) := by
    refine rewriteUrl_localhost hMapped (by decide) ?_
    intro c hChar
    cases hChar
    rfl
  have hPrepared : (opener80.prepare (String.ofList (paddedUrl filler 80)) 0).2 =
      .ok (String.ofList (paddedUrl filler 8080), none) := by
    unfold BrowserOpener.prepare
    rw [validateOpenUrl_paddedUrl hFiller.le, ← hTarget]
    rfl
  have hSize := (validateOpenUrl_eq_ok_iff.mp (h opener80 _ 0 _ none hPrepared)).2.1
  have hDigits : (Nat.toDigits 10 (8080 : UInt16).toNat).length = 4 := by decide
  rw [utf8ByteSize_ofList, size_paddedUrl, hDigits, maxUrlLength] at hSize
  omega

end DevcontainerBridge
