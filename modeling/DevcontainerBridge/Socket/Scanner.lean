import DevcontainerBridge.Host.State
import DevcontainerBridge.Stream.Lossy
import DevcontainerBridge.Files.Tree

/-! The scanner of host sockets. What the globs yield and which of it is a
socket is up to the file system; the scanner decides what is new, what is gone
and where a socket is mirrored. -/
namespace DevcontainerBridge

open Table Stream

/-- Maximum length of a Unix domain socket path. -/
def maxUnixSocketPath : Nat := 108

/-- The byte between two components of a path. -/
def pathSeparator : UInt8 := 47

/-- A path of the host, as `Path::components` splits it. Two paths are equal
when their components are. -/
structure HostPath where
  absolute : Bool
  components : List (List UInt8)
  wellFormed : ∀ component ∈ components, component ≠ [] ∧ pathSeparator ∉ component
  deriving DecidableEq

namespace HostPath

/-- The path as the file system writes it. -/
def bytes (path : HostPath) : List UInt8 :=
  (if path.absolute then [pathSeparator] else []) ++ [pathSeparator].intercalate path.components

def toStringLossy (path : HostPath) : String :=
  fromUtf8Lossy path.bytes

/-- The last component, unless it is `.` or `..`. -/
def fileName (path : HostPath) : Option (List UInt8) :=
  path.components.getLast?.filter fun component => component ≠ [46] && component ≠ [46, 46]

end HostPath

/-- `Path::join` of a directory and a file name that are valid strings. -/
def joinPath (dir name : String) : String :=
  if name.toList.head? = some '/' then name
  else if dir.isEmpty || dir.toList.getLast? = some '/' then dir ++ name
  else dir ++ "/" ++ name

/-- The file name of a mirror under a configured directory. -/
def mirrorName (path : HostPath) : String :=
  (path.fileName.map fromUtf8Lossy).getD ""

/-- Scanner settings and the sockets it knows. The glob patterns are left to
the file system. -/
structure SocketScanner where
  containerPathPrefix : Option String
  maxSocketForwards : Nat
  known : Map HostPath SocketInfo

namespace SocketScanner

def computeContainerPath (scanner : SocketScanner) (path : HostPath) : String :=
  match scanner.containerPathPrefix with
  | some dir => joinPath dir (mirrorName path)
  | none => path.toStringLossy

/-- The keys of `current_paths`, from what the globs yield of sockets. -/
def currentPaths (sockets : List HostPath) : List HostPath :=
  (sockets.filter fun path => path.toStringLossy.utf8ByteSize ≤ maxUnixSocketPath).dedup

/-- A newly discovered socket with a fresh identifier. -/
def describe (scanner : SocketScanner) (uuid : HostPath → String) (path : HostPath) : SocketInfo where
  socketId := uuid path
  hostPath := path.toStringLossy
  containerPath := scanner.computeContainerPath path

/-- The loop over the current paths. It ends at the limit. -/
def discover (uuid : HostPath → String) :
    List HostPath → SocketScanner → List (HostPath × SocketInfo) × SocketScanner
  | [], scanner => ([], scanner)
  | path :: rest, scanner =>
      if path ∈ scanner.known then
        discover uuid rest scanner
      else if scanner.known.keys.card ≥ scanner.maxSocketForwards then
        ([], scanner)
      else
        let info := scanner.describe uuid path
        let (found, scanner) := discover uuid rest { scanner with known := scanner.known.insert path info }
        ((path, info) :: found, scanner)

/-- One scan, for given orders of the current paths and of the known sockets.
It yields the newly found sockets with their paths and the removed ones. -/
def scan (scanner : SocketScanner) (order : List HostPath) (knownOrder : List (Σ _ : HostPath, SocketInfo))
    (uuid : HostPath → String) : List (HostPath × SocketInfo) × List SocketInfo × SocketScanner :=
  let removed := knownOrder.filter fun entry => entry.1 ∉ order
  let known := removed.foldl (fun known entry => known.erase entry.1) scanner.known
  let (found, scanner) := discover uuid order { scanner with known := known }
  (found, removed.map Sigma.snd, scanner)

end SocketScanner

theorem notMem_mirrorName (path : HostPath) : '/' ∉ (mirrorName path).toList := by
  unfold mirrorName
  cases hName : path.fileName with
  | none => simp
  | some name =>
      intro hSlash
      have hByte : pathSeparator ∈ name := mem_of_fromUtf8Lossy (by decide) hSlash
      have hComponent : name ∈ path.components :=
        List.mem_of_getLast? (Option.filter_eq_some_iff.mp hName).1
      exact (path.wellFormed name hComponent).2 hByte

/-- A file name is decoded to one that an entry can have. -/
theorem mirrorName_ne {path : HostPath} (hName : path.fileName.isSome) :
    mirrorName path ≠ "" ∧ mirrorName path ≠ "." := by
  obtain ⟨name, hFile⟩ := Option.isSome_iff_exists.mp hName
  obtain ⟨hLast, hDots⟩ := Option.filter_eq_some_iff.mp hFile
  have hNil := (path.wellFormed name (List.mem_of_getLast? hLast)).1
  have hMirror : mirrorName path = fromUtf8Lossy name := by rw [mirrorName, hFile]; rfl
  -- nothing is replaced in what decodes to ASCII
  have hSame : ∀ text : String, replacement ∉ text.toList → mirrorName path = text → utf8 text = name := by
    intro text hText hMirrored
    rw [hMirror] at hMirrored
    rw [← hMirrored]
    exact utf8_fromUtf8Lossy (hMirrored ▸ hText)
  constructor
  · intro hEmpty
    exact hNil (hSame "" (by decide) hEmpty).symm
  · intro hDot
    have hBytes : [46] = name := hSame "." (by decide) hDot
    rw [← hBytes] at hDots
    cases hDots

/-- A mirror under a directory is an entry of that directory. -/
theorem route_joinPath (dir : String) {name : String} (hNil : name ≠ "") (hHere : name ≠ ".") (hSlash : '/' ∉ name.toList) :
    Files.route (utf8 (joinPath dir name)) = utf8 name :: Files.route (utf8 dir) := by
  have hBytesNil : utf8 name ≠ [] := fun h => hNil (utf8_injective h)
  have hBytesHere : utf8 name ≠ Files.here := fun h => hHere (utf8_injective h)
  have hBytesSlash : Files.slash ∉ utf8 name := fun h => hSlash ((mem_utf8_iff (by decide)).mp h)
  have hRelative : ¬name.toList.head? = some '/' := fun hHead => hSlash (List.mem_of_head? hHead)
  have hSep : utf8 "/" = [Files.slash] := rfl
  unfold joinPath
  rw [if_neg hRelative]
  split_ifs with hEnd
  · rcases Bool.or_eq_true_iff.mp hEnd with hEmpty | hLast
    · obtain rfl := String.isEmpty_iff.mp hEmpty
      rw [String.empty_append, Files.route_name hBytesNil hBytesHere hBytesSlash]
      rfl
    · obtain ⟨start, hStart⟩ := List.getLast?_eq_some_iff.mp (of_decide_eq_true hLast)
      have hDir : dir = String.ofList start ++ "/" := by
        apply String.toList_inj.mp
        rw [hStart, String.toList_append, String.toList_ofList]
        rfl
      rw [hDir, utf8_append, utf8_append, hSep, List.append_assoc, List.singleton_append, Files.route_slash,
        Files.route_append_slash _ hBytesNil hBytesHere hBytesSlash]
  · rw [utf8_append, utf8_append, hSep, List.append_assoc, List.singleton_append,
      Files.route_append_slash _ hBytesNil hBytesHere hBytesSlash]

namespace SocketScanner

variable {scanner : SocketScanner} {uuid : HostPath → String} {path other : HostPath} {info : SocketInfo}
  {order : List HostPath}

theorem discover_settings :
    (discover uuid order scanner).2.containerPathPrefix = scanner.containerPathPrefix := by
  induction order generalizing scanner with
  | nil => rfl
  | cons first rest ih =>
      rw [discover]
      split_ifs
      · exact ih
      · rfl
      · exact ih

theorem mem_of_discover (h : (path, info) ∈ (discover uuid order scanner).1) :
    path ∈ order ∧ info.containerPath = scanner.computeContainerPath path := by
  induction order generalizing scanner with
  | nil => cases h
  | cons first rest ih =>
      rw [discover] at h
      split_ifs at h
      · obtain ⟨hRest, hInfo⟩ := ih h
        exact ⟨List.mem_cons_of_mem first hRest, hInfo⟩
      · cases h
      · rcases List.mem_cons.mp h with hHere | hLater
        · cases hHere
          exact ⟨List.mem_cons_self, rfl⟩
        · obtain ⟨hRest, hInfo⟩ := ih hLater
          exact ⟨List.mem_cons_of_mem first hRest, hInfo⟩

theorem known_discover (h : (discover uuid order scanner).2.known.lookup path = some info) :
    scanner.known.lookup path = some info ∨ (path, info) ∈ (discover uuid order scanner).1 := by
  induction order generalizing scanner with
  | nil => exact .inl h
  | cons first rest ih =>
      rw [discover] at h ⊢
      split_ifs at h ⊢
      · exact ih h
      · exact .inl h
      · rcases ih h with hKnown | hFound
        · rw [lookup_insert] at hKnown
          split_ifs at hKnown with hHere
          · cases hKnown
            rw [hHere]
            exact .inr List.mem_cons_self
          · exact .inl hKnown
        · exact .inr (List.mem_cons_of_mem _ hFound)

theorem lookup_foldl_erase_of_some {entries : List (Σ _ : HostPath, SocketInfo)} {known : Map HostPath SocketInfo}
    (h : (entries.foldl (fun known entry => known.erase entry.1) known).lookup path = some info) :
    known.lookup path = some info := by
  induction entries generalizing known with
  | nil => exact h
  | cons entry entries ih =>
      have hErased := ih h
      rw [lookup_erase] at hErased
      split_ifs at hErased
      exact hErased

theorem computeContainerPath_congr {after : SocketScanner}
    (h : after.containerPathPrefix = scanner.containerPathPrefix) (path : HostPath) :
    after.computeContainerPath path = scanner.computeContainerPath path := by
  unfold computeContainerPath
  rw [h]

/-- What a scan finds and what the scanner knows after it. -/
structure Scanned (scanner : SocketScanner) (order : List HostPath) (found : List (HostPath × SocketInfo))
    (after : SocketScanner) : Prop where
  settings : after.containerPathPrefix = scanner.containerPathPrefix
  listed : ∀ path info, (path, info) ∈ found →
    path ∈ order ∧ info.containerPath = scanner.computeContainerPath path
  known : ∀ path info, after.known.lookup path = some info →
    scanner.known.lookup path = some info ∨ (path, info) ∈ found

theorem scan_scanned {knownOrder : List (Σ _ : HostPath, SocketInfo)} {found : List (HostPath × SocketInfo)}
    {removed : List SocketInfo} {after : SocketScanner}
    (h : scanner.scan order knownOrder uuid = (found, removed, after)) : Scanned scanner order found after := by
  cases h
  refine ⟨discover_settings, fun path info hFound => ?_, fun path info hKnown => ?_⟩
  · obtain ⟨hOrder, hPath⟩ := mem_of_discover hFound
    exact ⟨hOrder, hPath⟩
  · rcases known_discover hKnown with hBefore | hFound
    · exact .inl (lookup_foldl_erase_of_some hBefore)
    · exact .inr hFound

end SocketScanner
end DevcontainerBridge
