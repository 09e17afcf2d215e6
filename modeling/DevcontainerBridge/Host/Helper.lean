import DevcontainerBridge.Host.Capture

/-! A helper process that reads the host clipboard. Its two pipes are read at
the same time, each up to a limit, until both are at their end and the process
has exited, or until the deadline. -/
namespace DevcontainerBridge

open Stream

def maxStderrBytes : Nat := 4096

/-- An I/O error by its text, and whether its kind is `NotFound`. The texts of
the system are short ASCII. -/
structure IoError where
  notFound : Bool
  text : String
  ascii : IsAscii (utf8 text)
  short : text.utf8ByteSize ≤ 1024
  deriving DecidableEq, Repr

/-- Everything that reading the clipboard can fail with. -/
inductive CaptureFailure where
  | unavailable
  | mixedSelection
  | timeout
  | tooLarge
  | io (error : IoError)
  deriving DecidableEq, Repr

inductive Pipe where
  | stdout
  | stderr
  deriving DecidableEq, Repr

/-- What `run_helper` learns about the process before the deadline. -/
inductive HelperEvent where
  | read (pipe : Pipe) (bytes : List UInt8)
  | ended (pipe : Pipe)
  | failed (pipe : Pipe) (error : IoError)
  | exited (success : Bool)
  | waitFailed (error : IoError)
  deriving DecidableEq, Repr

/-- A call of `read_bounded` and what it has read. -/
structure BoundedReader where
  bytes : List UInt8
  ended : Bool
  deriving DecidableEq, Repr

/-- What `read_bounded` holds behind one more read: it reads no further than one
byte over the limit. -/
def BoundedReader.taken (limit : Nat) (reader : BoundedReader) (bytes : List UInt8) : List UInt8 :=
  reader.bytes ++ bytes.take (limit + 1 - reader.bytes.length)

/-- One read of `read_bounded`. -/
def BoundedReader.read (limit : Nat) (reader : BoundedReader) (bytes : List UInt8) :
    Except CaptureFailure BoundedReader :=
  let bytes := reader.taken limit bytes
  if bytes.length > limit then .error .tooLarge else .ok { reader with bytes }

structure HelperState where
  readers : Pipe → BoundedReader
  status : Option Bool

namespace HelperState

def setReader (state : HelperState) (pipe : Pipe) (reader : BoundedReader) : HelperState :=
  { state with readers := Function.update state.readers pipe reader }

def start : HelperState where
  readers := fun _ => { bytes := [], ended := false }
  status := none

variable (limit : Nat)

/-- The limit of `run_helper` for each pipe. -/
def pipeLimit : Pipe → Nat
  | .stdout => limit
  | .stderr => maxStderrBytes

/-- The first error ends all three futures of `try_join!`. -/
def next (state : HelperState) : HelperEvent → Except CaptureFailure HelperState
  | .read pipe bytes =>
      match (state.readers pipe).read (pipeLimit limit pipe) bytes with
      | .error e => .error e
      | .ok reader => .ok (state.setReader pipe reader)
  | .ended pipe => .ok (state.setReader pipe { state.readers pipe with ended := true })
  | .exited success => .ok { state with status := some success }
  | .failed _ error => .error (.io error)
  | .waitFailed error => .error (.io error)

/-- The end of `run_helper`, once all three futures are ready. -/
def finish (state : HelperState) : Option (Except CaptureFailure (List UInt8)) :=
  if (state.readers .stdout).ended && (state.readers .stderr).ended then
    state.status.map fun success => if success then .ok (state.readers .stdout).bytes else .error .unavailable
  else
    none

/-- What has not happened when the events are over has not met the deadline. -/
def run (state : HelperState) : List HelperEvent → Except CaptureFailure (List UInt8)
  | [] => state.finish.getD (.error .timeout)
  | event :: events =>
      match state.finish with
      | some result => result
      | none =>
          match state.next limit event with
          | .error e => .error e
          | .ok state => state.run events

/-- The state behind some events, while none of them ends the run. -/
def after (state : HelperState) : List HelperEvent → Except CaptureFailure HelperState
  | [] => .ok state
  | event :: events =>
      match state.next limit event with
      | .error e => .error e
      | .ok state => state.after events

end HelperState

/-- `run_helper` of a process that was spawned. -/
def runHelper (limit : Nat) (events : List HelperEvent) : Except CaptureFailure (List UInt8) :=
  HelperState.start.run limit events

namespace HelperEvent

/-- What a pipe delivers. -/
def on (pipe : Pipe) : HelperEvent → List UInt8
  | .read other bytes => if other = pipe then bytes else []
  | _ => []

def written (pipe : Pipe) (events : List HelperEvent) : List UInt8 := events.flatMap (on pipe)

def exitOf : HelperEvent → Option Bool
  | .exited success => some success
  | _ => none

def exit (events : List HelperEvent) : Option Bool := events.findSome? exitOf

/-- The process can be read and waited for. -/
def works : HelperEvent → Bool
  | .failed .. | .waitFailed _ => false
  | _ => true

/-- Nothing comes from a pipe behind its end, and a process exits once. -/
def precludes : HelperEvent → HelperEvent → Bool
  | .ended pipe, .read other _ | .ended pipe, .ended other => pipe = other
  | .exited _, .exited _ => true
  | _, _ => false

end HelperEvent

open HelperEvent

/-- What a helper comes to by all that its pipes deliver, by the ends that are
reached and by its exit. -/
def judge (limit : Nat) (output : Pipe → List UInt8) (closed : Pipe → Bool) (exit : Option Bool) :
    Except CaptureFailure (List UInt8) :=
  if limit < (output .stdout).length ∨ maxStderrBytes < (output .stderr).length then .error .tooLarge
  else
    match closed .stdout && closed .stderr, exit with
    | true, some true => .ok (output .stdout)
    | true, some false => .error .unavailable
    | _, _ => .error .timeout

namespace HelperState

variable (state : HelperState) (events : List HelperEvent)

def output (pipe : Pipe) : List UInt8 := (state.readers pipe).bytes ++ written pipe events

def closed (pipe : Pipe) : Bool := (state.readers pipe).ended || decide (.ended pipe ∈ events)

def exit (state : HelperState) (events : List HelperEvent) : Option Bool :=
  state.status.or (HelperEvent.exit events)

def verdict (limit : Nat) : Except CaptureFailure (List UInt8) :=
  judge limit (state.output events) (state.closed events) (state.exit events)

end HelperState

/-- The state has not seen what precludes one of the events. -/
structure HelperState.Open (state : HelperState) (events : List HelperEvent) : Prop where
  read : ∀ pipe bytes, .read pipe bytes ∈ events → (state.readers pipe).ended = false
  ended : ∀ pipe, .ended pipe ∈ events → (state.readers pipe).ended = false
  exited : ∀ success, .exited success ∈ events → state.status = none

variable {limit : Nat} {state after : HelperState} {event : HelperEvent} {events : List HelperEvent}

/-- A read takes everything, or there is too much. -/
theorem BoundedReader.read_cases (limit : Nat) (reader : BoundedReader) (bytes : List UInt8) :
    (reader.bytes ++ bytes).length ≤ limit ∧
        reader.read limit bytes = .ok { reader with bytes := reader.bytes ++ bytes } ∨
      limit < (reader.bytes ++ bytes).length ∧ reader.read limit bytes = .error .tooLarge := by
  unfold BoundedReader.read BoundedReader.taken
  dsimp only
  rw [List.length_append, List.length_append, List.length_take]
  by_cases hFits : reader.bytes.length + bytes.length ≤ limit
  · have hAll : bytes.take (limit + 1 - reader.bytes.length) = bytes := List.take_of_length_le (by omega)
    exact .inl ⟨hFits, by rw [if_neg (by omega), hAll]⟩
  · exact .inr ⟨by omega, if_pos (by omega)⟩

/-- Also a read that fails holds one byte over the limit at most. -/
theorem BoundedReader.length_taken_le {limit : Nat} {reader : BoundedReader} (h : reader.bytes.length ≤ limit)
    (bytes : List UInt8) : (reader.taken limit bytes).length ≤ limit + 1 := by
  have hTaken : (bytes.take (limit + 1 - reader.bytes.length)).length ≤ limit + 1 - reader.bytes.length :=
    List.length_take_le ..
  rw [taken, List.length_append]
  omega

namespace HelperState

@[simp] theorem readers_setReader_self (state : HelperState) (pipe : Pipe) (reader : BoundedReader) :
    (state.setReader pipe reader).readers pipe = reader :=
  Function.update_self ..

theorem readers_setReader_of_ne {pipe other : Pipe} (h : other ≠ pipe) (state : HelperState) (reader : BoundedReader) :
    (state.setReader pipe reader).readers other = state.readers other :=
  Function.update_of_ne h ..

/-- What an event does that is no failure of the process. -/
inductive Next (limit : Nat) (state : HelperState) : HelperEvent → Except CaptureFailure HelperState → Prop where
  | taken {pipe : Pipe} {bytes : List UInt8}
      (hFits : ((state.readers pipe).bytes ++ bytes).length ≤ pipeLimit limit pipe) :
      Next limit state (.read pipe bytes)
        (.ok (state.setReader pipe { state.readers pipe with bytes := (state.readers pipe).bytes ++ bytes }))
  | overflowed {pipe : Pipe} {bytes : List UInt8}
      (hLarge : pipeLimit limit pipe < ((state.readers pipe).bytes ++ bytes).length) :
      Next limit state (.read pipe bytes) (.error .tooLarge)
  | ended {pipe : Pipe} :
      Next limit state (.ended pipe) (.ok (state.setReader pipe { state.readers pipe with ended := true }))
  | exited {success : Bool} : Next limit state (.exited success) (.ok { state with status := some success })

theorem next_cases (h : event.works = true) : Next limit state event (state.next limit event) := by
  cases event with
  | read pipe bytes =>
      rcases (state.readers pipe).read_cases (pipeLimit limit pipe) bytes with ⟨hFits, hRead⟩ | ⟨hLarge, hRead⟩
      · rw [next, hRead]
        exact .taken hFits
      · rw [next, hRead]
        exact .overflowed hLarge
  | ended pipe => exact .ended
  | exited success => exact .exited
  | failed pipe error => cases h
  | waitFailed error => cases h

/-- No more is held of a pipe than may be. -/
def Bounded (limit : Nat) (state : HelperState) : Prop :=
  ∀ pipe, (state.readers pipe).bytes.length ≤ pipeLimit limit pipe

theorem start_bounded (limit : Nat) : start.Bounded limit := fun _ => Nat.zero_le _

theorem Bounded.setReader {pipe : Pipe} {reader : BoundedReader} (h : state.Bounded limit)
    (hReader : reader.bytes.length ≤ pipeLimit limit pipe) : (state.setReader pipe reader).Bounded limit := by
  intro other
  by_cases hSame : other = pipe
  · subst hSame
    rw [readers_setReader_self]
    exact hReader
  · rw [readers_setReader_of_ne hSame]
    exact h other

theorem Bounded.next (h : state.Bounded limit) (hNext : state.next limit event = .ok after) : after.Bounded limit := by
  have hWorks : event.works = true := by
    cases event <;> first | rfl | cases hNext
  have hCase : Next limit state event (.ok after) := hNext ▸ next_cases hWorks
  cases hCase with
  | taken hFits => exact h.setReader hFits
  | ended => exact h.setReader (h _)
  | exited => exact h

theorem after_bounded (h : state.Bounded limit) (hAfter : state.after limit events = .ok after) :
    after.Bounded limit := by
  induction events generalizing state with
  | nil =>
      cases hAfter
      exact h
  | cons event events ih =>
      unfold HelperState.after at hAfter
      split at hAfter
      case h_1 => cases hAfter
      case h_2 middle hNext => exact ih (h.next hNext) hAfter

theorem Open.tail (h : state.Open (event :: events)) : state.Open events where
  read pipe bytes hMem := h.read pipe bytes (List.mem_cons_of_mem event hMem)
  ended pipe hMem := h.ended pipe (List.mem_cons_of_mem event hMem)
  exited success hMem := h.exited success (List.mem_cons_of_mem event hMem)

/-- Where the run is finished, nothing is left that could happen. -/
theorem Open.finish_eq (h : state.Open (event :: events)) (hWorks : event.works = true) : state.finish = none := by
  cases hFinish : state.finish with
  | none => rfl
  | some result =>
      unfold finish at hFinish
      split_ifs at hFinish with hEnded
      obtain ⟨hStdout, hStderr⟩ := Bool.and_eq_true_iff.mp hEnded
      obtain ⟨success, hStatus, -⟩ := Option.map_eq_some_iff.mp hFinish
      have hAll : ∀ pipe, (state.readers pipe).ended = true := by
        intro pipe
        cases pipe <;> assumption
      cases event with
      | read pipe bytes => exact absurd (hAll pipe) (by simp [h.read pipe bytes List.mem_cons_self])
      | ended pipe => exact absurd (hAll pipe) (by simp [h.ended pipe List.mem_cons_self])
      | exited success => exact absurd hStatus (by simp [h.exited success List.mem_cons_self])
      | failed pipe error => cases hWorks
      | waitFailed error => cases hWorks

theorem verdict_nil (h : state.Bounded limit) : state.verdict [] limit = state.finish.getD (.error .timeout) := by
  have hStdout : (state.readers .stdout).bytes.length ≤ limit := h .stdout
  have hStderr : (state.readers .stderr).bytes.length ≤ maxStderrBytes := h .stderr
  have hOutput : ∀ pipe, state.output [] pipe = (state.readers pipe).bytes := fun pipe => List.append_nil _
  have hClosed : ∀ pipe, state.closed [] pipe = (state.readers pipe).ended := fun pipe => by simp [closed]
  have hExit : state.exit [] = state.status := by simp [exit, HelperEvent.exit]
  unfold verdict judge finish
  rw [hOutput, hOutput, hClosed, hClosed, hExit, if_neg (by omega)]
  cases hEnded : (state.readers .stdout).ended && (state.readers .stderr).ended with
  | false => rfl
  | true =>
      cases state.status with
      | none => rfl
      | some success => cases success <;> rfl

/-- An event that is taken in changes nothing of the verdict. -/
theorem verdict_next (hOpen : state.Open (event :: events)) (h : Next limit state event (.ok after)) :
    state.verdict (event :: events) limit = after.verdict events limit := by
  have hSame : (∀ pipe, state.output (event :: events) pipe = after.output events pipe) ∧
      (∀ pipe, state.closed (event :: events) pipe = after.closed events pipe) ∧
      state.exit (event :: events) = after.exit events := by
    cases h with
    | @taken pipe bytes hFits =>
        refine ⟨fun other => ?_, fun other => ?_, rfl⟩
        · by_cases hPipe : other = pipe
          · subst hPipe
            simp [output, written, on]
          · simp [output, written, on, readers_setReader_of_ne hPipe, Ne.symm hPipe]
        · by_cases hPipe : other = pipe
          · subst hPipe
            simp [closed]
          · simp [closed, readers_setReader_of_ne hPipe]
    | @ended pipe =>
        refine ⟨fun other => ?_, fun other => ?_, rfl⟩
        · by_cases hPipe : other = pipe
          · subst hPipe
            simp [output, written, on]
          · simp [output, written, on, readers_setReader_of_ne hPipe]
        · by_cases hPipe : other = pipe
          · subst hPipe
            simp [closed]
          · simp [closed, readers_setReader_of_ne hPipe, hPipe]
    | @exited success =>
        refine ⟨fun other => rfl, fun other => by simp [closed], ?_⟩
        rw [exit, hOpen.exited success List.mem_cons_self]
        rfl
  unfold verdict
  rw [funext hSame.1, funext hSame.2.1, hSame.2.2]

/-- What was seen precludes nothing of what comes. -/
theorem Open.next (hOpen : state.Open (event :: events))
    (hOrder : ∀ later ∈ events, event.precludes later = false) (h : Next limit state event (.ok after)) :
    after.Open events := by
  have hTail := hOpen.tail
  cases h with
  | @taken pipe bytes hFits =>
      have hEnded : ∀ other, ((state.setReader pipe { state.readers pipe with
          bytes := (state.readers pipe).bytes ++ bytes }).readers other).ended = (state.readers other).ended := by
        intro other
        by_cases hPipe : other = pipe
        · subst hPipe
          rw [readers_setReader_self]
        · rw [readers_setReader_of_ne hPipe]
      exact {
        read := fun other bytes hMem => (hEnded other).trans (hTail.read other bytes hMem)
        ended := fun other hMem => (hEnded other).trans (hTail.ended other hMem)
        exited := hTail.exited }
  | @ended pipe =>
      have hOther : ∀ other, other ≠ pipe → ((state.setReader pipe { state.readers pipe with
          ended := true }).readers other).ended = (state.readers other).ended := by
        intro other hPipe
        rw [readers_setReader_of_ne hPipe]
      refine { read := fun other bytes hMem => ?_, ended := fun other hMem => ?_, exited := hTail.exited }
      · have hPipe : other ≠ pipe := by
          have hLater := hOrder _ hMem
          simpa [precludes, eq_comm] using hLater
        exact (hOther other hPipe).trans (hTail.read other bytes hMem)
      · have hPipe : other ≠ pipe := by
          have hLater := hOrder _ hMem
          simpa [precludes, eq_comm] using hLater
        exact (hOther other hPipe).trans (hTail.ended other hMem)
  | @exited success =>
      refine { read := hTail.read, ended := hTail.ended, exited := fun other hMem => ?_ }
      have hLater := hOrder _ hMem
      cases hLater

theorem verdict_overflowed (h : Next limit state event (.error .tooLarge)) :
    state.verdict (event :: events) limit = .error .tooLarge := by
  cases h with
  | @overflowed pipe bytes hLarge =>
      have hAll : pipeLimit limit pipe < (state.output (.read pipe bytes :: events) pipe).length := by
        simp only [output, written, on, List.flatMap_cons, List.length_append, if_true] at hLarge ⊢
        omega
      unfold verdict judge
      rw [if_pos]
      cases pipe with
      | stdout => exact .inl hAll
      | stderr => exact .inr hAll

theorem run_eq_verdict (hBounded : state.Bounded limit) (hOpen : state.Open events)
    (hWorks : ∀ event ∈ events, event.works = true)
    (hOrder : events.Pairwise fun first second => first.precludes second = false) :
    state.run limit events = state.verdict events limit := by
  induction events generalizing state with
  | nil => exact (verdict_nil hBounded).symm
  | cons event events ih =>
      have hEvent := hWorks event List.mem_cons_self
      have hRest := fun other hOther => hWorks other (List.mem_cons_of_mem event hOther)
      obtain ⟨hFirst, hLater⟩ := List.pairwise_cons.mp hOrder
      have hCase : Next limit state event (state.next limit event) := next_cases hEvent
      unfold run
      rw [hOpen.finish_eq hEvent]
      dsimp only
      cases hNext : state.next limit event with
      | error e =>
          rw [hNext] at hCase
          obtain rfl : e = .tooLarge := by cases hCase; rfl
          exact (verdict_overflowed hCase).symm
      | ok middle =>
          rw [hNext] at hCase
          dsimp only
          rw [ih (hBounded.next hNext) (hOpen.next hFirst hCase) hRest hLater]
          exact (verdict_next hOpen hCase).symm

/-- What a run returns is no longer than the limit of the output. -/
theorem length_of_run_eq_ok {bytes : List UInt8} (hBounded : state.Bounded limit)
    (h : state.run limit events = .ok bytes) : bytes.length ≤ limit := by
  have hFinish : ∀ {state : HelperState} {result}, state.Bounded limit → state.finish = some result →
      result = .ok bytes → bytes.length ≤ limit := by
    rintro state result hBounded hFinish rfl
    unfold finish at hFinish
    split_ifs at hFinish
    obtain ⟨success, -, hResult⟩ := Option.map_eq_some_iff.mp hFinish
    cases success <;> cases hResult
    exact hBounded .stdout
  induction events generalizing state with
  | nil =>
      unfold run at h
      cases hDone : state.finish with
      | none =>
          rw [hDone] at h
          cases h
      | some result =>
          rw [hDone] at h
          exact hFinish hBounded hDone h
  | cons event events ih =>
      unfold run at h
      split at h
      case h_1 result hDone => exact hFinish hBounded hDone h
      case h_2 =>
        split at h
        case h_1 => cases h
        case h_2 middle hNext => exact ih (hBounded.next hNext) h

end HelperState

theorem length_of_runHelper_eq_ok {bytes : List UInt8} (h : runHelper limit events = .ok bytes) :
    bytes.length ≤ limit :=
  HelperState.length_of_run_eq_ok (HelperState.start_bounded limit) h

/-- What a helper comes to depends on what each pipe delivers, on the ends that
are reached and on its exit, and not on how the output is cut and in which
order it is read; and no read, the one that fails included, holds more of its
pipe than one byte over the limit. -/
theorem runHelper_eq_judge (limit : Nat) (events : List HelperEvent) (hWorks : ∀ event ∈ events, event.works = true)
    (hOrder : events.Pairwise fun first second => first.precludes second = false) :
    runHelper limit events =
        judge limit (fun pipe => written pipe events) (fun pipe => decide (.ended pipe ∈ events)) (exit events) ∧
      ∀ before state, before <+: events → HelperState.start.after limit before = .ok state →
        (∀ pipe, (state.readers pipe).bytes.length ≤ HelperState.pipeLimit limit pipe) ∧
          ∀ pipe bytes, before ++ [.read pipe bytes] <+: events →
            ((state.readers pipe).taken (HelperState.pipeLimit limit pipe) bytes).length ≤
              HelperState.pipeLimit limit pipe + 1 := by
  have hOpen : HelperState.start.Open events :=
    { read := fun _ _ _ => rfl, ended := fun _ _ => rfl, exited := fun _ _ => rfl }
  constructor
  · rw [runHelper, HelperState.run_eq_verdict (HelperState.start_bounded limit) hOpen hWorks hOrder]
    rfl
  · intro before state _ hAfter
    have hBounded : state.Bounded limit := HelperState.after_bounded (HelperState.start_bounded limit) hAfter
    exact ⟨hBounded, fun pipe bytes _ => BoundedReader.length_taken_le (hBounded pipe) bytes⟩

/-- A helper that writes an image in two pieces, with a warning in between. -/
def chattyHelper : List HelperEvent :=
  [.read .stdout [0xFF, 0xD8], .read .stderr [0x21], .exited true, .read .stdout [0xFF], .ended .stderr, .ended .stdout]

theorem runHelper_eq_judge_chatty :
    runHelper 3 chattyHelper = judge 3 (fun pipe => written pipe chattyHelper)
        (fun pipe => decide (.ended pipe ∈ chattyHelper)) (exit chattyHelper) ∧
      runHelper 3 chattyHelper = .ok [0xFF, 0xD8, 0xFF] ∧ runHelper 2 chattyHelper = .error .tooLarge :=
  ⟨(runHelper_eq_judge 3 chattyHelper (by decide) (by decide)).1, rfl, rfl⟩

end DevcontainerBridge
