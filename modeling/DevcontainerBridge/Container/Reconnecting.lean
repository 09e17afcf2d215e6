import DevcontainerBridge.Container.Forwarding
import DevcontainerBridge.Transition.Backoff

/-! The pace at which the container daemon reconnects. Its delay doubles with
each wait and is reset by a registration. -/
namespace DevcontainerBridge

open Transition

/-- The first delay, in milliseconds. -/
def initialBackoff : Nat := 100

/-- The longest delay, in milliseconds. -/
def maxBackoff : Nat := 5000

/-- The container daemon with the backoff of its reconnection loop. -/
structure PacedDaemon where
  daemon : ContainerDaemon
  backoff : Backoff

namespace PacedDaemon

def start : PacedDaemon where
  daemon := .start
  backoff := .new initialBackoff maxBackoff

/-- The delay has passed, and no shutdown has cut it short. -/
def waits (s : PacedDaemon) (input : SessionInput) : Bool :=
  match s.daemon.position, input with
  | .backingOff, .waited false => true
  | _, _ => false

/-- The host has accepted the registration. -/
def registers (s : PacedDaemon) (input : SessionInput) : Bool :=
  match s.daemon.position, input with
  | .awaitingAck, .receive (.registerAck true) => true
  | _, _ => false

/-- One step of the daemon. -/
def step (cfg : ContainerConfig) (s : PacedDaemon) (input : SessionInput) : Option PacedDaemon :=
  (s.daemon.step cfg input).map fun daemon =>
    { daemon
      backoff :=
        if s.waits input then s.backoff.escalate
        else if s.registers input then s.backoff.reset
        else s.backoff }

/-- An attempt to connect. -/
def attempts : SessionInput → Bool
  | .connected _ => true
  | _ => false

/-- How often the daemon has waited since it was registered last. -/
def failures (trace : List (PacedDaemon × SessionInput)) : Nat :=
  trace.foldl (fun count entry =>
    if entry.1.waits entry.2 then count + 1 else if entry.1.registers entry.2 then 0 else count) 0

def waitCount (trace : List (PacedDaemon × SessionInput)) : Nat :=
  trace.countP fun entry => entry.1.waits entry.2

def attemptCount (trace : List (PacedDaemon × SessionInput)) : Nat :=
  trace.countP fun entry => attempts entry.2

/-- The time that the daemon has spent in its delays, in milliseconds. -/
def slept (trace : List (PacedDaemon × SessionInput)) : Nat :=
  trace.foldl (fun time entry => if entry.1.waits entry.2 then time + entry.1.backoff.current else time) 0

end PacedDaemon

variable {cfg : ContainerConfig} {c next : ContainerDaemon} {s middle finish : PacedDaemon} {input : SessionInput}
  {before trace : List (PacedDaemon × SessionInput)}

/-- Positions in which the daemon is about to connect. -/
def Position.isConnecting : Position → Bool
  | .connecting => true
  | _ => false

namespace ContainerDaemon

theorem isConnecting_stepRun (h : c.stepRun c.position input = some next) :
    (next.position.isConnecting = true ↔ c.position = .backingOff ∧ input = .waited false) ∧
      (c.position.isConnecting = true ↔ PacedDaemon.attempts input = true) := by
  unfold stepRun at h
  split at h
  case h_1 ok hPosition => cases ok <;> cases h <;> simp [hPosition, moveTo, Position.isConnecting, PacedDaemon.attempts]
  case h_2 ok hPosition => cases ok <;> cases h <;> simp [hPosition, moveTo, Position.isConnecting, PacedDaemon.attempts]
  case h_3 message hPosition =>
    cases h
    simp only [hPosition, moveTo]
    cases message with
    | registerAck success => cases success <;> simp [Position.isConnecting, PacedDaemon.attempts]
    | _ => simp [Position.isConnecting, PacedDaemon.attempts]
  case h_4 hPosition =>
    cases h
    simp [hPosition, moveTo, Position.isConnecting, PacedDaemon.attempts]
  case h_5 isShutdown hPosition =>
    cases isShutdown <;> cases h <;> simp [hPosition, moveTo, Position.isConnecting, PacedDaemon.attempts]
  case h_6 order hPosition =>
    split_ifs at h
    cases h
    simp [hPosition, moveTo, Position.isConnecting, PacedDaemon.attempts]
  case h_7 entry rest ok hPosition =>
    cases ok <;> cases h <;> simp [hPosition, moveTo, record, Position.isConnecting, PacedDaemon.attempts]
  case h_8 hPosition =>
    cases h
    simp [hPosition, moveTo, Position.isConnecting, PacedDaemon.attempts]
  case h_9 => cases h

theorem isConnecting_stepScan (h : c.stepScan c.position input = some next) :
    next.position.isConnecting = false ∧ c.position.isConnecting = false ∧ PacedDaemon.attempts input = false ∧
      c.position ≠ .backingOff := by
  unfold stepScan at h
  split at h
  case h_1 scan entry rest hPosition =>
    split_ifs at h
    cases h
    simp [hPosition, moveTo, Position.isConnecting, PacedDaemon.attempts]
  case h_2 scan entry rest ok hPosition =>
    split_ifs at h <;> cases h <;> simp [hPosition, moveTo, Position.isConnecting, PacedDaemon.attempts]
  case h_3 scan port rest ok hPosition =>
    split_ifs at h <;> cases h <;> simp [hPosition, moveTo, Position.isConnecting, PacedDaemon.attempts]
  case h_4 scan hPosition =>
    cases h
    simp [hPosition, moveTo, Position.isConnecting, PacedDaemon.attempts]
  case h_5 => cases h

theorem isConnecting_stepSession (h : c.stepSession cfg c.position input = some next) :
    next.position.isConnecting = false ∧ c.position.isConnecting = false ∧ PacedDaemon.attempts input = false ∧
      c.position ≠ .backingOff := by
  have handled (message : Message) (hPosition : c.position = .loopHead) :
      (c.handleMessage message).position.isConnecting = false := by
    unfold handleMessage
    split <;> simp [moveTo, record, hPosition, Position.isConnecting]
  unfold stepSession at h
  split at h
  case h_3 message hPosition =>
    cases h
    exact ⟨handled message hPosition, by simp [hPosition, Position.isConnecting], rfl, by simp [hPosition]⟩
  case h_1 hPosition =>
    split_ifs at h
    cases h
    simp [hPosition, moveTo, Position.isConnecting, PacedDaemon.attempts]
  case h_6 hPosition =>
    split_ifs at h
    cases h
    simp [hPosition, moveTo, Position.isConnecting, PacedDaemon.attempts]
  case h_7 hPosition =>
    split_ifs at h
    cases h
    simp [hPosition, moveTo, Position.isConnecting, PacedDaemon.attempts]
  case h_8 ok hPosition => cases ok <;> cases h <;> simp [hPosition, moveTo, Position.isConnecting, PacedDaemon.attempts]
  case h_9 relay ok hPosition =>
    cases ok <;> cases h <;> simp [hPosition, moveTo, Position.isConnecting, PacedDaemon.attempts]
  case h_12 => cases h
  all_goals
    rename_i hPosition
    cases h
    simp [hPosition, moveTo, Position.isConnecting, PacedDaemon.attempts]

end ContainerDaemon

namespace PacedDaemon

theorem waits_iff : s.waits input = true ↔ s.daemon.position = .backingOff ∧ input = .waited false := by
  unfold waits
  split
  case h_1 hPosition => simp [hPosition]
  case h_2 hOther => simpa using hOther

/-- The daemon is about to connect where it has waited, and connects from
there. -/
theorem step_pace (h : s.step cfg input = some finish) :
    (finish.daemon.position.isConnecting = true ↔ s.waits input = true) ∧
      (s.daemon.position.isConnecting = true ↔ attempts input = true) := by
  obtain ⟨daemon, hStep, rfl⟩ := Option.map_eq_some_iff.mp h
  dsimp only
  rw [waits_iff]
  rcases ContainerDaemon.step_cases hStep with hRun | hScan | hSession
  · exact ContainerDaemon.isConnecting_stepRun hRun
  · obtain ⟨hAfter, hBefore, hAttempt, hPosition⟩ := ContainerDaemon.isConnecting_stepScan hScan
    simp [hAfter, hBefore, hAttempt, hPosition]
  · obtain ⟨hAfter, hBefore, hAttempt, hPosition⟩ := ContainerDaemon.isConnecting_stepSession hSession
    simp [hAfter, hBefore, hAttempt, hPosition]

theorem failures_concat (trace : List (PacedDaemon × SessionInput)) (s : PacedDaemon) (input : SessionInput) :
    failures (trace ++ [(s, input)]) =
      if s.waits input then failures trace + 1 else if s.registers input then 0 else failures trace := by
  simp [failures, List.foldl_append]

/-- The delay follows from the waits since the last registration. -/
theorem backoff_eq (run : Run (step cfg) start trace s) :
    s.backoff = .after initialBackoff maxBackoff (failures trace) := by
  have hOrder : initialBackoff ≤ maxBackoff := by decide
  induction run with
  | refl => exact (Backoff.after_zero hOrder).symm
  | @tail trace middle finish input prior last ih =>
      obtain ⟨daemon, -, rfl⟩ := Option.map_eq_some_iff.mp last
      rw [failures_concat, ih]
      dsimp only
      split_ifs
      · exact Backoff.escalate_after
      · exact Backoff.reset_after hOrder
      · rfl

/-- Each attempt but the first follows on a wait. -/
theorem attemptCount_add (run : Run (step cfg) middle trace finish) :
    attemptCount trace + finish.daemon.position.isConnecting.toNat =
      waitCount trace + middle.daemon.position.isConnecting.toNat := by
  induction run with
  | refl => rfl
  | @tail trace s finish input prior last ih =>
      obtain ⟨hAfter, hBefore⟩ := step_pace last
      have hWaits : s.waits input = finish.daemon.position.isConnecting := Bool.eq_iff_iff.mpr hAfter.symm
      have hAttempts : attempts input = s.daemon.position.isConnecting := Bool.eq_iff_iff.mpr hBefore.symm
      have hBit : ∀ bit : Bool, [bit].countP (fun b => b) = bit.toNat := by decide
      have hAttempt : attemptCount (trace ++ [(s, input)]) =
          attemptCount trace + s.daemon.position.isConnecting.toNat := by
        rw [attemptCount, List.countP_append, ← hAttempts]
        exact congrArg (_ + ·) (hBit _)
      have hWait : waitCount (trace ++ [(s, input)]) = waitCount trace + finish.daemon.position.isConnecting.toNat := by
        rw [waitCount, List.countP_append, ← hWaits]
        exact congrArg (_ + ·) (hBit _)
      omega

theorem waitCount_concat (trace : List (PacedDaemon × SessionInput)) (s : PacedDaemon) (input : SessionInput) :
    waitCount (trace ++ [(s, input)]) = if s.waits input then waitCount trace + 1 else waitCount trace := by
  rw [waitCount, List.countP_append, List.countP_singleton]
  split_ifs <;> rfl

theorem slept_concat (trace : List (PacedDaemon × SessionInput)) (s : PacedDaemon) (input : SessionInput) :
    slept (trace ++ [(s, input)]) = if s.waits input then slept trace + s.backoff.current else slept trace := by
  rw [slept, List.foldl_append]
  rfl

/-- Without a registration the waits go on counting. -/
theorem failures_append (hSilent : ∀ entry ∈ trace, entry.1.registers entry.2 = false) :
    failures (before ++ trace) = failures before + waitCount trace := by
  induction trace using List.reverseRecOn with
  | nil => simp [waitCount]
  | append_singleton trace entry ih =>
      obtain ⟨s, input⟩ := entry
      have hEntry := hSilent (s, input) (by simp)
      have hBefore := ih fun other hOther => hSilent other (List.mem_append_left _ hOther)
      rw [← List.append_assoc, failures_concat, waitCount_concat, hBefore, hEntry, if_neg Bool.false_ne_true]
      split_ifs
      · exact Nat.add_assoc ..
      · rfl

theorem slept_eq (run : Run (step cfg) start before middle) (segment : Run (step cfg) middle trace finish)
    (hSilent : ∀ entry ∈ trace, entry.1.registers entry.2 = false) :
    slept trace = ∑ i ∈ Finset.range (waitCount trace),
      Backoff.delay initialBackoff maxBackoff (failures before + i) := by
  induction segment with
  | refl => rfl
  | @tail trace s finish input prior last ih =>
      have hBefore := fun entry hEntry => hSilent entry (List.mem_append_left _ hEntry)
      have hBackoff := backoff_eq (run.trans prior)
      rw [failures_append hBefore] at hBackoff
      rw [slept_concat, waitCount_concat, ih hBefore]
      split_ifs
      · rw [Finset.sum_range_succ, hBackoff]
        rfl
      · rfl

end PacedDaemon

/-- In every run, between two registrations or behind the last one: the delays
that the daemon has waited for are 100 ms doubled for each wait before, up to
5 s; each attempt to connect but one has a wait of its own; so there is always
another attempt within 5 s, and in any time there are not more than one for
every 5 s and six more. -/
theorem reconnects_paced (run : Run (PacedDaemon.step cfg) .start before middle)
    (segment : Run (PacedDaemon.step cfg) middle trace finish)
    (hSilent : ∀ entry ∈ trace, entry.1.registers entry.2 = false) :
    PacedDaemon.slept trace = ∑ i ∈ Finset.range (PacedDaemon.waitCount trace),
        min (100 * 2 ^ (PacedDaemon.failures before + i)) 5000 ∧
      PacedDaemon.attemptCount trace ≤ PacedDaemon.waitCount trace + 1 ∧
      PacedDaemon.slept trace ≤ 5000 * PacedDaemon.waitCount trace ∧
      5000 * PacedDaemon.attemptCount trace ≤ PacedDaemon.slept trace + 28700 := by
  have hSlept := PacedDaemon.slept_eq run segment hSilent
  have hAttempts := PacedDaemon.attemptCount_add segment
  have hBit := Bool.toNat_le middle.daemon.position.isConnecting
  have hUpper := Backoff.sum_delay_le initialBackoff maxBackoff (PacedDaemon.failures before)
    (PacedDaemon.waitCount trace)
  have hFull : maxBackoff ≤ initialBackoff * 2 ^ 6 := by decide
  have hSaved := Backoff.le_sum_delay hFull (PacedDaemon.failures before) (PacedDaemon.waitCount trace)
  have hTotal : ∑ i ∈ Finset.range 6, (maxBackoff - Backoff.delay initialBackoff maxBackoff i) = 23700 := by decide
  have hMax : maxBackoff = 5000 := rfl
  rw [← hSlept, hMax] at hUpper
  rw [← hSlept, hTotal, hMax] at hSaved
  refine ⟨hSlept, ?_, ?_, ?_⟩
  · omega
  · omega
  · omega

/-- The host is down, and comes up behind the third attempt. -/
def hostDownSchedule : List SessionInput :=
  [.connected false, .waited false, .connected false, .waited false, .connected false, .waited false, .connected true]

theorem reconnects_paced_hostDown :
    ∃ trace finish, Run (PacedDaemon.step .basic) .start trace finish ∧ PacedDaemon.attemptCount trace = 4 ∧
      PacedDaemon.slept trace = ∑ i ∈ Finset.range 3, min (100 * 2 ^ i) 5000 ∧ PacedDaemon.slept trace = 700 := by
  have hRun : (execWhile (PacedDaemon.step .basic) (fun s input => !s.registers input) .start hostDownSchedule).any
      fun s => !s.daemon.position.isConnecting := by
    decide +kernel
  obtain ⟨finish, hExec, hEnd⟩ := (Option.any_eq_true _ _).mp hRun
  obtain ⟨trace, hActions, run, hGuard⟩ := run_of_execWhile hExec
  have hSilent : ∀ entry ∈ trace, entry.1.registers entry.2 = false := by
    intro entry hEntry
    simpa using hGuard entry hEntry
  have hAttempts : PacedDaemon.attemptCount trace = 4 := by
    have hCount : PacedDaemon.attemptCount trace = (trace.map Prod.snd).countP PacedDaemon.attempts := by
      rw [List.countP_map]
      rfl
    rw [hCount, hActions]
    decide
  have hBalance := PacedDaemon.attemptCount_add run
  rw [hAttempts, (Bool.not_eq_true' _).mp hEnd] at hBalance
  have hWaits : PacedDaemon.waitCount trace = 3 := Nat.add_right_cancel hBalance.symm
  have hPaced := (reconnects_paced .refl run hSilent).1
  rw [hWaits] at hPaced
  simp only [PacedDaemon.failures, List.foldl_nil, Nat.zero_add] at hPaced
  exact ⟨trace, finish, run, hAttempts, hPaced, hPaced.trans (by decide)⟩

end DevcontainerBridge
