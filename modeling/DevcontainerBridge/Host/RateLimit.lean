import DevcontainerBridge.Host.Browser
import DevcontainerBridge.Stream.Window
import Mathlib.Algebra.Order.BigOperators.Group.List
import Mathlib.Algebra.Order.Group.Nat

/-! The rate limit of the browser opener over whole sequences of calls. The
queue of recent opens is what is left of the times at which calls succeeded. -/
namespace DevcontainerBridge

open Stream Table

/-- The width of the window in nanoseconds. -/
def second : Nat := 1000000000

/-- What happens to a browser opener. -/
inductive OpenerEvent where
  | prepare (url : String) (now : Instant)
  | addPortMapping (containerPort hostPort : UInt16)
  | removePortMapping (containerPort : UInt16)

/-- The result of a call, absent where an event is not one. -/
abbrev OpenerOutcome := Option (Except BrowserError (String × Option String))

def OpenerEvent.time : OpenerEvent → Option Instant
  | .prepare _ now => some now
  | .addPortMapping .. => none
  | .removePortMapping _ => none

namespace BrowserOpener

def handle (b : BrowserOpener) : OpenerEvent → BrowserOpener × OpenerOutcome
  | .prepare url now => ((b.prepare url now).1, some (b.prepare url now).2)
  | .addPortMapping containerPort hostPort => (b.addPortMapping containerPort hostPort, none)
  | .removePortMapping containerPort => (b.removePortMapping containerPort, none)

/-- The opener after a sequence of events. -/
def run (b : BrowserOpener) (events : List OpenerEvent) : BrowserOpener :=
  events.foldl (fun b event => (b.handle event).1) b

/-- The results of a sequence of events. -/
def outcomes (b : BrowserOpener) : List OpenerEvent → List OpenerOutcome
  | [] => []
  | event :: events => (b.handle event).2 :: outcomes (b.handle event).1 events

/-- The time of an event that is a successful call. -/
def opened (b : BrowserOpener) : OpenerEvent → List Instant
  | .prepare url now => if (b.prepare url now).2.isOk then [now] else []
  | .addPortMapping .. => []
  | .removePortMapping _ => []

theorem opened_prepare (b : BrowserOpener) (url : String) (now : Instant) :
    b.opened (.prepare url now) = if (b.prepare url now).2.isOk then [now] else [] := rfl

/-- The times of the successful calls in a sequence of events. -/
def successes (b : BrowserOpener) : List OpenerEvent → List Instant
  | [] => []
  | event :: events => b.opened event ++ successes (b.handle event).1 events

variable {b : BrowserOpener} {url : String} {now last : Instant} {events : List OpenerEvent}

theorem run_append (before after : List OpenerEvent) : b.run (before ++ after) = (b.run before).run after :=
  List.foldl_append

theorem successes_append (before after : List OpenerEvent) :
    b.successes (before ++ after) = b.successes before ++ (b.run before).successes after := by
  induction before generalizing b with
  | nil => rfl
  | cons event before ih =>
      rw [List.cons_append, successes, successes, ih, List.append_assoc]
      rfl

/-- The entries that a call leaves in the queue before it decides. -/
theorem dropWhile_recentOpens (b : BrowserOpener) (now : Instant) :
    (b.recentOpens.dropWhile fun t => (now - t) / 1000000000 ≥ 1) = expire second now b.recentOpens := by
  have hSecond (t now : Nat) : (now - t) / 1000000000 ≥ 1 ↔ t + 1000000000 ≤ now := by omega
  unfold expire second
  congr 1
  funext t
  rw [decide_eq_decide]
  exact hSecond t now

/-- What a call does to the opener. -/
inductive PrepareStep (b : BrowserOpener) (url : String) (now : Instant) :
    BrowserOpener × Except BrowserError (String × Option String) → Prop
  | invalid {e : UrlValidationError} (h : validateOpenUrl url = .error e) :
      PrepareStep b url now (b, .error (.validation e))
  | rateLimited (h : validateOpenUrl url = .ok ())
      (hFull : rateLimitPerSec ≤ (expire second now b.recentOpens).length) :
      PrepareStep b url now
        ({ b with recentOpens := expire second now b.recentOpens }, .error .rateLimited)
  | opened (h : validateOpenUrl url = .ok ())
      (hRoom : (expire second now b.recentOpens).length < rateLimitPerSec) :
      PrepareStep b url now
        ({ b with recentOpens := expire second now b.recentOpens ++ [now] },
          .ok (rewriteUrl url b.portMap, b.browserCmd))

theorem prepare_cases (b : BrowserOpener) (url : String) (now : Instant) :
    PrepareStep b url now (b.prepare url now) := by
  unfold prepare
  rw [dropWhile_recentOpens]
  split
  case h_1 e h => exact .invalid h
  case h_2 h =>
    dsimp only
    split_ifs with hFull
    · exact .rateLimited h hFull
    · exact .opened h (Nat.lt_of_not_le hFull)

/-- The queue of an opener against the times at which calls have succeeded. -/
structure Limited (accepted : List Instant) (last : Instant) (b : BrowserOpener) : Prop where
  admitted : Admitted second rateLimitPerSec accepted
  latest : ∀ t ∈ accepted, t ≤ last
  queue : ∃ expired, accepted = expired ++ b.recentOpens ∧ ∀ t ∈ expired, t + second ≤ last

namespace Limited

variable {accepted : List Instant}

theorem later (h : Limited accepted last b) (hNow : last ≤ now) : Limited accepted now b := by
  obtain ⟨expired, hAccepted, hExpired⟩ := h.queue
  exact ⟨h.admitted, fun t hMem => (h.latest t hMem).trans hNow,
    expired, hAccepted, fun t hMem => (hExpired t hMem).trans hNow⟩

/-- The queue, expired, is the recent part of the history. -/
theorem expire_eq (h : Limited accepted now b) :
    expire second now b.recentOpens = recent second now accepted := by
  obtain ⟨expired, rfl, hExpired⟩ := h.queue
  have hSorted := (List.pairwise_append.mp h.admitted.sorted).2.1
  rw [recent_append, recent_eq_nil hExpired, List.nil_append, expire_of_sorted hSorted]

/-- The history splits where the queue is expired. -/
theorem queue_expire (h : Limited accepted now b) :
    ∃ expired, accepted = expired ++ expire second now b.recentOpens ∧ ∀ t ∈ expired, t + second ≤ now := by
  obtain ⟨expired, hAccepted, hExpired⟩ := h.queue
  obtain ⟨dropped, hQueue, hDropped⟩ := exists_expire second now b.recentOpens
  refine ⟨expired ++ dropped, ?_, ?_⟩
  · rw [List.append_assoc, ← hQueue]
    exact hAccepted
  · intro t hMem
    rcases List.mem_append.mp hMem with hOld | hNew
    · exact hExpired t hOld
    · exact hDropped t hNew

theorem prepare (h : Limited accepted now b) (url : String) :
    Limited (accepted ++ b.opened (.prepare url now)) now (b.prepare url now).1 := by
  have hEqual := h.expire_eq
  obtain ⟨expired, hAccepted, hExpired⟩ := h.queue_expire
  rw [opened_prepare]
  generalize hStep : b.prepare url now = result
  rcases hStep ▸ prepare_cases b url now with - | ⟨-, -⟩ | ⟨-, hRoom⟩
  · show Limited (accepted ++ []) now b
    rw [List.append_nil]
    exact h
  · show Limited (accepted ++ []) now _
    rw [List.append_nil]
    exact ⟨h.admitted, h.latest, expired, hAccepted, hExpired⟩
  · show Limited (accepted ++ [now]) now _
    refine ⟨.snoc h.admitted h.latest (hEqual ▸ hRoom), ?_, expired, ?_, hExpired⟩
    · intro t hMem
      rcases List.mem_append.mp hMem with hOld | hNew
      · exact h.latest t hOld
      · exact (List.mem_singleton.mp hNew).le
    · rw [← List.append_assoc, ← hAccepted]

theorem handle (h : Limited accepted now b) {event : OpenerEvent} (hNow : ∀ t ∈ event.time, t = now) :
    Limited (accepted ++ b.opened event) now (b.handle event).1 := by
  cases event with
  | prepare url time =>
      obtain rfl := hNow time rfl
      exact h.prepare url
  | addPortMapping containerPort hostPort =>
      rw [opened, List.append_nil]
      exact ⟨h.admitted, h.latest, h.queue⟩
  | removePortMapping containerPort =>
      rw [opened, List.append_nil]
      exact ⟨h.admitted, h.latest, h.queue⟩

end Limited

/-- Calls at non-decreasing times keep the queue in step with the history. -/
theorem limited_run (hEmpty : b.recentOpens = []) (hTimes : (events.filterMap OpenerEvent.time).Pairwise (· ≤ ·))
    (hLast : ∀ t ∈ events.filterMap OpenerEvent.time, t ≤ last) :
    Limited (b.successes events) last (b.run events) := by
  induction events using List.reverseRecOn generalizing last with
  | nil =>
      refine ⟨.nil, nofun, [], ?_, nofun⟩
      exact hEmpty.symm
  | append_singleton events event ih =>
      rw [List.filterMap_append, List.pairwise_append] at hTimes
      obtain ⟨hBefore, -, hOrder⟩ := hTimes
      simp only [List.filterMap_append, List.mem_append] at hLast
      rw [successes_append, run_append]
      show Limited (_ ++ ((b.run events).opened event ++ [])) last ((b.run events).handle event).1
      rw [List.append_nil]
      cases hTime : event.time with
      | none =>
          have hRun := ih hBefore fun t hMem => hLast t (.inl hMem)
          exact hRun.handle fun t hMem => by simp [hTime] at hMem
      | some now =>
          have hMem : now ∈ List.filterMap OpenerEvent.time [event] := by simp [hTime]
          have hRun := ih hBefore fun t hPast => hOrder t hPast now hMem
          refine (hRun.handle fun t hNow => ?_).later (hLast now (.inr hMem))
          rw [hTime] at hNow
          exact (Option.some.inj hNow).symm

/-- Two openers that no later call can tell apart. -/
structure Agree (now : Instant) (b other : BrowserOpener) : Prop where
  portMap : b.portMap = other.portMap
  browserCmd : b.browserCmd = other.browserCmd
  queue : ∀ later, now ≤ later →
    expire second later b.recentOpens = expire second later other.recentOpens

/-- A call that fails leaves nothing behind that a later call could notice. -/
theorem agree_of_failed (h : (b.prepare url now).2.isOk = false) : Agree now (b.prepare url now).1 b := by
  generalize hStep : b.prepare url now = result at h
  rcases hStep ▸ prepare_cases b url now with - | ⟨-, -⟩ | ⟨-, -⟩
  · exact ⟨rfl, rfl, fun _ _ => rfl⟩
  · exact ⟨rfl, rfl, fun later hLater => expire_expire hLater⟩
  · cases h

namespace Agree

variable {other : BrowserOpener} {later : Instant}

theorem prepare (h : Agree now b other) (hNow : now ≤ later) (url : String) :
    (b.prepare url later).2 = (other.prepare url later).2 ∧
      Agree later (b.prepare url later).1 (other.prepare url later).1 := by
  have hQueue := h.queue later hNow
  unfold BrowserOpener.prepare
  rw [dropWhile_recentOpens, dropWhile_recentOpens, h.portMap, h.browserCmd, hQueue]
  split
  · exact ⟨rfl, h.portMap, h.browserCmd, fun t hLater => h.queue t (hNow.trans hLater)⟩
  · dsimp only
    split_ifs
    · exact ⟨rfl, ⟨rfl, rfl, fun _ _ => rfl⟩⟩
    · exact ⟨rfl, ⟨rfl, rfl, fun _ _ => rfl⟩⟩

theorem handle (h : Agree now b other) {event : OpenerEvent} (hNow : ∀ t ∈ event.time, now ≤ t) :
    (b.handle event).2 = (other.handle event).2 ∧
      ∀ later, (∀ t ∈ event.time, t ≤ later) → now ≤ later →
        Agree later (b.handle event).1 (other.handle event).1 := by
  cases event with
  | prepare url time =>
      obtain ⟨hOutcome, hAfter⟩ := h.prepare (hNow time rfl) url
      refine ⟨congrArg some hOutcome, fun later hLater _ => ?_⟩
      have hTime := hLater time rfl
      exact ⟨hAfter.portMap, hAfter.browserCmd, fun t ht => hAfter.queue t (hTime.trans ht)⟩
  | addPortMapping containerPort hostPort =>
      refine ⟨rfl, fun later _ hLater => ⟨?_, h.browserCmd, fun t ht => h.queue t (hLater.trans ht)⟩⟩
      exact congrArg (Finmap.insert containerPort hostPort) h.portMap
  | removePortMapping containerPort =>
      refine ⟨rfl, fun later _ hLater => ⟨?_, h.browserCmd, fun t ht => h.queue t (hLater.trans ht)⟩⟩
      exact congrArg (Finmap.erase containerPort) h.portMap

/-- Openers that agree give the same results from then on. -/
theorem outcomes_eq (h : Agree now b other)
    (hTimes : (now :: events.filterMap OpenerEvent.time).Pairwise (· ≤ ·)) :
    b.outcomes events = other.outcomes events := by
  induction events generalizing b other now with
  | nil => rfl
  | cons event events ih =>
      obtain ⟨hNow, hRest⟩ := List.pairwise_cons.mp hTimes
      rw [outcomes, outcomes]
      cases hTime : event.time with
      | none =>
          rw [List.filterMap_cons_none hTime] at hTimes
          have hNone : ∀ t, t ∉ event.time := by simp [hTime]
          obtain ⟨hOutcome, hAfter⟩ := h.handle fun t hMem => (hNone t hMem).elim
          rw [hOutcome, ih (hAfter now (fun t hMem => (hNone t hMem).elim) le_rfl) hTimes]
      | some time =>
          rw [List.filterMap_cons_some hTime] at hNow hRest
          have hLater := hNow time List.mem_cons_self
          have hSame : ∀ t ∈ event.time, t = time := by simp [hTime]
          obtain ⟨hOutcome, hAfter⟩ := h.handle fun t hMem => hLater.trans (hSame t hMem).ge
          rw [hOutcome, ih (hAfter time (fun t hMem => (hSame t hMem).le) hLater) hRest]

end Agree

/-- A call with a valid URL is rejected exactly where the recent part of the
history is full. -/
theorem Limited.rateLimited_iff {accepted : List Instant} (h : Limited accepted now b)
    (hValid : validateOpenUrl url = .ok ()) :
    (b.prepare url now).2 = .error .rateLimited ↔
      (accepted.filter fun t => now < t + second).length = rateLimitPerSec := by
  have hFull := h.admitted.recent_le h.latest
  have hQueue := h.expire_eq
  change (recent second now accepted).length ≤ rateLimitPerSec at hFull
  show _ ↔ (recent second now accepted).length = rateLimitPerSec
  generalize hStep : b.prepare url now = result
  rcases hStep ▸ prepare_cases b url now with hInvalid | ⟨-, hLimit⟩ | ⟨-, hRoom⟩
  · rw [hValid] at hInvalid
    cases hInvalid
  · rw [hQueue] at hLimit
    exact iff_of_true rfl (hFull.antisymm hLimit)
  · rw [hQueue] at hRoom
    exact iff_of_false nofun hRoom.ne

end BrowserOpener

open BrowserOpener in
/-- Over any calls at non-decreasing times, no window of a second holds more
successes than the limit, a valid URL is rejected exactly where the last second
is full, and a call that fails changes no later result. -/
theorem prepare_sliding_window (b : BrowserOpener) (hEmpty : b.recentOpens = []) (events : List OpenerEvent)
    (hTimes : (events.filterMap OpenerEvent.time).Pairwise (· ≤ ·)) :
    (∀ start, ((b.successes events).filter fun t => start ≤ t ∧ t < start + second).length ≤ rateLimitPerSec) ∧
      ∀ before url now after, events = before ++ OpenerEvent.prepare url now :: after →
        (validateOpenUrl url = .ok () →
          (((b.run before).prepare url now).2 = .error .rateLimited ↔
            ((b.successes before).filter fun t => now < t + second).length = rateLimitPerSec)) ∧
        (((b.run before).prepare url now).2.isOk = false →
          ((b.run before).prepare url now).1.outcomes after = (b.run before).outcomes after) := by
  constructor
  · intro start
    have hLast : ∀ t ∈ events.filterMap OpenerEvent.time, t ≤ (events.filterMap OpenerEvent.time).sum :=
      fun t hMem => List.le_sum_of_mem hMem
    exact (limited_run hEmpty hTimes hLast).admitted.window_le start
  · rintro before url now after rfl
    have hCall : OpenerEvent.time (.prepare url now) = some now := rfl
    rw [List.filterMap_append, List.filterMap_cons_some hCall, List.pairwise_append] at hTimes
    obtain ⟨hBefore, hAfter, hOrder⟩ := hTimes
    have hRun := limited_run hEmpty hBefore fun t hPast => hOrder t hPast now List.mem_cons_self
    exact ⟨hRun.rateLimited_iff, fun hFailed => (agree_of_failed hFailed).outcomes_eq hAfter⟩

/-- Six calls within a second and one just after it. -/
def hastyCalls : List OpenerEvent :=
  List.replicate 6 (.prepare "http://a" 0) ++ [.prepare "http://a" second]

/-- The sixth call is rejected, and the last one is not. -/
theorem prepare_hasty :
    (((BrowserOpener.withCmd none).run (List.replicate 5 (.prepare "http://a" 0))).prepare "http://a" 0).2 =
        .error .rateLimited ∧
      (((BrowserOpener.withCmd none).run (List.replicate 6 (.prepare "http://a" 0))).prepare "http://a" second).2 ≠
        .error .rateLimited := by
  have hWindow := prepare_sliding_window (.withCmd none) rfl hastyCalls (by decide)
  obtain ⟨hSixth, -⟩ := hWindow.2 (List.replicate 5 (.prepare "http://a" 0)) "http://a" 0
    [.prepare "http://a" second] rfl
  obtain ⟨hLast, -⟩ := hWindow.2 (List.replicate 6 (.prepare "http://a" 0)) "http://a" second [] rfl
  refine ⟨(hSixth (by decide)).mpr (by decide), fun hLimited => ?_⟩
  exact absurd ((hLast (by decide)).mp hLimited) (by decide)

end DevcontainerBridge
