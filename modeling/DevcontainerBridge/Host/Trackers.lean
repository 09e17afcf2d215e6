import DevcontainerBridge.Host.Listeners

/-! Connection trackers from the binding of a forward to the end of its drain.
A tracker is held by one live forward or by one task at a time, and its count
is the number of client handlers between increment and decrement. -/
namespace DevcontainerBridge

open Table Transition

/-- The forwards that a teardown still has to drain. -/
def Handler.draining : Handler → Forwards
  | .forwardDrain _ _ request old => singleForward request.port old
  | .registerBrowser _ _ old | .registerDrain _ _ old | .cleanupBrowser old | .cleanupDrain old => old
  | .unforwardDrain _ _ port old | .unforwardGlobalBrowser port old | .unforwardGlobalDrain port old =>
      singleForward port old
  | _ => ∅

/-- The tracker that a task has in hand for a container port. -/
def Handler.custody : Handler → UInt16 → Option Nat
  | .forwardInsert _ _ request _ _ _ listener, port => if port = request.port then some listener else none
  | handler, port => (handler.draining.lookup port).map ForwardState.tracker

/-- The tracker that a client handler has looked up and not given back. -/
def ProxyTask.tracker : ProxyTask → Option Nat
  | .clientIncrement _ route | .clientRegister _ route | .clientSend _ route _ _
  | .clientSubscribe route _ _ | .clientBridge route _ _ _ | .clientBridgeCancel route _ _
  | .clientCancel route _ | .clientDone route => route.tracker
  | _ => none

/-- The tracker that counts a client handler. -/
def ProxyTask.counted : ProxyTask → Option Nat
  | .clientRegister _ route | .clientSend _ route _ _ | .clientSubscribe route _ _
  | .clientBridge route _ _ _ | .clientBridgeCancel route _ _ | .clientCancel route _
  | .clientDone route => route.tracker
  | _ => none

/-- The tracker that a client handler has looked up without having subscribed
to its cancel signal. -/
def ProxyTask.unsubscribed : ProxyTask → Option Nat
  | .clientIncrement _ route | .clientRegister _ route | .clientSend _ route _ _
  | .clientSubscribe route _ _ => route.tracker
  | _ => none

/-- The tracker to whose signal a client handler has subscribed, and whether
it regards a signal that was sent before as seen. -/
def ProxyTask.subscribed : ProxyTask → Option (Nat × Bool)
  | .clientBridge route _ _ seen | .clientBridgeCancel route _ seen => route.tracker.map fun n => (n, seen)
  | _ => none

/-- The tracker of a live forward. -/
def HostState.trackerOf (s : HostState) (containerId : String) (port : UInt16) : Option Nat :=
  (s.forwardOf containerId port).map ForwardState.tracker

def Handler.tracker : Handler → Option Nat
  | .proxy task => task.tracker
  | _ => none

def Handler.counted : Handler → Option Nat
  | .proxy task => task.counted
  | _ => none

def Handler.unsubscribed : Handler → Option Nat
  | .proxy task => task.unsubscribed
  | _ => none

def Handler.subscribed : Handler → Option (Nat × Bool)
  | .proxy task => task.subscribed
  | _ => none

/-- A step of a task that is no client handler, as the trackers see it. -/
structure Detached (ctx : DaemonContext) (handler : Handler) (after : DaemonContext) (next : Handler) :
    Prop where
  client : next.tracker = none
  waits : next.engaged = true ∨ ∀ port n, next.custody port = some n → handler.custody port = some n
  counts : ∀ n, (after.proxy.trackers n).count = (ctx.proxy.trackers n).count
  /-- a tracker is cancelled as its drain returns -/
  cancels : ∀ n, (after.proxy.trackers n).cancelled = true → (ctx.proxy.trackers n).cancelled = true ∨
    ∃ port fstate, handler.draining.lookup port = some fstate ∧ fstate.tracker = n ∧ next.custody port = none
  keeps : ∀ n, (ctx.proxy.trackers n).cancelled = true → (after.proxy.trackers n).cancelled = true

variable {cfg : HostConfig} {ctx after : DaemonContext} {handler next : Handler} {input : Input}

/-- A step that leaves the trackers alone and starts no teardown. -/
theorem Detached.of_eq (hTrackers : after.proxy.trackers = ctx.proxy.trackers)
    (hClient : next.tracker = none) (hCustody : next.engaged = true ∨ ∀ port, next.custody port = none) :
    Detached ctx handler after next where
  client := hClient
  waits := hCustody.imp_right fun hNone port n hHere => by
    rw [hNone] at hHere
    cases hHere
  counts := fun n => by rw [hTrackers]
  cancels := fun n hAfter => .inl (by rwa [← hTrackers])
  keeps := fun n hBefore => by rwa [hTrackers]

@[simp] theorem custody_forwardInsert (containerId : String) (registrationId : Nat)
    (request : ForwardRequest) (replaced : Option UInt16) (targetPort hostPort port : UInt16)
    (listener : Nat) :
    (Handler.forwardInsert containerId registrationId request replaced targetPort hostPort listener).custody
        port = if port = request.port then some listener else none := rfl

/-- A tracker that waits for its drain is in the hands of the task. -/
theorem custody_of_draining {port : UInt16} {fstate : ForwardState}
    (h : handler.draining.lookup port = some fstate) : handler.custody port = some fstate.tracker := by
  have hMap : (handler.draining.lookup port).map ForwardState.tracker = some fstate.tracker := by
    rw [h]
    rfl
  cases handler <;> first | exact hMap | cases h

theorem cancelTrackers_count (p : ProxyState) (timedOut : List Nat) (n : Nat) :
    ((p.cancelTrackers timedOut).trackers n).count = (p.trackers n).count := by
  unfold ProxyState.cancelTrackers
  dsimp only
  split_ifs <;> rfl

theorem cancelTrackers_cancelled (p : ProxyState) (timedOut : List Nat) (n : Nat) :
    ((p.cancelTrackers timedOut).trackers n).cancelled = true ↔
      n ∈ timedOut ∨ (p.trackers n).cancelled = true := by
  unfold ProxyState.cancelTrackers
  dsimp only
  split_ifs with hHere
  · exact iff_of_true rfl (.inl hHere)
  · exact (or_iff_right hHere).symm

/-- What a teardown does to the trackers: those of forwards that have timed
out are cancelled, and nobody is counted by the others. -/
theorem tearDown_trackers {forwards : Forwards} {timedOut : List Nat}
    (h : ctx.tearDown forwards timedOut = some after) :
    after.proxy = ctx.proxy.cancelTrackers timedOut ∧
      (∀ n ∈ timedOut, ∃ port fstate, forwards.lookup port = some fstate ∧ fstate.tracker = n) ∧
      ∀ port fstate, forwards.lookup port = some fstate →
        fstate.tracker ∈ timedOut ∨ (ctx.proxy.trackers fstate.tracker).count = 0 := by
  obtain ⟨hDrain, rfl⟩ := DaemonContext.tearDown_frame h
  refine ⟨rfl, ?_⟩
  obtain ⟨order, hOrder⟩ := exists_enumerates forwards
  unfold ProxyState.canDrain at hDrain
  rw [all_eq_all _ hOrder, Bool.and_eq_true, List.all_eq_true, List.all_eq_true] at hDrain
  constructor
  · intro n hMember
    have hAny := hDrain.2 n hMember
    rw [any_eq_any _ hOrder, List.any_eq_true] at hAny
    obtain ⟨⟨port, fstate⟩, hEntry, hTracker⟩ := hAny
    exact ⟨port, fstate, (mem_of_enumerates hOrder port fstate).mp hEntry, of_decide_eq_true hTracker⟩
  · intro port fstate hLookup
    have hAll := hDrain.1 ⟨port, fstate⟩ ((mem_of_enumerates hOrder port fstate).mpr hLookup)
    simpa only [Bool.or_eq_true, decide_eq_true_eq] using hAll

/-- A teardown that ends here. -/
theorem Detached.of_tearDown {timedOut : List Nat}
    (h : ctx.tearDown handler.draining timedOut = some after) (hClient : next.tracker = none)
    (hNext : ∀ port, next.custody port = none) : Detached ctx handler after next := by
  obtain ⟨hProxy, hTimedOut, -⟩ := tearDown_trackers h
  refine ⟨hClient, .inr ?_, fun n => ?_, fun n hAfter => ?_, fun n hBefore => ?_⟩
  · intro port n hHere
    rw [hNext] at hHere
    cases hHere
  · rw [hProxy, cancelTrackers_count]
  · rw [hProxy, cancelTrackers_cancelled] at hAfter
    rcases hAfter with hHere | hBefore
    · obtain ⟨port, fstate, hLookup, hTracker⟩ := hTimedOut n hHere
      exact .inr ⟨port, fstate, hLookup, hTracker, hNext port⟩
    · exact .inl hBefore
  · rw [hProxy, cancelTrackers_cancelled]
    exact .inr hBefore

theorem singleForward_lookup {port other : UInt16} {fstate later : ForwardState}
    (h : (singleForward port fstate).lookup other = some later) : other = port ∧ later = fstate := by
  unfold singleForward at h
  obtain rfl := Finmap.mem_singleton _ _ _ |>.mp (Finmap.mem_of_lookup_eq_some h)
  rw [Finmap.lookup_singleton_eq] at h
  exact ⟨rfl, (Option.some.inj h).symm⟩

/-- One drain of a teardown that goes on. -/
theorem Detached.of_drainOne {port : UInt16} {timedOut : Bool} {rest : Forwards}
    (h : ctx.drainOne handler.draining port timedOut = some (after, rest)) (hClient : next.tracker = none)
    (hNext : ∀ other, next.custody other = (rest.lookup other).map ForwardState.tracker) :
    Detached ctx handler after next := by
  obtain ⟨fstate, hOld, rfl, hTear⟩ := drainOne_some h
  obtain ⟨hProxy, hTimedOut, -⟩ := tearDown_trackers hTear
  refine ⟨hClient, .inr ?_, fun n => ?_, fun n hAfter => ?_, fun n hBefore => ?_⟩
  · intro other n hHere
    rw [hNext] at hHere
    obtain ⟨later, hLookup, rfl⟩ := Option.map_eq_some_iff.mp hHere
    rw [lookup_erase] at hLookup
    split_ifs at hLookup
    exact custody_of_draining hLookup
  · rw [hProxy, cancelTrackers_count]
  · rw [hProxy, cancelTrackers_cancelled] at hAfter
    rcases hAfter with hHere | hBefore
    · obtain ⟨other, later, hLookup, hTracker⟩ := hTimedOut n hHere
      obtain ⟨rfl, rfl⟩ := singleForward_lookup hLookup
      exact .inr ⟨other, later, hOld, hTracker, by rw [hNext, lookup_erase, if_pos rfl]; rfl⟩
    · exact .inl hBefore
  · rw [hProxy, cancelTrackers_cancelled]
    exact .inr hBefore

theorem dispatchFirst_detached (message : Message) :
    (dispatchFirst cfg message).tracker = none ∧ ∀ port, (dispatchFirst cfg message).custody port = none := by
  cases message <;> unfold dispatchFirst <;> dsimp only <;> (try split_ifs) <;> exact ⟨rfl, fun _ => rfl⟩

theorem dispatchContainer_detached (containerId : String) (registrationId : Nat) (message : Message) :
    (dispatchContainer cfg containerId registrationId message).tracker = none ∧
      ∀ port, (dispatchContainer cfg containerId registrationId message).custody port = none := by
  cases message <;> unfold dispatchContainer <;> dsimp only <;> (try split_ifs) <;>
    exact ⟨rfl, fun _ => rfl⟩

theorem nextRegister_detached (h : nextRegister cfg ctx handler input = some (after, next)) :
    Detached ctx handler after next := by
  cases nextRegister_cases h with
  | dispatched message =>
      obtain ⟨hClient, hCustody⟩ := @dispatchFirst_detached cfg message
      exact .of_eq rfl hClient (.inr hCustody)
  | stale => exact .of_eq rfl rfl (.inl rfl)
  | unmapped => exact ⟨rfl, .inr fun _ _ => id, fun _ => rfl, fun _ => .inl, fun _ => id⟩
  | drained hTear => exact .of_tearDown hTear rfl fun _ => rfl
  | drainedOne hDrain => exact .of_drainOne hDrain rfl fun _ => rfl
  | _ => exact .of_eq rfl rfl (.inr fun _ => rfl)

theorem nextForward_detached (h : nextForward ctx handler input = some (after, next)) :
    Detached ctx handler after next := by
  cases nextForward_cases h with
  | replaced => exact .of_eq rfl rfl (.inl rfl)
  | drained hTear => exact .of_tearDown hTear rfl fun _ => rfl
  | bound => exact .of_eq rfl rfl (.inl rfl)
  | _ => exact .of_eq rfl rfl (.inr fun _ => rfl)

theorem nextUnforward_detached (h : nextUnforward ctx handler input = some (after, next)) :
    Detached ctx handler after next := by
  cases nextUnforward_cases h with
  | removed => exact .of_eq rfl rfl (.inl rfl)
  | drained hTear => exact .of_tearDown hTear rfl fun _ => rfl
  | globalRemoved => exact .of_eq rfl rfl (.inl rfl)
  | globalUnmapped => exact ⟨rfl, .inr fun _ _ => id, fun _ => rfl, fun _ => .inl, fun _ => id⟩
  | globalDrained hTear => exact .of_tearDown hTear rfl fun _ => rfl
  | _ => exact .of_eq rfl rfl (.inr fun _ => rfl)

theorem nextServing_detached (h : nextServing cfg ctx handler input = some (after, next)) :
    Detached ctx handler after next := by
  cases nextServing_cases h with
  | dispatched message =>
      obtain ⟨hClient, hCustody⟩ := @dispatchContainer_detached cfg _ _ message
      exact .of_eq rfl hClient (.inr hCustody)
  | taken => exact .of_eq rfl rfl (.inl rfl)
  | unmapped => exact ⟨rfl, .inr fun _ _ => id, fun _ => rfl, fun _ => .inl, fun _ => id⟩
  | drained hTear => exact .of_tearDown hTear rfl fun _ => rfl
  | drainedOne hDrain => exact .of_drainOne hDrain rfl fun _ => rfl
  | _ => exact .of_eq rfl rfl (.inr fun _ => rfl)

theorem nextAuxiliary_detached (h : nextAuxiliary ctx handler input = some (after, next)) :
    Detached ctx handler after next := by
  cases nextAuxiliary_cases h with
  | registered hRegister =>
      obtain ⟨_, _, _, rfl⟩ := ProxyState.register_frame hRegister
      exact .of_eq rfl rfl (.inr fun _ => rfl)
  | unregistered hRegister =>
      obtain ⟨_, _, _, rfl⟩ := ProxyState.register_frame hRegister
      exact .of_eq rfl rfl (.inr fun _ => rfl)
  | _ => exact .of_eq rfl rfl (.inr fun _ => rfl)

theorem nextScanner_detached (h : nextScanner ctx handler input = some (after, next)) :
    Detached ctx handler after next := by
  cases nextScanner_cases h with
  | @sent message tx =>
      obtain ⟨queues, hBroadcast⟩ := ctx.proxy.tryBroadcast_frame message tx
      rw [hBroadcast]
      exact .of_eq rfl rfl (.inr fun _ => rfl)
  | _ => exact .of_eq rfl rfl (.inr fun _ => rfl)

theorem nextIdle_detached (h : nextIdle ctx input = some (after, next)) :
    Detached ctx .idle after next := by
  cases nextIdle_cases h <;> exact .of_eq rfl rfl (.inr fun _ => rfl)

/-- How the number of counted client handlers of each tracker goes along with
the tracker that counts one of them. -/
inductive Counting (p p' : ProxyState) (before after : Option Nat) : Prop where
  | same (hCounted : after = before) (hCount : ∀ m, (p'.trackers m).count = (p.trackers m).count)
  | increment {n : Nat} (hBefore : before = none) (hAfter : after = some n)
      (hCount : ∀ m, (p'.trackers m).count = (p.trackers m).count + if m = n then 1 else 0)
  | decrement {n : Nat} (hBefore : before = some n) (hAfter : after = none)
      (hCount : ∀ m, (p'.trackers m).count = (p.trackers m).count - if m = n then 1 else 0)

/-- A step of a client handler or of a data connection, as the trackers see it. -/
structure ClientStep (s : HostState) (p : ProxyState) (task : ProxyTask) (p' : ProxyState)
    (task' : ProxyTask) : Prop where
  looked : ∀ n, task'.tracker = some n → task.tracker = some n ∨
    ∃ containerId port, s.trackerOf containerId port = some n
  waiting : ∀ n, task'.unsubscribed = some n → task.unsubscribed = some n ∨
    ∃ containerId port, s.trackerOf containerId port = some n
  counting : Counting p p' task.counted task'.counted
  cancelled : ∀ n, (p'.trackers n).cancelled = (p.trackers n).cancelled
  subscribed : ∀ n seen, task'.subscribed = some (n, seen) →
    task.unsubscribed = some n ∧ seen = (p.trackers n).cancelled ∨ task.subscribed = some (n, seen)

variable {s : HostState} {p p' : ProxyState} {task task' : ProxyTask}

/-- A step that leaves the trackers alone and subscribes to none. -/
theorem ClientStep.of_eq (hTrackers : p'.trackers = p.trackers)
    (hTracker : task'.tracker = task.tracker ∨ task'.tracker = none)
    (hWaiting : task'.unsubscribed = task.unsubscribed ∨ task'.unsubscribed = none)
    (hCounted : task'.counted = task.counted) (hSubscribed : task'.subscribed = none) :
    ClientStep s p task p' task' where
  looked := fun n hNext => by
    rcases hTracker with hSame | hNone
    · exact .inl (hSame ▸ hNext)
    · rw [hNone] at hNext
      cases hNext
  waiting := fun n hNext => by
    rcases hWaiting with hSame | hNone
    · exact .inl (hSame ▸ hNext)
    · rw [hNone] at hNext
      cases hNext
  counting := .same hCounted fun m => by rw [hTrackers]
  cancelled := fun n => by rw [hTrackers]
  subscribed := fun n seen hNext => by
    rw [hSubscribed] at hNext
    cases hNext

theorem routeClient_tracker {order : List (Σ _ : String, ContainerState)} {port : UInt16}
    {route : ClientRoute} {n : Nat} (h : s.routeClient order port = some route)
    (hTracker : route.tracker = some n) : ∃ containerId port, s.trackerOf containerId port = some n := by
  obtain ⟨containerId, -, rfl⟩ := Option.map_eq_some_iff.mp h
  exact ⟨containerId, port, hTracker⟩

theorem increment_counting (p : ProxyState) (tracker : Option Nat) :
    Counting p (p.increment tracker) none tracker := by
  cases tracker with
  | none => exact .same rfl fun _ => rfl
  | some n =>
      refine .increment rfl rfl fun m => ?_
      unfold ProxyState.increment
      dsimp only
      by_cases hHere : m = n
      · rw [hHere, Function.update_self, if_pos rfl]
      · rw [Function.update_of_ne hHere, if_neg hHere, Nat.add_zero]

theorem decrement_counting (p : ProxyState) (tracker : Option Nat) :
    Counting p (p.decrement tracker) tracker none := by
  cases tracker with
  | none => exact .same rfl fun _ => rfl
  | some n =>
      refine .decrement rfl rfl fun m => ?_
      unfold ProxyState.decrement
      dsimp only
      by_cases hHere : m = n
      · rw [hHere, Function.update_self, if_pos rfl]
      · rw [Function.update_of_ne hHere, if_neg hHere, Nat.sub_zero]

theorem increment_cancelled (p : ProxyState) (tracker : Option Nat) (n : Nat) :
    ((p.increment tracker).trackers n).cancelled = (p.trackers n).cancelled := by
  cases tracker with
  | none => rfl
  | some m =>
      unfold ProxyState.increment
      dsimp only
      by_cases hHere : n = m
      · rw [hHere, Function.update_self]
      · rw [Function.update_of_ne hHere]

theorem decrement_cancelled (p : ProxyState) (tracker : Option Nat) (n : Nat) :
    ((p.decrement tracker).trackers n).cancelled = (p.trackers n).cancelled := by
  cases tracker with
  | none => rfl
  | some m =>
      unfold ProxyState.decrement
      dsimp only
      by_cases hHere : n = m
      · rw [hHere, Function.update_self]
      · rw [Function.update_of_ne hHere]

theorem nextClient_step (h : nextClient s p task input = some (p', task')) : ClientStep s p task p' task' := by
  cases nextClient_cases h with
  | routed _ hRoute =>
      have hLive := fun n => routeClient_tracker (n := n) hRoute
      exact ⟨fun n hNext => .inr (hLive n hNext), fun n hNext => .inr (hLive n hNext), .same rfl fun _ => rfl,
        fun _ => rfl, fun _ _ hNext => nomatch hNext⟩
  | unrouted => exact .of_eq rfl (.inr rfl) (.inr rfl) rfl rfl
  | @counted _ route =>
      exact ⟨fun _ => .inl, fun _ => .inl, increment_counting p route.tracker,
        increment_cancelled p route.tracker, fun _ _ hNext => nomatch hNext⟩
  | unconnected => exact .of_eq rfl (.inr rfl) (.inr rfl) rfl rfl
  | registered hRegister =>
      obtain ⟨_, _, _, rfl⟩ := ProxyState.register_frame hRegister
      exact .of_eq rfl (.inl rfl) (.inl rfl) rfl rfl
  | unregistered hRegister =>
      obtain ⟨_, _, _, rfl⟩ := ProxyState.register_frame hRegister
      exact .of_eq rfl (.inl rfl) (.inr rfl) rfl rfl
  | queued => exact .of_eq rfl (.inl rfl) (.inl rfl) rfl rfl
  | @subscribed route _ _ n hTracker =>
      refine ⟨fun _ => .inl, fun _ hNext => (nomatch hNext), .same rfl fun _ => rfl, fun _ => rfl, ?_⟩
      intro m seen hNext
      obtain ⟨other, hOther, hPair⟩ := Option.map_eq_some_iff.mp hNext
      rw [hTracker] at hOther
      cases hOther
      cases hPair
      exact .inl ⟨hTracker, rfl⟩
  | unsubscribed hTracker =>
      refine ⟨fun _ => .inl, fun _ hNext => (nomatch hNext), .same rfl fun _ => rfl, fun _ => rfl, ?_⟩
      intro m seen hNext
      obtain ⟨other, hOther, -⟩ := Option.map_eq_some_iff.mp hNext
      rw [hTracker] at hOther
      cases hOther
  | expired =>
      exact ⟨fun _ => .inl, fun _ hNext => (nomatch hNext), .same rfl fun _ => rfl, fun _ => rfl, fun _ _ => .inr⟩
  | @uncounted route =>
      exact ⟨fun _ hNext => (nomatch hNext), fun _ hNext => (nomatch hNext), decrement_counting p route.tracker,
        decrement_cancelled p route.tracker, fun _ _ hNext => nomatch hNext⟩
  | _ => exact .of_eq rfl (.inl rfl) (.inr rfl) rfl rfl

theorem dispatchData_step (message : Message) :
    ClientStep s p .handshake (dispatchData cfg p message).1 (dispatchData cfg p message).2 := by
  cases message with
  | clipboardRead =>
      dsimp only [dispatchData]
      split_ifs <;> exact .of_eq rfl (.inr rfl) (.inr rfl) rfl rfl
  | connectReady =>
      dsimp only [dispatchData]
      split_ifs <;> exact .of_eq rfl (.inr rfl) (.inr rfl) rfl rfl
  | _ => exact .of_eq rfl (.inr rfl) (.inr rfl) rfl rfl

theorem nextData_step (h : nextData cfg p task input = some (p', task')) : ClientStep s p task p' task' := by
  cases nextData_cases h with
  | dispatched message => exact dispatchData_step message
  | resolved hResolve =>
      obtain ⟨_, _, rfl⟩ := ProxyState.resolve_frame hResolve
      exact .of_eq rfl (.inr rfl) (.inr rfl) rfl rfl
  | _ => exact .of_eq rfl (.inr rfl) (.inr rfl) rfl rfl

theorem nextProxy_step (h : nextProxy cfg ctx task input = some (after, next)) :
    ∃ proxy task', after = { ctx with proxy := proxy } ∧ next = .proxy task' ∧
      ClientStep ctx.state ctx.proxy task proxy task' := by
  obtain ⟨proxy, task', rfl, rfl, hCases⟩ := nextProxy_cases h
  exact ⟨proxy, task', rfl, rfl, hCases.elim nextClient_step nextData_step⟩

/-- Every step is a step of a client handler or a detached one. -/
theorem nextHandler_trackers (h : nextHandler cfg ctx handler input = some (after, next)) :
    (handler.tracker = none ∧ handler.counted = none ∧ handler.unsubscribed = none ∧
        Detached ctx handler after next) ∨
      ∃ task proxy task', handler = .proxy task ∧ after = { ctx with proxy := proxy } ∧ next = .proxy task' ∧
        ClientStep ctx.state ctx.proxy task proxy task' := by
  unfold nextHandler at h
  split at h
  case h_1 => exact .inl ⟨rfl, rfl, rfl, nextIdle_detached h⟩
  case h_2 => cases h
  case h_3 task =>
    obtain ⟨proxy, task', hAfter, hNext, hStep⟩ := nextProxy_step h
    exact .inr ⟨task, proxy, task', rfl, hAfter, hNext, hStep⟩
  all_goals first
    | exact .inl ⟨rfl, rfl, rfl, nextRegister_detached h⟩
    | exact .inl ⟨rfl, rfl, rfl, nextForward_detached h⟩
    | exact .inl ⟨rfl, rfl, rfl, nextUnforward_detached h⟩
    | exact .inl ⟨rfl, rfl, rfl, nextServing_detached h⟩
    | exact .inl ⟨rfl, rfl, rfl, nextAuxiliary_detached h⟩
    | exact .inl ⟨rfl, rfl, rfl, nextScanner_detached h⟩

end DevcontainerBridge
