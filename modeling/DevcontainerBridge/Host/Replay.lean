import DevcontainerBridge.Host.Steps
import DevcontainerBridge.Transition.Simulation

/-! What the tables do not depend on. The pending connections, the trackers,
the queues of the client handlers and the rate limiter of the browser can be
replaced in any state, and the handlers of control connections still perform
the same operations on the tables. -/
namespace DevcontainerBridge

open Table Transition

/-- The parts of the daemon's state that no operation on the tables reads. -/
structure Hidden where
  recentOpens : List Instant
  pending : Map String Nat
  receivers : Nat → Receiver
  nextReceiver : Nat
  trackers : Nat → Tracker
  connectRequests : Nat → List OutboundConnectRequest
  bridges : List (String × Nat)

namespace DaemonContext

def hidden (ctx : DaemonContext) : Hidden where
  recentOpens := ctx.browser.recentOpens
  pending := ctx.proxy.pending
  receivers := ctx.proxy.receivers
  nextReceiver := ctx.proxy.nextReceiver
  trackers := ctx.proxy.trackers
  connectRequests := ctx.proxy.connectRequests
  bridges := ctx.proxy.bridges

/-- Replace the hidden parts. -/
def mask (ctx : DaemonContext) (hidden : Hidden) : DaemonContext :=
  { ctx with
    browser := { ctx.browser with recentOpens := hidden.recentOpens }
    proxy := { ctx.proxy with
      pending := hidden.pending
      receivers := hidden.receivers
      nextReceiver := hidden.nextReceiver
      trackers := hidden.trackers
      connectRequests := hidden.connectRequests
      bridges := hidden.bridges } }

@[simp] theorem mask_state (ctx : DaemonContext) (hidden : Hidden) :
    (ctx.mask hidden).state = ctx.state := rfl

/-- Two states that differ in hidden parts only. -/
def Agrees (ctx other : DaemonContext) : Prop :=
  ctx.mask other.hidden = other

theorem Agrees.refl (ctx : DaemonContext) : Agrees ctx ctx := rfl

theorem agrees_mask (ctx : DaemonContext) (hidden : Hidden) : Agrees ctx (ctx.mask hidden) := rfl

theorem Agrees.trans {ctx middle other : DaemonContext} (first : Agrees ctx middle)
    (second : Agrees middle other) : Agrees ctx other := by
  unfold Agrees at first second ⊢
  calc
    ctx.mask other.hidden = (ctx.mask middle.hidden).mask other.hidden := rfl
    _ = middle.mask other.hidden := by rw [first]
    _ = other := second

theorem Agrees.symm {ctx other : DaemonContext} (h : Agrees ctx other) : Agrees other ctx := by
  unfold Agrees at h ⊢
  calc
    other.mask ctx.hidden = (ctx.mask other.hidden).mask ctx.hidden := by rw [h]
    _ = ctx := rfl

end DaemonContext

/-- A drain ends at the latest when all trackers have timed out. -/
theorem ProxyState.exists_canDrain (forwards : Forwards) :
    ∃ timedOut, ∀ p : ProxyState, p.canDrain forwards timedOut = true := by
  obtain ⟨order, hOrder⟩ := exists_enumerates forwards
  refine ⟨order.map fun item => item.2.tracker, fun p => ?_⟩
  unfold ProxyState.canDrain
  rw [all_eq_all _ hOrder, Bool.and_eq_true]
  constructor
  · rw [List.all_eq_true]
    intro item hItem
    simp only [Bool.or_eq_true, decide_eq_true_eq]
    exact .inl (List.mem_map_of_mem hItem)
  · rw [List.all_eq_true]
    intro tracker hTracker
    obtain ⟨item, hItem, rfl⟩ := List.mem_map.mp hTracker
    rw [any_eq_any _ hOrder, List.any_eq_true]
    exact ⟨item, hItem, by simp⟩

/-- Whether an input is a connection or a message of another party. -/
def Input.fromPeer : Input → Bool
  | .connect | .connectData | .receive _ => true
  | _ => false

/-- Two inputs that a handler may see in the same place: how many trackers a
drain has to cancel depends on hidden parts. -/
inductive Input.Alike : Input → Input → Prop where
  | refl (input : Input) : Alike input input
  | drained (left right : List Nat) : Alike (.drained left) (.drained right)
  | drainedOne (port : UInt16) (left right : Bool) : Alike (.drainedOne port left) (.drainedOne port right)

theorem tearDown_mask {ctx after : DaemonContext} {forwards : Forwards} {timedOut : List Nat}
    (h : ctx.tearDown forwards timedOut = some after) (hidden : Hidden) :
    ∃ other hidden', (ctx.mask hidden).tearDown forwards other = some (after.mask hidden') := by
  obtain ⟨other, hDrains⟩ := ProxyState.exists_canDrain forwards
  refine ⟨other, ((ctx.mask hidden).proxy.cancelTrackers other |> fun proxy =>
    { hidden with trackers := proxy.trackers }), ?_⟩
  obtain ⟨-, rfl⟩ := DaemonContext.tearDown_frame h
  exact if_pos (hDrains _)

theorem drainOne_mask {ctx after : DaemonContext} {old rest : Forwards} {port : UInt16} {timedOut : Bool}
    (h : ctx.drainOne old port timedOut = some (after, rest)) (hidden : Hidden) :
    ∃ hidden', (ctx.mask hidden).drainOne old port true = some (after.mask hidden', rest) := by
  obtain ⟨fstate, hOld, rfl, hTear⟩ := drainOne_some h
  obtain ⟨-, rfl⟩ := DaemonContext.tearDown_frame hTear
  have hDrains := (ctx.mask hidden).proxy.canDrain_single port fstate true
  refine ⟨((ctx.mask hidden).proxy.cancelTrackers [fstate.tracker] |> fun proxy =>
    { hidden with trackers := proxy.trackers }), ?_⟩
  unfold DaemonContext.drainOne DaemonContext.tearDown
  rw [hOld]
  dsimp only
  rw [if_pos (hDrains.trans (Bool.true_or _))]
  rfl

theorem Input.Alike.peer {input other : Input} (h : input.Alike other) (hPeer : input.fromPeer = true) :
    other = input := by
  cases h with
  | refl => rfl
  | drained => cases hPeer
  | drainedOne => cases hPeer

theorem Input.Alike.fromPeer_eq {input other : Input} (h : input.Alike other) :
    other.fromPeer = input.fromPeer := by
  cases h <;> rfl

variable {cfg : HostConfig} {ctx after : DaemonContext} {handler next : Handler} {input : Input}

theorem nextRegister_mask (h : nextRegister cfg ctx handler input = some (after, next))
    (hidden : Hidden) :
    ∃ other hidden', input.Alike other ∧
      nextRegister cfg (ctx.mask hidden) handler other = some (after.mask hidden', next) := by
  cases nextRegister_cases h with
  | refused hStale =>
      refine ⟨_, hidden, .refl _, ?_⟩
      simp only [nextRegister, DaemonContext.mask_state, hStale]
  | unknown hStale =>
      refine ⟨_, hidden, .refl _, ?_⟩
      simp only [nextRegister, DaemonContext.mask_state, hStale]
      rfl
  | stale hStale =>
      refine ⟨_, hidden, .refl _, ?_⟩
      simp only [nextRegister, DaemonContext.mask_state, hStale]
      rfl
  | drained hTear =>
      obtain ⟨other, hidden', hOther⟩ := tearDown_mask hTear hidden
      exact ⟨.drained other, hidden', .drained _ _, by simp only [nextRegister, hOther, Option.map_some]⟩
  | drainedOne hDrain =>
      obtain ⟨hidden', hOther⟩ := drainOne_mask hDrain hidden
      exact ⟨.drainedOne _ true, hidden', .drainedOne _ _ _,
        by simp only [nextRegister, hOther, Option.map_some]⟩
  | _ => exact ⟨_, hidden, .refl _, rfl⟩

theorem nextForward_mask (h : nextForward ctx handler input = some (after, next)) (hidden : Hidden) :
    ∃ other hidden', input.Alike other ∧
      nextForward (ctx.mask hidden) handler other = some (after.mask hidden', next) := by
  cases nextForward_cases h with
  | owned hOwner => exact ⟨_, hidden, .refl _, if_pos hOwner⟩
  | disowned hOwner => exact ⟨_, hidden, .refl _, if_neg hOwner⟩
  | limited hTake =>
      refine ⟨_, hidden, .refl _, ?_⟩
      simp only [nextForward, DaemonContext.mask_state, hTake]
  | taken hTake =>
      refine ⟨_, hidden, .refl _, ?_⟩
      simp only [nextForward, DaemonContext.mask_state, hTake]
      rfl
  | replaced hTake =>
      refine ⟨_, hidden, .refl _, ?_⟩
      simp only [nextForward, DaemonContext.mask_state, hTake]
      rfl
  | drained hTear =>
      obtain ⟨other, hidden', hOther⟩ := tearDown_mask hTear hidden
      exact ⟨.drained other, hidden', .drained _ _, by simp only [nextForward, hOther, Option.map_some]⟩
  | noPort hFull =>
      refine ⟨_, hidden, .refl _, ?_⟩
      simp only [nextForward, DaemonContext.mask_state, hFull]
  | reserved hFree =>
      refine ⟨_, hidden, .refl _, ?_⟩
      simp only [nextForward, DaemonContext.mask_state, hFree]
      rfl
  | bound hBound => exact ⟨_, hidden, .refl _, if_neg hBound⟩
  | inserted hInsert =>
      unfold ForwardRequest.entered at hInsert
      refine ⟨_, hidden, .refl _, ?_⟩
      simp only [nextForward, DaemonContext.mask_state, hInsert]
      rfl
  | gone hInsert =>
      unfold ForwardRequest.entered at hInsert
      refine ⟨_, hidden, .refl _, ?_⟩
      simp only [nextForward, DaemonContext.mask_state, hInsert]
      rfl
  | _ => exact ⟨_, hidden, .refl _, rfl⟩

theorem nextUnforward_mask (h : nextUnforward ctx handler input = some (after, next)) (hidden : Hidden) :
    ∃ other hidden', input.Alike other ∧
      nextUnforward (ctx.mask hidden) handler other = some (after.mask hidden', next) := by
  cases nextUnforward_cases h with
  | owned hOwner => exact ⟨_, hidden, .refl _, if_pos hOwner⟩
  | disowned hOwner => exact ⟨_, hidden, .refl _, if_neg hOwner⟩
  | missing hRemove =>
      refine ⟨_, hidden, .refl _, ?_⟩
      simp only [nextUnforward, DaemonContext.mask_state, hRemove]
      rfl
  | removed hRemove =>
      refine ⟨_, hidden, .refl _, ?_⟩
      simp only [nextUnforward, DaemonContext.mask_state, hRemove]
      rfl
  | drained hTear =>
      obtain ⟨other, hidden', hOther⟩ := tearDown_mask hTear hidden
      exact ⟨.drained other, hidden', .drained _ _, by simp only [nextUnforward, hOther, Option.map_some]⟩
  | nobody hOrder hOwner =>
      refine ⟨_, hidden, .refl _, (if_pos hOrder).trans ?_⟩
      simp only [hOwner]
  | globalMissing hOrder hOwner hRemove =>
      refine ⟨_, hidden, .refl _, (if_pos hOrder).trans ?_⟩
      simp only [DaemonContext.mask_state, hOwner, hRemove]
      rfl
  | globalRemoved hOrder hOwner hRemove =>
      refine ⟨_, hidden, .refl _, (if_pos hOrder).trans ?_⟩
      simp only [DaemonContext.mask_state, hOwner, hRemove]
      rfl
  | globalDrained hTear =>
      obtain ⟨other, hidden', hOther⟩ := tearDown_mask hTear hidden
      exact ⟨.drained other, hidden', .drained _ _, by simp only [nextUnforward, hOther, Option.map_some]⟩
  | _ => exact ⟨_, hidden, .refl _, rfl⟩

theorem nextServing_mask (h : nextServing cfg ctx handler input = some (after, next))
    (hFlush : ∀ ok, input ≠ .flushRequest ok) (hidden : Hidden) :
    ∃ other hidden', input.Alike other ∧
      nextServing cfg (ctx.mask hidden) handler other = some (after.mask hidden', next) := by
  cases nextServing_cases h with
  | requestFlushed => exact absurd rfl (hFlush true)
  | requestLost => exact absurd rfl (hFlush false)
  | messageFlushed hQueue =>
      refine ⟨_, hidden, .refl _, ?_⟩
      simp only [nextServing, DaemonContext.mask, hQueue]
  | @connectCancelled _ connId =>
      exact ⟨_, { hidden with pending := hidden.pending.erase connId }, .refl _, rfl⟩
  | superseded hTake =>
      refine ⟨_, hidden, .refl _, ?_⟩
      simp only [nextServing, DaemonContext.mask_state, hTake]
  | taken hTake =>
      refine ⟨_, hidden, .refl _, ?_⟩
      simp only [nextServing, DaemonContext.mask_state, hTake]
      rfl
  | drained hTear =>
      obtain ⟨other, hidden', hOther⟩ := tearDown_mask hTear hidden
      exact ⟨.drained other, hidden', .drained _ _, by simp only [nextServing, hOther, Option.map_some]⟩
  | drainedOne hDrain =>
      obtain ⟨hidden', hOther⟩ := drainOne_mask hDrain hidden
      exact ⟨.drainedOne _ true, hidden', .drainedOne _ _ _,
        by simp only [nextServing, hOther, Option.map_some]⟩
  | idle hIdle => exact ⟨_, hidden, .refl _, if_pos hIdle⟩
  | busy hBusy => exact ⟨_, hidden, .refl _, if_neg (ne_true_of_eq_false hBusy)⟩
  | _ => exact ⟨_, hidden, .refl _, rfl⟩

theorem tryBroadcast_mask (ctx : DaemonContext) (hidden : Hidden) (message : Message) (tx : Nat) :
    { ctx.mask hidden with proxy := (ctx.mask hidden).proxy.tryBroadcast message tx } =
      ({ ctx with proxy := ctx.proxy.tryBroadcast message tx } : DaemonContext).mask hidden := by
  unfold ProxyState.tryBroadcast DaemonContext.mask
  dsimp only
  split <;> rfl

theorem nextScanner_mask (h : nextScanner ctx handler input = some (after, next)) (hidden : Hidden) :
    ∃ other hidden', input.Alike other ∧
      nextScanner (ctx.mask hidden) handler other = some (after.mask hidden', next) := by
  cases nextScanner_cases h with
  | scanned hSome hOrder => exact ⟨_, hidden, .refl _, (if_neg hSome).trans (if_pos hOrder)⟩
  | sent =>
      refine ⟨_, hidden, .refl _, ?_⟩
      dsimp only [nextScanner]
      rw [tryBroadcast_mask]
  | _ => exact ⟨_, hidden, .refl _, rfl⟩

/-- The registration that a handler of SocketConnectRequest returns to. -/
def Handler.bridging : Handler → Option (String × Nat)
  | .socketLookup containerId registrationId _ _ | .socketRegister containerId registrationId _
  | .socketConnect containerId registrationId _ _ | .socketCancel containerId registrationId _
  | .socketReply containerId registrationId => some (containerId, registrationId)
  | _ => none

/-- The connection for which a URL is being opened. -/
def Handler.opening : Handler → Option (Option (String × Nat))
  | .openUrl _ origin | .openUrlLaunch origin => some origin
  | _ => none

/-- Tasks that never touch more than hidden parts again. -/
def ProxyTask.detached : ProxyTask → Bool
  | .handshake | .capturing => false
  | _ => true

theorem register_agrees {connId : String} {proxy : ProxyState} {receiver : Option Nat}
    (h : ctx.proxy.register connId = (proxy, receiver)) : ctx.Agrees { ctx with proxy := proxy } := by
  obtain ⟨_, _, _, rfl⟩ := ProxyState.register_frame h
  exact rfl

theorem prepare_agrees {url : String} {now : Instant} {browser : BrowserOpener}
    {result : Except BrowserError (String × Option String)}
    (h : ctx.browser.prepare url now = (browser, result)) :
    ctx.Agrees { ctx with browser := browser } := by
  unfold BrowserOpener.prepare at h
  split at h
  · cases h
    exact .refl ctx
  · dsimp only at h
    split at h
    · cases h
      exact rfl
    · cases h
      exact rfl

theorem bridging_step {owner : String × Nat} (hOwner : handler.bridging = some owner)
    (h : nextHandler cfg ctx handler input = some (after, next)) :
    ctx.Agrees after ∧ input.fromPeer = false ∧
      (next.bridging = some owner ∨ next = .serving owner.1 owner.2) := by
  cases handler <;> cases hOwner
  case socketLookup containerId registrationId socketId connId =>
    cases input <;> try cases h
    dsimp only [nextHandler, nextAuxiliary] at h
    split_ifs at h <;> cases h <;> exact ⟨.refl ctx, rfl, .inl rfl⟩
  case socketRegister containerId registrationId connId =>
    cases input <;> try cases h
    dsimp only [nextHandler, nextAuxiliary] at h
    split at h
    case h_1 proxy receiver hRegister =>
      cases h
      exact ⟨register_agrees hRegister, rfl, .inl rfl⟩
    case h_2 proxy hRegister =>
      cases h
      exact ⟨register_agrees hRegister, rfl, .inr rfl⟩
  case socketConnect containerId registrationId connId receiver =>
    cases input <;> try cases h
    case launched ok =>
      dsimp only [nextHandler, nextAuxiliary] at h
      split_ifs at h
      · cases h
        exact ⟨rfl, rfl, .inr rfl⟩
      · cases h
        exact ⟨.refl ctx, rfl, .inl rfl⟩
  case socketCancel containerId registrationId connId =>
    cases input <;> try cases h
    exact ⟨rfl, rfl, .inl rfl⟩
  case socketReply containerId registrationId =>
    cases input <;> try cases h
    exact ⟨.refl ctx, rfl, .inr rfl⟩

theorem opening_step {origin : Option (String × Nat)} (hOrigin : handler.opening = some origin)
    (h : nextHandler cfg ctx handler input = some (after, next)) :
    ctx.Agrees after ∧ input.fromPeer = false ∧
      (next.opening = some origin ∨ next = .openUrlAck origin) := by
  cases handler <;> cases hOrigin
  case openUrl url =>
    cases input <;> try cases h
    case clock now =>
      dsimp only [nextHandler, nextAuxiliary] at h
      split at h
      case h_1 browser target hPrepare =>
        cases h
        exact ⟨prepare_agrees hPrepare, rfl, .inl rfl⟩
      case h_2 browser error hPrepare =>
        cases h
        exact ⟨prepare_agrees hPrepare, rfl, .inr rfl⟩
  case openUrlLaunch =>
    cases input <;> try cases h
    exact ⟨.refl ctx, rfl, .inr rfl⟩

theorem nextClient_detached {s : HostState} {task task' : ProxyTask} {proxy : ProxyState}
    (h : nextClient s ctx.proxy task input = some (proxy, task')) :
    ctx.Agrees { ctx with proxy := proxy } ∧ input.fromPeer = false ∧ task'.detached = true := by
  cases nextClient_cases h with
  | @counted _ route => exact ⟨by cases route.tracker <;> rfl, rfl, rfl⟩
  | registered hRegister => exact ⟨register_agrees hRegister, rfl, rfl⟩
  | unregistered hRegister => exact ⟨register_agrees hRegister, rfl, rfl⟩
  | @uncounted route => exact ⟨by cases route.tracker <;> rfl, rfl, rfl⟩
  | _ => exact ⟨rfl, rfl, rfl⟩

theorem resolve_agrees {connId : String} {proxy : ProxyState}
    (h : ctx.proxy.resolve connId = some proxy) : ctx.Agrees { ctx with proxy := proxy } := by
  obtain ⟨_, _, rfl⟩ := ProxyState.resolve_frame h
  rfl

theorem nextData_detached {task task' : ProxyTask} {proxy : ProxyState}
    (hDetached : task.detached = true) (h : nextData cfg ctx.proxy task input = some (proxy, task')) :
    ctx.Agrees { ctx with proxy := proxy } ∧ input.fromPeer = false ∧ task'.detached = true := by
  cases nextData_cases h with
  | dispatched => cases hDetached
  | closed => cases hDetached
  | resolved hResolve => exact ⟨resolve_agrees hResolve, rfl, rfl⟩
  | captured => cases hDetached
  | _ => exact ⟨rfl, rfl, rfl⟩

/-- A detached task stays detached and reaches hidden parts only. -/
theorem detached_step {task : ProxyTask} (hDetached : task.detached = true)
    (h : nextProxy cfg ctx task input = some (after, next)) :
    ctx.Agrees after ∧ input.fromPeer = false ∧ ∃ task', next = .proxy task' ∧ task'.detached = true := by
  obtain ⟨proxy, task', rfl, rfl, hTask⟩ := nextProxy_cases h
  rcases hTask with hClient | hData
  · obtain ⟨hAgrees, hPeer, hTask⟩ := nextClient_detached hClient
    exact ⟨hAgrees, hPeer, task', rfl, hTask⟩
  · obtain ⟨hAgrees, hPeer, hTask⟩ := nextData_detached hDetached hData
    exact ⟨hAgrees, hPeer, task', rfl, hTask⟩

theorem dispatchData_mask (cfg : HostConfig) (ctx : DaemonContext) (hidden : Hidden) (message : Message) :
    { ctx.mask hidden with proxy := (dispatchData cfg (ctx.mask hidden).proxy message).1 } =
        ({ ctx with proxy := (dispatchData cfg ctx.proxy message).1 } : DaemonContext).mask hidden ∧
      (dispatchData cfg (ctx.mask hidden).proxy message).2 = (dispatchData cfg ctx.proxy message).2 := by
  have hActive : (ctx.mask hidden).proxy.transferActive = ctx.proxy.transferActive := rfl
  unfold dispatchData
  rw [hActive]
  split
  · split_ifs <;> exact ⟨rfl, rfl⟩
  · split_ifs <;> exact ⟨rfl, rfl⟩
  · exact ⟨rfl, rfl⟩

/-- Data connections wait for their message and capture the same way. -/
theorem nextProxy_mask {task : ProxyTask} (hDetached : task.detached = false)
    (h : nextProxy cfg ctx task input = some (after, next)) (hidden : Hidden) :
    nextProxy cfg (ctx.mask hidden) task input = some (after.mask hidden, next) := by
  cases task <;> cases hDetached
  case handshake =>
    cases input <;> try cases h
    case receive message =>
      obtain ⟨hCtx, hTask⟩ := dispatchData_mask cfg ctx hidden message
      exact congrArg some (Prod.ext hCtx (congrArg Handler.proxy hTask))
    case fail => rfl
  case capturing =>
    cases input <;> try cases h
    · rfl
    · rfl

theorem nextIdle_mask (h : nextIdle ctx input = some (after, next)) (hBridge : input ≠ .spawnBridge)
    (hidden : Hidden) : nextIdle (ctx.mask hidden) input = some (after.mask hidden, next) := by
  cases nextIdle_cases h with
  | client hQueue => simp only [nextIdle, DaemonContext.mask, hQueue]
  | bridge => exact absurd rfl hBridge
  | _ => rfl

/-- Only a task that is not spawned yet can become a socket bridge. -/
theorem spawnBridge_step (h : nextHandler cfg ctx handler .spawnBridge = some (after, next)) :
    ctx.Agrees after ∧ ∃ task, next = .proxy task ∧ task.detached = true := by
  cases handler <;> try cases h
  case broadcasting sends => cases sends <;> cases h
  case idle =>
    dsimp only [nextHandler, nextIdle] at h
    split at h
    · cases h
    · cases h
      exact ⟨rfl, _, rfl, rfl⟩
  case proxy task =>
    obtain ⟨proxy, task', rfl, rfl, hTask⟩ := nextProxy_cases h
    cases task <;> rcases hTask with hClient | hData <;> contradiction

/-- Only a message loop flushes a ConnectRequest, and it goes on afterwards. -/
theorem flushRequest_step {ok : Bool}
    (h : nextHandler cfg ctx handler (.flushRequest ok) = some (after, next)) :
    ctx.Agrees after ∧ next = handler := by
  cases handler <;> try cases h
  case broadcasting sends => cases sends <;> cases h
  case serving containerId registrationId =>
    dsimp only [nextHandler, nextServing] at h
    split at h
    · cases h
    · cases h
      cases ok <;> exact ⟨rfl, rfl⟩
  case proxy task =>
    obtain ⟨proxy, task', rfl, rfl, hTask⟩ := nextProxy_cases h
    cases task <;> rcases hTask with hClient | hData <;> contradiction

theorem openUrlAck_mask {origin : Option (String × Nat)}
    (h : nextAuxiliary ctx (.openUrlAck origin) input = some (after, next)) (hidden : Hidden) :
    nextAuxiliary (ctx.mask hidden) (.openUrlAck origin) input = some (after.mask hidden, next) := by
  cases input <;> try cases h
  case sent ok =>
    cases origin with
    | none => cases h; rfl
    | some owner => cases ok <;> cases h <;> rfl

/-- A handler performs the same step on the tables whatever the hidden parts. -/
theorem nextHandler_mask (h : nextHandler cfg ctx handler input = some (after, next))
    (hBridging : handler.bridging = none) (hOpening : handler.opening = none)
    (hDetached : ∀ task, handler = .proxy task → task.detached = false)
    (hFlush : ∀ ok, input ≠ .flushRequest ok) (hSpawn : input ≠ .spawnBridge) (hidden : Hidden) :
    ∃ other hidden', input.Alike other ∧
      nextHandler cfg (ctx.mask hidden) handler other = some (after.mask hidden', next) := by
  cases handler
  case idle => exact ⟨input, hidden, .refl _, nextIdle_mask h hSpawn hidden⟩
  case finished => cases h
  case proxy task => exact ⟨input, hidden, .refl _, nextProxy_mask (hDetached task rfl) h hidden⟩
  case openUrl => cases hOpening
  case openUrlLaunch => cases hOpening
  case openUrlAck origin => exact ⟨input, hidden, .refl _, openUrlAck_mask h hidden⟩
  case serving containerId registrationId =>
    have hServing : nextServing cfg ctx (.serving containerId registrationId) input =
      some (after, next) := h
    exact nextServing_mask hServing hFlush hidden
  all_goals first
    | exact nextRegister_mask h hidden
    | exact nextForward_mask h hidden
    | exact nextUnforward_mask h hidden
    | exact nextServing_mask h hFlush hidden
    | exact nextScanner_mask h hidden
    | cases hBridging

variable (cfg) in
/-- One task on its own. -/
def taskStep (task : DaemonContext × Handler) (input : Input) : Option (DaemonContext × Handler) :=
  nextHandler cfg task.1 task.2 input

variable (cfg ctx) in
/-- A task can get to a position by itself, changing hidden parts only. -/
def Settles (handler target : Handler) : Prop :=
  ∃ inputs after, exec (taskStep cfg) (ctx, handler) inputs = some (after, target) ∧
    (∀ input ∈ inputs, input.fromPeer = false) ∧ ctx.Agrees after

theorem Settles.refl (handler : Handler) : Settles cfg ctx handler handler :=
  ⟨[], ctx, rfl, by simp, .refl ctx⟩

theorem Settles.step {target : Handler} (input : Input)
    (h : nextHandler cfg ctx handler input = some (after, next)) (hPeer : input.fromPeer = false)
    (hAgrees : ctx.Agrees after) (rest : Settles cfg after next target) :
    Settles cfg ctx handler target := by
  obtain ⟨inputs, finish, hExec, hPeers, hRest⟩ := rest
  refine ⟨input :: inputs, finish, exec_cons.mpr ⟨_, h, hExec⟩, ?_, hAgrees.trans hRest⟩
  intro other hOther
  rcases List.mem_cons.mp hOther with rfl | hLater
  · exact hPeer
  · exact hPeers other hLater

/-- A handler of SocketConnectRequest can always give up and return. -/
theorem bridging_settles {owner : String × Nat} (hOwner : handler.bridging = some owner) :
    Settles cfg ctx handler (.serving owner.1 owner.2) := by
  have reply : ∀ ctx containerId registrationId,
      Settles cfg ctx (.socketReply containerId registrationId) (.serving containerId registrationId) :=
    fun ctx _ _ => .step (.sent true) rfl rfl (.refl ctx) (.refl _)
  have connect : ∀ ctx containerId registrationId connId receiver,
      Settles cfg ctx (.socketConnect containerId registrationId connId receiver)
        (.serving containerId registrationId) :=
    fun ctx _ _ _ _ => .step (.launched true) rfl rfl rfl (.refl _)
  have register : ∀ ctx containerId registrationId connId,
      Settles cfg ctx (.socketRegister containerId registrationId connId)
        (.serving containerId registrationId) := by
    intro ctx containerId registrationId connId
    cases hRegister : ctx.proxy.register connId with
    | mk proxy receiver =>
        cases receiver with
        | none =>
            refine .step .proceed ?_ rfl (register_agrees hRegister) (.refl _)
            simp only [nextHandler, nextAuxiliary, hRegister]
        | some receiver =>
            refine .step .proceed ?_ rfl (register_agrees hRegister)
              (connect _ containerId registrationId connId receiver)
            simp only [nextHandler, nextAuxiliary, hRegister]
  cases handler <;> cases hOwner
  case socketLookup containerId registrationId socketId connId =>
    by_cases hKnown : socketId ∈ ctx.state.socketForwards
    · exact .step .proceed (if_pos hKnown) rfl (.refl ctx) (register ..)
    · exact .step .proceed (if_neg hKnown) rfl (.refl ctx) (reply ..)
  case socketRegister => exact register ..
  case socketConnect => exact connect ..
  case socketCancel => exact .step .proceed rfl rfl rfl (reply ..)
  case socketReply => exact reply ..

/-- Opening a URL always comes to its acknowledgement. -/
theorem opening_settles {origin : Option (String × Nat)} (hOrigin : handler.opening = some origin) :
    Settles cfg ctx handler (.openUrlAck origin) := by
  have launch : ∀ ctx, Settles cfg ctx (.openUrlLaunch origin) (.openUrlAck origin) :=
    fun ctx => .step (.launched true) rfl rfl (.refl ctx) (.refl _)
  cases handler <;> cases hOrigin
  case openUrl url =>
    rcases hPrepare : ctx.browser.prepare url 0 with ⟨browser, _ | _⟩
    · refine .step (.clock 0) ?_ rfl (prepare_agrees hPrepare) (.refl _)
      simp only [nextHandler, nextAuxiliary, hPrepare]
    · refine .step (.clock 0) ?_ rfl (prepare_agrees hPrepare) (launch _)
      simp only [nextHandler, nextAuxiliary, hPrepare]
  case openUrlLaunch => exact launch ctx

/-- The steps of one task are steps of the daemon. -/
theorem Daemon.exec_task {d : Daemon} {id : Nat} {inputs : List Input} {finish : DaemonContext × Handler}
    (hRunning : d.running = true)
    (h : exec (taskStep cfg) (d.ctx, d.tasks id) inputs = some finish) :
    exec (Daemon.step cfg) d (inputs.map (.task id)) =
      some { d with ctx := finish.1, tasks := Function.update d.tasks id finish.2 } := by
  induction inputs generalizing d with
  | nil =>
      cases h
      simp [exec]
  | cons input rest ih =>
      obtain ⟨⟨ctx, handler⟩, hNext, hRest⟩ := exec_cons.mp h
      have hStep : Daemon.step cfg d (.task id input) =
          some { d with ctx := ctx, tasks := Function.update d.tasks id handler } :=
        Daemon.step_of_nextHandler hRunning hNext
      rw [List.map_cons, exec_cons]
      refine ⟨_, hStep, ?_⟩
      have hLater := ih (d := { d with ctx := ctx, tasks := Function.update d.tasks id handler })
        hRunning (by simpa using hRest)
      simpa using hLater

end DevcontainerBridge
