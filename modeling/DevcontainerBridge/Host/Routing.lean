import DevcontainerBridge.Host.Listeners

/-! Where a client of a forwarded port ends up. The listener hands over the
container port alone, and the handler looks a container up by that port. -/
namespace DevcontainerBridge

open Table Transition

/-- The route through one container to a tracker. -/
def ClientRoute.through (containerId : String) (cstate : ContainerState) (tracker : Nat) : ClientRoute where
  containerId := containerId
  tracker := some tracker
  connectTx := some cstate.connectRequestTx

/-- A client handler with a captured route, up to its end. -/
def ProxyTask.Follows (client : ClientConnection) (route : ClientRoute) : ProxyTask → Prop
  | .clientIncrement c r | .clientRegister c r | .clientSend c r _ _ => c = client ∧ r = route
  | .clientSubscribe r _ _ | .clientBridge r _ _ _ | .clientBridgeCancel r _ _ | .clientCancel r _
  | .clientDone r => r = route
  | .finished => True
  | _ => False

/-- The handler is past counting its connection. -/
def ProxyTask.hasCounted : ProxyTask → Bool
  | .clientLookup _ | .clientIncrement .. => false
  | _ => true

/-- The handler is past queueing its request. -/
def ProxyTask.requested : ProxyTask → Bool
  | .clientLookup _ | .clientIncrement .. | .clientRegister .. | .clientSend .. => false
  | _ => true

/-- The pending entries that a pruning would leave are fewer than the limit. -/
def ProxyState.hasRoom (p : ProxyState) : Bool :=
  (retain (fun _ other => p.receivers other ≠ .closed) p.pending).keys.card < maxPending

/-- The pending map takes the entry of a client handler, and the channel takes
its request. -/
def ProxyTask.unhindered (p : ProxyState) : ProxyTask → Input → Bool
  | .clientRegister .., .uuid _ => p.hasRoom
  | .clientSend _ route _ _, .sent _ => route.connectTx.any p.channelOpen
  | _, _ => true

namespace Handler

def hasCounted : Handler → Bool
  | .proxy task => task.hasCounted
  | _ => false

def requested : Handler → Bool
  | .proxy task => task.requested
  | _ => false

end Handler

namespace Daemon

/-- The step of one task. -/
def ownStep (cfg : HostConfig) (id : Nat) (d : Daemon) (action : Action) : Option Daemon :=
  if action.task? = some id then Daemon.step cfg d action else none

/-- How often a task counts on a tracker in a run. -/
def countedBy (cfg : HostConfig) (id tracker : Nat) : List (Daemon × Action) → Nat
  | [] => 0
  | (d, action) :: trace =>
      ((ownStep cfg id d action).elim 0 fun after =>
        (after.ctx.proxy.trackers tracker).count - (d.ctx.proxy.trackers tracker).count) +
        countedBy cfg id tracker trace

/-- The requests that a task queues on a channel in a run. -/
def requestsBy (cfg : HostConfig) (id channel : Nat) (trace : List (Daemon × Action)) : List OutboundConnectRequest :=
  trace.flatMap fun (d, action) =>
    (ownStep cfg id d action).elim [] fun after =>
      (after.ctx.proxy.connectRequests channel).drop (d.ctx.proxy.connectRequests channel).length

/-- Whether a step of the handler meets no full pending map and no closed
channel. -/
def unhindered (id : Nat) (d : Daemon) : Action → Bool
  | .task other input =>
      if other = id then
        match d.tasks id with
        | .proxy task => task.unhindered d.ctx.proxy input
        | _ => true
      else true
  | _ => true

/-- The handler waits for room in the channel. -/
def Waits (d : Daemon) (id : Nat) : Prop :=
  ∃ client route connId receiver channel, d.tasks id = .proxy (.clientSend client route connId receiver) ∧
    route.connectTx = some channel ∧ d.ctx.proxy.channelOpen channel = true ∧
    outboundChannelCapacity ≤ (d.ctx.proxy.connectRequests channel).length

/-- The run of a handler serves its client through one forward: it has found
the container, has counted the connection once on the tracker and has queued one
request for the port on the channel once it is past these points, and nothing on
another tracker or channel. -/
structure Serves (cfg : HostConfig) (id : Nat) (containerId : String) (channel : Nat) (port : UInt16)
    (tracker : Nat) (trace : List (Daemon × Action)) (finish : Daemon) : Prop where
  found : ∀ client route, finish.tasks id = .proxy (.clientIncrement client route) → route.containerId = containerId
  counted : countedBy cfg id tracker trace = if (finish.tasks id).hasCounted then 1 else 0
  queued : if (finish.tasks id).requested then
      ∃ connId, requestsBy cfg id channel trace = [{ port := port, connId := connId }]
    else requestsBy cfg id channel trace = []
  trackers : ∀ other, other ≠ tracker → countedBy cfg id other trace = 0
  channels : ∀ other, other ≠ channel → requestsBy cfg id other trace = []

/-- The run of the handler in task `id`, from its lookup on, serves its client
through the forward of a container. -/
def ServedBy (cfg : HostConfig) (d : Daemon) (id : Nat) (containerId : String) (port : UInt16) (tracker : Nat)
    (order : List (Σ _ : String, ContainerState)) (rest : List (Daemon × Action)) (finish : Daemon) : Prop :=
  ∃ cstate, d.ctx.state.containers.lookup containerId = some cstate ∧
    Serves cfg id containerId cstate.connectRequestTx port tracker ((d, .task id (.enumerate order)) :: rest) finish

/-- The forward of a listener is live, and its container is the only one that
forwards the port. -/
def Owns (d : Daemon) (containerId : String) (port : UInt16) (listener : Nat) : Prop :=
  (∃ live, d.ctx.state.forwardOf containerId port = some live ∧ live.listener = listener) ∧
    ∀ other g, d.ctx.state.forwardOf other port = some g → other = containerId

/-- In whatever order the lookup of the handler enumerates the containers, its
client is served through the forward in every run that does not hinder it. -/
def RoutesClient (cfg : HostConfig) (d : Daemon) (id : Nat) (containerId : String) (port : UInt16)
    (tracker : Nat) : Prop :=
  ∀ order d' rest finish, Daemon.step cfg d (.task id (.enumerate order)) = some d' →
    Run (Daemon.step cfg) d' rest finish → Guarded (fun s action => s.unhindered id action = true) rest →
    d.ServedBy cfg id containerId port tracker order rest finish

end Daemon

variable {cfg : HostConfig} {d d' : Daemon} {id : Nat} {input : Input} {client : ClientConnection}
  {route : ClientRoute} {order : List (Σ _ : String, ContainerState)} {containerId : String}
  {port : UInt16}

theorem nextClient_follows {s : HostState} {p p' : ProxyState} {task task' : ProxyTask}
    (hFollows : task.Follows client route) (h : nextClient s p task input = some (p', task')) :
    task'.Follows client route := by
  cases nextClient_cases h with
  | routed => cases hFollows
  | unrouted => cases hFollows
  | unconnected => trivial
  | unregistered => exact hFollows.2
  | queued => exact hFollows.2
  | unsent => exact hFollows.2
  | uncounted => trivial
  | _ => exact hFollows

theorem nextData_eq_none_of_follows {p : ProxyState} {task : ProxyTask}
    (hFollows : task.Follows client route) : nextData cfg p task input = none := by
  cases task <;> first | rfl | cases hFollows

/-- The lookup of a client handler. -/
theorem Daemon.step_clientLookup (cfg : HostConfig) (hRunning : d.running = true)
    (hTask : d.tasks id = .proxy (.clientLookup client)) (hOrder : Enumerates order d.ctx.state.containers) :
    Daemon.step cfg d (.task id (.enumerate order)) = some
      { d with
        tasks := Function.update d.tasks id (.proxy
          (match d.ctx.state.routeClient order client.containerPort with
          | some route => .clientIncrement client route
          | none => .finished)) } := by
  simp only [Daemon.step, hRunning, if_true, hTask, nextHandler, nextProxy, nextClient, hOrder]
  cases d.ctx.state.routeClient order client.containerPort <;> rfl

theorem Daemon.enumerates_of_step (hTask : d.tasks id = .proxy (.clientLookup client))
    (hStep : Daemon.step cfg d (.task id (.enumerate order)) = some d') :
    Enumerates order d.ctx.state.containers := by
  by_contra hOrder
  have hNone : Daemon.step cfg d (.task id (.enumerate order)) = none := by
    unfold Daemon.step
    simp [hTask, nextHandler, nextProxy, nextClient, hOrder, nextData]
  rw [hNone] at hStep
  cases hStep

/-- The lookup by port finds a container that forwards it, and only such. -/
theorem HostState.findContainerForPort_mem {s : HostState} (hOrder : Enumerates order s.containers)
    (h : HostState.findContainerForPort order port = some containerId) :
    ∃ cstate fstate, s.containers.lookup containerId = some cstate ∧
      s.forwardOf containerId port = some fstate := by
  obtain ⟨⟨owner, cstate⟩, hFind, rfl⟩ := Option.map_eq_some_iff.mp h
  have hContainer := (mem_of_enumerates hOrder owner cstate).mp (List.mem_of_find?_eq_some hFind)
  have hPort : port ∈ cstate.forwards := by simpa using List.find?_some hFind
  obtain ⟨fstate, hForward⟩ := Finmap.mem_iff.mp hPort
  exact ⟨cstate, fstate, hContainer, by rw [HostState.forwardOf, hContainer, Option.bind_some, hForward]⟩

theorem HostState.findContainerForPort_isSome {s : HostState} (hOrder : Enumerates order s.containers)
    {fstate : ForwardState} (h : s.forwardOf containerId port = some fstate) :
    (HostState.findContainerForPort order port).isSome = true := by
  obtain ⟨cstate, hContainer, hForward⟩ := Option.bind_eq_some_iff.mp h
  have hMember := (mem_of_enumerates hOrder containerId cstate).mpr hContainer
  have hPort := Finmap.mem_of_lookup_eq_some hForward
  rw [HostState.findContainerForPort, Option.isSome_map, List.find?_isSome]
  exact ⟨_, hMember, by simpa using hPort⟩

/-- The route that a lookup captures belongs to the forward that it found. -/
theorem HostState.routeClient_of_find {s : HostState} {cstate : ContainerState} {fstate : ForwardState}
    (hFind : HostState.findContainerForPort order port = some containerId)
    (hContainer : s.containers.lookup containerId = some cstate)
    (hForward : s.forwardOf containerId port = some fstate) :
    s.routeClient order port = some (.through containerId cstate fstate.tracker) := by
  rw [HostState.forwardOf, hContainer, Option.bind_some] at hForward
  simp [HostState.routeClient, ClientRoute.through, hFind, hContainer, hForward]

/-- With one container on the port every order of enumeration finds it. -/
theorem HostState.routeClient_sole {s : HostState} (hOrder : Enumerates order s.containers)
    {cstate : ContainerState} {fstate : ForwardState}
    (hContainer : s.containers.lookup containerId = some cstate)
    (hForward : s.forwardOf containerId port = some fstate)
    (hSole : ∀ other g, s.forwardOf other port = some g → other = containerId) :
    s.routeClient order port = some (.through containerId cstate fstate.tracker) := by
  obtain ⟨owner, hOwner⟩ := Option.isSome_iff_exists.mp
    (HostState.findContainerForPort_isSome hOrder hForward)
  obtain ⟨_, g, _, hOther⟩ := HostState.findContainerForPort_mem hOrder hOwner
  have hSame := hSole owner g hOther
  subst hSame
  exact HostState.routeClient_of_find hOwner hContainer hForward

/-- Any container on the port is found by some order of enumeration. -/
theorem HostState.exists_order_find {s : HostState} {fstate : ForwardState}
    (hForward : s.forwardOf containerId port = some fstate) :
    ∃ order, Enumerates order s.containers ∧
      HostState.findContainerForPort order port = some containerId := by
  obtain ⟨cstate, hContainer, hLookup⟩ := Option.bind_eq_some_iff.mp hForward
  obtain ⟨rest, hOrder⟩ := exists_enumerates_cons hContainer
  have hPort : port ∈ cstate.forwards := Finmap.mem_of_lookup_eq_some hLookup
  exact ⟨_, hOrder, by simp [HostState.findContainerForPort, hPort]⟩

/-- The map has room for an entry exactly where it is registered. -/
theorem ProxyState.hasRoom_of_register {p p' : ProxyState} {connId : String} {receiver : Option Nat}
    (h : p.register connId = (p', receiver)) : p.hasRoom = receiver.isSome := by
  have hFewer : (retain (fun _ other => p.receivers other ≠ .closed) p.pending).keys.card ≤
      p.pending.keys.card := by
    apply Finset.card_le_card
    intro key hKey
    obtain ⟨value, hValue⟩ := Finmap.mem_iff.mp (Finmap.mem_keys.mp hKey)
    exact Finmap.mem_keys.mpr (Finmap.mem_of_lookup_eq_some ((lookup_retain _ _ _ _).mp hValue).1)
  unfold register registerPending at h
  dsimp only at h
  unfold hasRoom
  split_ifs at h with hFull hStill
  · cases h
    simpa using hStill
  · cases h
    simpa using hStill
  · cases h
    simpa using hFewer.trans_lt (Nat.not_le.mp hFull)

/-- What a step of a client handler does that has captured its route. The last
argument tells whether it is unhindered. -/
inductive ClientEffect (client : ClientConnection) (tracker channel : Nat) (p p' : ProxyState)
    (task task' : ProxyTask) : Bool → Prop where
  | counts (hCounted : task.hasCounted = false) (hNext : task'.hasCounted = true)
      (hRequested : task'.requested = task.requested)
      (hTrackers : p'.trackers = (p.increment (some tracker)).trackers)
      (hRequests : p'.connectRequests = p.connectRequests) :
      ClientEffect client tracker channel p p' task task' true
  | queues {connId : String} (hCounted : task'.hasCounted = task.hasCounted) (hRequested : task.requested = false)
      (hNext : task'.requested = true) (hTrackers : p'.trackers = p.trackers)
      (hRequests : p'.connectRequests =
        (p.queueRequest channel { port := client.containerPort, connId := connId }).connectRequests) :
      ClientEffect client tracker channel p p' task task' true
  | goesOn (hCounted : task'.hasCounted = task.hasCounted) (hRequested : task'.requested = task.requested)
      (hTrackers : ∀ n, (p'.trackers n).count ≤ (p.trackers n).count)
      (hRequests : p'.connectRequests = p.connectRequests) : ClientEffect client tracker channel p p' task task' true
  | dropped (hCounted : task'.hasCounted = task.hasCounted) (hRequested : task.requested = false)
      (hNext : task'.requested = true) (hTrackers : p'.trackers = p.trackers)
      (hRequests : p'.connectRequests = p.connectRequests) : ClientEffect client tracker channel p p' task task' false

theorem ProxyState.count_decrement_le (p : ProxyState) (tracker : Option Nat) (n : Nat) :
    ((p.decrement tracker).trackers n).count ≤ (p.trackers n).count := by
  cases tracker with
  | none => exact le_refl _
  | some other =>
      unfold decrement
      dsimp only
      by_cases hHere : n = other
      · subst hHere
        rw [Function.update_self]
        exact Nat.sub_le _ _
      · rw [Function.update_of_ne hHere]

theorem clientEffect_of_move {s : HostState} {p p' : ProxyState} {task task' : ProxyTask} {tracker channel : Nat}
    (hTracker : route.tracker = some tracker) (hChannel : route.connectTx = some channel)
    (hFollows : task.Follows client route) (h : ClientMove s p task input p' task') :
    ClientEffect client tracker channel p p' task task' (task.unhindered p input) := by
  cases h with
  | routed => cases hFollows
  | unrouted => cases hFollows
  | counted =>
      obtain ⟨rfl, rfl⟩ := hFollows
      exact .counts rfl rfl rfl (by rw [hTracker]) (by rw [hTracker]; rfl)
  | unconnected hNone =>
      obtain ⟨rfl, rfl⟩ := hFollows
      rw [hNone] at hChannel
      cases hChannel
  | registered hRegister =>
      have hRoom := ProxyState.hasRoom_of_register hRegister
      obtain ⟨_, _, _, rfl⟩ := ProxyState.register_frame hRegister
      rw [ProxyTask.unhindered, hRoom]
      exact .goesOn rfl rfl (fun _ => le_refl _) rfl
  | unregistered hRegister =>
      have hRoom := ProxyState.hasRoom_of_register hRegister
      obtain ⟨_, _, _, rfl⟩ := ProxyState.register_frame hRegister
      rw [ProxyTask.unhindered, hRoom]
      exact .dropped rfl rfl rfl rfl rfl
  | queued hOther hRoom =>
      obtain ⟨rfl, rfl⟩ := hFollows
      obtain rfl := Option.some.inj (hOther.symm.trans hChannel)
      rw [ProxyTask.unhindered, hChannel, Option.any_some, hRoom.1]
      exact .queues rfl rfl rfl rfl rfl
  | unsent hOther hClosed =>
      obtain ⟨rfl, rfl⟩ := hFollows
      rw [ProxyTask.unhindered, hOther, Option.any_some, Bool.eq_false_iff.mpr hClosed]
      exact .dropped rfl rfl rfl rfl rfl
  | @uncounted captured => exact .goesOn rfl rfl (p.count_decrement_le _) (by cases captured.tracker <;> rfl)
  | _ => exact .goesOn rfl rfl (fun _ => le_refl _) rfl

namespace Daemon

theorem countedBy_append {tracker : Nat} (left right : List (Daemon × Action)) :
    countedBy cfg id tracker (left ++ right) = countedBy cfg id tracker left + countedBy cfg id tracker right := by
  induction left with
  | nil => rw [List.nil_append, countedBy, Nat.zero_add]
  | cons entry left ih =>
      rw [List.cons_append, countedBy, countedBy, ih, Nat.add_assoc]

theorem requestsBy_append {channel : Nat} (left right : List (Daemon × Action)) :
    requestsBy cfg id channel (left ++ right) = requestsBy cfg id channel left ++ requestsBy cfg id channel right :=
  List.flatMap_append

/-- A step of another task counts and queues nothing for this one. -/
theorem requestsBy_other {action : Action} (hOther : action.task? ≠ some id) (number : Nat) :
    countedBy cfg id number [(d, action)] = 0 ∧ requestsBy cfg id number [(d, action)] = [] := by
  have hNone : ownStep cfg id d action = none := if_neg hOther
  simp [countedBy, requestsBy, hNone]

theorem requestsBy_step (hStep : Daemon.step cfg d (.task id input) = some d') (number : Nat) :
    countedBy cfg id number [(d, .task id input)] =
        (d'.ctx.proxy.trackers number).count - (d.ctx.proxy.trackers number).count ∧
      requestsBy cfg id number [(d, .task id input)] =
        (d'.ctx.proxy.connectRequests number).drop (d.ctx.proxy.connectRequests number).length := by
  have hSome : ownStep cfg id d (.task id input) = some d' := (if_pos rfl).trans hStep
  simp [countedBy, requestsBy, hSome]

/-- How far the run of a handler has come, and whether it was hindered. -/
structure Course (cfg : HostConfig) (id : Nat) (client : ClientConnection) (route : ClientRoute)
    (tracker channel : Nat) (rest : List (Daemon × Action)) (finish : Daemon) (task : ProxyTask) : Prop where
  here : finish.tasks id = .proxy task
  follows : task.Follows client route
  counted : countedBy cfg id tracker rest = if task.hasCounted then 1 else 0
  trackers : ∀ other, other ≠ tracker → countedBy cfg id other rest = 0
  channels : ∀ other, other ≠ channel → requestsBy cfg id other rest = []
  queued : Guarded (fun s action => s.unhindered id action = true) rest ∧
      (if task.requested then
        ∃ connId, requestsBy cfg id channel rest = [{ port := client.containerPort, connId := connId }]
      else requestsBy cfg id channel rest = []) ∨
    ¬Guarded (fun s action => s.unhindered id action = true) rest ∧ task.requested = true ∧
      requestsBy cfg id channel rest = []

end Daemon

namespace Daemon

/-- The queued part of a course where nothing is queued. -/
theorem Course.goOn_queued {tracker channel : Nat} {rest : List (Daemon × Action)} {middle : Daemon}
    {task task' : ProxyTask} {action : Action} (h : Course cfg id client route tracker channel rest middle task)
    (hRequested : task'.requested = task.requested) (hFree : middle.unhindered id action = true)
    (hNothing : requestsBy cfg id channel [(middle, action)] = []) :
    Guarded (fun s action => s.unhindered id action = true) (rest ++ [(middle, action)]) ∧
        (if task'.requested then ∃ connId, requestsBy cfg id channel (rest ++ [(middle, action)]) =
            [{ port := client.containerPort, connId := connId }]
          else requestsBy cfg id channel (rest ++ [(middle, action)]) = []) ∨
      ¬Guarded (fun s action => s.unhindered id action = true) (rest ++ [(middle, action)]) ∧
        task'.requested = true ∧ requestsBy cfg id channel (rest ++ [(middle, action)]) = [] := by
  rw [requestsBy_append, hNothing, List.append_nil, hRequested]
  rcases h.queued with ⟨hGuard, hQueued⟩ | ⟨hHindered, hRest⟩
  · refine .inl ⟨hGuard.append fun entry hEntry => ?_, hQueued⟩
    rw [List.mem_singleton.mp hEntry]
    exact hFree
  · exact .inr ⟨fun hGuard => hHindered hGuard.of_append, hRest⟩

/-- A step that is unhindered and neither counts nor queues anything. -/
theorem Course.goOn {tracker channel : Nat} {rest : List (Daemon × Action)} {middle finish : Daemon}
    {task task' : ProxyTask} {action : Action} (h : Course cfg id client route tracker channel rest middle task)
    (hHere : finish.tasks id = .proxy task') (hFollows : task'.Follows client route)
    (hCounted : task'.hasCounted = task.hasCounted) (hRequested : task'.requested = task.requested)
    (hFree : middle.unhindered id action = true)
    (hNothing : ∀ number, countedBy cfg id number [(middle, action)] = 0 ∧
      requestsBy cfg id number [(middle, action)] = []) :
    Course cfg id client route tracker channel (rest ++ [(middle, action)]) finish task' where
  here := hHere
  follows := hFollows
  counted := by rw [countedBy_append, (hNothing tracker).1, Nat.add_zero, h.counted, hCounted]
  trackers other hOther := by rw [countedBy_append, (hNothing other).1, Nat.add_zero, h.trackers other hOther]
  channels other hOther := by rw [requestsBy_append, (hNothing other).2, List.append_nil, h.channels other hOther]
  queued := h.goOn_queued hRequested hFree (hNothing channel).2

/-- A step of the handler itself takes the course on, hindered or not. -/
theorem Course.own {tracker channel : Nat} {rest : List (Daemon × Action)} {middle finish : Daemon} {free : Bool}
    {task task' : ProxyTask} (h : Course cfg id client route tracker channel rest middle task)
    (hHere : finish.tasks id = .proxy task') (hFollows : task'.Follows client route)
    (hStep : Daemon.step cfg middle (.task id input) = some finish)
    (hFree : middle.unhindered id (.task id input) = free)
    (hEffect : ClientEffect client tracker channel middle.ctx.proxy finish.ctx.proxy task task' free) :
    Course cfg id client route tracker channel (rest ++ [(middle, .task id input)]) finish task' := by
  have hGains := fun number => requestsBy_step hStep number
  -- a request is queued or dropped only where none was before
  have hUnqueued : task.requested = false →
      Guarded (fun s action => s.unhindered id action = true) rest ∧ requestsBy cfg id channel rest = [] := by
    intro hRequested
    rcases h.queued with ⟨hGuard, hQueued⟩ | ⟨-, hContra, -⟩
    · rw [hRequested] at hQueued
      exact ⟨hGuard, hQueued⟩
    · rw [hRequested] at hContra
      cases hContra
  cases hEffect with
  | counts hCounted hNext hRequested hTrackers hRequests =>
      have hNone : ∀ number, requestsBy cfg id number [(middle, .task id input)] = [] :=
        fun number => by rw [(hGains number).2, hRequests, List.drop_length]
      have hBefore := h.counted
      rw [hCounted] at hBefore
      refine ⟨hHere, hFollows, ?_, fun other hOther => ?_, fun other hOther => ?_,
        h.goOn_queued hRequested hFree (hNone channel)⟩
      · rw [countedBy_append, hBefore, (hGains tracker).1, hTrackers, hNext]
        simp [ProxyState.increment]
      · rw [countedBy_append, h.trackers other hOther, (hGains other).1, hTrackers]
        simp [ProxyState.increment, hOther]
      · rw [requestsBy_append, h.channels other hOther, hNone other]
        rfl
  | queues hCounted hRequested hNext hTrackers hRequests =>
      obtain ⟨hGuard, hEmpty⟩ := hUnqueued hRequested
      have hNone : ∀ number, countedBy cfg id number [(middle, .task id input)] = 0 :=
        fun number => by rw [(hGains number).1, hTrackers, Nat.sub_self]
      refine ⟨hHere, hFollows, ?_, fun other hOther => ?_, fun other hOther => ?_, .inl ⟨?_, ?_⟩⟩
      · rw [countedBy_append, hNone, Nat.add_zero, h.counted, hCounted]
      · rw [countedBy_append, hNone, Nat.add_zero, h.trackers other hOther]
      · rw [requestsBy_append, h.channels other hOther, (hGains other).2, hRequests]
        simp [ProxyState.queueRequest, hOther]
      · refine hGuard.append fun entry hEntry => ?_
        rw [List.mem_singleton.mp hEntry]
        exact hFree
      · rw [requestsBy_append, hEmpty, (hGains channel).2, hRequests, hNext]
        simp [ProxyState.queueRequest]
  | goesOn hCounted hRequested hTrackers hRequests =>
      refine h.goOn hHere hFollows hCounted hRequested hFree fun number => ⟨?_, ?_⟩
      · rw [(hGains number).1]
        exact Nat.sub_eq_zero_of_le (hTrackers number)
      · rw [(hGains number).2, hRequests, List.drop_length]
  | dropped hCounted hRequested hNext hTrackers hRequests =>
      obtain ⟨-, hEmpty⟩ := hUnqueued hRequested
      have hNone : ∀ number, countedBy cfg id number [(middle, .task id input)] = 0 ∧
          requestsBy cfg id number [(middle, .task id input)] = [] := fun number => by
        rw [(hGains number).1, (hGains number).2, hTrackers, hRequests, Nat.sub_self, List.drop_length]
        exact ⟨rfl, rfl⟩
      refine ⟨hHere, hFollows, ?_, fun other hOther => ?_, fun other hOther => ?_, .inr ⟨?_, hNext, ?_⟩⟩
      · rw [countedBy_append, (hNone _).1, Nat.add_zero, h.counted, hCounted]
      · rw [countedBy_append, (hNone _).1, Nat.add_zero, h.trackers other hOther]
      · rw [requestsBy_append, (hNone _).2, List.append_nil, h.channels other hOther]
      · intro hGuard
        have hLast : middle.unhindered id (.task id input) = true := hGuard.last
        rw [hFree] at hLast
        cases hLast
      · rw [requestsBy_append, (hNone _).2, List.append_nil, hEmpty]

theorem Course.step {tracker channel : Nat} {rest : List (Daemon × Action)} {middle finish : Daemon}
    {task : ProxyTask} {action : Action} (hTracker : route.tracker = some tracker)
    (hChannel : route.connectTx = some channel) (h : Course cfg id client route tracker channel rest middle task)
    (hStep : Daemon.step cfg middle action = some finish) :
    ∃ task', Course cfg id client route tracker channel (rest ++ [(middle, action)]) finish task' := by
  have outside : action.task? ≠ some id → finish.tasks id = middle.tasks id → middle.unhindered id action = true →
      ∃ task', Course cfg id client route tracker channel (rest ++ [(middle, action)]) finish task' :=
    fun hOther hSame hFree =>
      ⟨task, h.goOn (hSame.trans h.here) h.follows rfl rfl hFree fun number => requestsBy_other hOther number⟩
  cases (Daemon.step_cases hStep).2 with
  | clientConnects => exact outside nofun rfl rfl
  | stop => exact outside nofun rfl rfl
  | @task other input after next hNext _ =>
      by_cases hHere : id = other
      · subst hHere
        rw [h.here] at hNext
        obtain ⟨proxy, task', rfl, rfl, hClient | hData⟩ := nextProxy_cases hNext
        · have hFree : middle.unhindered id (.task id input) = task.unhindered middle.ctx.proxy input := by
            simp [unhindered, h.here]
          exact ⟨task', h.own (Function.update_self ..) (nextClient_follows h.follows hClient) hStep hFree
            (clientEffect_of_move hTracker hChannel h.follows (nextClient_cases hClient))⟩
        · rw [nextData_eq_none_of_follows h.follows] at hData
          cases hData
      · have hOther : ¬other = id := fun hSame => hHere hSame.symm
        refine outside (by simpa [Action.task?] using hOther) (Function.update_of_ne hHere ..) ?_
        simp [unhindered, hOther]

/-- The run of a handler that has captured its route. -/
theorem course_of_run {tracker channel : Nat} {rest : List (Daemon × Action)} {finish : Daemon}
    (run : Run (Daemon.step cfg) d rest finish) (hTask : d.tasks id = .proxy (.clientIncrement client route))
    (hTracker : route.tracker = some tracker) (hChannel : route.connectTx = some channel) :
    ∃ task, Course cfg id client route tracker channel rest finish task := by
  induction run with
  | refl => exact ⟨_, hTask, ⟨rfl, rfl⟩, rfl, fun _ _ => rfl, fun _ _ => rfl, .inl ⟨by simp [Guarded], rfl⟩⟩
  | tail prior last ih =>
      obtain ⟨task, hCourse⟩ := ih
      exact hCourse.step hTracker hChannel last

/-- A handler that has not queued its request can go on, or waits for room. -/
theorem Course.proceeds {tracker channel : Nat} {rest : List (Daemon × Action)} {finish : Daemon} {task : ProxyTask}
    (h : Course cfg id client route tracker channel rest finish task) (hChannel : route.connectTx = some channel)
    (hRunning : finish.running = true) (hRequested : task.requested = false) :
    (∃ input after, Daemon.step cfg finish (.task id input) = some after) ∨ finish.Waits id := by
  have go : ∀ input, (nextClient finish.ctx.state finish.ctx.proxy task input).isSome = true →
      ∃ input after, Daemon.step cfg finish (.task id input) = some after := by
    intro input hSome
    obtain ⟨⟨proxy, task'⟩, hNext⟩ := Option.isSome_iff_exists.mp hSome
    have hHandler : nextHandler cfg finish.ctx (finish.tasks id) input =
        some ({ finish.ctx with proxy := proxy }, .proxy task') := by
      rw [h.here, nextHandler, nextProxy, hNext]
      rfl
    exact ⟨input, _, Daemon.step_of_nextHandler hRunning hHandler⟩
  have hHere := h.here
  have hFollows := h.follows
  cases task with
  | clientLookup => cases hFollows
  | clientIncrement other captured =>
      obtain ⟨rfl, rfl⟩ := hFollows
      exact .inl (go .proceed (by rw [nextClient, hChannel]; rfl))
  | clientRegister other captured =>
      refine .inl (go (.uuid "") ?_)
      unfold nextClient
      dsimp only
      split <;> rfl
  | clientSend other captured connId receiver =>
      obtain ⟨rfl, rfl⟩ := hFollows
      cases hOpen : finish.ctx.proxy.channelOpen channel with
      | false => exact .inl (go (.sent false) (by simp [nextClient, hChannel, hOpen]))
      | true =>
          by_cases hRoom : (finish.ctx.proxy.connectRequests channel).length < outboundChannelCapacity
          · exact .inl (go (.sent true) (by simp [nextClient, hChannel, hOpen, hRoom]))
          · exact .inr ⟨_, _, _, _, channel, hHere, hChannel, hOpen, Nat.not_lt.mp hRoom⟩
  | _ => cases hRequested

/-- The lookup counts and queues nothing. -/
theorem requestsBy_lookup (hTask : d.tasks id = .proxy (.clientLookup client))
    (hStep : Daemon.step cfg d (.task id (.enumerate order)) = some d') (rest : List (Daemon × Action))
    (number : Nat) :
    countedBy cfg id number ((d, .task id (.enumerate order)) :: rest) = countedBy cfg id number rest ∧
      requestsBy cfg id number ((d, .task id (.enumerate order)) :: rest) = requestsBy cfg id number rest := by
  obtain ⟨hCount, hRequests⟩ := requestsBy_step hStep number
  have hLookup := Daemon.step_clientLookup cfg (Daemon.step_cases hStep).1 hTask (Daemon.enumerates_of_step hTask hStep)
  rw [Option.some.inj (hStep.symm.trans hLookup)] at hCount hRequests
  constructor
  · rw [← List.singleton_append, countedBy_append, hCount, Nat.sub_self, Nat.zero_add]
  · rw [← List.singleton_append, requestsBy_append, hRequests, List.drop_length, List.nil_append]

/-- Where the lookup is bound to find one forward, the client is served through
it exactly if the handler is not hindered. -/
theorem servedBy_iff (hTask : d.tasks id = .proxy (.clientLookup client)) {cstate : ContainerState}
    {fstate : ForwardState} (hContainer : d.ctx.state.containers.lookup containerId = some cstate)
    (hForward : d.ctx.state.forwardOf containerId client.containerPort = some fstate)
    (hSole : ∀ other g, d.ctx.state.forwardOf other client.containerPort = some g → other = containerId)
    (hStep : Daemon.step cfg d (.task id (.enumerate order)) = some d') {rest : List (Daemon × Action)}
    {finish : Daemon} (run : Run (Daemon.step cfg) d' rest finish) :
    (d.ServedBy cfg id containerId client.containerPort fstate.tracker order rest finish ↔
        Guarded (fun s action => s.unhindered id action = true) rest) ∧
      (finish.running = true → (finish.tasks id).requested = false →
        (∃ input after, Daemon.step cfg finish (.task id input) = some after) ∨ finish.Waits id) := by
  have hOrder := Daemon.enumerates_of_step hTask hStep
  have hLookup := Daemon.step_clientLookup cfg (Daemon.step_cases hStep).1 hTask hOrder
  rw [HostState.routeClient_sole hOrder hContainer hForward hSole] at hLookup
  have hCaptured : d'.tasks id =
      .proxy (.clientIncrement client (.through containerId cstate fstate.tracker)) := by
    rw [Option.some.inj (hStep.symm.trans hLookup)]
    exact Function.update_self _ _ _
  obtain ⟨task, hCourse⟩ := course_of_run run hCaptured rfl rfl
  have hCounted : (finish.tasks id).hasCounted = task.hasCounted := by rw [hCourse.here]; rfl
  have hRequested : (finish.tasks id).requested = task.requested := by rw [hCourse.here]; rfl
  refine ⟨⟨?_, fun hGuard => ⟨cstate, hContainer, ?_⟩⟩, fun hRunning hOpen =>
    hCourse.proceeds rfl hRunning (hRequested.symm.trans hOpen)⟩
  · rintro ⟨other, hOther, hServes⟩
    obtain rfl := Option.some.inj (hContainer.symm.trans hOther)
    rcases hCourse.queued with ⟨hGuard, -⟩ | ⟨-, hPast, hEmpty⟩
    · exact hGuard
    · have hQueued := hServes.queued
      rw [hRequested, hPast, (requestsBy_lookup hTask hStep rest _).2] at hQueued
      obtain ⟨connId, hOne⟩ := hQueued
      cases hEmpty.symm.trans hOne
  · have hQueued : if task.requested then ∃ connId, requestsBy cfg id cstate.connectRequestTx rest =
          [{ port := client.containerPort, connId := connId }]
        else requestsBy cfg id cstate.connectRequestTx rest = [] :=
      hCourse.queued.elim (fun h => h.2) (fun h => absurd hGuard h.1)
    refine ⟨fun other captured hHere => ?_, ?_, ?_, fun other hOther => ?_, fun other hOther => ?_⟩
    · have hFollows := hCourse.follows
      rw [hCourse.here] at hHere
      cases hHere
      rw [hFollows.2]
      rfl
    · rw [(requestsBy_lookup hTask hStep rest _).1, hCounted, hCourse.counted]
    · rw [(requestsBy_lookup hTask hStep rest _).2, hRequested]
      exact hQueued
    · rw [(requestsBy_lookup hTask hStep rest _).1, hCourse.trackers other hOther]
    · rw [(requestsBy_lookup hTask hStep rest _).2, hCourse.channels other hOther]

/-- A routed client is routed by the forward of the port that the container
has at the lookup, and no other container forwards the port. -/
theorem RoutesClient.forwarded {tracker : Nat} (h : d.RoutesClient cfg id containerId port tracker)
    (hRunning : d.running = true) (hTask : d.tasks id = .proxy (.clientLookup client))
    (hPort : client.containerPort = port) :
    (∃ fstate, d.ctx.state.forwardOf containerId port = some fstate ∧ fstate.tracker = tracker) ∧
      ∀ other fstate, d.ctx.state.forwardOf other port = some fstate → other = containerId := by
  have hNone : Guarded (fun s action => Daemon.unhindered id s action = true) [] := by simp [Guarded]
  -- what the handler captures when it finds `owner`, and counts on with its next step
  have hCaptured : ∀ order owner, Enumerates order d.ctx.state.containers →
      HostState.findContainerForPort order port = some owner →
      owner = containerId ∧
        ∃ fstate, d.ctx.state.forwardOf containerId port = some fstate ∧ fstate.tracker = tracker := by
    intro order owner hOrder hFind
    obtain ⟨cstate, fstate, hContainer, hForward⟩ := HostState.findContainerForPort_mem hOrder hFind
    have hStep := Daemon.step_clientLookup cfg hRunning hTask hOrder
    rw [hPort, HostState.routeClient_of_find hFind hContainer hForward] at hStep
    have hHere : (d.withTask id d.ctx
        (.proxy (.clientIncrement client (.through owner cstate fstate.tracker)))).tasks id =
        .proxy (.clientIncrement client (.through owner cstate fstate.tracker)) := Function.update_self ..
    obtain ⟨_, _, hServes⟩ := h order _ [] _ hStep .refl hNone
    obtain rfl : owner = containerId := hServes.found _ _ hHere
    refine ⟨rfl, fstate, hForward, ?_⟩
    by_contra hOther
    have hNext : nextHandler cfg d.ctx
        (.proxy (.clientIncrement client (.through owner cstate fstate.tracker))) .proceed =
          some ({ d.ctx with proxy := d.ctx.proxy.increment (some fstate.tracker) },
            .proxy (.clientRegister client (.through owner cstate fstate.tracker))) := rfl
    have hProceed := Daemon.step_of_nextHandler (d := d.withTask id d.ctx _) hRunning (hHere.symm ▸ hNext)
    have run := Run.refl.tail hProceed
    obtain ⟨task, hCourse⟩ := course_of_run run hHere rfl rfl
    obtain ⟨_, _, hServes⟩ := h order _ _ _ hStep run (by simp [Guarded, unhindered, hHere, ProxyTask.unhindered])
    have hCounted := hServes.counted
    rw [(requestsBy_lookup hTask hStep _ _).1, hCourse.trackers tracker (fun hSame => hOther hSame.symm)] at hCounted
    simp [Daemon.withTask, Handler.hasCounted, ProxyTask.hasCounted] at hCounted
  refine ⟨?_, ?_⟩
  · obtain ⟨order, hOrder⟩ := exists_enumerates d.ctx.state.containers
    cases hFind : HostState.findContainerForPort order port with
    | some owner => exact (hCaptured order owner hOrder hFind).2
    | none =>
        have hStep := Daemon.step_clientLookup cfg hRunning hTask hOrder
        rw [hPort, HostState.routeClient, hFind] at hStep
        obtain ⟨_, _, hServes⟩ := h order _ [] _ hStep .refl hNone
        have hCounted := hServes.counted
        rw [(requestsBy_lookup hTask hStep [] _).1] at hCounted
        simp [countedBy, Handler.hasCounted, ProxyTask.hasCounted] at hCounted
  · intro other fstate hForward
    obtain ⟨order, hOrder, hFind⟩ := HostState.exists_order_find hForward
    exact (hCaptured order other hOrder hFind).1

end Daemon

/-- A client that connected to the listener of a forward is served through
that forward in every run that does not hinder its handler exactly when, at the
moment of its lookup, the listener's forward is still live and no other container
forwards the same container port. Then it is served exactly in these runs, and
the handler always can go on to queue its request, but for waiting until the
channel has room. -/
theorem client_routed_iff {before : Daemon} {fstate : ForwardState}
    (hReach : Reachable (Daemon.step cfg) (Daemon.start cfg) before)
    (hForward : before.ctx.state.forwardOf containerId port = some fstate)
    (hLater : Reachable (Daemon.step cfg) before d) (hRunning : d.running = true)
    (hTask : d.tasks id = .proxy (.clientLookup client)) (hClient : client.listener = fstate.listener) :
    (d.RoutesClient cfg id containerId port fstate.tracker ↔ d.Owns containerId port fstate.listener) ∧
      (d.Owns containerId port fstate.listener → ∀ order d' rest finish,
        Daemon.step cfg d (.task id (.enumerate order)) = some d' → Run (Daemon.step cfg) d' rest finish →
        (d.ServedBy cfg id containerId port fstate.tracker order rest finish ↔
            Guarded (fun s action => s.unhindered id action = true) rest) ∧
          (finish.running = true → (finish.tasks id).requested = false →
            (∃ input after, Daemon.step cfg finish (.task id input) = some after) ∨ finish.Waits id)) := by
  obtain ⟨hPorts, hTracker⟩ := (Daemon.reachable_listenersSound hReach).forwards _ _ _ hForward
  have hSound := Daemon.reachable_listenersSound (hReach.trans hLater)
  have hPort : client.containerPort = port := by
    obtain ⟨hostPort, hHere⟩ := hSound.clients id client (by rw [hTask]; rfl)
    rw [hClient, Daemon.listenerPorts_later hReach hLater hPorts] at hHere
    cases hHere
    rfl
  subst hPort
  have hServed : d.Owns containerId client.containerPort fstate.listener → ∀ order d' rest finish,
      Daemon.step cfg d (.task id (.enumerate order)) = some d' → Run (Daemon.step cfg) d' rest finish →
      (d.ServedBy cfg id containerId client.containerPort fstate.tracker order rest finish ↔
          Guarded (fun s action => s.unhindered id action = true) rest) ∧
        (finish.running = true → (finish.tasks id).requested = false →
          (∃ input after, Daemon.step cfg finish (.task id input) = some after) ∨ finish.Waits id) := by
    rintro ⟨⟨live, hLive, hSame⟩, hSole⟩ order d' rest finish hStep run
    obtain ⟨cstate, hContainer, -⟩ := Option.bind_eq_some_iff.mp hLive
    have hLiveTracker : live.tracker = fstate.tracker := by
      rw [(hSound.forwards _ _ _ hLive).2, hSame, hTracker]
    rw [← hLiveTracker]
    exact Daemon.servedBy_iff hTask hContainer hLive hSole hStep run
  refine ⟨⟨fun h => ?_, fun hOwns order d' rest finish hStep run hGuard => ?_⟩, hServed⟩
  · obtain ⟨⟨live, hLive, hSame⟩, hSole⟩ := h.forwarded hRunning hTask rfl
    refine ⟨⟨live, hLive, ?_⟩, hSole⟩
    rw [← (hSound.forwards _ _ _ hLive).2, hSame, hTracker]
  · exact (hServed hOwns order d' rest finish hStep run).1.mpr hGuard

theorem Handler.client_eq_some {handler : Handler} (h : handler.client = some client) :
    handler = .proxy (.clientLookup client) := by
  unfold Handler.client at h
  split at h
  · cases h
    rfl
  · cases h

/-- An enumeration of the registered containers in a given order. -/
def Daemon.containersIn (d : Daemon) (containerIds : List String) : List (Σ _ : String, ContainerState) :=
  containerIds.filterMap fun containerId =>
    (d.ctx.state.containers.lookup containerId).map fun cstate => ⟨containerId, cstate⟩

/-- What a client handler does behind its lookup until its request is queued. -/
def requestSchedule (task : Nat) (connId : String) : List Action :=
  [.proceed, .uuid connId, .sent true].map (.task task)

/-- A client of the second container's forward, from its connection until its
request is queued. -/
theorem client_routed_iff_withdrawn :
    ∃ before d fstate client order d' rest finish,
      exec (Daemon.step .basic) (Daemon.start .basic) withdrawnSchedule = some before ∧
      before.ctx.state.forwardOf "b" 9090 = some fstate ∧
      exec (Daemon.step .basic) before [.clientConnects 1, .task 3 .spawnClient] = some d ∧
      d.tasks 3 = .proxy (.clientLookup client) ∧ d.Owns "b" 9090 fstate.listener ∧
      d.RoutesClient .basic 3 "b" 9090 fstate.tracker ∧
      Daemon.step .basic d (.task 3 (.enumerate order)) = some d' ∧ Run (Daemon.step .basic) d' rest finish ∧
      rest.map Prod.snd = requestSchedule 3 "x" ∧ (finish.tasks 3).requested = true ∧
      d.ServedBy .basic 3 "b" 9090 fstate.tracker order rest finish := by
  have hRun : (exec (Daemon.step .basic) (Daemon.start .basic) withdrawnSchedule).any fun before =>
      (before.ctx.state.forwardOf "b" 9090).any (fun fstate => fstate.listener == 1) &&
        (exec (Daemon.step .basic) before [.clientConnects 1, .task 3 .spawnClient]).any fun d =>
          (d.running && (d.tasks 3).client == some { listener := 1, containerPort := 9090 } &&
            d.ctx.state.containers.keys == {"a", "b"} && (d.ctx.state.forwardOf "a" 9090).isNone &&
            (d.ctx.state.forwardOf "b" 9090).any fun live => live.listener == 1) &&
            (Daemon.step .basic d (.task 3 (.enumerate (d.containersIn ["a", "b"])))).any fun d' =>
              (execWhile (Daemon.step .basic) (fun s action => s.unhindered 3 action) d'
                (requestSchedule 3 "x")).any fun finish => (finish.tasks 3).requested := by
    decide
  obtain ⟨before, hBefore, hState⟩ := (Option.any_eq_true _ _).mp hRun
  obtain ⟨hForward, hAfter⟩ := (Bool.and_eq_true _ _).mp hState
  obtain ⟨fstate, hForward, hListener⟩ := (Option.any_eq_true _ _).mp hForward
  obtain ⟨d, hExec, hHere⟩ := (Option.any_eq_true _ _).mp hAfter
  simp only [Bool.and_eq_true, beq_iff_eq] at hListener hHere
  obtain ⟨⟨⟨⟨⟨hRunning, hClient⟩, hBoth⟩, hNone⟩, hLive⟩, hLookup⟩ := hHere
  obtain ⟨live, hLive, hSame⟩ := (Option.any_eq_true _ _).mp hLive
  obtain ⟨d', hStep, hRest⟩ := (Option.any_eq_true _ _).mp hLookup
  obtain ⟨finish, hFinish, hRequested⟩ := (Option.any_eq_true _ _).mp hRest
  obtain ⟨rest, hActions, run, hGuard⟩ := run_of_execWhile hFinish
  have hTask := Handler.client_eq_some hClient
  obtain ⟨hRoutes, hServed⟩ := client_routed_iff (reachable_of_exec hBefore) hForward (reachable_of_exec hExec)
    hRunning hTask hListener.symm
  have hOwns : d.Owns "b" 9090 fstate.listener := by
    refine ⟨⟨live, hLive, (beq_iff_eq.mp hSame).trans hListener.symm⟩, fun other g hOther => ?_⟩
    obtain ⟨cstate, hContainer, -⟩ := Option.bind_eq_some_iff.mp hOther
    have hKey := Finmap.mem_keys.mpr (Finmap.mem_of_lookup_eq_some hContainer)
    rw [hBoth, Finset.mem_insert, Finset.mem_singleton] at hKey
    rcases hKey with rfl | rfl
    · rw [hOther] at hNone
      cases hNone
    · rfl
  exact ⟨before, d, fstate, _, _, d', rest, finish, hBefore, hForward, hExec, hTask, hOwns, hRoutes.mpr hOwns, hStep,
    run, hActions, hRequested, ((hServed hOwns _ d' rest finish hStep run).1).mpr hGuard⟩

/-- Two containers forward one container port. A client that connects to the
listener of the first one is not served through it in every order: where the
lookup meets the second one first, the request goes to its channel. -/
theorem client_misrouted_two_containers :
    ∃ d fstate, exec (Daemon.step .basic) (Daemon.start .basic)
        (conflictSchedule ++ [.clientConnects 0, .task 3 .spawnClient]) = some d ∧
      d.ctx.state.forwardOf "a" 8080 = some fstate ∧
      d.tasks 3 = .proxy (.clientLookup { listener := fstate.listener, containerPort := 8080 }) ∧
      ¬d.RoutesClient .basic 3 "a" 8080 fstate.tracker ∧
      ∃ cstate d' rest finish connId, d.ctx.state.containers.lookup "b" = some cstate ∧
        Daemon.step .basic d (.task 3 (.enumerate (d.containersIn ["b", "a"]))) = some d' ∧
        Run (Daemon.step .basic) d' rest finish ∧
        Daemon.requestsBy .basic 3 cstate.connectRequestTx rest = [{ port := 8080, connId := connId }] := by
  have hRun : (exec (Daemon.step .basic) (Daemon.start .basic)
      (conflictSchedule ++ [.clientConnects 0, .task 3 .spawnClient])).any fun d =>
        (d.running && (d.ctx.state.forwardOf "b" 8080).isSome &&
          (d.ctx.state.forwardOf "a" 8080).any fun fstate =>
            (d.tasks 3).client == some { listener := fstate.listener, containerPort := 8080 }) &&
          (d.ctx.state.containers.lookup "b").any fun cstate =>
            (d.ctx.state.routeClient (d.containersIn ["b", "a"]) 8080).any (fun route =>
              route.tracker.isSome && route.connectTx == some cstate.connectRequestTx) &&
              (Daemon.step .basic d (.task 3 (.enumerate (d.containersIn ["b", "a"])))).any fun d' =>
                (execWhile (Daemon.step .basic) (fun s action => s.unhindered 3 action) d'
                  (requestSchedule 3 "x")).any fun finish => (finish.tasks 3).requested := by
    decide
  obtain ⟨d, hExec, hState⟩ := (Option.any_eq_true _ _).mp hRun
  obtain ⟨hHere, hOwner⟩ := (Bool.and_eq_true _ _).mp hState
  simp only [Bool.and_eq_true] at hHere
  obtain ⟨⟨hRunning, hOther⟩, hForwards⟩ := hHere
  obtain ⟨fstate, hForward, hClient⟩ := (Option.any_eq_true _ _).mp hForwards
  obtain ⟨other, hOther⟩ := Option.isSome_iff_exists.mp hOther
  obtain ⟨cstate, hContainer, hLookup⟩ := (Option.any_eq_true _ _).mp hOwner
  obtain ⟨hRoute, hLater⟩ := (Bool.and_eq_true _ _).mp hLookup
  obtain ⟨route, hRoute, hTx⟩ := (Option.any_eq_true _ _).mp hRoute
  obtain ⟨hTracker, hChannel⟩ := (Bool.and_eq_true _ _).mp hTx
  obtain ⟨tracker, hTracker⟩ := Option.isSome_iff_exists.mp hTracker
  obtain ⟨d', hStep, hRest⟩ := (Option.any_eq_true _ _).mp hLater
  obtain ⟨finish, hFinish, hRequested⟩ := (Option.any_eq_true _ _).mp hRest
  obtain ⟨rest, -, run, hGuard⟩ := run_of_execWhile hFinish
  have hTask := Handler.client_eq_some (beq_iff_eq.mp hClient)
  refine ⟨d, fstate, hExec, hForward, hTask, fun h => ?_, cstate, d', rest, finish, ?_⟩
  · have hSame := (h.forwarded hRunning hTask rfl).2 "b" other hOther
    exact absurd hSame (by decide)
  · have hCaptured := Daemon.step_clientLookup .basic hRunning hTask (Daemon.enumerates_of_step hTask hStep)
    rw [hRoute] at hCaptured
    have hRouted : d'.tasks 3 =
        .proxy (.clientIncrement { listener := fstate.listener, containerPort := 8080 } route) := by
      rw [Option.some.inj (hStep.symm.trans hCaptured)]
      simp only [Function.update_self]
    obtain ⟨task, hCourse⟩ := Daemon.course_of_run run hRouted hTracker (beq_iff_eq.mp hChannel)
    rw [hCourse.here] at hRequested
    have hPast : task.requested = true := hRequested
    rcases hCourse.queued with ⟨-, hQueued⟩ | ⟨hHindered, -⟩
    · rw [hPast] at hQueued
      obtain ⟨connId, hOne⟩ := hQueued
      exact ⟨connId, hContainer, hStep, run, hOne⟩
    · exact absurd hGuard hHindered

end DevcontainerBridge
