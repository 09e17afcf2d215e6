import DevcontainerBridge.Cli.Launch

/-! What a restart comes to. It ignores the end of its first half, and a daemon
that does not obey its token goes on. -/
namespace DevcontainerBridge

open Transition

variable {controlPort : UInt16} {args : Nat → LaunchArgs} {s s' : Launch} {id : Nat} {kind : LaunchKind}
  {input : LaunchInput} {action : LaunchAction}

namespace Launch

/-- The daemon at the other end may still deal with the message. -/
def Answerable (s : Launch) (link : Link) : Prop :=
  ∃ daemon, link.peer = .daemon daemon ∧ ((∃ signalled, (s.daemons daemon).phase = .serving signalled) ∨
    link.accepted = true ∧ (s.daemons daemon).phase = .draining)

/-- Schedules in which a command gives up on a listener only where no answer
can come, and in which the delay of a restart outlasts the way of a shutdown
signal to the accept loop. -/
def Prompt (s : Launch) : LaunchAction → Prop
  | .command _ (.connect false) => s.port = none
  | .command id (.sent false) => ∀ stage link, s.commands id = .sending stage link → ¬s.Answerable link
  | .command id .silence => ∀ stage link, s.commands id = .waiting stage link →
      link.handled = true ∧ stage = .stop ∨ ¬s.Answerable link
  | .command id (.proceed _) => s.commands id = .delaying → ∀ daemon, s.port = some (.daemon daemon) →
      (s.daemons daemon).phase ≠ .serving true
  | _ => True

/-- Every daemon in its accept loop is fresh. -/
def AllFresh (s : Launch) (fresh : Nat → Prop) : Prop :=
  ∀ daemon signalled, (s.daemons daemon).phase = .serving signalled → fresh daemon

/-- What a restart has come to where it is: behind its delay, only fresh daemons
are left in their accept loops. -/
def Owes (s : Launch) (fresh : Nat → Prop) : LaunchPosition → Prop
  | .connecting .stop => True
  | .sending .stop link | .waiting .stop link =>
      (∀ daemon signalled, (s.daemons daemon).phase = .serving signalled → link.peer = .daemon daemon ∨ fresh daemon) ∧
        (link.handled = true → ∀ daemon, link.peer = .daemon daemon → (s.daemons daemon).phase = .serving false →
          fresh daemon)
  | .removingPid | .delaying => ∀ daemon, (s.daemons daemon).phase = .serving false → fresh daemon
  | _ => s.AllFresh fresh

theorem owes_of_ensuring {position : LaunchPosition} {fresh : Nat → Prop} (h : position.ensuring = true) :
    s.Owes fresh position ↔ s.AllFresh fresh := by
  unfold LaunchPosition.ensuring at h
  split at h <;> first | rfl | cases h

theorem owes_sending {stage : LaunchStage} {link : Link} {fresh : Nat → Prop} (h : stage ≠ .stop) :
    s.Owes fresh (.sending stage link) ↔ s.AllFresh fresh := by
  cases stage <;> first | exact absurd rfl h | rfl

theorem owes_waiting {stage : LaunchStage} {link : Link} {fresh : Nat → Prop} (h : stage ≠ .stop) :
    s.Owes fresh (.waiting stage link) ↔ s.AllFresh fresh := by
  cases stage <;> first | exact absurd rfl h | rfl

/-- What a restart has come to outlasts the steps of the daemons. -/
theorem Owes.kept {position : LaunchPosition} {fresh fresh' : Nat → Prop} (h : s.Owes fresh position)
    (hServing : ∀ daemon signalled, (s'.daemons daemon).phase = .serving signalled → fresh' daemon ∨
      ∃ before, (s.daemons daemon).phase = .serving before ∧ (signalled = false → before = false) ∧
        (fresh daemon → fresh' daemon)) : s'.Owes fresh' position := by
  have all (hAll : s.AllFresh fresh) : s'.AllFresh fresh' := by
    intro daemon signalled hPhase
    rcases hServing daemon signalled hPhase with hFresh | ⟨before, hBefore, -, hMono⟩
    · exact hFresh
    · exact hMono (hAll daemon before hBefore)
  have unsignalled {daemon : Nat} (hFresh : (s.daemons daemon).phase = .serving false → fresh daemon)
      (hPhase : (s'.daemons daemon).phase = .serving false) : fresh' daemon := by
    rcases hServing daemon false hPhase with hNew | ⟨before, hBefore, hSignal, hMono⟩
    · exact hNew
    · rw [hSignal rfl] at hBefore
      exact hMono (hFresh hBefore)
  have linked {link : Link}
      (hLink : (∀ daemon signalled, (s.daemons daemon).phase = .serving signalled →
          link.peer = .daemon daemon ∨ fresh daemon) ∧
        (link.handled = true → ∀ daemon, link.peer = .daemon daemon → (s.daemons daemon).phase = .serving false →
          fresh daemon)) :
      (∀ daemon signalled, (s'.daemons daemon).phase = .serving signalled →
          link.peer = .daemon daemon ∨ fresh' daemon) ∧
        (link.handled = true → ∀ daemon, link.peer = .daemon daemon → (s'.daemons daemon).phase = .serving false →
          fresh' daemon) := by
    refine ⟨fun daemon signalled hPhase => ?_, fun hHandled daemon hPeer => unsignalled (hLink.2 hHandled daemon hPeer)⟩
    rcases hServing daemon signalled hPhase with hFresh | ⟨before, hBefore, -, hMono⟩
    · exact .inr hFresh
    · exact (hLink.1 daemon before hBefore).imp_right hMono
  unfold Owes at h ⊢
  split at h
  case h_1 => trivial
  case h_2 link => exact linked h
  case h_3 link => exact linked h
  case h_4 => exact fun daemon => unsignalled (h daemon)
  case h_5 => exact fun daemon => unsignalled (h daemon)
  case h_6 => exact all h

/-- A daemon in its accept loop answers its connections. -/
theorem not_serving_of_not_answerable {link : Link} {daemon : Nat} {signalled : Bool} (h : ¬s.Answerable link)
    (hPeer : link.peer = .daemon daemon) : (s.daemons daemon).phase ≠ .serving signalled :=
  fun hPhase => h ⟨daemon, hPeer, .inl ⟨signalled, hPhase⟩⟩

theorem Owes.move {fresh : Nat → Prop} {position : LaunchPosition} (hSound : s.Sound)
    (hPrompt : s.Prompt (.command id input)) (h : s.Owes fresh (s.commands id))
    (hMove : CommandMove controlPort .restart s.port (s.commands id) input position) : s.Owes fresh position := by
  generalize hAt : s.commands id = here at h hMove
  cases hMove with
  | @connected stage peer hPort =>
      cases stage with
      | stop =>
          refine ⟨fun daemon signalled hPhase => .inl ?_, nofun⟩
          have hListens := (hSound.port daemon).mp (by rw [hPhase]; rfl)
          exact Option.some.inj (hPort.symm.trans hListens)
      | check => exact h
      | poll pid => exact h
  | refused stage =>
      cases stage with
      | stop =>
          have hPort : s.port = none := hPrompt
          intro daemon hPhase
          have hListens := (hSound.port daemon).mp (by rw [hPhase]; rfl)
          rw [hPort] at hListens
          cases hListens
      | check => exact h
      | poll pid => exact h
  | sent stage link => cases stage <;> exact h
  | unsent stage link =>
      cases stage with
      | stop =>
          have hDead : ¬s.Answerable link := hPrompt .stop link hAt
          intro daemon hPhase
          rcases h.1 daemon false hPhase with hPeer | hFresh
          · exact absurd hPhase (not_serving_of_not_answerable hDead hPeer)
          · exact hFresh
      | check => exact h
      | poll pid => exact h
  | @ponged stage link hHandled hStage => exact (owes_waiting hStage).mp h
  | silent stage link =>
      cases stage with
      | stop =>
          intro daemon hPhase
          rcases h.1 daemon false hPhase with hPeer | hFresh
          · rcases hPrompt .stop link hAt with ⟨hHandled, -⟩ | hDead
            · exact h.2 hHandled daemon hPeer hPhase
            · exact absurd hPhase (not_serving_of_not_answerable hDead hPeer)
          · exact hFresh
      | check => exact h
      | poll pid => exact h
  | removed ok => exact h
  | delayed ok =>
      intro daemon signalled hPhase
      cases signalled with
      | true => exact absurd hPhase (hPrompt hAt daemon ((hSound.port daemon).mp (by rw [hPhase]; rfl)))
      | false => exact h daemon hPhase
  | onward input hPosition hNext => exact (owes_of_ensuring hNext).mpr ((owes_of_ensuring hPosition).mp h)

end Launch

section Renewal

variable {trace : List (Launch × LaunchAction)} {daemon : Nat}

/-- The command has tried its first connection. -/
def Begun (trace : List (Launch × LaunchAction)) (id : Nat) : Prop :=
  ∃ entry ∈ trace, ∃ ok, entry.2 = .command id (.connect ok)

/-- The daemon has bound the port since the command began. -/
def Renewed (trace : List (Launch × LaunchAction)) (id daemon : Nat) : Prop :=
  ∃ before after, trace = before ++ after ∧ Begun before id ∧ ∃ entry ∈ after, entry.2 = .bind daemon

/-- The accept loop of the daemon has taken a connection by which the command
looks for a daemon. -/
def Answered (trace : List (Launch × LaunchAction)) (id daemon : Nat) : Prop :=
  ∃ entry ∈ trace, entry.2 = .accept id ∧ (∃ signalled, (entry.1.daemons daemon).phase = .serving signalled) ∧
    ∃ stage link, stage ≠ .stop ∧ (entry.1.commands id).link = some (stage, link) ∧ link.peer = .daemon daemon

theorem Begun.append (h : Begun trace id) (more : List (Launch × LaunchAction)) : Begun (trace ++ more) id := by
  obtain ⟨entry, hEntry, hBegun⟩ := h
  exact ⟨entry, List.mem_append_left _ hEntry, hBegun⟩

theorem Renewed.append (h : Renewed trace id daemon) (more : List (Launch × LaunchAction)) :
    Renewed (trace ++ more) id daemon := by
  obtain ⟨before, after, rfl, hBegun, entry, hEntry, hBind⟩ := h
  exact ⟨before, after ++ more, List.append_assoc .., hBegun, entry, List.mem_append_left _ hEntry, hBind⟩

theorem Answered.append (h : Answered trace id daemon) (more : List (Launch × LaunchAction)) :
    Answered (trace ++ more) id daemon := by
  obtain ⟨entry, hEntry, hAnswered⟩ := h
  exact ⟨entry, List.mem_append_left _ hEntry, hAnswered⟩

/-- A daemon that a restart with this token does not find from before. -/
def Fresh (args : Nat → LaunchArgs) (trace : List (Launch × LaunchAction)) (s : Launch) (id daemon : Nat) : Prop :=
  Renewed trace id daemon ∨ (s.daemons daemon).obeys (args id).token = false

/-- The daemon is there, it has answered the command, and a restart does not
find it from before. -/
structure Served (args : Nat → LaunchArgs) (trace : List (Launch × LaunchAction)) (s : Launch) (id daemon : Nat) :
    Prop where
  born : (s.daemons daemon).phase ≠ .unborn
  answered : Answered trace id daemon
  fresh : (args id).kind = .restart → Guarded Launch.Prompt trace → Fresh args trace s id daemon

/-- What holds of a command at any time. -/
structure Launched (args : Nat → LaunchArgs) (trace : List (Launch × LaunchAction)) (s : Launch) (id : Nat) : Prop where
  begun : s.commands id = (args id).kind.begin ∨ Begun trace id
  owes : (args id).kind = .restart → Guarded Launch.Prompt trace → s.Owes (Fresh args trace s id) (s.commands id)
  handled : ∀ stage link, (s.commands id).link = some (stage, link) → link.handled = true → link.accepted = true
  accepted : ∀ stage link, (s.commands id).link = some (stage, link) → stage ≠ .stop → link.accepted = true →
    ∃ daemon, link.peer = .daemon daemon ∧ Served args trace s id daemon
  done : (args id).kind ≠ .stop → s.commands id = .finished (.ok ()) → ∃ daemon, Served args trace s id daemon

theorem Fresh.step (h : Fresh args trace s id daemon) (hSound : s.Sound) (hBorn : (s.daemons daemon).phase ≠ .unborn)
    (hStep : Launch.StepCase controlPort args s action s') : Fresh args (trace ++ [(s, action)]) s' id daemon := by
  rcases h with hRenewed | hObeys
  · exact .inl (hRenewed.append _)
  · exact .inr ((hSound.obeys_step hStep hBorn _).trans hObeys)

theorem Launch.born_step (hStep : Launch.StepCase controlPort args s action s') (hSound : s.Sound)
    (h : (s.daemons daemon).phase ≠ .unborn) : (s'.daemons daemon).phase ≠ .unborn := by
  have changed {other : Nat} {phase : DaemonPhase} (hPhase : phase ≠ .unborn) :
      ((s.setPhase other phase).daemons daemon).phase ≠ .unborn := by
    by_cases hSame : daemon = other
    · subst hSame
      rw [setPhase_self]
      exact hPhase
    · rw [setPhase_of_ne hSame]
      exact h
  cases hStep with
  | command hCommand =>
      rcases hCommand.daemons with ⟨hDaemons, -⟩ | ⟨authToken, hDaemons, -⟩
      · rw [hDaemons]
        exact h
      · have hOther : daemon ≠ s.nextDaemon := by
          rintro rfl
          exact h (hSound.unborn _ (Nat.le_refl _))
        rw [hDaemons, Function.update_of_ne hOther]
        exact h
  | accepted hLink hPeer hPhase => exact h
  | handled hAt hPeer hAccepted hPhase => exact changed nofun
  | handledLate hAt hPeer hAccepted hPhase => exact h
  | bound hPhase hPort => exact changed nofun
  | failed action hPhase => exact changed nofun
  | left hPhase => exact changed nofun
  | unrecorded other => exact h
  | exited hListens => exact changed nofun
  | foreignBound hPort => exact h
  | foreignLeft hPort => exact h

theorem Served.step (h : Served args trace s id daemon) (hSound : s.Sound)
    (hStep : Launch.StepCase controlPort args s action s') : Served args (trace ++ [(s, action)]) s' id daemon where
  born := Launch.born_step hStep hSound h.born
  answered := h.answered.append _
  fresh := fun hKind hPrompt => (h.fresh hKind hPrompt.of_append).step hSound h.born hStep

/-- Where a command goes without a connection. -/
theorem CommandMove.link_cases {port : Option Peer} {here position : LaunchPosition} {stage : LaunchStage} {link : Link}
    (hMove : CommandMove controlPort kind port here input position) (h : position.link = some (stage, link)) :
    link.accepted = false ∧ link.handled = false ∨ here.link = some (stage, link) := by
  cases hMove with
  | connected hPort =>
      cases h
      exact .inl ⟨rfl, rfl⟩
  | refused stage => cases stage <;> cases kind <;> cases h
  | sent stage link => exact .inr h
  | unsent stage link => cases stage <;> cases kind <;> cases h
  | ponged hHandled hStage => cases h
  | silent stage link => cases stage <;> cases h
  | removed ok => cases kind <;> cases h
  | delayed ok => cases h
  | onward input hPosition hNext => cases position <;> first | (cases hNext; done) | cases h

/-- Only a Pong makes a success of `ensure` and `restart`. -/
theorem CommandMove.ponged_of_done {port : Option Peer} {here : LaunchPosition}
    (hMove : CommandMove controlPort kind port here input (.finished (.ok ()))) (hKind : kind ≠ .stop) :
    ∃ stage link, here.link = some (stage, link) ∧ link.handled = true ∧ stage ≠ .stop := by
  generalize hPosition : LaunchPosition.finished (.ok ()) = position at hMove
  cases hMove with
  | refused stage => cases stage <;> cases kind <;> first | exact absurd rfl hKind | cases hPosition
  | unsent stage link => cases stage <;> cases kind <;> first | exact absurd rfl hKind | cases hPosition
  | ponged hHandled hStage => exact ⟨_, _, rfl, hHandled, hStage⟩
  | silent stage link => cases stage <;> cases hPosition
  | removed ok => cases kind <;> first | exact absurd rfl hKind | cases hPosition
  | onward input hHere hNext =>
      subst hPosition
      cases hNext
  | _ => cases hPosition

theorem LaunchPosition.link_withLink {position : LaunchPosition} {stage : LaunchStage} {link : Link} (link' : Link)
    (h : position.link = some (stage, link)) : (position.withLink link').link = some (stage, link') := by
  cases position <;> cases h <;> rfl

theorem Launched.begun_step (h : Launched args trace s id) (hStep : Launch.StepCase controlPort args s action s') :
    s'.commands id = (args id).kind.begin ∨ Begun (trace ++ [(s, action)]) id := by
  rcases h.begun with hBegin | hBegun
  · rcases Launch.turn_of_step hStep id with hSame | hTurn
    · exact .inl (hSame.trans hBegin)
    · obtain ⟨stage, hStage⟩ : ∃ stage, s.commands id = .connecting stage ∧ (stage = .stop ∨ stage = .check) := by
        rw [hBegin]
        cases (args id).kind
        · exact ⟨_, rfl, .inr rfl⟩
        · exact ⟨_, rfl, .inl rfl⟩
        · exact ⟨_, rfl, .inl rfl⟩
      generalize s'.commands id = position at hTurn
      have begins {ok : Bool} : Begun (trace ++ [(s, .command id (.connect ok))]) id :=
        ⟨_, List.mem_append_right _ (List.mem_singleton_self _), ok, rfl⟩
      cases hTurn with
      | moved hMove =>
          rw [hStage.1] at hMove
          cases hMove with
          | connected hPort => exact .inr begins
          | refused stage => exact .inr begins
          | onward input hPosition hNext =>
              obtain ⟨-, rfl | rfl⟩ := hStage <;> cases hPosition
      | accepted hLink hPeer hPhase =>
          rw [hStage.1] at hLink
          cases hLink
      | handled hAt hPeer hAccepted hSignal =>
          rw [hStage.1] at hAt
          cases hAt
  · exact .inr (hBegun.append _)

theorem Launched.owes_step (h : Launched args trace s id) (hSound : s.Sound)
    (hStep : Launch.StepCase controlPort args s action s') (hKind : (args id).kind = .restart)
    (hPrompt : Guarded Launch.Prompt (trace ++ [(s, action)])) :
    s'.Owes (Fresh args (trace ++ [(s, action)]) s' id) (s'.commands id) := by
  have hOwes := h.owes hKind hPrompt.of_append
  by_cases hBegin : s'.commands id = .connecting .stop
  · rw [hBegin]
    trivial
  have hServing : ∀ daemon signalled, (s'.daemons daemon).phase = .serving signalled →
      Fresh args (trace ++ [(s, action)]) s' id daemon ∨ ∃ before, (s.daemons daemon).phase = .serving before ∧
        (signalled = false → before = false) ∧
        (Fresh args trace s id daemon → Fresh args (trace ++ [(s, action)]) s' id daemon) := by
    intro daemon signalled hPhase
    rcases Launch.serving_of_step hStep hPhase with rfl | ⟨before, hBefore, hSignal⟩
    · rcases Launch.turn_of_step hStep id with hSame | hTurn
      · have hBegun : Begun trace id := by
          refine h.begun.resolve_left fun hFirst => hBegin ?_
          rw [hSame, hFirst, hKind]
          rfl
        exact .inl (.inl ⟨trace, _, rfl, hBegun, _, List.mem_singleton_self _, rfl⟩)
      · cases hTurn
    · have hBorn : (s.daemons daemon).phase ≠ .unborn := by
        rw [hBefore]
        nofun
      exact .inr ⟨before, hBefore, hSignal, fun hFresh => hFresh.step hSound hBorn hStep⟩
  rcases Launch.turn_of_step hStep id with hSame | hTurn
  · rw [hSame]
    exact hOwes.kept hServing
  · generalize s'.commands id = position at hTurn
    cases hTurn with
    | moved hMove =>
        rw [hKind] at hMove
        exact (hOwes.move hSound hPrompt.last hMove).kept hServing
    | @accepted daemon stage link signalled hLink hPeer hPhase =>
        have hThere : s.Owes (Fresh args trace s id) ((s.commands id).withLink { link with accepted := true }) := by
          generalize s.commands id = here at hOwes hLink
          cases here <;> cases hLink <;> cases stage <;> exact hOwes
        exact hThere.kept hServing
    | @handled daemon stage link hAt hPeer hAccepted hSignal =>
        rw [hAt] at hOwes
        cases stage with
        | stop =>
            have hKept := hOwes.kept hServing
            refine ⟨hKept.1, fun _ other hOther hPhase => .inr ?_⟩
            obtain rfl : daemon = other := Peer.daemon.inj (hPeer.symm.trans hOther)
            have hBorn : (s.daemons daemon).phase ≠ .unborn := by
              rcases Launch.serving_of_step hStep hPhase with hBind | ⟨before, hBefore, -⟩
              · cases hBind
              · rw [hBefore]
                nofun
            exact (hSound.obeys_step hStep hBorn _).trans (hSignal rfl hPhase)
        | check => exact hOwes.kept hServing
        | poll pid => exact hOwes.kept hServing

theorem Launched.step (h : Launched args trace s id) (hSound : s.Sound)
    (hStep : Launch.StepCase controlPort args s action s') : Launched args (trace ++ [(s, action)]) s' id where
  begun := h.begun_step hStep
  owes := h.owes_step hSound hStep
  handled := by
    intro stage link hLink hHandled
    rcases Launch.turn_of_step hStep id with hSame | hTurn
    · exact h.handled stage link (hSame ▸ hLink) hHandled
    · generalize s'.commands id = position at hTurn hLink
      cases hTurn with
      | moved hMove =>
          rcases hMove.link_cases hLink with ⟨-, hFalse⟩ | hBefore
          · rw [hFalse] at hHandled
            cases hHandled
          · exact h.handled stage link hBefore hHandled
      | accepted hOld hPeer hPhase =>
          rw [LaunchPosition.link_withLink _ hOld] at hLink
          cases hLink
          rfl
      | handled hAt hPeer hAccepted hSignal =>
          cases hLink
          exact hAccepted
  accepted := by
    intro stage link hLink hStage hAccepted
    have later {link' : Link} (hPeer : link'.peer = link.peer)
        (h : ∃ daemon, link'.peer = .daemon daemon ∧ Served args trace s id daemon) :
        ∃ daemon, link.peer = .daemon daemon ∧ Served args (trace ++ [(s, action)]) s' id daemon := by
      obtain ⟨daemon, hDaemon, hServed⟩ := h
      exact ⟨daemon, hPeer ▸ hDaemon, hServed.step hSound hStep⟩
    rcases Launch.turn_of_step hStep id with hSame | hTurn
    · exact later rfl (h.accepted stage link (hSame ▸ hLink) hStage hAccepted)
    · generalize s'.commands id = position at hTurn hLink
      cases hTurn with
      | moved hMove =>
          rcases hMove.link_cases hLink with ⟨hFalse, -⟩ | hBefore
          · rw [hFalse] at hAccepted
            cases hAccepted
          · exact later rfl (h.accepted stage link hBefore hStage hAccepted)
      | @accepted daemon oldStage old signalled hOld hPeer hPhase =>
          rw [LaunchPosition.link_withLink _ hOld] at hLink
          cases hLink
          have hBorn : (s.daemons daemon).phase ≠ .unborn := by
            rw [hPhase]
            nofun
          refine ⟨daemon, hPeer, Launch.born_step hStep hSound hBorn, ?_, fun hKind hPrompt => ?_⟩
          · exact ⟨_, List.mem_append_right _ (List.mem_singleton_self _), rfl, ⟨signalled, hPhase⟩, stage, old, hStage,
              hOld, hPeer⟩
          · have hOwes := h.owes hKind hPrompt.of_append
            have hAll : s.AllFresh (Fresh args trace s id) := by
              generalize s.commands id = here at hOwes hOld
              cases here <;> cases hOld
              · exact (Launch.owes_sending hStage).mp hOwes
              · exact (Launch.owes_waiting hStage).mp hOwes
            exact (hAll daemon signalled hPhase).step hSound hBorn hStep
      | @handled daemon oldStage old hAt hPeer hOld hSignal =>
          cases hLink
          have hBefore : (s.commands id).link = some (stage, old) := by rw [hAt]; rfl
          exact later rfl (h.accepted stage old hBefore hStage hOld)
  done := by
    intro hKind hDone
    rcases Launch.turn_of_step hStep id with hSame | hTurn
    · obtain ⟨daemon, hServed⟩ := h.done hKind (hSame ▸ hDone)
      exact ⟨daemon, hServed.step hSound hStep⟩
    · rw [hDone] at hTurn
      generalize hPosition : LaunchPosition.finished (.ok ()) = position at hTurn
      cases hTurn with
      | moved hMove =>
          subst hPosition
          obtain ⟨stage, link, hLink, hHandled, hStage⟩ := hMove.ponged_of_done hKind
          obtain ⟨daemon, -, hServed⟩ := h.accepted stage link hLink hStage (h.handled stage link hLink hHandled)
          exact ⟨daemon, hServed.step hSound hStep⟩
      | @accepted daemon stage link signalled hLink hPeer hPhase =>
          have hNew := LaunchPosition.link_withLink { link with accepted := true } hLink
          rw [← hPosition] at hNew
          cases hNew
      | handled hAt hPeer hAccepted hSignal => cases hPosition

theorem start_launched (args : Nat → LaunchArgs) (id : Nat) : Launched args [] (Launch.start args) id := by
  have hBegin : (Launch.start args).commands id = (args id).kind.begin := rfl
  refine ⟨.inl hBegin, fun hKind _ => ?_, ?_, ?_, fun hKind hDone => ?_⟩
  · rw [hBegin, hKind]
    trivial
  · intro stage link hLink
    rw [hBegin] at hLink
    cases hKind : (args id).kind <;> rw [hKind] at hLink <;> cases hLink
  · intro stage link hLink
    rw [hBegin] at hLink
    cases hKind : (args id).kind <;> rw [hKind] at hLink <;> cases hLink
  · rw [hBegin] at hDone
    cases hCase : (args id).kind <;> rw [hCase] at hDone <;> cases hDone

theorem run_launched (run : Run (Launch.step controlPort args) (Launch.start args) trace s) :
    s.Sound ∧ ∀ id, Launched args trace s id := by
  induction run with
  | refl => exact ⟨Launch.start_sound, start_launched args⟩
  | tail prior last ih =>
      have hCase := Launch.step_cases last
      exact ⟨ih.1.step hCase, fun id => (ih.2 id).step ih.1 hCase⟩

/-- In every course of any number of commands, daemons and other programs: no
two daemons listen at once; an `ensure` or `restart` that succeeds has been
answered by a daemon that was in its accept loop; and where schedules are
prompt, the daemon that has answered a restart has bound the port since then,
unless it does not obey the token that the restart has resolved. -/
theorem restart_renews (run : Run (Launch.step controlPort args) (Launch.start args) trace s) :
    (∀ first second, (s.daemons first).phase.listens = true → (s.daemons second).phase.listens = true →
      first = second) ∧
    ∀ id, (args id).kind ≠ .stop → s.commands id = .finished (.ok ()) → ∃ daemon, Answered trace id daemon ∧
      ((args id).kind = .restart → Guarded Launch.Prompt trace →
        Renewed trace id daemon ∨ (s.daemons daemon).obeys (args id).token = false) := by
  obtain ⟨hSound, hLaunched⟩ := run_launched run
  refine ⟨fun first second hFirst hSecond => ?_, fun id hKind hDone => ?_⟩
  · have hSame := ((hSound.port first).mp hFirst).symm.trans ((hSound.port second).mp hSecond)
    exact Peer.daemon.inj (Option.some.inj hSame)
  · obtain ⟨daemon, hServed⟩ := (hLaunched id).done hKind hDone
    exact ⟨daemon, hServed.answered, hServed.fresh⟩

namespace Launch

/-- A check for prompt steps. -/
def isPrompt (s : Launch) : LaunchAction → Bool
  | .command _ (.connect false) => s.port == none
  | .command _ (.sent false) => false
  | .command id .silence =>
      match s.commands id with
      | .waiting .stop link => link.handled
      | .waiting _ { peer := .daemon daemon, accepted := false, .. } => (s.daemons daemon).phase == .draining
      | _ => false
  | .command id (.proceed _) =>
      match s.commands id, s.port with
      | .delaying, some (.daemon daemon) => (s.daemons daemon).phase != .serving true
      | _, _ => true
  | _ => true

theorem prompt_of_isPrompt (h : s.isPrompt action = true) : s.Prompt action := by
  unfold isPrompt at h
  split at h
  case h_1 => exact beq_iff_eq.mp h
  case h_2 => cases h
  case h_3 id =>
    intro stage link hAt
    rw [hAt] at h
    split at h
    case h_1 link hStop =>
      cases hStop
      exact .inl ⟨h, rfl⟩
    case h_2 daemon handled hNot hThere =>
      cases hThere
      refine .inr fun ⟨other, hPeer, hPhase⟩ => ?_
      cases hPeer
      rw [beq_iff_eq.mp h] at hPhase
      rcases hPhase with ⟨signalled, hServing⟩ | ⟨hAccepted, -⟩
      · cases hServing
      · cases hAccepted
    case h_3 => cases h
  case h_4 id ok =>
    intro hDelaying daemon hPort
    rw [hDelaying, hPort] at h
    simpa using h
  case h_5 hFalse hSent hSilence hProceed =>
    cases action with
    | command id input =>
        cases input with
        | connect ok =>
            cases ok with
            | true => trivial
            | false => exact absurd rfl (hFalse id)
        | sent ok =>
            cases ok with
            | true => trivial
            | false => exact absurd rfl (hSent id)
        | silence => exact absurd rfl (hSilence id)
        | proceed ok => exact absurd rfl (hProceed id ok)
        | _ => trivial
    | _ => trivial

end Launch

/-- A first `ensure` and later restarts. -/
def launchArgs (token : String) (id : Nat) : LaunchArgs where
  kind := if id = 0 then .ensure else .restart
  token := token

/-- The check of `ensure` finds nobody, and the daemon that it spawns answers. -/
def spawnSchedule (id daemon : Nat) (authToken : Option String) : List LaunchAction :=
  [.command id (.connect false), .command id (.secured (.ok authToken)), .command id (.proceed true),
    .command id (.proceed true), .command id (.proceed true), .bind daemon, .command id (.connect true),
    .command id (.sent true), .accept id, .handle id, .command id .pong]

/-- The first half of a restart. -/
def shutdownSchedule (id : Nat) : List LaunchAction :=
  [.command id (.connect true), .command id (.sent true), .accept id, .handle id, .command id .silence,
    .command id (.proceed true)]

def LaunchPosition.succeeded : LaunchPosition → Bool
  | .finished (.ok _) => true
  | _ => false

def LaunchPosition.conflicting : LaunchPosition → Bool
  | .finished (.error (.portConflict 19285)) => true
  | _ => false

theorem LaunchPosition.eq_of_succeeded {position : LaunchPosition} (h : position.succeeded = true) :
    position = .finished (.ok ()) := by
  unfold succeeded at h
  split at h
  · rfl
  · cases h

/-- A daemon leaves its loop and is gone before the restart looks for it. -/
theorem restart_renews_replaced :
    ∃ trace s, Run (Launch.step 19285 (launchArgs "a")) (Launch.start (launchArgs "a")) trace s ∧
      Guarded Launch.Prompt trace ∧ s.commands 1 = .finished (.ok ()) ∧ ∃ daemon, Answered trace 1 daemon ∧
        (Renewed trace 1 daemon ∨ (s.daemons daemon).obeys "a" = false) := by
  have hRun : (execWhile (Launch.step 19285 (launchArgs "a")) Launch.isPrompt (Launch.start (launchArgs "a"))
      (spawnSchedule 0 0 (some "a") ++ shutdownSchedule 1 ++
        [.leave 0, .unrecord 0, .exit 0, .command 1 (.proceed true)] ++ spawnSchedule 1 1 (some "a"))).any
      fun s => (s.commands 1).succeeded := by
    decide +kernel
  obtain ⟨s, hExec, hDone⟩ := (Option.any_eq_true _ _).mp hRun
  obtain ⟨trace, -, run, hGuard⟩ := run_of_execWhile hExec
  have hPrompt : Guarded Launch.Prompt trace := fun entry hEntry => Launch.prompt_of_isPrompt (hGuard entry hEntry)
  have hFinished := LaunchPosition.eq_of_succeeded hDone
  obtain ⟨daemon, hAnswered, hRestart⟩ := (restart_renews run).2 1 nofun hFinished
  exact ⟨trace, s, run, hPrompt, hFinished, daemon, hAnswered, hRestart rfl hPrompt⟩

/-! A restart whose token is another one succeeds as well, and the daemon that
was there goes on. -/

example : (exec (Launch.step 19285 (launchArgs "b")) (Launch.start (launchArgs "b"))
    (spawnSchedule 0 0 (some "a") ++ shutdownSchedule 1 ++ [.command 1 (.proceed true), .command 1 (.connect true),
      .command 1 (.sent true), .accept 1, .handle 1, .command 1 .pong])).any (fun s =>
    (s.commands 1).succeeded && (s.daemons 0).phase == .serving false && s.pidFile == none) = true := by
  decide +kernel

/-! A daemon that still drains when the restart looks for it is taken for
another program: the restart fails, and no daemon is left. -/

example : (execWhile (Launch.step 19285 (launchArgs "a")) Launch.isPrompt (Launch.start (launchArgs "a"))
    (spawnSchedule 0 0 (some "a") ++ shutdownSchedule 1 ++
      [.leave 0, .command 1 (.proceed true), .command 1 (.connect true), .command 1 (.sent true),
        .command 1 .silence, .unrecord 0, .exit 0])).any (fun s => (s.commands 1).conflicting && s.port == none) =
    true := by
  decide +kernel

end Renewal

end DevcontainerBridge
