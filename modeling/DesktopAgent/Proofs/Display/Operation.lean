import DesktopAgent.Proofs.Display.Ownership

/-!
Sequences of operations on an executor.

Between the operations launched processes may die. An invariant of the executor on its machine is
kept by each operation, hence by every sequence of them: everything alive belongs to the session
that is held.
-/

namespace DesktopAgent.Display

/-- What is done with an executor, or happens to its machine in between. A start has the id of the
session that it may give. -/
inductive Operation where
  | start (id : String)
  | stop
  | drop
  | isHealthy
  | screenshot
  | execute (action : Action)
  | death (process : Nat)

/-- Whether an operation neither starts nor ends a session. -/
def Operation.isWithin : Operation → Bool
  | .start _ | .stop | .drop => false
  | .isHealthy | .screenshot | .execute _ | .death _ => true

/-- What an operation answers. -/
inductive Answer where
  | done
  | started (result : Except Failure Unit)
  | health (healthy : Bool)
  | picture (result : Except Failure String)
  | observed (result : Except Failure Observation)

namespace Desk

variable {τ : Type}

section

variable (programs : Programs τ) (config : Config)

/-- Does one operation. -/
def perform (desk : Desk τ) : Operation → Answer × Desk τ
  | .start id =>
      let (result, desk) := start programs config id desk
      (.started result, desk)
  | .stop => (.done, desk.stop)
  | .drop => (.done, desk.drop)
  | .isHealthy => (.health (desk.isHealthy programs), desk)
  | .screenshot =>
      let (result, desk) := screenshot programs config desk
      (.picture result, desk)
  | .execute action =>
      let (result, desk) := execute programs config action desk
      (.observed result, desk)
  | .death process => (.done, { desk with host := desk.host.kill process })

/-- Does operations one after the other. -/
def performAll (desk : Desk τ) : List Operation → List Answer × Desk τ
  | [] => ([], desk)
  | operation :: rest =>
      let (answer, desk) := perform programs config desk operation
      let (answers, desk) := performAll desk rest
      (answer :: answers, desk)

end

variable {programs : Programs τ} {config : Config} {desk : Desk τ} {session : Session}

theorem start_of_held (id : String) (held : desk.session = some session) :
    start programs config id desk = (.error .displayAlreadyStarted, desk) := by
  unfold start
  rw [held]

theorem start_of_idle (id : String) (idle : desk.session = none) :
    start programs config id desk =
      ((Session.start programs config id desk.host).1.map fun _ => (),
        ⟨(Session.start programs config id desk.host).1.toOption,
          (Session.start programs config id desk.host).2⟩) := by
  unfold start
  rw [idle]
  obtain ⟨result, host⟩ := Session.start programs config id desk.host
  cases result with
  | error failure => rfl
  | ok session => rfl

theorem stop_of_idle (idle : desk.session = none) : desk.stop = desk := by
  unfold stop
  rw [idle]

theorem stop_of_held (held : desk.session = some session) :
    desk.stop = ⟨none, (session.stop desk.host).2⟩ := by
  unfold stop
  rw [held]

theorem stop_session : desk.stop.session = none := by
  cases held : desk.session with
  | none => rw [stop_of_idle held, held]
  | some session => rw [stop_of_held held]

theorem drop_of_idle (idle : desk.session = none) : desk.drop = desk := by
  unfold drop
  rw [idle]

theorem drop_of_held (held : desk.session = some session) :
    desk.drop = ⟨none, session.drop desk.host⟩ := by
  unfold drop
  rw [held]

theorem drop_session : desk.drop.session = none := by
  cases held : desk.session with
  | none => rw [drop_of_idle held, held]
  | some session => rw [drop_of_held held]

theorem screenshot_of_idle (idle : desk.session = none) :
    screenshot programs config desk = (.error .displayNotStarted, desk) := by
  unfold screenshot
  rw [idle]

theorem screenshot_of_held (held : desk.session = some session) :
    screenshot programs config desk =
      (pictureResult id (capture programs config session desk.host).1,
        ⟨some session, (capture programs config session desk.host).2⟩) := by
  unfold screenshot
  rw [held]

theorem execute_of_idle (action : Action) (idle : desk.session = none) :
    execute programs config action desk = (.error .displayNotStarted, desk) := by
  unfold execute
  rw [idle]

theorem execute_of_held (action : Action) (held : desk.session = some session) :
    execute programs config action desk =
      ((executeIn programs config session action desk.host).1,
        ⟨some session, (executeIn programs config session action desk.host).2⟩) := by
  unfold execute
  rw [held]

/-- An operation within a session keeps the session, and the machine passes on. -/
theorem perform_within
    {later : Host τ → Host τ → Prop} (passage : Passage programs later)
    (actions : ∀ session, desk.session = some session →
      ActionsLeadOn programs config later session)
    (deaths : ∀ (process : Nat) (host : Host τ), later host (host.kill process))
    {operation : Operation} (within : operation.isWithin = true) :
    ∃ after, (perform programs config desk operation).2 = ⟨desk.session, after⟩ ∧
      later desk.host after := by
  cases operation with
  | start id => cases within
  | stop => cases within
  | drop => cases within
  | isHealthy => exact ⟨desk.host, rfl, passage.refl desk.host⟩
  | death process => exact ⟨desk.host.kill process, rfl, deaths process desk.host⟩
  | screenshot =>
      cases held : desk.session with
      | none =>
          refine ⟨desk.host, ?_, passage.refl desk.host⟩
          rw [perform, screenshot_of_idle held, ← held]
      | some session =>
          refine ⟨(capture programs config session desk.host).2, ?_, ?_⟩
          · rw [perform, screenshot_of_held held]
          · rw [capture_host]
            exact (actions session held).capture desk.host
  | execute action =>
      cases held : desk.session with
      | none =>
          refine ⟨desk.host, ?_, passage.refl desk.host⟩
          rw [perform, execute_of_idle action held, ← held]
      | some session =>
          refine ⟨(executeIn programs config session action desk.host).2, ?_, ?_⟩
          · rw [perform, execute_of_held action held]
          · exact passage.executeIn (actions session held) action desk.host

/-- Within a session the machine only ages. -/
theorem perform_aged
    (programs : Programs τ) (config : Config) (desk : Desk τ) {operation : Operation}
    (within : operation.isWithin = true) :
    ∃ after, (perform programs config desk operation).2 = ⟨desk.session, after⟩ ∧
      desk.host.Aged after :=
  perform_within Host.aged_passage
    (fun _ _ => ⟨Host.aged_leadsOn _, fun _ _ => Host.aged_leadsOn _⟩) Host.aged_kill within

/-- What each operation keeps holds after every sequence of them. -/
theorem performAll_keeps
    (invariant : Desk τ → Prop)
    (keeps : ∀ desk operation, invariant desk →
      invariant (perform programs config desk operation).2) :
    ∀ (operations : List Operation) (desk : Desk τ), invariant desk →
      invariant (performAll programs config desk operations).2 := by
  intro operations
  induction operations with
  | nil =>
      intro desk holds
      exact holds
  | cons operation rest inductionHypothesis =>
      intro desk holds
      exact inductionHypothesis _ (keeps desk operation holds)

/-- Everything alive belongs to the session that is held. -/
def InOrder (desk : Desk τ) : Prop :=
  desk.host.OwnedBy desk.session

theorem InOrder.owns (inOrder : desk.InOrder) (held : desk.session = some session) :
    session.Owns desk.host := by
  unfold InOrder at inOrder
  rw [held] at inOrder
  exact inOrder

theorem InOrder.empty (inOrder : desk.InOrder) (idle : desk.session = none) :
    desk.host.processes = [] := by
  unfold InOrder at inOrder
  rw [idle] at inOrder
  exact inOrder

/-- A machine on which time has passed is still in order. -/
theorem InOrder.aged
    {after : Host τ} (inOrder : desk.InOrder) (aged : desk.host.Aged after) :
    InOrder ⟨desk.session, after⟩ := by
  cases held : desk.session with
  | none =>
      have none : after.processes.Sublist [] := inOrder.empty held ▸ aged.processes
      exact List.sublist_nil.mp none
  | some session => exact (inOrder.owns held).aged aged

theorem InOrder.start (inOrder : desk.InOrder) (id : String) :
    (Desk.start programs config id desk).2.InOrder := by
  cases held : desk.session with
  | some session =>
      rw [start_of_held id held]
      exact inOrder
  | none =>
      rw [start_of_idle id held]
      exact (Session.start_goes programs config id desk.host).ownedBy (inOrder.empty held)

theorem InOrder.stop (inOrder : desk.InOrder) : desk.stop.InOrder := by
  cases held : desk.session with
  | none =>
      rw [stop_of_idle held]
      exact inOrder
  | some session =>
      rw [stop_of_held held]
      exact (inOrder.owns held).stop_processes

/-- Giving an executor up does to its machine what stopping it does. -/
theorem InOrder.stop_eq_drop (inOrder : desk.InOrder) : desk.stop = desk.drop := by
  cases held : desk.session with
  | none => rw [stop_of_idle held, drop_of_idle held]
  | some session =>
      rw [stop_of_held held, drop_of_held held, (inOrder.owns held).stop_eq_drop]

theorem InOrder.perform (inOrder : desk.InOrder) (operation : Operation) :
    (Desk.perform programs config desk operation).2.InOrder := by
  cases within : operation.isWithin with
  | true =>
      obtain ⟨after, same, aged⟩ := perform_aged programs config desk within
      rw [same]
      exact inOrder.aged aged
  | false =>
      cases operation with
      | start id => exact inOrder.start id
      | stop => exact inOrder.stop
      | drop =>
          change desk.drop.InOrder
          rw [← inOrder.stop_eq_drop]
          exact inOrder.stop
      | _ => cases within

/-- On a machine on which nothing is alive, every sequence of operations leaves everything in
order. -/
theorem inOrder_of_performAll
    (programs : Programs τ) (config : Config) {host : Host τ} (empty : host.processes = [])
    (operations : List Operation) : (performAll programs config (idle host) operations).2.InOrder :=
  performAll_keeps InOrder (fun _ operation inOrder => inOrder.perform operation) operations _ empty

end Desk

end DesktopAgent.Display
