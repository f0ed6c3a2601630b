import DesktopAgent.Proofs.Display.Tasks

/-!
How waiting for a display ends.

The display is probed again and again, each time between two looks at the framebuffer, and after a
probe that settles nothing the clock is read. Waiting ends at the first decisive point, or when the
clock shows the deadline or more. All of this is said of every machine on which waiting begins, also
of one whose framebuffer has ended by then.
-/

namespace DesktopAgent.Display.Session

variable {τ : Type}

section

variable (programs : Programs τ) (config : Config) (session : Session) (host : Host τ)

/-- How a run of the probe ends. A probe that is empty or cannot be started is not started. -/
def probeOutcome : Outcome :=
  .ofRun (host.runCommand programs (session.invocation config.probe [])).1

/-- The machine after a run of the probe. -/
def probed : Host τ :=
  (host.runCommand programs (session.invocation config.probe [])).2

/-- The probe succeeds, and the framebuffer is not seen to have ended before it or after it. -/
structure IsReady : Prop where
  alive : session.framebufferEnded programs host = false
  answered : probeOutcome programs config session host = .succeeded
  stays : session.framebufferEnded programs (probed programs config session host) = false

/-- The framebuffer is seen to have ended, before the probe or after one that succeeds; on the
machine after that. -/
def IsDead (after : Host τ) : Prop :=
  session.framebufferEnded programs host = true ∧ after = host ∨
    session.framebufferEnded programs host = false ∧
      probeOutcome programs config session host = .succeeded ∧
      session.framebufferEnded programs (probed programs config session host) = true ∧
      after = probed programs config session host

/-- The framebuffer is not seen to have ended, and the probe fails. -/
structure IsUnsettled : Prop where
  alive : session.framebufferEnded programs host = false
  unanswered : probeOutcome programs config session host ≠ .succeeded

/-- The machine when the clock has been read after a probe. -/
def looked : Host τ :=
  ((probed programs config session host).readClock programs).2

/-- The clock, read after the probe, shows less than the deadline. -/
def InTime (deadline : Nat) : Prop :=
  ((probed programs config session host).readClock programs).1 < deadline

end

variable {programs : Programs τ} {config : Config} {session : Session}

/-- Where the system tells of every process, a framebuffer is seen to have ended when it has. -/
theorem framebufferEnded_of_told
    (told : ∀ (process : Nat) (host : Host τ), programs.untold process host = false)
    {framebuffer : Nat} (launched : session.framebuffer = some framebuffer) (host : Host τ) :
    session.framebufferEnded programs host = !host.isAlive framebuffer := by
  rw [framebufferEnded, launched]
  dsimp only
  rw [Host.hasEnded?, told]
  cases host.isAlive framebuffer with
  | true => rfl
  | false => rfl

theorem probe_of_ended {host : Host τ} (ended : session.framebufferEnded programs host = true) :
    session.probe programs config host = (some .notReady, host) := by
  unfold probe
  rw [ended]
  rfl

theorem probe_of_alive {host : Host τ} (alive : session.framebufferEnded programs host = false) :
    session.probe programs config host =
      (if probeOutcome programs config session host = .succeeded then
        some (if session.framebufferEnded programs (probed programs config session host) then
          .notReady else .ready)
      else none, probed programs config session host) := by
  unfold probe probeOutcome probed Session.run
  rw [alive]
  obtain ⟨result, after⟩ := host.runCommand programs (session.invocation config.probe [])
  cases result with
  | error problem => rfl
  | ok output =>
      cases success : output.success with
      | true => simp [Except.map, CommandOutput.ofOutput, Outcome.ofRun, success]
      | false => simp [Except.map, CommandOutput.ofOutput, Outcome.ofRun, success]

theorem probe_of_ready {host : Host τ} (ready : IsReady programs config session host) :
    session.probe programs config host =
      (some .ready, probed programs config session host) := by
  rw [probe_of_alive ready.alive, if_pos ready.answered, ready.stays]
  rfl

theorem probe_of_unsettled {host : Host τ} (unsettled : IsUnsettled programs config session host) :
    session.probe programs config host = (none, probed programs config session host) := by
  rw [probe_of_alive unsettled.alive, if_neg unsettled.unanswered]

theorem probe_of_dead {host after : Host τ} (dead : IsDead programs config session host after) :
    session.probe programs config host = (some .notReady, after) := by
  rcases dead with ⟨ended, rfl⟩ | ⟨alive, answered, ended, rfl⟩
  · exact probe_of_ended ended
  · rw [probe_of_alive alive, if_pos answered, ended]
    rfl

theorem probe_cases (programs : Programs τ) (config : Config) (session : Session) (host : Host τ) :
    IsReady programs config session host ∨
      (∃ after, IsDead programs config session host after) ∨
      IsUnsettled programs config session host := by
  cases alive : session.framebufferEnded programs host with
  | true => exact Or.inr (Or.inl ⟨host, Or.inl ⟨alive, rfl⟩⟩)
  | false =>
      by_cases answered : probeOutcome programs config session host = .succeeded
      · cases stays : session.framebufferEnded programs (probed programs config session host) with
        | false => exact Or.inl ⟨alive, answered, stays⟩
        | true => exact Or.inr (Or.inl ⟨_, Or.inr ⟨alive, answered, stays, rfl⟩⟩)
      · exact Or.inr (Or.inr ⟨alive, answered⟩)

theorem isUnsettled_iff (host : Host τ) :
    IsUnsettled programs config session host ↔ (session.probe programs config host).1 = none := by
  rcases probe_cases programs config session host with ready | ⟨after, dead⟩ | unsettled
  · rw [probe_of_ready ready]
    exact iff_of_false (fun unsettled => unsettled.unanswered ready.answered) (by rintro ⟨⟩)
  · rw [probe_of_dead dead]
    refine iff_of_false (fun unsettled => ?_) (by rintro ⟨⟩)
    rcases dead with ⟨ended, _⟩ | ⟨_, answered, _⟩
    · exact Bool.false_ne_true (unsettled.alive.symm.trans ended)
    · exact unsettled.unanswered answered
  · rw [probe_of_unsettled unsettled]
    exact iff_of_true unsettled rfl

section

variable (programs : Programs τ) (config : Config) (session : Session)

/-- The machine before the probe of an index. -/
def probing : Nat → Host τ → Host τ
  | 0, host => host
  | index + 1, host =>
      probing index ((looked programs config session host).pause programs config.pollInterval)

/-- No probe before that of an index settles anything, and the clock shows less than the deadline
after each of them. -/
def Reaches (deadline index : Nat) (host : Host τ) : Prop :=
  ∀ earlier < index,
    IsUnsettled programs config session (probing programs config session earlier host) ∧
      InTime programs config session (probing programs config session earlier host) deadline

/-- When waiting that begins on a machine must be over. -/
def deadlineOf (host : Host τ) : Nat :=
  (host.readClock programs).1 + config.startTimeout

/-- A probe that is reached finds the display ready, which leaves the machine so. -/
def ReadyWithin (host waited : Host τ) : Prop :=
  ∃ index, Reaches programs config session (deadlineOf programs config host) index
      (host.readClock programs).2 ∧
    IsReady programs config session
      (probing programs config session index (host.readClock programs).2) ∧
    waited = probed programs config session
      (probing programs config session index (host.readClock programs).2)

/-- At a probe that is reached the framebuffer is seen to have ended, or the probe fails and the
deadline has passed; waiting leaves the machine so. -/
def NeverReady (host waited : Host τ) : Prop :=
  ∃ index, Reaches programs config session (deadlineOf programs config host) index
      (host.readClock programs).2 ∧
    (IsDead programs config session
        (probing programs config session index (host.readClock programs).2) waited ∨
      IsUnsettled programs config session
        (probing programs config session index (host.readClock programs).2) ∧
      ¬ InTime programs config session
        (probing programs config session index (host.readClock programs).2)
        (deadlineOf programs config host) ∧
      waited = looked programs config session
        (probing programs config session index (host.readClock programs).2))

end

variable {deadline : Nat}

theorem reaches_zero (deadline : Nat) (host : Host τ) :
    Reaches programs config session deadline 0 host :=
  fun _ before => absurd before (Nat.not_lt_zero _)

theorem reaches_succ_iff (index : Nat) (host : Host τ) :
    Reaches programs config session deadline (index + 1) host ↔
      (IsUnsettled programs config session host ∧
        InTime programs config session host deadline) ∧
        Reaches programs config session deadline index
          ((looked programs config session host).pause programs config.pollInterval) := by
  constructor
  · intro reaches
    refine ⟨reaches 0 (Nat.succ_pos index), ?_⟩
    intro earlier before
    exact reaches (earlier + 1) (Nat.succ_lt_succ before)
  · rintro ⟨first, reaches⟩ earlier before
    cases earlier with
    | zero => exact first
    | succ earlier => exact reaches earlier (Nat.lt_of_succ_lt_succ before)

theorem awaitReady_of_unsettled
    {host : Host τ} (unsettled : IsUnsettled programs config session host)
    (inTime : InTime programs config session host deadline) :
    awaitReady programs config session deadline host =
      awaitReady programs config session deadline
        ((looked programs config session host).pause programs config.pollInterval) := by
  rw [awaitReady, probe_of_unsettled unsettled]
  exact if_pos inTime

/-- Waiting goes on from the probe of an index that it reaches. -/
theorem awaitReady_of_reaches (index : Nat) :
    ∀ host : Host τ, Reaches programs config session deadline index host →
      awaitReady programs config session deadline host =
        awaitReady programs config session deadline
          (probing programs config session index host) := by
  induction index with
  | zero => exact fun _ _ => rfl
  | succ index inductionHypothesis =>
      intro host reaches
      obtain ⟨⟨unsettled, inTime⟩, later⟩ := (reaches_succ_iff index host).mp reaches
      rw [awaitReady_of_unsettled unsettled inTime]
      exact inductionHypothesis _ later

theorem awaitReady_of_settled
    {host after : Host τ} {readiness : Readiness}
    (settled : session.probe programs config host = (some readiness, after)) :
    awaitReady programs config session deadline host = (readiness, after) := by
  rw [awaitReady, settled]

theorem waitUntilReady_of_readyWithin
    {host waited : Host τ} (ready : ReadyWithin programs config session host waited) :
    waitUntilReady programs config session host = (.ok (), waited) := by
  obtain ⟨index, reaches, isReady, rfl⟩ := ready
  have waits := awaitReady_of_reaches index _ reaches
  rw [awaitReady_of_settled (probe_of_ready isReady)] at waits
  unfold waitUntilReady
  dsimp only
  rw [← deadlineOf, waits]

theorem waitUntilReady_of_neverReady
    {host waited : Host τ} (never : NeverReady programs config session host waited) :
    waitUntilReady programs config session host =
      (.error (session.timeout
        ((waited.readClock programs).1 - (host.readClock programs).1)),
        (waited.readClock programs).2) := by
  obtain ⟨index, reaches, ends⟩ := never
  have waits := awaitReady_of_reaches index _ reaches
  have notReady : awaitReady programs config session (deadlineOf programs config host)
      (host.readClock programs).2 = (.notReady, waited) := by
    rw [waits]
    rcases ends with dead | ⟨unsettled, late, rfl⟩
    · exact awaitReady_of_settled (probe_of_dead dead)
    · rw [awaitReady, probe_of_unsettled unsettled]
      exact if_neg late
  unfold waitUntilReady
  dsimp only
  rw [← deadlineOf, notReady]

variable (programs config session) in
/-- Waiting from a machine on comes to a probe that settles how it ends, or to one after which the
deadline has passed. -/
theorem exists_reaches (deadline : Nat) (host : Host τ) :
    ∃ index, Reaches programs config session deadline index host ∧
      (IsReady programs config session (probing programs config session index host) ∨
        (∃ after, IsDead programs config session
          (probing programs config session index host) after) ∨
        IsUnsettled programs config session (probing programs config session index host) ∧
          ¬ InTime programs config session (probing programs config session index host)
            deadline) := by
  -- The induction is that of waiting itself: the clock shows more after each probe.
  induction host using awaitReady.induct programs config session deadline with
  | case1 host _ readiness settled =>
      refine ⟨0, reaches_zero deadline host, ?_⟩
      rcases probe_cases programs config session host with ready | dead | unsettled
      · exact Or.inl ready
      · exact Or.inr (Or.inl dead)
      · cases settled.symm.trans ((isUnsettled_iff host).mp unsettled)
  | case2 host probe isNone look inTime inductionHypothesis =>
      have unsettled : IsUnsettled programs config session host := (isUnsettled_iff host).mpr isNone
      have same := congrArg Prod.snd (probe_of_unsettled unsettled)
      simp only [look, probe, same] at inTime inductionHypothesis
      obtain ⟨index, reaches, ends⟩ := inductionHypothesis
      exact ⟨index + 1, (reaches_succ_iff index host).mpr ⟨⟨unsettled, inTime⟩, reaches⟩, ends⟩
  | case3 host probe isNone look late =>
      have unsettled : IsUnsettled programs config session host := (isUnsettled_iff host).mpr isNone
      have same := congrArg Prod.snd (probe_of_unsettled unsettled)
      simp only [look, probe, same] at late
      exact ⟨0, reaches_zero deadline host, Or.inr (Or.inr ⟨unsettled, late⟩)⟩

/-- Waiting ends with a display that is ready, or there is never one. -/
theorem readyWithin_or_neverReady (host : Host τ) :
    (∃ waited, ReadyWithin programs config session host waited) ∨
      ∃ waited, NeverReady programs config session host waited := by
  obtain ⟨index, reaches, ends⟩ := exists_reaches programs config session
    (deadlineOf programs config host) (host.readClock programs).2
  rcases ends with ready | ⟨after, dead⟩ | ⟨unsettled, late⟩
  · exact Or.inl ⟨_, index, reaches, ready, rfl⟩
  · exact Or.inr ⟨after, index, reaches, Or.inl dead⟩
  · exact Or.inr ⟨_, index, reaches, Or.inr ⟨unsettled, late, rfl⟩⟩

end DesktopAgent.Display.Session
