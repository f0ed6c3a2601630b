import DesktopAgent.Proofs.Agent.Round

/-!
What a run has done when it makes a request.

A request can be found in a trace by its index, which is the number of requests before it, and by
the part of the trace before it. The lemmas lead from one to the other.
-/

namespace DesktopAgent

namespace Trace

/-- What is done before the request of an index, or all that is done when there are fewer. -/
def before (index : Nat) : Trace → Trace
  | [] => []
  | entry :: later =>
      match entry.request?, index with
      | none, _ => entry :: before index later
      | some _, 0 => []
      | some _, fewer + 1 => entry :: before fewer later

theorem before_cons_of_none
    {entry : Entry} (noRequest : entry.request? = none)
    (index : Nat) (later : Trace) :
    before index (entry :: later) = entry :: before index later := by
  simp only [before, noRequest]

theorem before_cons_succ
    {entry : Entry} {request : Request} (asks : entry.request? = some request)
    (index : Nat) (later : Trace) :
    before (index + 1) (entry :: later) = entry :: before index later := by
  simp only [before, asks]

theorem before_cons_zero
    {entry : Entry} {request : Request} (asks : entry.request? = some request)
    (later : Trace) :
    before 0 (entry :: later) = [] := by
  simp only [before, asks]

theorem requests_cons_of_none
    {entry : Entry} (noRequest : entry.request? = none) (later : Trace) :
    requests (entry :: later) = requests later :=
  List.filterMap_cons_none noRequest

theorem requests_cons_of_some
    {entry : Entry} {request : Request} (asks : entry.request? = some request)
    (later : Trace) :
    requests (entry :: later) = request :: requests later :=
  List.filterMap_cons_some asks

theorem before_prefix_before
    {few many : Nat} (le : few ≤ many) (trace : Trace) :
    trace.before few <+: trace.before many := by
  induction trace generalizing few many with
  | nil => exact List.prefix_refl []
  | cons entry later inductionHypothesis =>
      cases asks : entry.request? with
      | none =>
          rw [before_cons_of_none asks, before_cons_of_none asks]
          exact List.prefix_cons_inj entry |>.mpr (inductionHypothesis le)
      | some request =>
          cases few with
          | zero =>
              rw [before_cons_zero asks]
              exact List.nil_prefix
          | succ few =>
              obtain ⟨more, rfl⟩ : ∃ more, many = more + 1 :=
                Nat.exists_eq_succ_of_ne_zero (by omega)
              rw [before_cons_succ asks, before_cons_succ asks]
              exact List.prefix_cons_inj entry |>.mpr
                (inductionHypothesis (Nat.le_of_succ_le_succ le))

theorem before_of_le
    {trace : Trace} {index : Nat} (le : trace.requests.length ≤ index) :
    trace.before index = trace := by
  induction trace generalizing index with
  | nil => rfl
  | cons entry later inductionHypothesis =>
      cases asks : entry.request? with
      | none =>
          rw [requests_cons_of_none asks] at le
          rw [before_cons_of_none asks, inductionHypothesis le]
      | some request =>
          rw [requests_cons_of_some asks, List.length_cons] at le
          obtain ⟨fewer, rfl⟩ : ∃ fewer, index = fewer + 1 :=
            Nat.exists_eq_succ_of_ne_zero (by omega)
          rw [before_cons_succ asks,
            inductionHypothesis (Nat.le_of_succ_le_succ le)]

/-- Before the request of an index there are as many requests. -/
theorem exists_request_of_lt
    {trace : Trace} {index : Nat} (lt : index < trace.requests.length) :
    (trace.before index).requests.length = index ∧
      ∃ request later, trace = trace.before index ++ .request request :: later := by
  induction trace generalizing index with
  | nil => cases lt
  | cons entry later inductionHypothesis =>
      cases asks : entry.request? with
      | none =>
          rw [requests_cons_of_none asks] at lt
          obtain ⟨length, request, rest, split⟩ := inductionHypothesis lt
          rw [before_cons_of_none asks, requests_cons_of_none asks]
          refine ⟨length, request, rest, ?_⟩
          rw [List.cons_append, ← split]
      | some request =>
          cases index with
          | zero =>
              rw [before_cons_zero asks]
              cases entry with
              | request first => exact ⟨rfl, first, later, rfl⟩
              | screenshot => cases asks
              | execute action => cases asks
              | event told => cases asks
          | succ index =>
              rw [requests_cons_of_some asks, List.length_cons] at lt
              obtain ⟨length, request, rest, split⟩ :=
                inductionHypothesis (Nat.lt_of_succ_lt_succ lt)
              rw [before_cons_succ asks, requests_cons_of_some asks,
                List.length_cons, length]
              refine ⟨rfl, request, rest, ?_⟩
              rw [List.cons_append, ← split]

theorem before_of_split
    (earlier : Trace) (request : Request) (later : Trace) :
    before earlier.requests.length (earlier ++ .request request :: later) =
      earlier := by
  induction earlier with
  | nil => rfl
  | cons entry rest inductionHypothesis =>
      rw [List.cons_append]
      cases asks : entry.request? with
      | none =>
          rw [requests_cons_of_none asks, before_cons_of_none asks,
            inductionHypothesis]
      | some other =>
          rw [requests_cons_of_some asks, List.length_cons,
            before_cons_succ asks, inductionHypothesis]

/-- A request that follows a part without requests stands in the rest. -/
theorem split_after_quiet
    {quiet later earlier rest : Trace} {request : Request}
    (noRequests : quiet.requests = [])
    (split : quiet ++ later = earlier ++ .request request :: rest) :
    ∃ between, earlier = quiet ++ between ∧
      later = between ++ .request request :: rest := by
  rcases List.append_eq_append_iff.mp split with
    ⟨between, begins, ends⟩ | ⟨between, begins, ends⟩
  · exact ⟨between, begins, ends⟩
  · cases between with
    | nil =>
        rw [List.append_nil] at begins
        exact ⟨[], by rw [begins, List.append_nil], ends.symm⟩
    | cons entry between =>
        obtain ⟨rfl, _⟩ := List.cons.inj ends
        rw [begins, requests_append, requests_cons_request] at noRequests
        exact absurd noRequests (by simp)

end Trace

theorem Cancellation.isDue_of_prefix
    {cancellation : Cancellation} {earlier later : Trace}
    (due : cancellation.isDue earlier = true) (begins : earlier <+: later) :
    cancellation.isDue later = true := by
  obtain ⟨rest, rfl⟩ := begins
  exact isDue_append due rest

end DesktopAgent
