import TrueMark.Runs.Atomic

namespace Runs

variable {Key Cell Call Fault : Type}

/-- A call touches the cell of its owner only. It leaves the others alone, and neither its outcome
nor what it writes depends on them. -/
structure Local (execute : (Key → Cell) → Call → Except Fault (Key → Cell)) (owner : Call → Key) : Prop where
  frame : ∀ {state next : Key → Cell} {call : Call} {key : Key}, execute state call = .ok next → owner call ≠ key →
    next key = state key
  own : ∀ {state other : Key → Cell} {call : Call}, state (owner call) = other (owner call) →
    (execute state call).map (fun next => next (owner call)) = (execute other call).map (fun next => next (owner call))

namespace Local

variable {execute : (Key → Cell) → Call → Except Fault (Key → Cell)} {owner : Call → Key} {start : Key → Cell}

theorem attempt_foreign (isLocal : Local execute owner) {call : Call} {key : Key} (foreign : owner call ≠ key)
    (state : Key → Cell) : attempt execute state call key = state key := by
  cases run : execute state call with
  | ok next => rw [attempt_ok run, isLocal.frame run foreign]
  | error fault => rw [attempt_error run]

/-- Two states with the same cell for the owner give the same success, and the same cell again. -/
theorem outcome (isLocal : Local execute owner) {state other : Key → Cell} {call : Call}
    (same : state (owner call) = other (owner call)) :
    (∃ next last, execute state call = .ok next ∧ execute other call = .ok last ∧
        next (owner call) = last (owner call)) ∨
      ∃ fault, execute state call = .error fault ∧ execute other call = .error fault := by
  have agree := isLocal.own same
  cases run : execute state call with
  | ok next =>
    cases runOther : execute other call with
    | ok last =>
      rw [run, runOther] at agree
      exact Or.inl ⟨next, last, rfl, rfl, Except.ok.inj agree⟩
    | error fault =>
      rw [run, runOther] at agree
      cases agree
  | error fault =>
    cases runOther : execute other call with
    | ok last =>
      rw [run, runOther] at agree
      cases agree
    | error fault' =>
      rw [run, runOther] at agree
      exact Or.inr ⟨fault, rfl, congrArg Except.error (Except.error.inj agree).symm⟩

variable [DecidableEq Key]

/-- For the cell of a key, and for the fate of the calls on it, the others might as well not be there. -/
theorem replay_filter (isLocal : Local execute owner) (key : Key) (calls : List Call) :
    replay execute start calls key = replay execute start (calls.filter fun call => owner call = key) key ∧
      (committed execute start calls).filter (fun call => owner call = key) =
        committed execute start (calls.filter fun call => owner call = key) := by
  induction calls using List.reverseRecOn with
  | nil => exact ⟨rfl, rfl⟩
  | append_singleton front last ih =>
    obtain ⟨same, done⟩ := ih
    rw [List.filter_append, replay_concat]
    by_cases own : owner last = key
    · subst own
      have kept : [last].filter (fun call => owner call = owner last) = [last] := by simp
      rw [kept, replay_concat]
      rcases isLocal.outcome same with ⟨next, next', run, runOwn, equal⟩ | ⟨fault, run, runOwn⟩
      · rw [attempt_ok run, attempt_ok runOwn, committed_concat_ok run, committed_concat_ok runOwn,
          List.filter_append, kept, done]
        exact ⟨equal, rfl⟩
      · rw [attempt_error run, attempt_error runOwn, committed_concat_error run, committed_concat_error runOwn]
        exact ⟨same, done⟩
    · have dropped : [last].filter (fun call => owner call = key) = [] := by simp [own]
      rw [isLocal.attempt_foreign own, dropped, List.append_nil]
      refine ⟨same, ?_⟩
      cases run : execute (replay execute start front) last with
      | ok next => rw [committed_concat_ok run, List.filter_append, dropped, List.append_nil, done]
      | error fault => rw [committed_concat_error run, done]

end Local

end Runs
