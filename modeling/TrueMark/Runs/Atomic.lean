import Mathlib.Data.List.Induction

namespace Runs

/- Calls that either succeed with a new state or fail and leave the state as
it was, executed one after another. -/
variable {State Call Fault : Type} (execute : State → Call → Except Fault State)

def attempt (state : State) (call : Call) : State :=
  match execute state call with
  | .ok next => next
  | .error _ => state

def replay (start : State) (calls : List Call) : State := calls.foldl (attempt execute) start

/-- The calls that succeeded, in order. -/
def committed (start : State) : List Call → List Call
  | [] => []
  | call :: rest =>
    match execute start call with
    | .ok next => call :: committed next rest
    | .error _ => committed start rest

/-- After these earlier calls, this one succeeds. -/
def Succeeds (start : State) (earlier : List Call) (call : Call) : Prop :=
  ∃ next, execute (replay execute start earlier) call = .ok next

/-- Somewhere in the history, a call of this kind succeeded. -/
def Happened (start : State) (calls : List Call) (kind : Call → Prop) : Prop :=
  ∃ earlier call later, calls = earlier ++ call :: later ∧ kind call ∧ Succeeds execute start earlier call

variable {execute} {start : State}

theorem attempt_ok {state next : State} {call : Call} (run : execute state call = .ok next) :
    attempt execute state call = next := by
  rw [attempt, run]

theorem attempt_error {state : State} {call : Call} {fault : Fault} (run : execute state call = .error fault) :
    attempt execute state call = state := by
  rw [attempt, run]

@[simp] theorem replay_nil : replay execute start [] = start := rfl

theorem replay_append (first second : List Call) :
    replay execute start (first ++ second) = replay execute (replay execute start first) second :=
  List.foldl_append

theorem replay_concat (calls : List Call) (call : Call) :
    replay execute start (calls ++ [call]) = attempt execute (replay execute start calls) call :=
  replay_append calls [call]

theorem committed_append (first second : List Call) :
    committed execute start (first ++ second) =
      committed execute start first ++ committed execute (replay execute start first) second := by
  induction first generalizing start with
  | nil => rfl
  | cons call rest ih =>
    cases run : execute start call with
    | ok next =>
      simp only [List.cons_append, committed, run, replay, List.foldl_cons, attempt_ok run]
      rw [ih]
      rfl
    | error fault =>
      simp only [List.cons_append, committed, run, replay, List.foldl_cons, attempt_error run]
      exact ih

theorem committed_concat_ok {calls : List Call} {call : Call} {next : State}
    (run : execute (replay execute start calls) call = .ok next) :
    committed execute start (calls ++ [call]) = committed execute start calls ++ [call] := by
  rw [committed_append]
  simp only [committed, run]

theorem committed_concat_error {calls : List Call} {call : Call} {fault : Fault}
    (run : execute (replay execute start calls) call = .error fault) :
    committed execute start (calls ++ [call]) = committed execute start calls := by
  rw [committed_append]
  simp only [committed, run, List.append_nil]

/-- Membership in the committed calls is success at some place of the history. -/
theorem mem_committed {calls : List Call} {call : Call} :
    call ∈ committed execute start calls ↔
      ∃ earlier later, calls = earlier ++ call :: later ∧ Succeeds execute start earlier call := by
  constructor
  · induction calls using List.reverseRecOn with
    | nil => intro member; cases member
    | append_singleton front last ih =>
      intro member
      have older (old : call ∈ committed execute start front) : ∃ earlier later,
          front ++ [last] = earlier ++ call :: later ∧ Succeeds execute start earlier call := by
        obtain ⟨earlier, later, split, success⟩ := ih old
        exact ⟨earlier, later ++ [last], by simp [split], success⟩
      cases run : execute (replay execute start front) last with
      | ok next =>
        rw [committed_concat_ok run] at member
        rcases List.mem_append.mp member with old | new
        · exact older old
        · rw [List.mem_singleton] at new
          subst new
          exact ⟨front, [], rfl, next, run⟩
      | error fault =>
        rw [committed_concat_error run] at member
        exact older member
  · rintro ⟨earlier, later, rfl, next, run⟩
    rw [committed_append]
    simp only [committed, run, List.mem_append, List.mem_cons, true_or, or_true]

theorem happened_iff {calls : List Call} {kind : Call → Prop} :
    Happened execute start calls kind ↔ ∃ call ∈ committed execute start calls, kind call := by
  constructor
  · rintro ⟨earlier, call, later, split, is, success⟩
    exact ⟨call, mem_committed.mpr ⟨earlier, later, split, success⟩, is⟩
  · rintro ⟨call, member, is⟩
    obtain ⟨earlier, later, split, success⟩ := mem_committed.mp member
    exact ⟨earlier, call, later, split, is, success⟩

theorem committed_sublist (calls : List Call) : (committed execute start calls).Sublist calls := by
  induction calls generalizing start with
  | nil => exact .slnil
  | cons call rest ih =>
    unfold committed
    split
    · exact .cons_cons _ ih
    · exact .cons _ ih

end Runs
