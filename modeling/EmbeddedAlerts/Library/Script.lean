import Mathlib.Tactic

namespace EmbeddedAlerts

/-!
# Scripts that may be stopped

A script changes a state by one command after the other, and ends with a result
or with a failure.  From outside it can be stopped at any moment; then it leaves
one of the states that it went through.  So a script is described by all these
states, and not by the last one only.

What a script never does is a relation between the state in which it starts and
every state that it leaves.  If the relation is a preorder, it holds for a
sequence as soon as it holds for the parts.
-/

/-- The states that were left, the last state, and what came of it. -/
structure ScriptRun (σ ε α : Type) where
  passed : List σ
  state : σ
  result : Except ε α

def ScriptRun.visited {σ ε α : Type} (run : ScriptRun σ ε α) : List σ :=
  run.passed ++ [run.state]

def Script (σ ε α : Type) : Type := σ -> ScriptRun σ ε α

namespace Script

variable {σ ε α β ι : Type}

def andThen (first : Script σ ε α) (next : α -> Script σ ε β) : Script σ ε β :=
  fun start =>
    match (first start).result with
    | .ok value => ⟨(first start).passed ++ (next value (first start).state).passed,
        (next value (first start).state).state, (next value (first start).state).result⟩
    | .error failure => ⟨(first start).passed, (first start).state, .error failure⟩

instance : Monad (Script σ ε) where
  pure value := fun start => ⟨[], start, .ok value⟩
  bind := andThen

def get : Script σ ε σ := fun start => ⟨[], start, .ok start⟩

def fail (failure : ε) : Script σ ε α := fun start => ⟨[], start, .error failure⟩

/-- One command. -/
def command (change : σ -> σ) : Script σ ε Unit := fun start => ⟨[start], change start, .ok ()⟩

/-- Where a script ends that is stopped after some commands. -/
def stopped (script : Script σ ε α) (commands : Nat) (start : σ) : σ :=
  (script start).visited.getD commands (script start).state

/-- A script reaches its end, with this result and in this state. -/
def Ends (script : Script σ ε α) (start : σ) (value : α) (final : σ) : Prop :=
  (script start).result = .ok value ∧ (script start).state = final

theorem ends_pure_iff {start final : σ} {given value : α} :
    Ends (pure given : Script σ ε α) start value final ↔ given = value ∧ start = final := by
  change Except.ok given = Except.ok value ∧ start = final ↔ _
  rw [Except.ok.injEq]

theorem ends_get_iff {start value final : σ} :
    Ends (get : Script σ ε σ) start value final ↔ start = value ∧ start = final :=
  ends_pure_iff

theorem ends_command_iff {change : σ -> σ} {start final : σ} :
    Ends (command change : Script σ ε Unit) start () final ↔ change start = final := by
  change Except.ok () = Except.ok () ∧ change start = final ↔ _
  exact and_iff_right rfl

/-- A script that does not fail reaches its end. -/
theorem ends_of_toBool {script : Script σ ε Unit} {start : σ}
    (done : (script start).result.toBool = true) : Ends script start () (script start).state := by
  refine ⟨?_, rfl⟩
  cases result : (script start).result with
  | ok value => rfl
  | error failure =>
      rw [result] at done
      cases done

theorem not_ends_fail {failure : ε} {start final : σ} {value : α} :
    Not (Ends (fail failure : Script σ ε α) start value final) := by
  rintro ⟨result, _⟩
  cases result

theorem ends_bind_iff {first : Script σ ε α} {next : α -> Script σ ε β} {start final : σ}
    {value : β} : Ends (first >>= next) start value final ↔
      Exists fun between => Exists fun middle =>
        Ends first start between middle ∧ Ends (next between) middle value final := by
  unfold Ends
  simp only [bind, andThen]
  cases (first start).result with
  | error failure => simp
  | ok between => simp

/-- A loop keeps what each of its turns keeps. -/
theorem Ends.forM {body : ι -> Script σ ε PUnit} {items : List ι} (holds : σ -> Prop)
    (turn : forall item start final, item ∈ items -> holds start ->
      Ends (body item) start () final -> holds final)
    {start final : σ} (begun : holds start) (ended : Ends (items.forM body) start () final) :
    holds final := by
  induction items generalizing start with
  | nil =>
      rw [← (ends_pure_iff.mp ended).2]
      exact begun
  | cons item rest ih =>
      rcases ends_bind_iff.mp ended with ⟨_, middle, first, later⟩
      exact ih (fun next start final member => turn next start final (List.mem_cons_of_mem _ member))
        (turn item start middle List.mem_cons_self begun first) later

/-- The last turn of a loop. -/
theorem ends_forM_append {body : ι -> Script σ ε PUnit} {items : List ι} {last : ι}
    {start final : σ} (ended : Ends ((items ++ [last]).forM body) start () final) :
    Exists fun middle => Ends (items.forM body) start () middle ∧
      Ends (body last) middle () final := by
  induction items generalizing start with
  | nil =>
      rcases ends_bind_iff.mp ended with ⟨_, middle, first, later⟩
      rw [← (ends_pure_iff.mp later).2]
      exact ⟨start, ends_pure_iff.mpr ⟨rfl, rfl⟩, first⟩
  | cons item rest ih =>
      rcases ends_bind_iff.mp ended with ⟨_, middle, first, later⟩
      rcases ih later with ⟨between, earlier, turned⟩
      exact ⟨between, ends_bind_iff.mpr ⟨_, middle, first, earlier⟩, turned⟩

theorem mem_visited_bind {first : Script σ ε α} {next : α -> Script σ ε β} {start state : σ}
    (visited : state ∈ ((first >>= next) start).visited) :
    state ∈ (first start).visited ∨ Exists fun value => (first start).result = .ok value ∧
      state ∈ (next value (first start).state).visited := by
  unfold ScriptRun.visited at visited ⊢
  simp only [bind, andThen] at visited
  cases result : (first start).result with
  | error failure =>
      rw [result] at visited
      exact .inl visited
  | ok value =>
      rw [result, List.append_assoc] at visited
      rcases List.mem_append.mp visited with earlier | later
      · exact .inl (List.mem_append_left _ earlier)
      · exact .inr ⟨value, rfl, later⟩

theorem mem_passed_bind_left {first : Script σ ε α} {next : α -> Script σ ε β} {start state : σ}
    (passed : state ∈ (first start).passed) : state ∈ ((first >>= next) start).passed := by
  simp only [bind, andThen]
  cases (first start).result with
  | error failure => exact passed
  | ok value => exact List.mem_append_left _ passed

theorem mem_passed_bind_right {first : Script σ ε α} {next : α -> Script σ ε β}
    {start middle state : σ} {value : α} (ended : Ends first start value middle)
    (passed : state ∈ (next value middle).passed) : state ∈ ((first >>= next) start).passed := by
  rcases ended with ⟨result, rfl⟩
  simp only [bind, andThen]
  rw [result]
  exact List.mem_append_right _ passed

theorem mem_passed_command (change : σ -> σ) (start : σ) :
    start ∈ ((command change : Script σ ε Unit) start).passed :=
  List.mem_singleton_self start

/-- Every state that was left is one that a kill leaves. -/
theorem exists_stopped {script : Script σ ε α} {start state : σ}
    (passed : state ∈ (script start).passed) :
    Exists fun commands => script.stopped commands start = state := by
  rcases List.mem_iff_getElem?.mp (List.mem_append_left [(script start).state] passed)
    with ⟨commands, found⟩
  refine ⟨commands, ?_⟩
  rw [stopped, List.getD_eq_getElem?_getD]
  exact congrArg (fun other => other.getD (script start).state) found

theorem state_mem_visited (script : Script σ ε α) (start : σ) :
    (script start).state ∈ (script start).visited :=
  List.mem_append_right _ (List.mem_singleton_self _)

theorem stopped_mem_visited (script : Script σ ε α) (commands : Nat) (start : σ) :
    script.stopped commands start ∈ (script start).visited := by
  unfold stopped
  rw [List.getD_eq_getElem?_getD]
  cases found : (script start).visited[commands]? with
  | none => exact state_mem_visited script start
  | some state => exact List.mem_of_getElem? found

/-! ## What a script never does -/

/-- Every state that the script goes through is related to its start. -/
def Within (relation : σ -> σ -> Prop) (script : Script σ ε α) (start : σ) : Prop :=
  forall state, state ∈ (script start).visited -> relation start state

section

variable {relation : σ -> σ -> Prop}

theorem Within.state {script : Script σ ε α} {start : σ}
    (within : Within relation script start) : relation start (script start).state :=
  within _ (state_mem_visited script start)

theorem Within.bind [IsTrans σ relation] {first : Script σ ε α} {next : α -> Script σ ε β} {start : σ}
    (before : Within relation first start)
    (after : forall value, (first start).result = .ok value ->
      Within relation (next value) (first start).state) :
    Within relation (first >>= next) start := by
  intro state visited
  rcases mem_visited_bind visited with earlier | ⟨value, result, later⟩
  · exact before state earlier
  · exact IsTrans.trans start _ state before.state (after value result state later)

variable [Std.Refl relation]

theorem within_pure (value : α) (start : σ) :
    Within relation (pure value : Script σ ε α) start := by
  intro state visited
  cases List.mem_singleton.mp visited
  exact Std.Refl.refl start

theorem within_fail (failure : ε) (start : σ) :
    Within relation (fail failure : Script σ ε α) start := by
  intro state visited
  cases List.mem_singleton.mp visited
  exact Std.Refl.refl start

theorem within_command {change : σ -> σ} {start : σ} (related : relation start (change start)) :
    Within relation (command change : Script σ ε Unit) start := by
  intro state visited
  rcases List.mem_cons.mp visited with rfl | last
  · exact Std.Refl.refl state
  · cases List.mem_singleton.mp last
    exact related

variable [IsTrans σ relation]

/-- A look at the state changes nothing. -/
theorem within_get {next : σ -> Script σ ε β} {start : σ}
    (after : Within relation (next start) start) :
    Within relation ((get : Script σ ε σ) >>= next) start := by
  refine Within.bind (within_pure start start) ?_
  intro value result
  cases result
  exact after

/-- A loop, with a condition that its body finds and that no step ends. -/
theorem within_forM {body : ι -> Script σ ε PUnit} {items : List ι} (holds : σ -> Prop)
    (lasting : forall start state, holds start -> relation start state -> holds state)
    (turn : forall item, item ∈ items -> forall start, holds start ->
      Within relation (body item) start)
    {start : σ} (begun : holds start) : Within relation (items.forM body) start := by
  induction items generalizing start with
  | nil => exact within_pure PUnit.unit start
  | cons item rest ih =>
      have first := turn item List.mem_cons_self start begun
      refine Within.bind first ?_
      intro _ _
      exact ih (fun later member => turn later (List.mem_cons_of_mem _ member))
        (lasting _ _ begun first.state)

end
end Script
end EmbeddedAlerts
