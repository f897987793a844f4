namespace Transition

universe u v w x

/-!
# Runs of a state machine

A machine is its step function; whatever a step may choose or observe (an
answer of the environment, a clock reading, an outcome) is part of the
action.  A run is a list of actions.  `Along` says that each action of a run
meets a condition in the state it is taken in, and the rules below turn facts
about one step into facts about every state of such a run.
-/

variable {State : Type u} {Action : Type v}

/-- The state after the actions of a run. -/
def run (step : State -> Action -> State) (start : State) (actions : List Action) : State :=
  actions.foldl step start

variable (step : State -> Action -> State)

@[simp] theorem run_nil (start : State) : run step start [] = start := rfl

@[simp] theorem run_cons (start : State) (action : Action) (rest : List Action) :
    run step start (action :: rest) = run step (step start action) rest := rfl

theorem run_append (start : State) (first second : List Action) :
    run step start (first ++ second) = run step (run step start first) second :=
  List.foldl_append

/-- Every action of the run meets the condition in the state before it. -/
def Along (condition : State -> Action -> Prop) : State -> List Action -> Prop
  | _, [] => True
  | state, action :: rest => condition state action ∧ Along condition (step state action) rest

instance decidableAlong {condition : State -> Action -> Prop}
    [forall state action, Decidable (condition state action)] :
    forall start actions, Decidable (Along step condition start actions)
  | _, [] => isTrue trivial
  | start, action :: rest => @instDecidableAnd _ _ _ (decidableAlong (step start action) rest)

/-- Two conditions on a run. -/
theorem Along.and {first second : State -> Action -> Prop} {start : State} {actions : List Action}
    (one : Along step first start actions) (other : Along step second start actions) :
    Along step (fun state action => first state action ∧ second state action) start actions := by
  induction actions generalizing start with
  | nil => trivial
  | cons action rest ih => exact ⟨⟨one.1, other.1⟩, ih one.2 other.2⟩

/-- The rule of invariants: a property kept by every step that meets the
condition, in a state that has the property, holds at the end of the run. -/
theorem invariant_run {condition : State -> Action -> Prop} {invariant : State -> Prop}
    (kept : forall state action, invariant state -> condition state action ->
      invariant (step state action))
    {start : State} {actions : List Action} (initially : invariant start)
    (along : Along step condition start actions) : invariant (run step start actions) := by
  induction actions generalizing start with
  | nil => exact initially
  | cons action rest ih => exact ih (kept start action initially along.1) along.2

/-- The same rule for a machine whose steps need no condition. -/
theorem invariant_run_always {invariant : State -> Prop}
    (kept : forall state action, invariant state -> invariant (step state action))
    {start : State} (initially : invariant start) (actions : List Action) :
    invariant (run step start actions) := by
  induction actions generalizing start with
  | nil => exact initially
  | cons action rest ih => exact ih (kept start action initially)

/-- A condition that is exact for one step is exact for runs: the invariant
holds in every state of the run if and only if every step meets it. -/
theorem invariant_prefixes_iff {condition : State -> Action -> Prop}
    {auxiliary invariant : State -> Prop}
    (auxiliaryKept : forall state action, auxiliary state -> auxiliary (step state action))
    (exact_step : forall state action, auxiliary state -> invariant state ->
      (invariant (step state action) ↔ condition state action))
    {start : State} (auxiliaryStart : auxiliary start) (initially : invariant start)
    (actions : List Action) :
    (forall shorter, shorter <+: actions -> invariant (run step start shorter)) ↔
      Along step condition start actions := by
  induction actions generalizing start with
  | nil =>
      constructor
      · intro _
        trivial
      · intro _ shorter initial
        rw [List.prefix_nil.mp initial]
        exact initially
  | cons action rest ih =>
      have next := exact_step start action auxiliaryStart initially
      have auxiliaryNext := auxiliaryKept start action auxiliaryStart
      constructor
      · intro everywhere
        have now : invariant (step start action) := everywhere [action] ⟨rest, rfl⟩
        refine ⟨next.mp now, (ih auxiliaryNext now).mp ?_⟩
        intro shorter initial
        exact everywhere (action :: shorter) (List.cons_prefix_cons.mpr ⟨rfl, initial⟩)
      · rintro ⟨met, along⟩ shorter initial
        cases shorter with
        | nil => exact initially
        | cons head tail =>
            have parts := List.cons_prefix_cons.mp initial
            rw [parts.1]
            exact (ih auxiliaryNext (next.mpr met)).mpr along tail parts.2

/-- The same rule for an invariant that needs no other one. -/
theorem invariant_prefixes_iff_always {condition : State -> Action -> Prop}
    {invariant : State -> Prop}
    (exact_step : forall state action, invariant state ->
      (invariant (step state action) ↔ condition state action))
    {start : State} (initially : invariant start) (actions : List Action) :
    (forall shorter, shorter <+: actions -> invariant (run step start shorter)) ↔
      Along step condition start actions := by
  have trivially : forall (state : State) (action : Action), True -> True := fun _ _ => id
  exact invariant_prefixes_iff step trivially (fun state action _ => exact_step state action)
    trivial initially actions

/-- The rule of refinement: if every step of a machine shows as a run of a
second one, in the states of an invariant, so does every run. -/
theorem run_refines_of_invariant {Shown : Type w} {Write : Type x} (shown : State -> Shown)
    (write : Shown -> Write -> Shown) {invariant : State -> Prop}
    (kept : forall state action, invariant state -> invariant (step state action))
    (refines : forall state action, invariant state ->
      exists writes, shown (step state action) = run write (shown state) writes)
    {start : State} (initially : invariant start) (actions : List Action) :
    exists writes, shown (run step start actions) = run write (shown start) writes := by
  induction actions generalizing start with
  | nil => exact ⟨[], rfl⟩
  | cons action rest ih =>
      rcases refines start action initially with ⟨first, firstEq⟩
      rcases ih (kept start action initially) with ⟨later, laterEq⟩
      refine ⟨first ++ later, ?_⟩
      rw [run_cons, laterEq, firstEq, run_append]

/-- The same rule for steps that always show as a run. -/
theorem run_refines {Shown : Type w} {Write : Type x} {shown : State -> Shown}
    {write : Shown -> Write -> Shown}
    (refines : forall state action, exists writes,
      shown (step state action) = run write (shown state) writes)
    (start : State) (actions : List Action) :
    exists writes, shown (run step start actions) = run write (shown start) writes := by
  have trivially : forall (state : State) (action : Action), True -> True := fun _ _ => id
  exact run_refines_of_invariant step shown write trivially
    (fun state action _ => refines state action) trivial actions

/-- What no step mends and every step against the condition brings about is
avoided only where every step meets the condition. -/
theorem along_of_avoids {condition : State -> Action -> Prop} {broken : State -> Prop}
    (stays : forall state action, broken state -> broken (step state action))
    (breaks : forall state action, ¬ condition state action -> broken (step state action))
    {start : State} {actions : List Action} (avoided : ¬ broken (run step start actions)) :
    Along step condition start actions := by
  induction actions generalizing start with
  | nil => trivial
  | cons action rest ih =>
      refine ⟨?_, ih avoided⟩
      refine Classical.byContradiction (fun violated => ?_)
      exact avoided (invariant_run_always step stays (breaks start action violated) rest)

/-- A condition that holds in the states of an invariant is met along every run. -/
theorem along_of_invariant {condition : State -> Action -> Prop} {invariant : State -> Prop}
    (kept : forall state action, invariant state -> invariant (step state action))
    (holds : forall state action, invariant state -> condition state action)
    {start : State} (initially : invariant start) (actions : List Action) :
    Along step condition start actions := by
  induction actions generalizing start with
  | nil => trivial
  | cons action rest ih =>
      exact ⟨holds start action initially, ih (kept start action initially)⟩

/-- A condition on the actions alone. -/
theorem along_of_forall {condition : Action -> Prop} {start : State} {actions : List Action}
    (each : forall action, action ∈ actions -> condition action) :
    Along step (fun _ action => condition action) start actions := by
  induction actions generalizing start with
  | nil => trivial
  | cons action rest ih =>
      exact ⟨each action List.mem_cons_self,
        ih (fun other member => each other (List.mem_cons_of_mem _ member))⟩

/-- The condition is met along the beginnings of a run too. -/
theorem Along.of_prefix {condition : State -> Action -> Prop} {start : State}
    {shorter actions : List Action} (along : Along step condition start actions)
    (initial : shorter <+: actions) : Along step condition start shorter := by
  induction shorter generalizing start actions with
  | nil => trivial
  | cons action rest ih =>
      rcases initial with ⟨later, rfl⟩
      exact ⟨along.1, ih along.2 ⟨later, rfl⟩⟩

end Transition
