import Mathlib.Data.List.Basic

/-! Runs of a system that takes one input at a time, may abort on it, and
otherwise moves to a next state and emits events. Invariants, conditions on
the steps of a run and comparisons of two runs are each reduced to one step. -/
namespace Osxrdp.Runs

variable {σ τ ι ε δ : Type}

/-- `none` is an abort: there is no state after it. -/
abbrev System (σ ι ε : Type) := σ → ι → Option (σ × List ε)

/-- Feed the inputs in order and collect every event emitted on the way. -/
def run (step : System σ ι ε) : σ → List ι → Option (σ × List ε)
  | state, [] => some (state, [])
  | state, input :: rest =>
    (step state input).bind fun (next, emitted) =>
      (run step next rest).map fun (final, later) => (final, emitted ++ later)

variable {step : System σ ι ε} {state next final : σ} {input : ι} {rest inputs : List ι}
  {emitted later events : List ε}

@[simp] theorem run_nil : run step state [] = some (state, []) := rfl

/-- A run over a nonempty input list is its first step followed by a run. -/
theorem run_cons : run step state (input :: rest) = some (final, events) ↔
    ∃ next emitted later, step state input = some (next, emitted) ∧
      run step next rest = some (final, later) ∧ events = emitted ++ later := by
  simp only [run, Option.bind_eq_some_iff, Option.map_eq_some_iff, Prod.exists, Prod.mk.injEq]
  constructor
  · rintro ⟨next, emitted, stepped, _, later, ran, rfl, rfl⟩
    exact ⟨next, emitted, later, stepped, ran, rfl⟩
  · rintro ⟨next, emitted, later, stepped, ran, rfl⟩
    exact ⟨next, emitted, stepped, final, later, ran, rfl, rfl⟩

/-- A step in front of a run. -/
theorem run_step (stepped : step state input = some (next, emitted))
    (ran : run step next rest = some (final, later)) :
    run step state (input :: rest) = some (final, emitted ++ later) :=
  run_cons.mpr ⟨next, emitted, later, stepped, ran, rfl⟩

/-- The invariant may speak of the events emitted so far. -/
theorem invariant_of_step (Inv : σ → List ε → Prop)
    (kept : ∀ state past input next emitted, Inv state past →
      step state input = some (next, emitted) → Inv next (past ++ emitted))
    (past : List ε) (start : Inv state past)
    (ran : run step state inputs = some (final, events)) : Inv final (past ++ events) := by
  induction inputs generalizing state past events with
  | nil =>
    cases ran
    simpa using start
  | cons input rest ih =>
    obtain ⟨next, emitted, later, stepped, continued, rfl⟩ := run_cons.mp ran
    rw [← List.append_assoc]
    exact ih _ (kept _ _ _ _ _ start stepped) continued

/-- A run that fails fails at one of its inputs. -/
theorem fails_at_step (fails : run step state inputs = none) :
    ∃ input ∈ inputs, ∃ reached, step reached input = none := by
  induction inputs generalizing state with
  | nil => cases fails
  | cons input rest ih =>
    cases stepped : step state input with
    | none => exact ⟨input, List.mem_cons_self, state, stepped⟩
    | some result =>
      obtain ⟨next, emitted⟩ := result
      cases ran : run step next rest with
      | none =>
        obtain ⟨later, member, reached, failed⟩ := ih ran
        exact ⟨later, List.mem_cons_of_mem _ member, reached, failed⟩
      | some final =>
        rw [run_step stepped ran] at fails
        cases fails

/-- A run over two input lists is a run over the first followed by one over the second. -/
theorem run_append {first second : List ι} : run step state (first ++ second) = some (final, events) ↔
    ∃ middle before after, run step state first = some (middle, before) ∧
      run step middle second = some (final, after) ∧ events = before ++ after := by
  induction first generalizing state events with
  | nil =>
    simp only [List.nil_append, run_nil, Option.some.injEq, Prod.mk.injEq]
    constructor
    · exact fun ran => ⟨state, [], events, ⟨rfl, rfl⟩, ran, rfl⟩
    · rintro ⟨_, _, _, ⟨rfl, rfl⟩, ran, rfl⟩
      exact ran
  | cons input rest ih =>
    rw [List.cons_append, run_cons]
    constructor
    · rintro ⟨next, emitted, later, stepped, ran, rfl⟩
      obtain ⟨middle, before, after, first, second, rfl⟩ := ih.mp ran
      exact ⟨middle, emitted ++ before, after, run_step stepped first, second, by simp⟩
    · rintro ⟨middle, before, after, first, second, rfl⟩
      obtain ⟨next, emitted, later, stepped, ran, rfl⟩ := run_cons.mp first
      exact ⟨next, emitted, later ++ after, stepped,
        ih.mpr ⟨middle, later, after, ran, second, rfl⟩, by simp⟩

/-- A property that does not hold at the start and holds at the end was entered
by a step of the run. -/
theorem exists_entering_step (Inv P : σ → Prop) {Q : σ → ι → Prop}
    (kept : ∀ state input next emitted, Inv state → step state input = some (next, emitted) → Inv next)
    (enters : ∀ state input next emitted, Inv state → ¬ P state →
      step state input = some (next, emitted) → P next → Q state input)
    (start : Inv state) (outside : ¬ P state) (ran : run step state inputs = some (final, events))
    (inside : P final) : ∃ before input after middle past, inputs = before ++ input :: after ∧
      run step state before = some (middle, past) ∧ Q middle input := by
  induction inputs generalizing state events with
  | nil =>
    cases ran
    exact (outside inside).elim
  | cons input rest ih =>
    obtain ⟨next, emitted, later, stepped, continued, rfl⟩ := run_cons.mp ran
    by_cases entered : P next
    · exact ⟨[], input, rest, state, [], rfl, rfl, enters _ _ _ _ start outside stepped entered⟩
    · obtain ⟨before, found, after, middle, past, rfl, earlier, holds⟩ :=
        ih (kept _ _ _ _ start stepped) entered continued
      exact ⟨input :: before, found, after, middle, _, rfl, run_step stepped earlier, holds⟩

/-- Every step that the run takes meets a condition on its input, the state
before it and the events emitted before it. -/
def Meets (step : System σ ι ε) (condition : List ε → σ → ι → Prop) :
    List ε → σ → List ι → Prop
  | _, _, [] => True
  | past, state, input :: rest => ∀ next emitted, step state input = some (next, emitted) →
    condition past state input ∧ Meets step condition (past ++ emitted) next rest

theorem meets_cons {condition : List ε → σ → ι → Prop} {past : List ε}
    (stepped : step state input = some (next, emitted)) :
    Meets step condition past state (input :: rest) ↔
      condition past state input ∧ Meets step condition (past ++ emitted) next rest := by
  constructor
  · exact fun meets => meets next emitted stepped
  · rintro meets _ _ same
    cases stepped.symm.trans same
    exact meets

instance decidableMeets (step : System σ ι ε) (condition : List ε → σ → ι → Prop)
    [∀ past state input, Decidable (condition past state input)] :
    ∀ past state inputs, Decidable (Meets step condition past state inputs)
  | _, _, [] => isTrue trivial
  | past, state, input :: rest =>
    match stepped : step state input with
    | none => isTrue fun _ _ same => nomatch stepped.symm.trans same
    | some (next, emitted) =>
      have := decidableMeets step condition (past ++ emitted) next rest
      decidable_of_iff _ (meets_cons stepped).symm

/-- A condition on inputs alone is met by a run over inputs that satisfy it. -/
theorem meets_of_forall {condition : ι → Prop} {past : List ε}
    (all : ∀ input ∈ inputs, condition input) :
    Meets step (fun _ _ => condition) past state inputs := by
  induction inputs generalizing state past with
  | nil => trivial
  | cons input rest ih =>
    exact fun next emitted _ => ⟨all input (by simp), ih fun later member =>
      all later (List.mem_cons_of_mem _ member)⟩

/-- Conditions that are met each are met together. -/
theorem meets_and {first second : List ε → σ → ι → Prop} {past : List ε}
    (meetsFirst : Meets step first past state inputs)
    (meetsSecond : Meets step second past state inputs) :
    Meets step (fun past state input => first past state input ∧ second past state input)
      past state inputs := by
  induction inputs generalizing state past with
  | nil => trivial
  | cons input rest ih =>
    intro next emitted stepped
    obtain ⟨one, restFirst⟩ := meetsFirst next emitted stepped
    obtain ⟨two, restSecond⟩ := meetsSecond next emitted stepped
    exact ⟨⟨one, two⟩, ih restFirst restSecond⟩

/-- An invariant kept by the steps that meet a condition holds after every run
all of whose steps meet it. -/
theorem invariant_of_meets (Inv : σ → List ε → Prop) {condition : List ε → σ → ι → Prop}
    (kept : ∀ state past input next emitted, Inv state past → condition past state input →
      step state input = some (next, emitted) → Inv next (past ++ emitted))
    {past : List ε} (start : Inv state past) (meets : Meets step condition past state inputs)
    (ran : run step state inputs = some (final, events)) : Inv final (past ++ events) := by
  induction inputs generalizing state past events with
  | nil =>
    cases ran
    simpa using start
  | cons input rest ih =>
    obtain ⟨next, emitted, later, stepped, continued, rfl⟩ := run_cons.mp ran
    obtain ⟨met, meetsRest⟩ := meets next emitted stepped
    rw [← List.append_assoc]
    exact ih (kept _ _ _ _ _ start met stepped) meetsRest continued

/-- A condition whose violation leads into a trap is met by every run that ends outside it. -/
theorem meets_of_escape (Inv Trap : σ → List ε → Prop) {condition : List ε → σ → ι → Prop}
    (kept : ∀ state past input next emitted, Inv state past → condition past state input →
      step state input = some (next, emitted) → Inv next (past ++ emitted))
    (violates : ∀ state past input next emitted, Inv state past → ¬ condition past state input →
      step state input = some (next, emitted) → Trap next (past ++ emitted))
    (stays : ∀ state past input next emitted, Trap state past →
      step state input = some (next, emitted) → Trap next (past ++ emitted))
    {past : List ε} (start : Inv state past) (ran : run step state inputs = some (final, events))
    (escaped : ¬ Trap final (past ++ events)) : Meets step condition past state inputs := by
  induction inputs generalizing state past events with
  | nil => trivial
  | cons input rest ih =>
    obtain ⟨next, emitted, later, stepped, continued, rfl⟩ := run_cons.mp ran
    rw [← List.append_assoc] at escaped
    by_cases met : condition past state input
    · exact (meets_cons stepped).mpr ⟨met, ih (kept _ _ _ _ _ start met stepped) continued escaped⟩
    · have trapped := violates _ _ _ _ _ start met stepped
      exact (escaped (invariant_of_step Trap stays _ trapped continued)).elim

/-- Every state of the run has the property, the first and the last included. -/
def Always (step : System σ ι ε) (P : σ → Prop) : σ → List ι → Prop
  | state, [] => P state
  | state, input :: rest => P state ∧
    ∀ next emitted, step state input = some (next, emitted) → Always step P next rest

/-- What always holds does at the end. -/
theorem always_final {P : σ → Prop} (always : Always step P state inputs)
    (ran : run step state inputs = some (final, events)) : P final := by
  induction inputs generalizing state events with
  | nil =>
    cases ran
    exact always
  | cons input rest ih =>
    obtain ⟨next, emitted, later, stepped, continued, rfl⟩ := run_cons.mp ran
    exact ih (always.2 next emitted stepped) continued

/-- A condition that tells, of a step from a state with the property, whether
the property survives it, is exactly what a run has to meet. -/
theorem always_iff_meets (P Inv : σ → Prop) {condition : List ε → σ → ι → Prop}
    (survives : ∀ state past input next emitted, P state → Inv state →
      step state input = some (next, emitted) → (P next ↔ condition past state input))
    (kept : ∀ state past input next emitted, P state → Inv state → condition past state input →
      step state input = some (next, emitted) → Inv next)
    {past : List ε} (holds : P state) (start : Inv state) :
    Always step P state inputs ↔ Meets step condition past state inputs := by
  induction inputs generalizing state past with
  | nil => exact iff_of_true holds trivial
  | cons input rest ih =>
    constructor
    · rintro ⟨_, always⟩ next emitted stepped
      have later := always next emitted stepped
      have here : P next := by
        cases rest with
        | nil => exact later
        | cons _ _ => exact later.1
      have met := (survives state past input next emitted holds start stepped).mp here
      exact ⟨met, (ih here (kept _ _ _ _ _ holds start met stepped)).mp later⟩
    · refine fun meets => ⟨holds, fun next emitted stepped => ?_⟩
      obtain ⟨met, meetsRest⟩ := meets next emitted stepped
      have here := (survives state past input next emitted holds start stepped).mpr met
      exact (ih here (kept _ _ _ _ _ holds start met stepped)).mpr meetsRest

theorem meets_replicate {condition : List ε → σ → ι → Prop} (met : ∀ past state, condition past state input)
    (n : Nat) (past : List ε) (state : σ) : Meets step condition past state (List.replicate n input) := by
  induction n generalizing past state with
  | zero => trivial
  | succ n ih => exact fun next emitted _ => ⟨met past state, ih _ _⟩

/-- A prefix of a run meets what the run meets, and so does going on with inputs that always do. -/
theorem meets_take_append {condition : List ε → σ → ι → Prop} {past : List ε} {tail : List ι} (count : Nat)
    (meets : Meets step condition past state inputs)
    (tailMeets : ∀ past state, Meets step condition past state tail) :
    Meets step condition past state (inputs.take count ++ tail) := by
  induction inputs generalizing state past count with
  | nil =>
    rw [List.take_nil]
    exact tailMeets past state
  | cons input rest ih =>
    cases count with
    | zero => exact tailMeets past state
    | succ count =>
      intro next emitted stepped
      obtain ⟨met, meetsRest⟩ := meets next emitted stepped
      exact ⟨met, ih count meetsRest⟩

/-- Let `drain` be an input that brings a state without `P` to emit an event
without `Q`. Then a condition that tells whether a step keeps `P` and emits
only `Q` is met by a run exactly when none of its prefixes can be drained of
another event. -/
theorem drained_iff_meets (P Inv : σ → Prop) (Q : ε → Prop) {condition : List ε → σ → ι → Prop} {drain : ι}
    (survives : ∀ state past input next emitted, P state → Inv state →
      step state input = some (next, emitted) →
        ((P next ∧ ∀ event ∈ emitted, Q event) ↔ condition past state input))
    (kept : ∀ state input next emitted, Inv state → step state input = some (next, emitted) → Inv next)
    (harmless : ∀ past state, condition past state drain)
    (shows : ∀ state, Inv state → ¬P state → ∃ drains final events,
      run step state (List.replicate drains drain) = some (final, events) ∧ ∃ event ∈ events, ¬Q event)
    {past : List ε} (holds : P state) (start : Inv state) :
    (∀ count drains final events,
        run step state (inputs.take count ++ List.replicate drains drain) = some (final, events) →
          ∀ event ∈ events, Q event) ↔
      Meets step condition past state inputs := by
  constructor
  · intro drained
    induction inputs generalizing state past with
    | nil => trivial
    | cons input rest ih =>
      intro next emitted stepped
      have invNext := kept _ _ _ _ start stepped
      have emits : ∀ event ∈ emitted, Q event := by
        intro event member
        exact drained 1 0 next _ (run_step stepped run_nil) event (List.mem_append_left _ member)
      have holdsNext : P next := by
        by_contra lost
        obtain ⟨drains, final, events, ran, event, member, violates⟩ := shows next invNext lost
        exact violates (drained 1 drains final _ (run_step stepped ran) event (List.mem_append_right _ member))
      refine ⟨(survives _ _ _ _ _ holds start stepped).mp ⟨holdsNext, emits⟩, ih holdsNext invNext ?_⟩
      intro count drains final events ran event member
      exact drained (count + 1) drains final _ (run_step stepped ran) event (List.mem_append_right _ member)
  · intro meets count drains final events ran
    have whole := meets_take_append count meets (meets_replicate harmless drains)
    have ended := invariant_of_meets
      (fun state shown => (P state ∧ Inv state) ∧ ∀ event ∈ shown.drop past.length, Q event)
      (fun state shown input next emitted held met stepped => by
        obtain ⟨holdsNext, emits⟩ := (survives _ _ _ _ _ held.1.1 held.1.2 stepped).mpr met
        refine ⟨⟨holdsNext, kept _ _ _ _ held.1.2 stepped⟩, ?_⟩
        intro event member
        rw [List.drop_append] at member
        rcases List.mem_append.mp member with earlier | later
        · exact held.2 event earlier
        · exact emits event (List.mem_of_mem_drop later))
      ⟨⟨holds, start⟩, by rw [List.drop_length]; exact List.forall_mem_nil _⟩ whole ran
    have shown := ended.2
    rwa [List.drop_left] at shown

/-- The system with what it has emitted so far as part of its state. -/
def recorded (step : System σ ι ε) : System (σ × List ε) ι ε := fun (state, past) input =>
  (step state input).map fun (next, emitted) => ((next, past ++ emitted), emitted)

theorem recorded_eq_some {past all : List ε} :
    recorded step (state, past) input = some ((next, all), emitted) ↔
      step state input = some (next, emitted) ∧ all = past ++ emitted := by
  simp only [recorded, Option.map_eq_some_iff, Prod.exists, Prod.mk.injEq]
  constructor
  · rintro ⟨_, _, stepped, ⟨rfl, rfl⟩, rfl⟩
    exact ⟨stepped, rfl⟩
  · rintro ⟨stepped, rfl⟩
    exact ⟨next, emitted, stepped, ⟨rfl, rfl⟩, rfl⟩

theorem meets_recorded {condition : List ε → σ → ι → Prop} {past before : List ε} :
    Meets (recorded step) (fun _ (state, past) input => condition past state input) before (state, past) inputs ↔
      Meets step condition past state inputs := by
  induction inputs generalizing state past before with
  | nil => exact Iff.rfl
  | cons input rest ih =>
    constructor
    · intro meets next emitted stepped
      obtain ⟨met, later⟩ := meets (next, past ++ emitted) emitted (recorded_eq_some.mpr ⟨stepped, rfl⟩)
      exact ⟨met, ih.mp later⟩
    · rintro meets ⟨next, _⟩ emitted recorded
      obtain ⟨stepped, rfl⟩ := recorded_eq_some.mp recorded
      obtain ⟨met, later⟩ := meets next emitted stepped
      exact ⟨met, ih.mpr later⟩

/-- `always_iff_meets` for a property of the state and the events so far. -/
theorem always_recorded_iff_meets (P Inv : σ → List ε → Prop) {condition : List ε → σ → ι → Prop}
    (survives : ∀ state past input next emitted, P state past → Inv state past →
      step state input = some (next, emitted) → (P next (past ++ emitted) ↔ condition past state input))
    (kept : ∀ state past input next emitted, P state past → Inv state past → condition past state input →
      step state input = some (next, emitted) → Inv next (past ++ emitted))
    {past : List ε} (holds : P state past) (start : Inv state past) :
    Always (recorded step) (fun (state, past) => P state past) (state, past) inputs ↔
      Meets step condition past state inputs := by
  have lifted : Always (recorded step) (fun (state, past) => P state past) (state, past) inputs ↔
      Meets (recorded step) (fun _ (state, past) input => condition past state input) past
        (state, past) inputs := by
    refine always_iff_meets _ (fun (state, past) => Inv state past) ?_ ?_ holds start
    · rintro ⟨state, past⟩ _ input ⟨next, _⟩ emitted holds inv recorded
      obtain ⟨stepped, rfl⟩ := recorded_eq_some.mp recorded
      exact survives state past input next emitted holds inv stepped
    · rintro ⟨state, past⟩ _ input ⟨next, _⟩ emitted holds inv met recorded
      obtain ⟨stepped, rfl⟩ := recorded_eq_some.mp recorded
      exact kept state past input next emitted holds inv met stepped
  exact lifted.trans meets_recorded

section Noting
variable {κ : Type} {note : κ → σ → ι → κ} {noted : κ}

/-- The system with a note kept of its inputs and of the states that took them. -/
def noting (note : κ → σ → ι → κ) (step : System σ ι ε) : System (κ × σ) ι ε := fun (noted, state) input =>
  (step state input).map fun (next, emitted) => ((note noted state input, next), emitted)

/-- A noting step is a step of the system, with its note taken. -/
theorem noting_eq_some {after : κ} : noting note step (noted, state) input = some ((after, next), emitted) ↔
    step state input = some (next, emitted) ∧ after = note noted state input := by
  simp only [noting, Option.map_eq_some_iff, Prod.exists, Prod.mk.injEq]
  constructor
  · rintro ⟨_, _, stepped, ⟨rfl, rfl⟩, rfl⟩
    exact ⟨stepped, rfl⟩
  · rintro ⟨stepped, rfl⟩
    exact ⟨next, emitted, stepped, ⟨rfl, rfl⟩, rfl⟩

/-- Keeping a note changes nothing of a run. -/
theorem run_noting (ran : run step state inputs = some (final, events)) :
    ∃ last, run (noting note step) (noted, state) inputs = some ((last, final), events) := by
  induction inputs generalizing noted state events with
  | nil =>
    cases ran
    exact ⟨noted, rfl⟩
  | cons input rest ih =>
    obtain ⟨next, emitted, later, stepped, continued, rfl⟩ := run_cons.mp ran
    obtain ⟨last, onward⟩ : ∃ last, run (noting note step) (note noted state input, next) rest =
        some ((last, final), later) := ih continued
    exact ⟨last, run_step (noting_eq_some.mpr ⟨stepped, rfl⟩) onward⟩

end Noting

/-- Every event of a history satisfies `Q` with what came before it. -/
def Throughout (Q : List ε → ε → Prop) (history : List ε) : Prop :=
  ∀ before event after, history = before ++ event :: after → Q before event

section Throughout
variable {Q : List ε → ε → Prop} {event : ε} {history past : List ε}

@[simp] theorem throughout_nil : Throughout Q [] := by
  intro before event after split
  simp at split

@[simp] theorem throughout_cons :
    Throughout Q (event :: history) ↔ Q [] event ∧ Throughout (fun before => Q (event :: before)) history := by
  constructor
  · intro holds
    exact ⟨holds [] event history rfl, fun before later after split =>
      holds (event :: before) later after (by rw [split, List.cons_append])⟩
  · rintro ⟨first, rest⟩ before later after split
    cases before with
    | nil =>
      cases split
      exact first
    | cons _ before =>
      cases split
      exact rest before later after rfl

instance decidableThroughout (Q : List ε → ε → Prop) [∀ before event, Decidable (Q before event)] :
    ∀ history, Decidable (Throughout Q history)
  | [] => isTrue throughout_nil
  | event :: history =>
    have := decidableThroughout (fun before => Q (event :: before)) history
    decidable_of_iff _ throughout_cons.symm

/-- Throughout a history is throughout its parts. -/
theorem throughout_append : Throughout Q (past ++ history) ↔
    Throughout Q past ∧ Throughout (fun before => Q (past ++ before)) history := by
  induction past generalizing Q with
  | nil => simp
  | cons event past ih => simp [ih, and_assoc]

/-- What holds of an event whatever came before it needs no history. -/
theorem throughout_of_forall (holds : ∀ event ∈ history, ∀ before, Q before event) : Throughout Q history := by
  rintro before event after rfl
  exact holds event (by simp) before

/-- A weaker condition holds throughout. -/
theorem Throughout.imp {R : List ε → ε → Prop} (holds : Throughout Q history)
    (implies : ∀ before event, Q before event → R before event) : Throughout R history :=
  fun before event after split => implies before event (holds before event after split)

end Throughout

/-- A property of the history that each step keeps exactly when it meets a
condition holds of a whole run exactly when every step meets it. -/
theorem history_iff_meets (P : List ε → Prop) (Inv : σ → List ε → Prop)
    {condition : List ε → σ → ι → Prop}
    (survives : ∀ state past input next emitted, Inv state past →
      step state input = some (next, emitted) → (P (past ++ emitted) ↔ P past ∧ condition past state input))
    (kept : ∀ state past input next emitted, Inv state past →
      step state input = some (next, emitted) → Inv next (past ++ emitted))
    {past : List ε} (start : Inv state past) (ran : run step state inputs = some (final, events)) :
    P (past ++ events) ↔ P past ∧ Meets step condition past state inputs := by
  induction inputs generalizing state past events with
  | nil =>
    cases ran
    rw [List.append_nil]
    exact ⟨fun holds => ⟨holds, trivial⟩, And.left⟩
  | cons input rest ih =>
    obtain ⟨next, emitted, later, stepped, continued, rfl⟩ := run_cons.mp ran
    rw [← List.append_assoc, ih (kept _ _ _ _ _ start stepped) continued,
      survives _ _ _ _ _ start stepped, meets_cons stepped, and_assoc]

/-- Two outcomes that look alike: both abort, or both move on with the same
events, to related states. -/
inductive Alike (R : σ → τ → Prop) : Option (σ × List ε) → Option (τ × List ε) → Prop
  | abort : Alike R none none
  | move {state : σ} {twin : τ} (events : List ε) (related : R state twin) :
    Alike R (some (state, events)) (some (twin, events))

section Alike
variable {R : σ → τ → Prop} {result : Option (σ × List ε)} {twinResult : Option (τ × List ε)}

/-- Alike results have the same events. -/
theorem Alike.events_eq (alike : Alike R result twinResult) :
    result.map Prod.snd = twinResult.map Prod.snd := by
  cases alike with
  | abort => rfl
  | move events related => rfl

/-- Alike results stay alike behind the same events. -/
theorem Alike.prepend (alike : Alike R result twinResult) (emitted : List ε) :
    Alike R (result.map fun (final, later) => (final, emitted ++ later))
      (twinResult.map fun (final, later) => (final, emitted ++ later)) := by
  cases alike with
  | abort => exact .abort
  | move events related => exact .move (emitted ++ events) related

/-- Alike results go on alike. -/
theorem Alike.bind (alike : Alike R result twinResult) {rest : σ × List ε → Option (σ × List ε)}
    {twinRest : τ × List ε → Option (τ × List ε)}
    (later : ∀ state twin events, R state twin → Alike R (rest (state, events)) (twinRest (twin, events))) :
    Alike R (result.bind rest) (twinResult.bind twinRest) := by
  cases alike with
  | abort => exact .abort
  | move events related => exact later _ _ events related

/-- Steps that look alike from related states make runs that look alike. -/
theorem run_alike {twinStep : System τ ι ε} (Admissible : ι → Prop)
    (steps : ∀ state twin input, R state twin → Admissible input →
      Alike R (step state input) (twinStep twin input))
    {twin : τ} (start : R state twin) (admissible : ∀ input ∈ inputs, Admissible input) :
    Alike R (run step state inputs) (run twinStep twin inputs) := by
  induction inputs generalizing state twin with
  | nil => exact .move [] start
  | cons input rest ih =>
    have first := steps state twin input start (admissible input (by simp))
    refine first.bind fun next twinNext emitted related => ?_
    exact (ih related fun input member => admissible input (List.mem_cons_of_mem _ member)).prepend emitted

end Alike

/-- When every admissible input succeeds and keeps the invariant, the run of
admissible inputs succeeds and ends in the invariant. -/
theorem run_succeeds (Inv : σ → List ε → Prop) (Admissible : ι → Prop)
    (kept : ∀ state past input, Inv state past → Admissible input →
      ∃ next emitted, step state input = some (next, emitted) ∧ Inv next (past ++ emitted))
    {past : List ε} (start : Inv state past) (admissible : ∀ input ∈ inputs, Admissible input) :
    ∃ final events, run step state inputs = some (final, events) ∧
      Inv final (past ++ events) := by
  induction inputs generalizing state past with
  | nil => exact ⟨state, [], rfl, by simpa using start⟩
  | cons input rest ih =>
    obtain ⟨next, emitted, stepped, holds⟩ := kept state past input start (admissible input (by simp))
    obtain ⟨final, later, ran, ended⟩ :=
      ih holds fun input member => admissible input (List.mem_cons_of_mem _ member)
    exact ⟨final, emitted ++ later, run_step stepped ran, by rwa [← List.append_assoc]⟩

/-- A loop over `0..n` whose every iteration succeeds and advances the
invariant succeeds and ends with it at `n`. -/
theorem foldlM_range_succeeds {body : σ → Nat → Option σ} (Inv : Nat → σ → Prop) (n : Nat)
    (start : Inv 0 state)
    (advances : ∀ i < n, ∀ state, Inv i state → ∃ next, body state i = some next ∧ Inv (i + 1) next) :
    ∃ final, (List.range n).foldlM body state = some final ∧ Inv n final := by
  induction n with
  | zero => exact ⟨state, rfl, start⟩
  | succ n ih =>
    obtain ⟨middle, looped, held⟩ := ih fun i before => advances i (Nat.lt_succ_of_lt before)
    obtain ⟨final, stepped, ended⟩ := advances n (Nat.lt_succ_self n) middle held
    refine ⟨final, ?_, ended⟩
    simp [List.range_succ, List.foldlM_append, looped, stepped]

end Osxrdp.Runs
