import Mathlib.Data.List.Basic

/-!
# Programs of atomic steps

A program on a shared state takes one atomic step after another.  Each step changes the state and
goes on according to the state that it found.  Run without a break a program is a function on the
state; in a workload the steps of many programs come in any order.

A program is judged against a `rely` relation, which bounds what the others do between its steps,
and a `guarantee` relation, which bounds what its own steps do.  When each one's guarantee is within
every other one's rely, all of them keep what they ensure under every schedule.
-/

namespace TagLedger

inductive Program (σ β : Type) where
  | done (result : β)
  | step (change : σ → σ) (next : σ → Program σ β)

namespace Program

variable {σ β γ : Type}

def atomic (action : σ → β × σ) : Program σ β :=
  .step (fun state => (action state).2) (fun state => .done (action state).1)

def read (value : σ → β) : Program σ β :=
  .step id (fun state => .done (value state))

def bind : Program σ β → (β → Program σ γ) → Program σ γ
  | .done result, rest => rest result
  | .step change next, rest => .step change fun state => (next state).bind rest

def map (convert : β → γ) (program : Program σ β) : Program σ γ :=
  program.bind fun result => .done (convert result)

/-! ## Running alone -/

def run : Program σ β → σ → β × σ
  | .done result, state => (result, state)
  | .step change next, state => (next state).run (change state)

@[simp] theorem run_done (result : β) (state : σ) :
    (done result : Program σ β).run state = (result, state) := rfl

@[simp] theorem run_atomic (action : σ → β × σ) (state : σ) :
    (atomic action).run state = action state := rfl

@[simp] theorem run_read (value : σ → β) (state : σ) :
    (read value).run state = (value state, state) := rfl

@[simp] theorem run_bind (program : Program σ β) (rest : β → Program σ γ) (state : σ) :
    (program.bind rest).run state = (rest (program.run state).1).run (program.run state).2 := by
  induction program generalizing state with
  | done result => rfl
  | step change next ih => exact ih state (change state)

@[simp] theorem run_map (convert : β → γ) (program : Program σ β) (state : σ) :
    (program.map convert).run state = (convert (program.run state).1, (program.run state).2) := by
  simp [map]

/-! ## Running among others -/

/-- From `state` on every step stays within `guarantee` and every result satisfies `post` from then
on, as long as the others stay within `rely`. -/
inductive Ensures (rely guarantee : σ → σ → Prop) (post : β → σ → Prop) :
    Program σ β → σ → Prop where
  | done {result : β} {state : σ} (hpost : ∀ later, rely state later → post result later) :
      Ensures rely guarantee post (.done result) state
  | step {change : σ → σ} {next : σ → Program σ β} {state : σ}
      (hstep : ∀ later, rely state later → guarantee later (change later))
      (hnext : ∀ later, rely state later →
        Ensures rely guarantee post (next later) (change later)) :
      Ensures rely guarantee post (.step change next) state

variable {rely guarantee : σ → σ → Prop} {post : β → σ → Prop}

theorem Ensures.at_done {result : β} {state later : σ}
    (h : (Program.done result).Ensures rely guarantee post state) (hlater : rely state later) :
    post result later := by
  cases h with
  | done hpost => exact hpost later hlater

theorem Ensures.at_step {change : σ → σ} {next : σ → Program σ β} {state later : σ}
    (h : (Program.step change next).Ensures rely guarantee post state) (hlater : rely state later) :
    guarantee later (change later) ∧
      (next later).Ensures rely guarantee post (change later) := by
  cases h with
  | step hstep hnext => exact ⟨hstep later hlater, hnext later hlater⟩

theorem ensures_atomic {action : σ → β × σ} {state : σ}
    (hstep : ∀ later, rely state later → guarantee later (action later).2)
    (hpost : ∀ later, rely state later → ∀ final, rely (action later).2 final →
      post (action later).1 final) : (atomic action).Ensures rely guarantee post state :=
  .step hstep fun later hlater => .done (hpost later hlater)

theorem ensures_read {value : σ → β} {state : σ} (refl : ∀ state, guarantee state state)
    (hpost : ∀ later, rely state later → ∀ final, rely later final → post (value later) final) :
    (read value).Ensures rely guarantee post state :=
  .step (fun later _ => refl later) fun later hlater => .done (hpost later hlater)

/-- A program that is run alone ends as it does among others that do nothing. -/
theorem Ensures.run {program : Program σ β} {state : σ}
    (h : program.Ensures rely guarantee post state) (refl : ∀ state, rely state state) :
    post (program.run state).1 (program.run state).2 := by
  induction h with
  | @done result state hpost => exact hpost state (refl state)
  | @step change next state _ _ ih => exact ih state (refl state)

theorem Ensures.later {program : Program σ β} {state later : σ}
    (h : program.Ensures rely guarantee post state) (hlater : rely state later)
    (trans : ∀ {a b c}, rely a b → rely b c → rely a c) :
    program.Ensures rely guarantee post later := by
  cases h with
  | done hpost => exact .done fun final hfinal => hpost final (trans hlater hfinal)
  | step hstep hnext =>
      exact .step (fun final hfinal => hstep final (trans hlater hfinal))
        fun final hfinal => hnext final (trans hlater hfinal)

theorem ensures_bind {middle : γ → σ → Prop} {program : Program σ γ}
    {rest : γ → Program σ β} {state : σ} (refl : ∀ a, rely a a)
    (h : program.Ensures rely guarantee middle state)
    (hrest : ∀ result state, middle result state →
      (rest result).Ensures rely guarantee post state) :
    (program.bind rest).Ensures rely guarantee post state := by
  induction h with
  | @done result state hpost => exact hrest result state (hpost state (refl state))
  | step hstep _ ih => exact .step hstep ih

theorem ensures_map {convert : γ → β} {program : Program σ γ} {state : σ}
    (h : program.Ensures rely guarantee (fun result => post (convert result)) state) :
    (program.map convert).Ensures rely guarantee post state := by
  unfold map
  induction h with
  | done hpost => exact .done hpost
  | step hstep _ ih => exact .step hstep ih

theorem Ensures.weaken {weaker : β → σ → Prop} {program : Program σ β} {state : σ}
    (h : program.Ensures rely guarantee post state)
    (hpost : ∀ result state, post result state → weaker result state) :
    program.Ensures rely guarantee weaker state := by
  induction h with
  | @done result _ hdone => exact .done fun later hlater => hpost result later (hdone later hlater)
  | step hstep _ ih => exact .step hstep ih

theorem Ensures.widen {stronger weaker : σ → σ → Prop} {program : Program σ β} {state : σ}
    (h : program.Ensures rely guarantee post state)
    (hrely : ∀ {before after}, stronger before after → rely before after)
    (hguarantee : ∀ {before after}, guarantee before after → weaker before after) :
    program.Ensures stronger weaker post state := by
  induction h with
  | done hpost => exact .done fun later hlater => hpost later (hrely hlater)
  | step hstep _ ih =>
      exact .step (fun later hlater => hguarantee (hstep later (hrely hlater)))
        fun later hlater => ih later (hrely hlater)

inductive Within (guarantee : σ → σ → Prop) : Program σ β → Prop where
  | done {result : β} : Within guarantee (.done result)
  | step {change : σ → σ} {next : σ → Program σ β}
      (hstep : ∀ state, guarantee state (change state))
      (hnext : ∀ state, Within guarantee (next state)) : Within guarantee (.step change next)

theorem within_atomic {action : σ → β × σ} (h : ∀ state, guarantee state (action state).2) :
    (atomic action).Within guarantee :=
  .step h fun _ => .done

theorem within_read {value : σ → β} (refl : ∀ state, guarantee state state) :
    (read value).Within guarantee :=
  .step refl fun _ => .done

theorem within_bind {program : Program σ γ} {rest : γ → Program σ β}
    (h : program.Within guarantee) (hrest : ∀ result, (rest result).Within guarantee) :
    (program.bind rest).Within guarantee := by
  induction h with
  | done => exact hrest _
  | step hstep _ ih => exact .step hstep ih

theorem Within.ensures {program : Program σ β} (h : program.Within guarantee)
    (hpost : ∀ result state, post result state) (state : σ) :
    program.Ensures rely guarantee post state := by
  induction h generalizing state with
  | done => exact .done fun later _ => hpost _ later
  | step hstep _ ih => exact .step (fun later _ => hstep later) fun later _ => ih later _

theorem Within.run {program : Program σ β} (h : program.Within guarantee)
    (refl : ∀ state, guarantee state state)
    (trans : ∀ {first second third}, guarantee first second → guarantee second third →
      guarantee first third) (state : σ) : guarantee state (program.run state).2 := by
  induction h generalizing state with
  | done => exact refl state
  | step hstep _ ih => exact trans (hstep state) (ih state _)

/-! ## The number of steps -/

/-- Whatever states it meets, a program returns within a number of steps. -/
inductive EndsWithin : Program σ β → Nat → Prop where
  | done {result : β} {limit : Nat} : EndsWithin (.done result) limit
  | step {change : σ → σ} {next : σ → Program σ β} {limit : Nat}
      (hnext : ∀ state, EndsWithin (next state) limit) : EndsWithin (.step change next) (limit + 1)

theorem EndsWithin.le {program : Program σ β} {limit larger : Nat}
    (h : program.EndsWithin limit) (hle : limit ≤ larger) : program.EndsWithin larger := by
  induction h generalizing larger with
  | done => exact .done
  | step _ ih =>
      obtain ⟨larger, rfl⟩ : ∃ predecessor, larger = predecessor + 1 := ⟨larger - 1, by omega⟩
      exact .step fun state => ih state (by omega)

theorem endsWithin_atomic (action : σ → β × σ) : (atomic action).EndsWithin 1 :=
  .step fun _ => .done

theorem endsWithin_read (value : σ → β) : (read value : Program σ β).EndsWithin 1 :=
  .step fun _ => .done

theorem endsWithin_bind {program : Program σ γ} {rest : γ → Program σ β} {first second : Nat}
    (h : program.EndsWithin first) (hrest : ∀ result, (rest result).EndsWithin second) :
    (program.bind rest).EndsWithin (first + second) := by
  induction h with
  | @done result limit => exact (hrest result).le (Nat.le_add_left second limit)
  | @step change next limit _ ih =>
      rw [Nat.succ_add]
      exact .step ih

theorem EndsWithin.map {program : Program σ γ} {limit : Nat} (h : program.EndsWithin limit)
    (convert : γ → β) : (program.map convert).EndsWithin limit := by
  have hdone (result : γ) : (Program.done (convert result) : Program σ β).EndsWithin 0 := .done
  exact endsWithin_bind h hdone

end Program

/-! ## Workloads -/

structure Workload (σ β : Type) where
  state : σ
  programs : List (Program σ β)

namespace Workload

variable {σ β : Type}

def advance (workload : Workload σ β) (index : Nat) : Workload σ β :=
  match workload.programs[index]? with
  | some (.step change next) =>
      ⟨change workload.state, workload.programs.set index (next workload.state)⟩
  | _ => workload

/-- A schedule lists the programs in the order of their steps. -/
def run (workload : Workload σ β) (schedule : List Nat) : Workload σ β :=
  schedule.foldl advance workload

def result? (workload : Workload σ β) (index : Nat) : Option β :=
  match workload.programs[index]? with
  | some (.done result) => some result
  | _ => none

theorem run_append (workload : Workload σ β) (first second : List Nat) :
    workload.run (first ++ second) = (workload.run first).run second :=
  List.foldl_append

theorem advance_of_step {workload : Workload σ β} {index : Nat} {change : σ → σ}
    {next : σ → Program σ β} (h : workload.programs[index]? = some (.step change next)) :
    workload.advance index =
      ⟨change workload.state, workload.programs.set index (next workload.state)⟩ := by
  simp only [advance, h]

theorem advance_of_not_step {workload : Workload σ β} {index : Nat}
    (h : ∀ change next, workload.programs[index]? ≠ some (.step change next)) :
    workload.advance index = workload := by
  unfold advance
  split
  · next change next hstep => exact absurd hstep (h change next)
  · rfl

theorem getElem?_advance_of_ne (workload : Workload σ β) {index other : Nat} (h : index ≠ other) :
    (workload.advance index).programs[other]? = workload.programs[other]? := by
  unfold advance
  split
  · simp [List.getElem?_set_ne h]
  · rfl

theorem result?_eq_some_iff {workload : Workload σ β} {index : Nat} {result : β} :
    workload.result? index = some result ↔ workload.programs[index]? = some (.done result) := by
  unfold result?
  split
  · next returned h => simp [h]
  · next h => simpa using h result

theorem result?_run {workload : Workload σ β} {index : Nat} {result : β}
    (h : workload.result? index = some result) (schedule : List Nat) :
    (workload.run schedule).result? index = some result := by
  induction schedule generalizing workload with
  | nil => exact h
  | cons first rest ih =>
      refine ih ?_
      rw [result?_eq_some_iff] at h ⊢
      by_cases hsame : first = index
      · subst hsame
        rwa [advance_of_not_step fun change next heq => by simp [h] at heq]
      · rwa [getElem?_advance_of_ne workload hsame]

/-! ## What every program ensures -/

/-- Each program's steps are within what all the other programs rely on. -/
structure Compatible (rely guarantee : Nat → σ → σ → Prop) : Prop where
  refl : ∀ index state, rely index state state
  trans : ∀ index {first second third}, rely index first second → rely index second third →
    rely index first third
  within : ∀ {index other}, index ≠ other → ∀ {before after}, guarantee index before after →
    rely other before after

def Sound (rely guarantee : Nat → σ → σ → Prop) (post : Nat → β → σ → Prop)
    (workload : Workload σ β) : Prop :=
  ∀ index (program : Program σ β), workload.programs[index]? = some program →
    program.Ensures (rely index) (guarantee index) (post index) workload.state

variable {rely guarantee : Nat → σ → σ → Prop} {post : Nat → β → σ → Prop}
  {workload : Workload σ β}

theorem Sound.advance (h : workload.Sound rely guarantee post)
    (compatible : Compatible rely guarantee) (index : Nat) :
    (workload.advance index).Sound rely guarantee post := by
  by_cases hstep : ∃ change next, workload.programs[index]? = some (.step change next)
  · obtain ⟨change, next, hstep⟩ := hstep
    obtain ⟨hguarantee, hnext⟩ := (h index _ hstep).at_step (compatible.refl index workload.state)
    intro other program hother
    by_cases hsame : index = other
    · subst hsame
      have hlt := (List.getElem?_eq_some_iff.mp hstep).1
      rw [advance_of_step hstep, List.getElem?_set_self hlt] at hother
      obtain rfl := Option.some.inj hother
      rw [advance_of_step hstep]
      exact hnext
    · rw [getElem?_advance_of_ne workload hsame] at hother
      rw [advance_of_step hstep]
      have hrely : rely other workload.state (change workload.state) :=
        compatible.within hsame hguarantee
      exact (h other program hother).later hrely (compatible.trans other)
  · rw [advance_of_not_step (fun change next heq => hstep ⟨change, next, heq⟩)]
    exact h

theorem Sound.run (h : workload.Sound rely guarantee post)
    (compatible : Compatible rely guarantee) (schedule : List Nat) :
    (workload.run schedule).Sound rely guarantee post := by
  induction schedule generalizing workload with
  | nil => exact h
  | cons index rest ih => exact ih (h.advance compatible index)

theorem Sound.result (h : workload.Sound rely guarantee post)
    (compatible : Compatible rely guarantee) {index : Nat} {result : β}
    (hresult : workload.result? index = some result) : post index result workload.state := by
  have hprogram := result?_eq_some_iff.mp hresult
  exact (h index _ hprogram).at_done (compatible.refl index workload.state)

theorem Sound.state_run {order : σ → σ → Prop} (h : workload.Sound rely guarantee post)
    (compatible : Compatible rely guarantee) (refl : ∀ state, order state state)
    (trans : ∀ {first second third}, order first second → order second third →
      order first third)
    (within : ∀ index {before after}, guarantee index before after → order before after)
    (schedule : List Nat) : order workload.state (workload.run schedule).state := by
  induction schedule generalizing workload with
  | nil => exact refl workload.state
  | cons index rest ih =>
      refine trans ?_ (ih (h.advance compatible index))
      by_cases hstep : ∃ change next, workload.programs[index]? = some (.step change next)
      · obtain ⟨change, next, hstep⟩ := hstep
        obtain ⟨hguarantee, -⟩ := (h index _ hstep).at_step (compatible.refl index workload.state)
        rw [advance_of_step hstep]
        exact within index hguarantee
      · rw [advance_of_not_step (fun change next heq => hstep ⟨change, next, heq⟩)]
        exact refl workload.state

/-! ## Completion -/

/-- A program has returned once it was given as many steps as it takes at most, however the steps of
the others come in between. -/
theorem exists_result_of_count {index limit : Nat} {program : Program σ β} {schedule : List Nat}
    (hprogram : workload.programs[index]? = some program) (hends : program.EndsWithin limit)
    (hcount : limit ≤ schedule.count index) :
    ∃ result, (workload.run schedule).result? index = some result := by
  induction schedule generalizing workload program limit with
  | nil =>
      cases program with
      | done result => exact ⟨result, result?_eq_some_iff.mpr hprogram⟩
      | step change next =>
          obtain rfl : limit = 0 := by simpa using hcount
          cases hends
  | cons first rest ih =>
      change ∃ result, ((workload.advance first).run rest).result? index = some result
      by_cases hsame : first = index
      · subst hsame
        cases program with
        | done result =>
            have hstays : workload.advance first = workload :=
              advance_of_not_step fun change next heq => by simp [hprogram] at heq
            rw [hstays]
            have hends : (Program.done result : Program σ β).EndsWithin 0 := .done
            exact ih hprogram hends (Nat.zero_le _)
        | step change next =>
            cases hends with
            | @step _ _ limit hnext =>
                have hlt := (List.getElem?_eq_some_iff.mp hprogram).1
                have hadvanced : (workload.advance first).programs[first]? =
                    some (next workload.state) := by
                  rw [advance_of_step hprogram]
                  exact List.getElem?_set_self hlt
                exact ih hadvanced (hnext workload.state) (by simpa using hcount)
      · have hother : (workload.advance first).programs[index]? = some program := by
          rw [getElem?_advance_of_ne workload hsame]
          exact hprogram
        exact ih hother hends (by simpa [List.count_cons, hsame] using hcount)

end Workload

end TagLedger
