import Docbase.Effect
import Mathlib.Logic.Basic

/-! # Operations that agree

Two operations agree under a relation of states when, from related states, they have the same
outcome and leave related states behind. Agreement is put together along the way an operation is
put together, so that it has to be looked into for the smallest operations only. That an operation
keeps a property of the state is the special case in which it agrees with itself.
-/

namespace Docbase.Effect

variable {σ τ σ' τ' α β : Type}

/-- Two operations agree at two states: the outcomes are the same, and the states left behind are
related. -/
def AgreesAt (R : σ → τ → Prop) (left : Effect σ α) (right : Effect τ α) (s : σ) (t : τ) : Prop :=
  (left.apply s).1 = (right.apply t).1 ∧ R (left.apply s).2 (right.apply t).2

/-- Two operations agree at all states that are related. -/
def Agrees (R : σ → τ → Prop) (left : Effect σ α) (right : Effect τ α) : Prop :=
  ∀ s t, R s t → AgreesAt R left right s t

/-- An operation keeps a property of the state, whether it fails or not. -/
def Keeps (I : σ → Prop) (effect : Effect σ α) : Prop :=
  ∀ s, I s → I (effect.apply s).2

section

variable {R : σ → τ → Prop} {s : σ} {t : τ}

theorem AgreesAt.bind {left : Effect σ α} {right : Effect τ α} {next : α → Effect σ β}
    {next' : α → Effect τ β} (hfirst : AgreesAt R left right s t)
    (hnext : ∀ value, (left.apply s).1 = .ok value →
      AgreesAt R (next value) (next' value) (left.apply s).2 (right.apply t).2) :
    AgreesAt R (left >>= next) (right >>= next') s t := by
  obtain ⟨hsame, hrelated⟩ := hfirst
  unfold AgreesAt
  rw [apply_bind, apply_bind]
  rcases hleft : left.apply s with ⟨result, after⟩
  rcases hright : right.apply t with ⟨result', after'⟩
  rw [hleft, hright] at hsame hrelated hnext
  dsimp only at hsame
  subst hsame
  cases result with
  | error fault => exact ⟨rfl, hrelated⟩
  | ok value => exact hnext value rfl

theorem Agrees.bind {left : Effect σ α} {right : Effect τ α} {next : α → Effect σ β}
    {next' : α → Effect τ β} (hfirst : Agrees R left right)
    (hnext : ∀ value, Agrees R (next value) (next' value)) :
    Agrees R (left >>= next) (right >>= next') := by
  intro s t hst
  have h := hfirst s t hst
  exact h.bind fun value _ => hnext value _ _ h.2

theorem Agrees.pure (value : α) :
    Agrees R (Pure.pure value : Effect σ α) (Pure.pure value : Effect τ α) :=
  fun _ _ hst => ⟨rfl, hst⟩

theorem Agrees.throw (fault : Fault) :
    Agrees R (MonadExcept.throw fault : Effect σ α) (MonadExcept.throw fault : Effect τ α) :=
  fun _ _ hst => ⟨rfl, hst⟩

theorem Agrees.ofExcept (result : Except Fault α) :
    Agrees R (Effect.ofExcept result : Effect σ α) (Effect.ofExcept result : Effect τ α) :=
  fun _ _ hst => ⟨rfl, hst⟩

theorem Agrees.outcome {left : Effect σ α} {right : Effect τ α} (h : Agrees R left right) :
    Agrees R left.outcome right.outcome :=
  fun s t hst => ⟨congrArg Except.ok (h s t hst).1, (h s t hst).2⟩

/-- Reading the state and going on with what was read agrees if going on does at the states
read. -/
theorem Agrees.get_bind {next : σ → Effect σ α} {next' : τ → Effect τ α}
    (hnext : ∀ s t, R s t → AgreesAt R (next s) (next' t) s t) :
    Agrees R (MonadState.get >>= next) (MonadState.get >>= next') := by
  intro s t hst
  unfold AgreesAt
  rw [apply_bind, apply_bind]
  exact hnext s t hst

theorem Agrees.modify {step : σ → σ} {step' : τ → τ}
    (hstep : ∀ s t, R s t → R (step s) (step' t)) :
    Agrees R (modify step : Effect σ Unit) (modify step' : Effect τ Unit) :=
  fun s t hst => ⟨rfl, hstep s t hst⟩

/-! ## Lists -/

theorem Agrees.mapM {left : β → Effect σ α} {right : β → Effect τ α}
    (h : ∀ item, Agrees R (left item) (right item)) (items : List β) :
    Agrees R (items.mapM left) (items.mapM right) := by
  induction items with
  | nil => exact Agrees.pure []
  | cons item rest ih =>
      rw [List.mapM_cons, List.mapM_cons]
      exact (h item).bind fun _ => ih.bind fun _ => Agrees.pure _

theorem Agrees.foldlM {left : α → β → Effect σ α} {right : α → β → Effect τ α}
    (h : ∀ value item, Agrees R (left value item) (right value item)) (start : α)
    (items : List β) :
    Agrees R (items.foldlM left start) (items.foldlM right start) := by
  induction items generalizing start with
  | nil => exact Agrees.pure start
  | cons item rest ih =>
      rw [List.foldlM_cons, List.foldlM_cons]
      exact (h start item).bind ih

end

/-! ## Calls in turn -/

/-- Makes calls in turn, whatever comes of them: the outcomes, and the state afterwards. -/
def attemptAll {ω : Type} (run : ω → Effect σ α) : List ω → σ → List (Except Fault α) × σ
  | [], s => ([], s)
  | call :: rest, s =>
    let first := (run call).apply s
    let others := attemptAll run rest first.2
    (first.1 :: others.1, others.2)

theorem attemptAll_append {ω : Type} (run : ω → Effect σ α) (calls more : List ω) (s : σ) :
    attemptAll run (calls ++ more) s =
      ((attemptAll run calls s).1 ++ (attemptAll run more (attemptAll run calls s).2).1,
        (attemptAll run more (attemptAll run calls s).2).2) := by
  induction calls generalizing s with
  | nil => rfl
  | cons call rest ih => simp only [List.cons_append, attemptAll, ih]

theorem attemptAll_agrees {ω : Type} {R : σ → τ → Prop} {run : ω → Effect σ α}
    {run' : ω → Effect τ α} {calls : List ω}
    (h : ∀ call ∈ calls, Agrees R (run call) (run' call)) {s : σ} {t : τ} (hst : R s t) :
    (attemptAll run calls s).1 = (attemptAll run' calls t).1 ∧
      R (attemptAll run calls s).2 (attemptAll run' calls t).2 := by
  induction calls generalizing s t with
  | nil => exact ⟨rfl, hst⟩
  | cons call rest ih =>
      obtain ⟨hsame, hafter⟩ := h call List.mem_cons_self s t hst
      obtain ⟨hothers, hlast⟩ :=
        ih (fun other hother => h other (List.mem_cons_of_mem _ hother)) hafter
      simp only [attemptAll]
      exact ⟨by rw [hsame, hothers], hlast⟩

/-! ## Properties that are kept -/

section

variable {I : σ → Prop}

/-- What agrees with itself under equality of states with a property keeps the property. -/
theorem Agrees.keeps {effect : Effect σ α}
    (h : Agrees (fun s t => s = t ∧ I s) effect effect) : Keeps I effect :=
  fun s hs => (h s s ⟨rfl, hs⟩).2.2

theorem Keeps.agrees {effect : Effect σ α} (h : Keeps I effect) :
    Agrees (fun s t => s = t ∧ I s) effect effect := by
  rintro s _ ⟨rfl, hs⟩
  exact ⟨rfl, rfl, h s hs⟩

theorem Keeps.bind {effect : Effect σ α} {next : α → Effect σ β} (hfirst : Keeps I effect)
    (hnext : ∀ value, Keeps I (next value)) : Keeps I (effect >>= next) := by
  intro s hs
  have hafter := hfirst s hs
  rw [apply_bind]
  rcases hrun : effect.apply s with ⟨result, after⟩
  rw [hrun] at hafter
  cases result with
  | error fault => exact hafter
  | ok value => exact hnext value after hafter

theorem Keeps.pure (value : α) : Keeps I (Pure.pure value : Effect σ α) :=
  fun _ hs => hs

theorem Keeps.throw (fault : Fault) : Keeps I (MonadExcept.throw fault : Effect σ α) :=
  fun _ hs => hs

theorem Keeps.ofExcept (result : Except Fault α) : Keeps I (Effect.ofExcept result : Effect σ α) :=
  fun _ hs => hs

theorem Keeps.outcome {effect : Effect σ α} (h : Keeps I effect) : Keeps I effect.outcome :=
  fun s hs => h s hs

theorem Keeps.get : Keeps I (MonadState.get : Effect σ σ) :=
  fun _ hs => hs

theorem Keeps.modify {step : σ → σ} (hstep : ∀ s, I s → I (step s)) :
    Keeps I (modify step : Effect σ Unit) :=
  fun s hs => hstep s hs

theorem Keeps.forM {effect : β → Effect σ Unit} (h : ∀ item, Keeps I (effect item))
    (items : List β) : Keeps I (items.forM effect) := by
  induction items with
  | nil => exact Keeps.pure ()
  | cons item rest ih =>
      change Keeps I (effect item >>= fun _ => rest.forM effect)
      exact (h item).bind fun _ => ih

end

theorem attemptAll_keeps {ω : Type} {I : σ → Prop} {run : ω → Effect σ α} {calls : List ω}
    (h : ∀ call ∈ calls, Keeps I (run call)) {s : σ} (hs : I s) : I (attemptAll run calls s).2 := by
  induction calls generalizing s with
  | nil => exact hs
  | cons call rest ih =>
      exact ih (fun other hother => h other (List.mem_cons_of_mem call hother))
        (h call List.mem_cons_self s hs)

/-! ## Outcomes that a property determines -/

/-- Wherever the state has a property, an operation has one and the same outcome and keeps the
property. -/
def Yields (I : σ → Prop) (effect : Effect σ α) (outcome : Except Fault α) : Prop :=
  ∀ s, I s → (effect.apply s).1 = outcome ∧ I (effect.apply s).2

section

variable {I : σ → Prop} {effect : Effect σ α}

theorem Yields.ofExcept (outcome : Except Fault α) :
    Yields I (Effect.ofExcept outcome) outcome :=
  fun _ hs => ⟨rfl, hs⟩

theorem Yields.pure (value : α) : Yields I (Pure.pure value : Effect σ α) (.ok value) :=
  fun _ hs => ⟨rfl, hs⟩

/-- Only what an operation goes on to after its actual outcome has to be looked into. -/
theorem Yields.bind {next : α → Effect σ β} {outcome : Except Fault α}
    {outcome' : α → Except Fault β} (heffect : Yields I effect outcome)
    (hnext : ∀ value, outcome = .ok value → Yields I (next value) (outcome' value)) :
    Yields I (effect >>= next) (outcome >>= outcome') := by
  intro s hs
  obtain ⟨hsame, hafter⟩ := heffect s hs
  rw [apply_bind]
  rcases hrun : effect.apply s with ⟨result, after⟩
  rw [hrun] at hsame hafter
  dsimp only at hsame hafter
  subst hsame
  cases result with
  | error fault => exact ⟨rfl, hafter⟩
  | ok value => exact hnext value rfl after hafter

theorem Yields.bind_ok {next : α → Effect σ β} {value : α} {outcome : Except Fault β}
    (heffect : Yields I effect (.ok value)) (hnext : Yields I (next value) outcome) :
    Yields I (effect >>= next) outcome := by
  have hbind : Yields I (effect >>= next) (Except.ok value >>= fun _ => outcome) := by
    refine heffect.bind fun found hfound => ?_
    cases hfound
    exact hnext
  exact hbind

theorem Yields.mapM {effect : β → Effect σ α} {outcome : β → Except Fault α}
    (h : ∀ item, Yields I (effect item) (outcome item)) (items : List β) :
    Yields I (items.mapM effect) (items.mapM outcome) := by
  induction items with
  | nil => exact Yields.pure []
  | cons item rest ih =>
      rw [List.mapM_cons, List.mapM_cons]
      exact (h item).bind fun _ _ => ih.bind fun _ _ => Yields.pure _

theorem Yields.foldlM {effect : α → β → Effect σ α} {outcome : α → β → Except Fault α}
    (h : ∀ value item, Yields I (effect value item) (outcome value item)) (start : α)
    (items : List β) :
    Yields I (items.foldlM effect start) (items.foldlM outcome start) := by
  induction items generalizing start with
  | nil => exact Yields.pure start
  | cons item rest ih =>
      rw [List.foldlM_cons, List.foldlM_cons]
      exact (h start item).bind fun value _ => ih value

/-- What an operation yields may be told in other words. -/
theorem Yields.of_eq {outcome outcome' : Except Fault α} (h : Yields I effect outcome)
    (heq : outcome = outcome') : Yields I effect outcome' :=
  heq ▸ h

end

/-! ## Relations of the states before and after -/

/-- The states before and after an operation are related, whether it fails or not. -/
def Within (R : σ → σ → Prop) (effect : Effect σ α) : Prop :=
  ∀ s, R s (effect.apply s).2

theorem Within.outcome {R : σ → σ → Prop} {effect : Effect σ α} (h : Within R effect) :
    Within R effect.outcome :=
  h

theorem Within.bind {R : σ → σ → Prop} (htrans : ∀ s t u, R s t → R t u → R s u)
    {effect : Effect σ α} {next : α → Effect σ β} (hfirst : Within R effect)
    (hnext : ∀ value, Within R (next value)) : Within R (effect >>= next) := by
  intro s
  have hafter := hfirst s
  rw [apply_bind]
  rcases hrun : effect.apply s with ⟨result, after⟩
  rw [hrun] at hafter
  cases result with
  | error fault => exact hafter
  | ok value => exact htrans s after _ hafter (hnext value after)

end Docbase.Effect
