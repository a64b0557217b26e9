import Mathlib.Data.List.Induction
import Mathlib.Data.List.Infix
import Mathlib.Tactic.Common

/-!
# Runs of a deterministic step function

A program that reacts to events is a step function `σ → ι → σ`; a run is a left fold.  The rules
below turn what one step preserves into what every run preserves.  `Meets C s es` says that every
step of the run satisfies `C`, a condition on the state before the step and the event, and
`forall_prefix_iff_meets` is the exact form of the invariant rule: when the steps that meet `C`
keep an invariant and the others break what follows from it, that holds in every state of a run
iff every step of the run meets `C`.  `run_tally` is the rule for what counts the steps of a kind,
and `run_latch` the one for what was caused by a step.  `exists_run_of_simulation` carries a run
over to the machine that it is an instance of, and `exists_run_of_steps` one whose steps are
themselves runs.
-/

namespace LoadBalance

variable {σ ι : Type*} (step : σ → ι → σ)

/-- The state after the events `es`. -/
def run (s : σ) (es : List ι) : σ := es.foldl step s

@[simp] theorem run_nil (s : σ) : run step s [] = s := rfl

@[simp] theorem run_cons (s : σ) (e : ι) (es : List ι) :
    run step s (e :: es) = run step (step s e) es := rfl

theorem run_append (s : σ) (es fs : List ι) :
    run step s (es ++ fs) = run step (run step s es) fs := List.foldl_append

theorem run_concat (s : σ) (es : List ι) (e : ι) :
    run step s (es ++ [e]) = step (run step s es) e := by
  rw [run_append, run_cons, run_nil]

/-- Every step of the run from `s` along `es` satisfies `C` in the state it is taken in. -/
def Meets (C : σ → ι → Prop) : σ → List ι → Prop
  | _, [] => True
  | s, e :: es => C s e ∧ Meets C (step s e) es

variable {step} {C : σ → ι → Prop} {P : σ → Prop}

@[simp] theorem meets_nil (s : σ) : Meets step C s [] := trivial

@[simp] theorem meets_cons (s : σ) (e : ι) (es : List ι) :
    Meets step C s (e :: es) ↔ C s e ∧ Meets step C (step s e) es := Iff.rfl

theorem meets_append {s : σ} {es fs : List ι} :
    Meets step C s (es ++ fs) ↔ Meets step C s es ∧ Meets step C (run step s es) fs := by
  induction es generalizing s with
  | nil => simp
  | cons e es ih => simp [ih, and_assoc]

/-- The condition holds at every step, in the state that the events before it lead to. -/
theorem meets_iff_forall {s : σ} {es : List ι} :
    Meets step C s es ↔ ∀ fs e gs, es = fs ++ e :: gs → C (run step s fs) e := by
  constructor
  · rintro h fs e gs rfl
    exact (meets_append.mp h).2.1
  · intro h
    induction es generalizing s with
    | nil => exact meets_nil s
    | cons e es ih =>
      refine ⟨h [] e es rfl, ih fun fs e' gs hes => ?_⟩
      exact h (e :: fs) e' gs (by rw [hes, List.cons_append])

/-- What each step that meets `C` preserves, a run whose steps meet `C` preserves. -/
theorem run_invariant (hstep : ∀ s e, C s e → P s → P (step s e)) {s : σ} {es : List ι}
    (hC : Meets step C s es) (hs : P s) : P (run step s es) := by
  induction es generalizing s with
  | nil => exact hs
  | cons e es ih => exact ih hC.2 (hstep s e hC.1 hs)

/-- The same for what every step preserves. -/
theorem run_invariant' (hstep : ∀ s e, P s → P (step s e)) {s : σ} (es : List ι) (hs : P s) :
    P (run step s es) := by
  induction es generalizing s with
  | nil => exact hs
  | cons e es ih => exact ih (hstep s e hs)

/-- The rule for a process that may be gone, and then stays so: an invariant of what is there. -/
theorem run_invariant_some {step : Option σ → ι → Option σ} {C : σ → ι → Prop} {P : σ → Prop}
    (hgone : ∀ e, step none e = none)
    (hstep : ∀ s e s', C s e → step (some s) e = some s' → P s → P s') {start s : σ} {es : List ι}
    (hC : Meets step (fun o e => ∀ s, o = some s → C s e) (some start) es)
    (hrun : run step (some start) es = some s) (hstart : P start) : P s := by
  refine run_invariant (P := fun o => ∀ s, o = some s → P s) (fun o e he ho s' hs' => ?_) hC
    (fun s hs => Option.some.inj hs ▸ hstart) s hrun
  cases o with
  | none =>
    rw [hgone] at hs'
    cases hs'
  | some s => exact hstep s e s' (he s rfl) hs' (ho s rfl)

/-- The same for what every step preserves. -/
theorem run_invariant_some' {step : Option σ → ι → Option σ} {P : σ → Prop}
    (hgone : ∀ e, step none e = none)
    (hstep : ∀ s e s', step (some s) e = some s' → P s → P s') {start s : σ} {es : List ι}
    (hrun : run step (some start) es = some s) (hstart : P start) : P s :=
  run_invariant_some (C := fun _ _ => True) hgone (fun s e s' _ => hstep s e s')
    (meets_iff_forall.mpr fun _ _ _ _ _ _ => trivial) hrun hstart

/-- The exact rule.  `P` is an invariant that the steps which meet `C` keep, and `Q` a property of
its states that a step which does not meet `C` breaks: then along a run from a state with `P` the
property holds throughout iff every step meets `C`. -/
theorem forall_prefix_iff_meets {Q : σ → Prop} (hPQ : ∀ s, P s → Q s)
    (hkeep : ∀ s e, P s → C s e → P (step s e)) (hexact : ∀ s e, P s → Q (step s e) → C s e)
    {s : σ} (hs : P s) (es : List ι) :
    (∀ fs, fs <+: es → Q (run step s fs)) ↔ Meets step C s es := by
  induction es generalizing s with
  | nil => simp [hPQ s hs]
  | cons e es ih =>
    rw [meets_cons]
    constructor
    · intro h
      have hc : C s e := hexact s e hs (h [e] (by simp))
      refine ⟨hc, (ih (hkeep s e hs hc)).mp fun fs hfs => ?_⟩
      exact h (e :: fs) (by simpa using hfs)
    · rintro ⟨hc, hm⟩ fs hfs
      cases fs with
      | nil => exact hPQ s hs
      | cons f fs =>
        obtain ⟨rfl, hfs'⟩ := List.cons_prefix_cons.mp hfs
        exact (ih (hkeep s f hs hc)).mpr hm fs hfs'

/-- A process that is gone does not come back. -/
theorem run_gone {step : Option σ → ι → Option σ} (hgone : ∀ e, step none e = none)
    (es : List ι) : run step none es = none := by
  induction es with
  | nil => rfl
  | cons e es ih => rw [run_cons, hgone, ih]

/-- A process that is there at the end of a run was there all the time. -/
theorem exists_run_of_append {step : Option σ → ι → Option σ} (hgone : ∀ e, step none e = none)
    {o : Option σ} {s' : σ} {es fs : List ι} (hrun : run step o (es ++ fs) = some s') :
    ∃ s, run step o es = some s ∧ run step (some s) fs = some s' := by
  rw [run_append] at hrun
  cases hes : run step o es with
  | none =>
    rw [hes, run_gone hgone] at hrun
    cases hrun
  | some s =>
    rw [hes] at hrun
    exact ⟨s, rfl, hrun⟩

/-- Forward simulation.  Each step of the process is matched by a step of the machine, which meets
its condition exactly when the step of the process does: then a run is matched by a run. -/
theorem exists_run_of_simulation {τ κ : Type*} {step : Option σ → ι → Option σ} {step' : τ → κ → τ}
    {R : σ → τ → Prop} {C : σ → ι → Prop} {D : τ → κ → Prop} {L : ι → κ → Prop}
    (hgone : ∀ e, step none e = none)
    (hsim : ∀ s t e s', R s t → step (some s) e = some s' →
      ∃ l, L e l ∧ R s' (step' t l) ∧ (C s e ↔ D t l))
    {s s' : σ} {t : τ} (hR : R s t) {es : List ι} (hrun : run step (some s) es = some s') :
    ∃ ls, List.Forall₂ L es ls ∧ R s' (run step' t ls) ∧
      (Meets step (fun o e => ∀ s, o = some s → C s e) (some s) es ↔ Meets step' D t ls) := by
  induction es generalizing s t with
  | nil =>
    obtain rfl := Option.some.inj hrun
    exact ⟨[], .nil, hR, Iff.rfl⟩
  | cons e es ih =>
    cases hs₁ : step (some s) e with
    | none =>
      rw [run_cons, hs₁, run_gone hgone] at hrun
      exact absurd hrun (Option.some_ne_none s').symm
    | some s₁ =>
      obtain ⟨l, hl, hR₁, hCD⟩ := hsim s t e s₁ hR hs₁
      rw [run_cons, hs₁] at hrun
      obtain ⟨ls, hls, hR', hmeets⟩ := ih hR₁ hrun
      refine ⟨l :: ls, .cons hl hls, hR', ?_⟩
      rw [meets_cons, meets_cons, hs₁, hmeets]
      refine and_congr_left fun _ => Iff.trans ⟨fun h => h s rfl, fun h s₀ hs₀ => ?_⟩ hCD
      exact Option.some.inj hs₀ ▸ h

/-- A process whose steps are runs of another one: so are its runs. -/
theorem exists_run_of_steps {κ : Type*} {step : Option σ → ι → Option σ}
    {step' : Option σ → κ → Option σ} {C : σ → ι → Prop} {L : ι → List κ → Prop}
    (hgone : ∀ e, step none e = none)
    (hstep : ∀ s e s', C s e → step (some s) e = some s' →
      ∃ ls, L e ls ∧ run step' (some s) ls = some s')
    {s s' : σ} {es : List ι} (hC : Meets step (fun o e => ∀ s, o = some s → C s e) (some s) es)
    (hrun : run step (some s) es = some s') :
    ∃ parts, List.Forall₂ L es parts ∧ run step' (some s) parts.flatten = some s' := by
  induction es generalizing s with
  | nil => exact ⟨[], .nil, hrun⟩
  | cons e es ih =>
    obtain ⟨hCs, hCrest⟩ := hC
    cases hs₁ : step (some s) e with
    | none =>
      rw [run_cons, hs₁, run_gone hgone] at hrun
      cases hrun
    | some s₁ =>
      obtain ⟨ls, hL, hls⟩ := hstep s e s₁ (hCs s rfl) hs₁
      rw [hs₁] at hCrest
      rw [run_cons, hs₁] at hrun
      obtain ⟨parts, hparts, hrest⟩ := ih hCrest hrun
      refine ⟨ls :: parts, .cons hL hparts, ?_⟩
      rw [List.flatten_cons, run_append, hls, hrest]

/-- How many of the events are seen by `p`, each in the state that it happens in. -/
def tally (step : σ → ι → σ) (p : σ → ι → Bool) : σ → List ι → ℕ
  | _, [] => 0
  | s, e :: es => (if p s e then 1 else 0) + tally step p (step s e) es

/-- A relation that counts: when a step is related by the number of events seen in it, a run is
related by their tally. -/
theorem run_tally {R : ℕ → σ → σ → Prop} {p : σ → ι → Bool} (hnil : ∀ s, R 0 s s)
    (htrans : ∀ {m n s s' s''}, R m s s' → R n s' s'' → R (m + n) s s'')
    (hstep : ∀ s e, C s e → R (if p s e then 1 else 0) s (step s e)) {s : σ} {es : List ι}
    (hC : Meets step C s es) : R (tally step p s es) s (run step s es) := by
  induction es generalizing s with
  | nil => exact hnil s
  | cons e es ih => exact htrans (hstep s e hC.1) (ih hC.2)

/-- A flag that is set by the steps with a cause, and stays set: at the end of a run it is set iff
it was in the beginning, or one of the steps had a cause in the state it was taken in. -/
theorem run_latch {step : Option σ → ι → Option σ} {flag : σ → Prop} {cause : σ → ι → Prop}
    (hgone : ∀ e, step none e = none)
    (hstep : ∀ s e s', step (some s) e = some s' → (flag s' ↔ flag s ∨ cause s e))
    {s s' : σ} {es : List ι} (hrun : run step (some s) es = some s') :
    flag s' ↔ flag s ∨ ∃ fs e gs s₀, es = fs ++ e :: gs ∧ run step (some s) fs = some s₀ ∧
      cause s₀ e := by
  induction es generalizing s with
  | nil =>
    obtain rfl := Option.some.inj hrun
    simp
  | cons e es ih =>
    rw [run_cons] at hrun
    cases hs₁ : step (some s) e with
    | none =>
      rw [hs₁, run_gone hgone] at hrun
      cases hrun
    | some s₁ =>
      rw [hs₁] at hrun
      rw [ih hrun, hstep s e s₁ hs₁, or_assoc]
      refine or_congr_right ⟨?_, ?_⟩
      · rintro (hcause | ⟨fs, e', gs, s₀, rfl, hs₀, hcause⟩)
        · exact ⟨[], e, es, s, rfl, rfl, hcause⟩
        · exact ⟨e :: fs, e', gs, s₀, rfl, by rw [run_cons, hs₁, hs₀], hcause⟩
      · rintro ⟨fs, e', gs, s₀, hes, hs₀, hcause⟩
        -- The cause is in the first step, or after it.
        cases fs with
        | nil =>
          obtain ⟨rfl, -⟩ := List.cons.inj hes
          obtain rfl := Option.some.inj hs₀
          exact Or.inl hcause
        | cons f fs =>
          obtain ⟨rfl, rfl⟩ := List.cons.inj hes
          rw [run_cons, hs₁] at hs₀
          exact Or.inr ⟨fs, e', gs, s₀, rfl, hs₀, hcause⟩

/-- What holds at the end of a run but not at its beginning came about in one step, and has held
since. -/
theorem exists_onset {s : σ} {es : List ι} (hs : ¬P s) (h : P (run step s es)) :
    ∃ fs e gs, es = fs ++ e :: gs ∧ ¬P (run step s fs) ∧
      ∀ hs, hs <+: gs → P (run step s (fs ++ e :: hs)) := by
  induction es using List.reverseRecOn with
  | nil => exact absurd h hs
  | append_singleton es e ih =>
    by_cases hP : P (run step s es)
    · -- It held before the last step already.
      obtain ⟨fs, e', gs, rfl, hfs, hgs⟩ := ih hP
      refine ⟨fs, e', gs ++ [e], by simp, hfs, fun hs hhs => ?_⟩
      rcases List.prefix_concat_iff.mp hhs with rfl | hhs
      · simpa using h
      · exact hgs hs hhs
    · refine ⟨es, e, [], rfl, hP, fun hs hhs => ?_⟩
      obtain rfl := List.prefix_nil.mp hhs
      exact h

end LoadBalance
