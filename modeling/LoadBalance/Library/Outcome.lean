import Mathlib.Order.Defs.Unbundled
import Mathlib.Tactic.Common

/-!
# Outcomes of calls that may also bring the process down

`Outcome ε α` is the result of a call of a C++ program: a value, an error the caller can look
at, or `abort`, which stands for everything after which the program is no longer running as
written (a failed `CHECK`, an assertion of a library on a null pointer, a read through a deleted
object).  `abort` propagates like an error but cannot be caught.

`Action σ ε α` is such a call on a state that outlives it: what was written before an error stays
written.
-/

namespace LoadBalance

/-- The result of a call: a value, an error, or the end of the process. -/
inductive Outcome (ε α : Type) where
  | ok (a : α)
  | error (e : ε)
  | abort
deriving DecidableEq, Repr

namespace Outcome

variable {ε α β γ : Type}

/-- Sequencing: an error or an abort skips the rest. -/
def bind : Outcome ε α → (α → Outcome ε β) → Outcome ε β
  | ok a, f => f a
  | error e, _ => error e
  | abort, _ => abort

instance : Monad (Outcome ε) where
  pure := ok
  bind := bind

@[simp] theorem ok_bind (a : α) (f : α → Outcome ε β) : (ok a >>= f) = f a := rfl
@[simp] theorem error_bind (e : ε) (f : α → Outcome ε β) :
    ((error e : Outcome ε α) >>= f) = error e := rfl
@[simp] theorem abort_bind (f : α → Outcome ε β) : ((abort : Outcome ε α) >>= f) = abort := rfl
@[simp] theorem pure_eq_ok (a : α) : (pure a : Outcome ε α) = ok a := rfl

instance : LawfulMonad (Outcome ε) := LawfulMonad.mk' _
  (by rintro α (a | e | _) <;> rfl)
  (by intros; rfl)
  (by rintro α β γ (a | e | _) f g <;> rfl)

/-- A sequence succeeds exactly when both halves do. -/
theorem bind_eq_ok {x : Outcome ε α} {f : α → Outcome ε β} {b : β} :
    (x >>= f) = ok b ↔ ∃ a, x = ok a ∧ f a = ok b := by
  cases x <;> simp

/-- A sequence aborts in its first half, or in its second after the first succeeded. -/
theorem bind_eq_abort {x : Outcome ε α} {f : α → Outcome ε β} :
    (x >>= f) = abort ↔ x = abort ∨ ∃ a, x = ok a ∧ f a = abort := by
  cases x <;> simp

theorem ok_ne_abort {a : α} : (ok a : Outcome ε α) ≠ abort := nofun

/-- The call returned control to its caller. -/
def Returns : Outcome ε α → Prop
  | abort => False
  | _ => True

@[simp] theorem returns_ok (a : α) : (ok a : Outcome ε α).Returns := trivial
@[simp] theorem returns_error (e : ε) : (error e : Outcome ε α).Returns := trivial
@[simp] theorem not_returns_abort : ¬ (abort : Outcome ε α).Returns := id

theorem returns_iff {x : Outcome ε α} : x.Returns ↔ x ≠ abort := by cases x <;> simp

/-- The call gives a value, or is the end of the process. -/
def NoError (x : Outcome ε α) : Prop := ∀ e, x ≠ error e

theorem NoError.returns_iff {x : Outcome ε α} (h : x.NoError) : x.Returns ↔ ∃ a, x = ok a := by
  cases x with
  | ok a => exact iff_of_true trivial ⟨a, rfl⟩
  | error e => exact absurd rfl (h e)
  | abort => exact iff_of_false not_returns_abort nofun

theorem NoError.bind {x : Outcome ε α} {f : α → Outcome ε β} (hx : x.NoError)
    (hf : ∀ a, (f a).NoError) : (x >>= f).NoError := by
  cases x with
  | ok a => exact hf a
  | error e => exact absurd rfl (hx e)
  | abort => exact nofun

theorem NoError.mapM {f : α → Outcome ε β} {l : List α} (h : ∀ a ∈ l, (f a).NoError) :
    (l.mapM f).NoError := by
  induction l with
  | nil => exact nofun
  | cons a l ih =>
    obtain ⟨ha, hl⟩ := List.forall_mem_cons.mp h
    rw [List.mapM_cons]
    exact ha.bind fun _ => (ih hl).bind fun _ => nofun

/-- The value of a call that succeeded. -/
def toOption : Outcome ε α → Option α
  | ok a => some a
  | _ => none

@[simp] theorem toOption_eq_some {x : Outcome ε α} {a : α} : x.toOption = some a ↔ x = ok a := by
  cases x <;> simp [toOption]

/-- The outcome without the value. -/
def void : Outcome ε α → Outcome ε Unit
  | ok _ => ok ()
  | error e => error e
  | abort => abort

theorem void_eq_ok {x : Outcome ε α} : x.void = ok () ↔ ∃ a, x = ok a := by
  cases x <;> simp [void]

theorem void_eq_error {x : Outcome ε α} {e : ε} : x.void = error e ↔ x = error e := by
  cases x <;> simp [void]

/-- Sequences end in the same way when their first halves do, and their second halves after that. -/
theorem void_bind_congr {x : Outcome ε α} {y : Outcome ε β} {f : α → Outcome ε γ}
    {g : β → Outcome ε γ} (hxy : x.void = y.void)
    (hfg : ∀ a b, x = ok a → y = ok b → (f a).void = (g b).void) :
    (x >>= f).void = (y >>= g).void := by
  cases x with
  | ok a =>
    obtain ⟨b, rfl⟩ := void_eq_ok.mp hxy.symm
    exact hfg a b rfl rfl
  | error e => rw [void_eq_error.mp hxy.symm]; rfl
  | abort =>
    cases y with
    | abort => rfl
    | ok _ => cases hxy
    | error _ => cases hxy

/-- A traversal succeeds exactly when it does at each element. -/
theorem mapM_eq_ok {f : α → Outcome ε β} {l : List α} {ys : List β} :
    l.mapM f = ok ys ↔ List.Forall₂ (fun x y => f x = ok y) l ys := by
  induction l generalizing ys with
  | nil =>
    constructor
    · rintro h
      obtain rfl : [] = ys := by simpa using h
      exact List.Forall₂.nil
    · rintro ⟨⟩
      rfl
  | cons x l ih =>
    rw [List.mapM_cons, bind_eq_ok]
    constructor
    · rintro ⟨y, hy, h⟩
      obtain ⟨zs, hzs, h⟩ := bind_eq_ok.mp h
      rw [pure_eq_ok, ok.injEq] at h
      subst h
      exact List.Forall₂.cons hy (ih.mp hzs)
    · intro h
      cases h with
      | cons hy h => exact ⟨_, hy, bind_eq_ok.mpr ⟨_, ih.mpr h, rfl⟩⟩

/-! ### Outcomes alike -/

/-- Two calls that end in the same way, with values that are related when they succeed. -/
inductive Rel (R : α → β → Prop) : Outcome ε α → Outcome ε β → Prop where
  | ok {a : α} {b : β} (h : R a b) : Rel R (ok a) (ok b)
  | error (e : ε) : Rel R (error e) (error e)
  | abort : Rel R abort abort

variable {R : α → β → Prop} {x : Outcome ε α} {y : Outcome ε β}

theorem Rel.refl {R : α → α → Prop} (hR : ∀ a, R a a) (x : Outcome ε α) : Rel R x x := by
  cases x with
  | ok a => exact .ok (hR a)
  | error e => exact .error e
  | abort => exact .abort

theorem Rel.eq_abort (h : Rel R x (Outcome.abort : Outcome ε β)) : x = Outcome.abort := by
  cases h
  rfl

theorem Rel.eq_ok {b : β} (h : Rel R x (Outcome.ok b : Outcome ε β)) :
    ∃ a, x = Outcome.ok a ∧ R a b := by
  cases h with
  | ok hab => exact ⟨_, rfl, hab⟩

theorem Rel.trans {S : β → γ → Prop} {T : α → γ → Prop} {z : Outcome ε γ}
    (hRST : ∀ a b c, R a b → S b c → T a c) (h : Rel R x y) (h' : Rel S y z) : Rel T x z := by
  cases h with
  | ok hab =>
    cases h' with
    | ok hbc => exact .ok (hRST _ _ _ hab hbc)
  | error e =>
    cases h'
    exact .error e
  | abort =>
    cases h'
    exact .abort

theorem Rel.mono {S : α → β → Prop} (hRS : ∀ a b, R a b → S a b) (h : Rel R x y) : Rel S x y := by
  cases h with
  | ok hab => exact .ok (hRS _ _ hab)
  | error e => exact .error e
  | abort => exact .abort

/-- Sequences are alike when their halves are. -/
theorem Rel.bind {δ : Type} {S : γ → δ → Prop} {f : α → Outcome ε γ} {g : β → Outcome ε δ}
    (h : Rel R x y) (hfg : ∀ a b, R a b → Rel S (f a) (g b)) : Rel S (x >>= f) (y >>= g) := by
  cases h with
  | ok hab => exact hfg _ _ hab
  | error e => exact .error e
  | abort => exact .abort

/-- Traversals are alike when they are at each element. -/
theorem Rel.mapM {δ : Type} {S : γ → δ → Prop} {f : α → Outcome ε γ} {g : β → Outcome ε δ}
    {as : List α} {bs : List β} (h : List.Forall₂ (fun a b => Rel S (f a) (g b)) as bs) :
    Rel (List.Forall₂ S) (as.mapM f) (bs.mapM g) := by
  induction h with
  | nil => exact .ok .nil
  | cons hab _ ih =>
    rw [List.mapM_cons, List.mapM_cons]
    exact hab.bind fun c d hcd => ih.bind fun cs ds hcds => .ok (.cons hcd hcds)

end Outcome

/-! ### Calls on a state -/

/-- A call on a state of type `σ`, which is kept whatever the outcome. -/
def Action (σ ε α : Type) := σ → Outcome ε α × σ

namespace Action

variable {σ ε α β γ : Type}

/-- The outcome of the call in a state and the state it leaves. -/
def run (x : Action σ ε α) (s : σ) : Outcome ε α × σ := x s

theorem ext_run {x y : Action σ ε α} (h : ∀ s, x.run s = y.run s) : x = y := funext h

/-- Sequencing: the second call sees what the first one wrote. -/
def bind (x : Action σ ε α) (f : α → Action σ ε β) : Action σ ε β := fun s =>
  match x s with
  | (.ok a, s') => f a s'
  | (.error e, s') => (.error e, s')
  | (.abort, s') => (.abort, s')

instance : Monad (Action σ ε) where
  pure a := fun s => (.ok a, s)
  bind := bind

/-- A call that does not touch the state. -/
def lift (x : Outcome ε α) : Action σ ε α := fun s => (x, s)

/-- Fail with an error. -/
def fail (e : ε) : Action σ ε α := lift (.error e)

/-- The value of an optional, or the error that its absence is. -/
def orFail (x : Option α) (e : ε) : Action σ ε α := match x with
  | some a => pure a
  | none => fail e

/-- The value of an optional that is read without a look at whether it is there. -/
def value (x : Option α) : Action σ ε α := match x with
  | some a => pure a
  | none => lift .abort

/-- An error of the call is noted and passed over. -/
def attempt (x : Action σ ε Unit) : Action σ ε Unit := fun s =>
  match x s with
  | (.abort, s') => (.abort, s')
  | (_, s') => (.ok (), s')

/-- A call that only looks at the state. -/
def reads (f : σ → Outcome ε α) : Action σ ε α := fun s => (f s, s)

@[simp] theorem run_pure (a : α) (s : σ) : (pure a : Action σ ε α).run s = (.ok a, s) := rfl
@[simp] theorem run_lift (x : Outcome ε α) (s : σ) : (lift x).run s = (x, s) := rfl
@[simp] theorem run_fail (e : ε) (s : σ) : (fail e : Action σ ε α).run s = (.error e, s) := rfl
@[simp] theorem run_reads (f : σ → Outcome ε α) (s : σ) : (reads f).run s = (f s, s) := rfl

@[simp] theorem run_orFail_some (a : α) (e : ε) (s : σ) :
    (orFail (some a) e : Action σ ε α).run s = (.ok a, s) := rfl
@[simp] theorem run_orFail_none (e : ε) (s : σ) :
    (orFail none e : Action σ ε α).run s = (.error e, s) := rfl

@[simp] theorem run_value_some (a : α) (s : σ) :
    (value (some a) : Action σ ε α).run s = (.ok a, s) := rfl
@[simp] theorem run_value_none (s : σ) : (value none : Action σ ε α).run s = (.abort, s) := rfl

theorem run_orFail_eq_ok {x : Option α} {e : ε} {s s' : σ} {a : α} :
    (orFail x e : Action σ ε α).run s = (.ok a, s') ↔ x = some a ∧ s' = s := by
  cases x <;> simp [eq_comm]

theorem run_attempt (x : Action σ ε Unit) (s : σ) :
    (attempt x).run s = match x.run s with
      | (.abort, s') => (.abort, s')
      | (_, s') => (.ok (), s') := rfl

theorem run_bind (x : Action σ ε α) (f : α → Action σ ε β) (s : σ) :
    (x >>= f).run s = match x.run s with
      | (.ok a, s') => (f a).run s'
      | (.error e, s') => (.error e, s')
      | (.abort, s') => (.abort, s') := rfl

theorem run_bind_of_ok {x : Action σ ε α} {f : α → Action σ ε β} {s s' : σ} {a : α}
    (h : x.run s = (.ok a, s')) : (x >>= f).run s = (f a).run s' := by rw [run_bind, h]

theorem run_bind_of_error {x : Action σ ε α} {f : α → Action σ ε β} {s s' : σ} {e : ε}
    (h : x.run s = (.error e, s')) : (x >>= f).run s = (.error e, s') := by rw [run_bind, h]

/-- A sequence succeeds exactly when both halves do. -/
theorem run_bind_eq_ok {x : Action σ ε α} {f : α → Action σ ε β} {s t : σ} {b : β} :
    (x >>= f).run s = (.ok b, t) ↔
      ∃ a s', x.run s = (.ok a, s') ∧ (f a).run s' = (.ok b, t) := by
  rw [run_bind]
  rcases x.run s with ⟨a | e | _, s'⟩ <;> simp

/-- The outcome of a call as a value, an error included; `abort` stays. -/
def result (x : Action σ ε α) : Action σ ε (Except ε α) := fun s =>
  match x s with
  | (.ok a, s') => (.ok (.ok a), s')
  | (.error e, s') => (.ok (.error e), s')
  | (.abort, s') => (.abort, s')

/-- Change the state. -/
def modify (f : σ → σ) : Action σ ε Unit := fun s => (.ok (), f s)

/-- A call on a part of the state. -/
def zoom {τ : Type} (get : τ → σ) (set : τ → σ → τ) (x : Action σ ε α) : Action τ ε α := fun t =>
  let (o, s) := x (get t)
  (o, set t s)

theorem run_result (x : Action σ ε α) (s : σ) :
    (result x).run s = match x.run s with
      | (.ok a, s') => (.ok (.ok a), s')
      | (.error e, s') => (.ok (.error e), s')
      | (.abort, s') => (.abort, s') := rfl

theorem exists_run_result_iff {x : Action σ ε α} {s : σ} :
    (∃ a, ((result x).run s).1 = .ok a) ↔ (x.run s).1 ≠ .abort := by
  rw [run_result]
  rcases x.run s with ⟨a | e | _, s'⟩ <;> simp

@[simp] theorem run_modify (f : σ → σ) (s : σ) :
    (modify f : Action σ ε Unit).run s = (.ok (), f s) := rfl

theorem run_zoom {τ : Type} (get : τ → σ) (set : τ → σ → τ) (x : Action σ ε α) (t : τ) :
    (zoom get set x).run t = ((x.run (get t)).1, set t (x.run (get t)).2) := rfl

/-- A process goes on with the state that a call leaves, unless the call ended it; `next` is what
it makes of the result `r`. -/
theorem next_eq_some_iff {next : Option σ} {r : Outcome ε α × σ} {t : σ}
    (hok : ∀ a s, r = (.ok a, s) → next = some s)
    (herror : ∀ e s, r = (.error e, s) → next = some s)
    (habort : ∀ s, r = (.abort, s) → next = none) :
    next = some t ↔ r.1.Returns ∧ t = r.2 := by
  obtain ⟨o, s⟩ := r
  cases o with
  | ok a =>
    rw [hok a s rfl, Option.some.injEq]
    exact ⟨fun h => ⟨trivial, h.symm⟩, fun h => h.2.symm⟩
  | error e =>
    rw [herror e s rfl, Option.some.injEq]
    exact ⟨fun h => ⟨trivial, h.symm⟩, fun h => h.2.symm⟩
  | abort =>
    rw [habort s rfl]
    exact ⟨fun h => absurd h (Option.some_ne_none t).symm, fun h => h.1.elim⟩

/-! ### What a call can do to the state -/

/-- Whatever the outcome, the call takes every state to one that is related to it. -/
def Within (R : σ → σ → Prop) (x : Action σ ε α) : Prop := ∀ s, R s (x.run s).2

/-- The call leaves every state as it is. -/
abbrev ReadsOnly (x : Action σ ε α) : Prop := Within (· = ·) x

section

variable {R : σ → σ → Prop} [IsPreorder σ R]

theorem within_lift (x : Outcome ε α) : Within R (lift x : Action σ ε α) := fun s => refl_of R s
theorem within_pure (a : α) : Within R (pure a : Action σ ε α) := fun s => refl_of R s
theorem within_fail (e : ε) : Within R (fail e : Action σ ε α) := fun s => refl_of R s
theorem within_reads (f : σ → Outcome ε α) : Within R (reads f) := fun s => refl_of R s

theorem within_orFail (x : Option α) (e : ε) : Within R (orFail x e : Action σ ε α) := by
  cases x <;> exact fun s => refl_of R s

/-- From one state: the second half may rely on the first one's success. -/
theorem rel_bind {x : Action σ ε α} {f : α → Action σ ε β} {s : σ} (hx : R s (x.run s).2)
    (hf : ∀ a s', x.run s = (.ok a, s') → R s' ((f a).run s').2) : R s ((x >>= f).run s).2 := by
  rw [run_bind]
  rcases hr : x.run s with ⟨a | e | _, s'⟩ <;> rw [hr] at hx
  · exact trans_of R hx (hf a s' hr)
  · exact hx
  · exact hx

omit [IsPreorder σ R] in
/-- From one state: the second half may be seen in another way than the first. -/
theorem rel_then {S : σ → σ → Prop} {x : Action σ ε α} {f : α → Action σ ε β} {s : σ}
    (htrans : ∀ s₁ s₂, R s s₁ → S s₁ s₂ → R s s₂) (hx : R s (x.run s).2)
    (hf : ∀ a, Within S (f a)) : R s ((x >>= f).run s).2 := by
  rw [run_bind]
  rcases hr : x.run s with ⟨a | e | _, s'⟩ <;> rw [hr] at hx
  · exact htrans _ _ hx (hf a s')
  · exact hx
  · exact hx

theorem within_bind_of_ok {x : Action σ ε α} {f : α → Action σ ε β} (hx : Within R x)
    (hf : ∀ s a s', x.run s = (.ok a, s') → R s' ((f a).run s').2) : Within R (x >>= f) :=
  fun s => rel_bind (hx s) (hf s)

theorem within_bind {x : Action σ ε α} {f : α → Action σ ε β} (hx : Within R x)
    (hf : ∀ a, Within R (f a)) : Within R (x >>= f) :=
  within_bind_of_ok hx fun _ a s' _ => hf a s'

omit [IsPreorder σ R] in
theorem rel_result {x : Action σ ε α} {s : σ} (hx : R s (x.run s).2) :
    R s ((result x).run s).2 := by
  rw [run_result]
  rcases hr : x.run s with ⟨a | e | _, s'⟩ <;> rw [hr] at hx <;> exact hx

omit [IsPreorder σ R] in
theorem rel_attempt {x : Action σ ε Unit} {s : σ} (hx : R s (x.run s).2) :
    R s ((attempt x).run s).2 := by
  rw [run_attempt]
  rcases hr : x.run s with ⟨a | e | _, s'⟩ <;> rw [hr] at hx <;> exact hx

omit [IsPreorder σ R] in
theorem within_attempt {x : Action σ ε Unit} (hx : Within R x) : Within R (attempt x) :=
  fun s => rel_attempt (hx s)

omit [IsPreorder σ R] in
theorem within_result {x : Action σ ε α} (hx : Within R x) : Within R (result x) :=
  fun s => rel_result (hx s)

end

/-! ### Calls that come to an end -/

/-- The call gives control back to its caller, whatever the state. -/
def AlwaysReturns (x : Action σ ε α) : Prop := ∀ s, (x.run s).1.Returns

theorem alwaysReturns_pure (a : α) : AlwaysReturns (pure a : Action σ ε α) := fun _ => trivial
theorem alwaysReturns_fail (e : ε) : AlwaysReturns (fail e : Action σ ε α) := fun _ => trivial

theorem alwaysReturns_orFail (x : Option α) (e : ε) :
    AlwaysReturns (orFail x e : Action σ ε α) := by
  cases x <;> exact fun _ => trivial

theorem alwaysReturns_reads {f : σ → α} :
    AlwaysReturns (reads fun s => .ok (f s) : Action σ ε α) := fun _ => trivial

/-- Where only a look at the state can end the process. -/
theorem returns_bind_reads {f : σ → Outcome ε α} {g : α → Action σ ε β}
    (hg : ∀ a, AlwaysReturns (g a)) (s : σ) :
    ((reads f >>= g).run s).1.Returns ↔ (f s).Returns := by
  rw [run_bind, run_reads]
  cases f s with
  | ok a => exact iff_of_true (hg a s) trivial
  | error e => exact Iff.rfl
  | abort => exact Iff.rfl

theorem alwaysReturns_bind {x : Action σ ε α} {f : α → Action σ ε β} (hx : AlwaysReturns x)
    (hf : ∀ a, AlwaysReturns (f a)) : AlwaysReturns (x >>= f) := by
  intro s
  have hxs := hx s
  rw [run_bind]
  rcases hr : x.run s with ⟨a | e | _, s'⟩ <;> rw [hr] at hxs
  · exact hf a s'
  · exact trivial
  · exact hxs.elim

end Action

end LoadBalance
