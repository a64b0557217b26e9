import LoadBalance.Bson.Basic
import LoadBalance.Library.Outcome

/-!
# Decoders that scan a document once

The decoders of the program share one shape: walk over the fields of a document, dispatch on the
key, reject the document when a recognised field has the wrong type, and count the recognised
fields.  Such a decoder is a table of `Field`s over the record of its local variables; fields
without an entry are skipped.  `error ()` is a rejected document, `abort` a null pointer handed to
the library.
-/

namespace LoadBalance

variable {σ τ : Type}

/-- One branch of a decoder: the key, whether it counts, and what it does to the locals. -/
structure Field (σ : Type) where
  key : String
  counted : Bool
  read : σ → Bson → Outcome Unit σ

/-! ### Branches -/

namespace Field

def onOid (f : σ → Oid → σ) (s : σ) : Bson → Outcome Unit σ
  | .oid o => .ok (f s o)
  | _ => .error ()

/-- The text is read as a C string. -/
def onUtf8 (f : σ → String → σ) (s : σ) : Bson → Outcome Unit σ
  | .utf8 x => .ok (f s (cstr x))
  | _ => .error ()

def onInt32 (f : σ → Int32 → σ) (s : σ) : Bson → Outcome Unit σ
  | .int32 i => .ok (f s i)
  | _ => .error ()

def onBool (f : σ → Bool → σ) (s : σ) : Bson → Outcome Unit σ
  | .bool b => .ok (f s b)
  | _ => .error ()

def onDateTime (f : σ → Int64 → σ) (s : σ) : Bson → Outcome Unit σ
  | .dateTime t => .ok (f s t)
  | _ => .error ()

def onDouble (f : σ → UInt64 → σ) (s : σ) : Bson → Outcome Unit σ
  | .double x => .ok (f s x)
  | _ => .error ()

def onArray (f : σ → List Bson → Outcome Unit σ) (s : σ) : Bson → Outcome Unit σ
  | .array a => f s a
  | _ => .error ()

end Field

/-- A key that stands once among the branches names one of them. -/
theorem Field.eq_of_key_eq {fs : List (Field σ)} {k : String}
    (hcount : (fs.map Field.key).count k ≤ 1) {fd fd' : Field σ}
    (hfd : fd ∈ fs) (hfd' : fd' ∈ fs) (hkey : fd.key = k) (hkey' : fd'.key = k) : fd = fd' := by
  induction fs with
  | nil => cases hfd
  | cons x fs ih =>
    have hmem : ∀ y ∈ fs, y.key = k → 1 ≤ (fs.map Field.key).count k := fun y hy hyk =>
      List.count_pos_iff.mpr (hyk ▸ List.mem_map_of_mem hy)
    rw [List.map_cons, List.count_cons] at hcount
    rcases List.mem_cons.mp hfd with rfl | htail
    · rcases List.mem_cons.mp hfd' with heq | htail'
      · exact heq.symm
      · have hone := hmem _ htail' hkey'
        simp only [hkey, beq_self_eq_true, if_true] at hcount
        omega
    · rcases List.mem_cons.mp hfd' with rfl | htail'
      · have hone := hmem _ htail hkey
        simp only [hkey', beq_self_eq_true, if_true] at hcount
        omega
      · exact ih (by omega) htail htail'

/-! ### The scan -/

/-- One field of the document: the first branch with its key, none for an unknown key. -/
def scanField (fs : List (Field σ)) (s : σ × ℕ) (f : String × Bson) : Outcome Unit (σ × ℕ) :=
  match fs.find? (·.key = f.1) with
  | none => .ok s
  | some fd => do
    let s' ← fd.read s.1 f.2
    .ok (s', if fd.counted then s.2 + 1 else s.2)

/-- All fields of the document in their order, from the initial locals. -/
def scanDoc (fs : List (Field σ)) (s : σ) (d : Doc) : Outcome Unit (σ × ℕ) :=
  d.foldlM (scanField fs) (s, 0)

variable {fs : List (Field σ)} {s s' : σ × ℕ} {f : String × Bson} {d : Doc}

theorem scanField_cases (h : scanField fs s f = .ok s') :
    (fs.find? (·.key = f.1) = none ∧ s' = s) ∨
      ∃ fd, fs.find? (·.key = f.1) = some fd ∧ fd.read s.1 f.2 = .ok s'.1 := by
  unfold scanField at h
  split at h
  · next hn => exact Or.inl ⟨hn, by simpa using h.symm⟩
  · next fd hfd =>
    obtain ⟨t, ht, hs⟩ := Outcome.bind_eq_ok.mp h
    refine Or.inr ⟨fd, hfd, ?_⟩
    simp only [Outcome.ok.injEq] at hs
    rw [ht, ← hs]

/-- In a walk that gets to the end each field is taken in some state. -/
theorem scanField_of_mem (h : d.foldlM (scanField fs) s = .ok s') {f : String × Bson}
    (hf : f ∈ d) : ∃ t t', scanField fs t f = .ok t' := by
  induction d generalizing s with
  | nil => cases hf
  | cons f' d ih =>
    rw [List.foldlM_cons] at h
    obtain ⟨t, ht, hrest⟩ := Outcome.bind_eq_ok.mp h
    rcases List.mem_cons.mp hf with rfl | hmem
    · exact ⟨s, t, ht⟩
    · exact ih hrest hmem

/-- A walk whose branches hand no null pointer on does not end in one. -/
theorem scanDoc_ne_abort (hread : ∀ fd ∈ fs, ∀ t v, fd.read t v ≠ .abort) (t : σ) (d : Doc) :
    scanDoc fs t d ≠ .abort := by
  unfold scanDoc
  generalize (t, 0) = s
  induction d generalizing s with
  | nil => simp
  | cons f d ih =>
    rw [List.foldlM_cons, ne_eq, Outcome.bind_eq_abort]
    rintro (h | ⟨s', -, h⟩)
    · unfold scanField at h
      split at h
      · cases h
      · next fd hfd =>
        rcases Outcome.bind_eq_abort.mp h with h | ⟨_, _, h⟩
        · exact hread fd (List.mem_of_find?_eq_some hfd) _ _ h
        · cases h
    · exact ih s' h

/-- A component of the locals that only the branch of the key `k` writes keeps its value over the
fields with other keys. -/
theorem foldlM_scanField_frame (proj : σ → τ) (k : String)
    (hframe : ∀ fd ∈ fs, fd.key ≠ k → ∀ t v t', fd.read t v = .ok t' → proj t' = proj t)
    (hd : k ∉ d.keys) (h : d.foldlM (scanField fs) s = .ok s') : proj s'.1 = proj s.1 := by
  induction d generalizing s with
  | nil => simp only [List.foldlM_nil, Outcome.pure_eq_ok, Outcome.ok.injEq] at h; rw [h]
  | cons f d ih =>
    rw [List.foldlM_cons] at h
    obtain ⟨t, ht, hrest⟩ := Outcome.bind_eq_ok.mp h
    simp only [Doc.keys, List.map_cons, List.mem_cons, not_or] at hd
    have h1 := ih hd.2 hrest
    rcases scanField_cases ht with ⟨-, rfl⟩ | ⟨fd, hfd, hread⟩
    · exact h1
    · have hkey : fd.key = f.1 := by simpa using List.find?_some hfd
      rw [h1, hframe fd (List.mem_of_find?_eq_some hfd) (fun hk => hd.1 (hk ▸ hkey)) _ _ _ hread]

/-- A property of the locals that holds at the start and that no branch breaks on the fields of
the document holds at the end. -/
theorem foldlM_scanField_invariant (P : σ → Prop)
    (hstep : ∀ f ∈ d, ∀ fd ∈ fs, fd.key = f.1 → ∀ t t', P t → fd.read t f.2 = .ok t' → P t')
    (h : d.foldlM (scanField fs) s = .ok s') (hs : P s.1) : P s'.1 := by
  induction d generalizing s with
  | nil => simp only [List.foldlM_nil, Outcome.pure_eq_ok, Outcome.ok.injEq] at h; rwa [← h]
  | cons f d ih =>
    rw [List.foldlM_cons] at h
    obtain ⟨t, ht, hrest⟩ := Outcome.bind_eq_ok.mp h
    refine ih (fun f' hf' => hstep f' (List.mem_cons_of_mem _ hf')) hrest ?_
    rcases scanField_cases ht with ⟨-, rfl⟩ | ⟨fd, hfd, hread⟩
    · exact hs
    · have hkey : fd.key = f.1 := by simpa using List.find?_some hfd
      exact hstep f (List.mem_cons_self ..) fd (List.mem_of_find?_eq_some hfd) hkey _ _ hs hread

/-- A component of the locals that only the branch `fd₀` writes, by appending to it, collects what
the fields with its key give, in their order. -/
theorem foldlM_scanField_collect (proj : σ → List τ) (gives : Bson → List τ) {fd₀ : Field σ}
    (hmem : fd₀ ∈ fs) (hunique : ∀ fd ∈ fs, fd.key = fd₀.key → fd = fd₀)
    (hframe : ∀ fd ∈ fs, fd.key ≠ fd₀.key → ∀ t v t', fd.read t v = .ok t' → proj t' = proj t)
    (hgives : ∀ t v t', fd₀.read t v = .ok t' → proj t' = proj t ++ gives v)
    (h : d.foldlM (scanField fs) s = .ok s') :
    proj s'.1 = proj s.1 ++ (d.filter fun f => f.1 = fd₀.key).flatMap fun f => gives f.2 := by
  induction d generalizing s with
  | nil =>
    simp only [List.foldlM_nil, Outcome.pure_eq_ok, Outcome.ok.injEq] at h
    rw [h, List.filter_nil, List.flatMap_nil, List.append_nil]
  | cons f d ih =>
    rw [List.foldlM_cons] at h
    obtain ⟨t, ht, hrest⟩ := Outcome.bind_eq_ok.mp h
    rw [ih hrest]
    by_cases hkey : f.1 = fd₀.key
    · -- The field is read by the branch that appends.
      rw [List.filter_cons_of_pos (by simpa using hkey), List.flatMap_cons, ← List.append_assoc]
      congr 1
      rcases scanField_cases ht with ⟨hnone, -⟩ | ⟨fd, hfd, hread⟩
      · exact absurd (by simpa using hkey.symm) (List.find?_eq_none.mp hnone fd₀ hmem)
      · have hfdkey : fd.key = f.1 := by simpa using List.find?_some hfd
        obtain rfl := hunique fd (List.mem_of_find?_eq_some hfd) (hfdkey.trans hkey)
        exact hgives _ _ _ hread
    · rw [List.filter_cons_of_neg (by simpa using hkey)]
      congr 1
      rcases scanField_cases ht with ⟨-, rfl⟩ | ⟨fd, hfd, hread⟩
      · rfl
      · have hfdkey : fd.key = f.1 := by simpa using List.find?_some hfd
        exact hframe fd (List.mem_of_find?_eq_some hfd) (fun hk => hkey (hfdkey ▸ hk)) _ _ _ hread

/-! ### How a walk ends -/

/-- Whether the branch takes a value is not a matter of the locals. -/
def Field.Uniform (fd : Field σ) : Prop := ∀ s t v, (fd.read s v).void = (fd.read t v).void

namespace Field

variable {key : String} {counted : Bool}

theorem uniform_onOid {f : σ → Oid → σ} : Uniform ⟨key, counted, onOid f⟩ := by
  intro s t v
  cases v <;> rfl

theorem uniform_onUtf8 {f : σ → String → σ} : Uniform ⟨key, counted, onUtf8 f⟩ := by
  intro s t v
  cases v <;> rfl

theorem uniform_onInt32 {f : σ → Int32 → σ} : Uniform ⟨key, counted, onInt32 f⟩ := by
  intro s t v
  cases v <;> rfl

theorem uniform_onBool {f : σ → Bool → σ} : Uniform ⟨key, counted, onBool f⟩ := by
  intro s t v
  cases v <;> rfl

theorem uniform_onDateTime {f : σ → Int64 → σ} : Uniform ⟨key, counted, onDateTime f⟩ := by
  intro s t v
  cases v <;> rfl

theorem uniform_onArray {f : σ → List Bson → Outcome Unit σ}
    (h : ∀ s t a, (f s a).void = (f t a).void) : Uniform ⟨key, counted, onArray f⟩ := by
  intro s t v
  cases v with
  | array a => exact h s t a
  | _ => rfl

end Field

/-- Two fields of one name that are taken alike. -/
def TakenAlike (fs : List (Field σ)) (f f' : String × Bson) : Prop :=
  f'.1 = f.1 ∧ ∀ fd ∈ fs, fd.key = f.1 → ∀ s t, (fd.read s f.2).void = (fd.read t f'.2).void

theorem takenAlike_refl (hfs : ∀ fd ∈ fs, fd.Uniform) (f : String × Bson) : TakenAlike fs f f :=
  ⟨rfl, fun fd hfd _ s t => hfs fd hfd s t f.2⟩

/-- Walks over fields that are taken alike end alike, and with the same count. -/
theorem void_foldlM_congr {α : Type} {d' : Doc} (hd : List.Forall₂ (TakenAlike fs) d d') {t t' : σ}
    {n : ℕ} {g : σ × ℕ → Outcome Unit α} (hg : ∀ t t' n, (g (t, n)).void = (g (t', n)).void) :
    (d.foldlM (scanField fs) (t, n) >>= g).void =
      (d'.foldlM (scanField fs) (t', n) >>= g).void := by
  induction hd generalizing t t' n with
  | nil => exact hg t t' n
  | @cons f f' d d' hf _ ih =>
    obtain ⟨hkey, hread⟩ := hf
    rw [List.foldlM_cons, List.foldlM_cons, bind_assoc, bind_assoc]
    unfold scanField
    rw [hkey]
    cases hfd : fs.find? (·.key = f.1) with
    | none => exact ih
    | some fd =>
      have hfdkey : fd.key = f.1 := by simpa using List.find?_some hfd
      dsimp only
      rw [bind_assoc, bind_assoc]
      exact Outcome.void_bind_congr (hread fd (List.mem_of_find?_eq_some hfd) hfdkey t t')
        fun _ _ _ _ => ih

/-- A field at the end that is taken and not counted makes no difference. -/
theorem void_foldlM_append {α : Type} (fd : Field σ) (hfd : fs.find? (·.key = f.1) = some fd)
    (hcounted : fd.counted = false) (hread : ∀ t, ∃ t', fd.read t f.2 = .ok t') {t : σ} {n : ℕ}
    {g : σ × ℕ → Outcome Unit α} (hg : ∀ t t' n, (g (t, n)).void = (g (t', n)).void) :
    ((d ++ [f]).foldlM (scanField fs) (t, n) >>= g).void =
      (d.foldlM (scanField fs) (t, n) >>= g).void := by
  rw [List.foldlM_append, bind_assoc]
  refine Outcome.void_bind_congr rfl fun s s' hs hs' => ?_
  obtain rfl := Outcome.ok.inj (hs.symm.trans hs')
  obtain ⟨t', ht'⟩ := hread s.1
  have hf : scanField fs s f = .ok (t', s.2) := by
    unfold scanField
    rw [hfd]
    dsimp only
    rw [ht', hcounted]
    rfl
  rw [List.foldlM_cons, hf]
  exact hg t' s.1 s.2

/-! ### Walks that stay alike -/

/-- The fields have one key, and each branch takes them alike from related locals. -/
def AlikeField (fs : List (Field σ)) (S : σ → σ → Prop) (f f' : String × Bson) : Prop :=
  f'.1 = f.1 ∧ ∀ fd ∈ fs, fd.key = f.1 → ∀ s t, S s t →
    Outcome.Rel S (fd.read s f.2) (fd.read t f'.2)

theorem rel_scanField {S : σ → σ → Prop} {f' : String × Bson} (hf : AlikeField fs S f f')
    {s t : σ} {n : ℕ} (hs : S s t) :
    Outcome.Rel (fun x y => S x.1 y.1 ∧ x.2 = y.2) (scanField fs (s, n) f)
      (scanField fs (t, n) f') := by
  obtain ⟨hkey, hread⟩ := hf
  unfold scanField
  rw [hkey]
  cases hfd : fs.find? (·.key = f.1) with
  | none => exact .ok ⟨hs, rfl⟩
  | some fd =>
    have hfdkey : fd.key = f.1 := by simpa using List.find?_some hfd
    exact (hread fd (List.mem_of_find?_eq_some hfd) hfdkey s t hs).bind fun _ _ h => .ok ⟨h, rfl⟩

/-- Walks over fields that are taken alike end alike, with related locals and the same count. -/
theorem rel_foldlM_scanField {S : σ → σ → Prop} {d' : Doc}
    (hd : List.Forall₂ (AlikeField fs S) d d') {s t : σ} {n : ℕ} (hs : S s t) :
    Outcome.Rel (fun x y => S x.1 y.1 ∧ x.2 = y.2) (d.foldlM (scanField fs) (s, n))
      (d'.foldlM (scanField fs) (t, n)) := by
  induction hd generalizing s t n with
  | nil => exact .ok ⟨hs, rfl⟩
  | @cons f f' d d' hf _ ih =>
    rw [List.foldlM_cons, List.foldlM_cons]
    refine (rel_scanField hf hs).bind ?_
    rintro ⟨s', n'⟩ ⟨t', m'⟩ ⟨hs', rfl⟩
    exact ih hs'

/-! ### Locals that are overwritten -/

section overwrite

variable {α : Type} (w : α → σ → σ)

/-- The branch neither looks at what `w` writes nor writes it. -/
def Field.Keeps (fd : Field σ) : Prop :=
  ∀ a s v, fd.read (w a s) v = fd.read s v >>= fun t => .ok (w a t)

/-- The branch writes over what `w` wrote, without a look at it. -/
def Field.Overwrites (fd : Field σ) : Prop := ∀ a s v, fd.read (w a s) v = fd.read s v

namespace Field

variable {w} {key : String} {counted : Bool}

theorem keeps_onOid {f : σ → Oid → σ} (h : ∀ a s o, f (w a s) o = w a (f s o)) :
    Keeps w ⟨key, counted, onOid f⟩ := by
  intro a s v
  cases v with
  | oid o => exact congrArg Outcome.ok (h a s o)
  | _ => rfl

theorem keeps_onUtf8 {f : σ → String → σ} (h : ∀ a s x, f (w a s) x = w a (f s x)) :
    Keeps w ⟨key, counted, onUtf8 f⟩ := by
  intro a s v
  cases v with
  | utf8 x => exact congrArg Outcome.ok (h a s _)
  | _ => rfl

theorem keeps_onInt32 {f : σ → Int32 → σ} (h : ∀ a s i, f (w a s) i = w a (f s i)) :
    Keeps w ⟨key, counted, onInt32 f⟩ := by
  intro a s v
  cases v with
  | int32 i => exact congrArg Outcome.ok (h a s i)
  | _ => rfl

theorem keeps_onBool {f : σ → Bool → σ} (h : ∀ a s b, f (w a s) b = w a (f s b)) :
    Keeps w ⟨key, counted, onBool f⟩ := by
  intro a s v
  cases v with
  | bool b => exact congrArg Outcome.ok (h a s b)
  | _ => rfl

theorem keeps_onDateTime {f : σ → Int64 → σ} (h : ∀ a s t, f (w a s) t = w a (f s t)) :
    Keeps w ⟨key, counted, onDateTime f⟩ := by
  intro a s v
  cases v with
  | dateTime t => exact congrArg Outcome.ok (h a s t)
  | _ => rfl

theorem keeps_onArray {f : σ → List Bson → Outcome Unit σ}
    (h : ∀ a s l, f (w a s) l = f s l >>= fun t => .ok (w a t)) :
    Keeps w ⟨key, counted, onArray f⟩ := by
  intro a s v
  cases v with
  | array l => exact h a s l
  | _ => rfl

theorem keeps_onDouble {f : σ → UInt64 → σ} (h : ∀ a s x, f (w a s) x = w a (f s x)) :
    Keeps w ⟨key, counted, onDouble f⟩ := by
  intro a s v
  cases v with
  | double x => exact congrArg Outcome.ok (h a s x)
  | _ => rfl

theorem overwrites_onInt32 {f : σ → Int32 → σ} (h : ∀ a s i, f (w a s) i = f s i) :
    Overwrites w ⟨key, counted, onInt32 f⟩ := by
  intro a s v
  cases v with
  | int32 i => exact congrArg Outcome.ok (h a s i)
  | _ => rfl

theorem overwrites_onDateTime {f : σ → Int64 → σ} (h : ∀ a s t, f (w a s) t = f s t) :
    Overwrites w ⟨key, counted, onDateTime f⟩ := by
  intro a s v
  cases v with
  | dateTime t => exact congrArg Outcome.ok (h a s t)
  | _ => rfl

end Field

/-- A field whose branch keeps the component. -/
theorem scanField_keeps {f : String × Bson} (hkeeps : ∀ fd ∈ fs, fd.key = f.1 → fd.Keeps w)
    (a : α) (s : σ) (n : ℕ) :
    scanField fs (w a s, n) f = scanField fs (s, n) f >>= fun r => .ok (w a r.1, r.2) := by
  unfold scanField
  cases hfd : fs.find? (·.key = f.1) with
  | none => rfl
  | some fd =>
    have hkey : fd.key = f.1 := by simpa using List.find?_some hfd
    dsimp only
    rw [hkeeps fd (List.mem_of_find?_eq_some hfd) hkey, bind_assoc, bind_assoc]
    rfl

/-- A component that no branch writes is after the walk what it was before. -/
theorem scanDoc_keeps (hkeeps : ∀ fd ∈ fs, fd.Keeps w) (a : α) (s : σ) (d : Doc) :
    scanDoc fs (w a s) d = scanDoc fs s d >>= fun r => .ok (w a r.1, r.2) := by
  unfold scanDoc
  generalize 0 = n
  induction d generalizing s n with
  | nil => rfl
  | cons f d ih =>
    rw [List.foldlM_cons, List.foldlM_cons, bind_assoc,
      scanField_keeps w (fun fd hfd _ => hkeeps fd hfd), bind_assoc]
    refine congrArg _ (funext fun r => ?_)
    rw [Outcome.ok_bind, ih]

/-- Of a component that only the branch of the key `k` writes, what was in it before is still there
after the walk exactly when the document does not have the key. -/
theorem scanDoc_overwrite {k : String} (hknown : (fs.find? (·.key = k)).isSome = true)
    (hkeeps : ∀ fd ∈ fs, fd.key ≠ k → fd.Keeps w) (hover : ∀ fd ∈ fs, fd.key = k → fd.Overwrites w)
    (a : α) (s : σ) (d : Doc) :
    scanDoc fs (w a s) d = scanDoc fs s d >>= fun r =>
      .ok (if k ∈ d.keys then r.1 else w a r.1, r.2) := by
  unfold scanDoc
  generalize 0 = n
  induction d generalizing s n with
  | nil => rfl
  | cons f d ih =>
    rw [List.foldlM_cons, List.foldlM_cons, bind_assoc]
    by_cases hk : f.1 = k
    · -- From here on the walk does not know what was there.
      have hsame : scanField fs (w a s, n) f = scanField fs (s, n) f := by
        obtain ⟨fd, hfd⟩ := Option.isSome_iff_exists.mp hknown
        have hkey : fd.key = k := by simpa using List.find?_some hfd
        unfold scanField
        rw [hk, hfd]
        dsimp only
        rw [hover fd (List.mem_of_find?_eq_some hfd) hkey]
      have hmem : k ∈ Doc.keys (f :: d) := hk ▸ List.mem_cons_self
      simp only [if_pos hmem]
      rw [hsame]
      refine congrArg _ (funext fun r => ?_)
      exact (bind_pure _).symm
    · have hmem : k ∈ Doc.keys (f :: d) ↔ k ∈ Doc.keys d := by
        show k ∈ f.1 :: Doc.keys d ↔ _
        rw [List.mem_cons, or_iff_right (Ne.symm hk)]
      rw [scanField_keeps w (fun fd hfd hkey => hkeeps fd hfd fun h => hk (hkey.symm.trans h)),
        bind_assoc]
      refine congrArg _ (funext fun r => ?_)
      rw [Outcome.ok_bind, ih]
      simp only [hmem]

end overwrite

end LoadBalance
