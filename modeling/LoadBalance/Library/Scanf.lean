import Mathlib.Algebra.Order.Ring.Int
import Mathlib.Data.List.TakeWhile
import Mathlib.Tactic.Common

/-!
# Formatted input

The conversions `%s` and `%llu` of C's `scanf`, with a maximal width of the number, and `fgets`.
A number of more digits than the width is read as several numbers (`pieces`), so of a row of numbers
the conversions give the pieces of all of them one after another (`scanNumbers_row`), and the
numbers themselves as long as they fit the width.
-/

namespace LoadBalance

/-! ### Conversions -/

/-- `isspace`, in the C locale. -/
def isSpace (c : Char) : Bool := [9, 10, 11, 12, 13, 32].contains c.toNat

/-- `%s`: the word after the white space, and what comes after it. -/
def scanWord (s : List Char) : Option (List Char × List Char) :=
  let s := s.dropWhile isSpace
  let word := s.takeWhile fun c => !isSpace c
  if word = [] then none else some (word, s.drop word.length)

/-- What `strtoull` makes of digits: the greatest number when they give a greater one. -/
def unsignedValue (negative : Bool) (digits : List Char) : UInt64 :=
  let n := Nat.ofDigitChars 10 digits 0
  if 2 ^ 64 ≤ n then UInt64.ofNat (2 ^ 64 - 1)
  else if negative then 0 - UInt64.ofNat n else UInt64.ofNat n

/-- Whether a number is negative, how much room is left for its digits, and what comes after its
sign. -/
def scanSign (w : ℕ) : List Char → Bool × ℕ × List Char
  | [] => (false, w, [])
  | c :: s =>
    if c = '+' then (false, w - 1, s) else if c = '-' then (true, w - 1, s) else (false, w, c :: s)

/-- `%wllu`: white space is passed over, and the sign counts for the width. -/
def scanNumber (w : ℕ) (s : List Char) : Option (UInt64 × List Char) :=
  let (negative, w, s) := scanSign w (s.dropWhile isSpace)
  let digits := (s.take w).takeWhile Char.isDigit
  if digits = [] then none else some (unsignedValue negative digits, s.drop digits.length)

/-- At most `n` numbers one after another, up to the first conversion that fails. -/
def scanNumbers (w : ℕ) : ℕ → List Char → List UInt64
  | 0, _ => []
  | n + 1, s => match scanNumber w s with
    | none => []
    | some (v, rest) => v :: scanNumbers w n rest

/-- The lines as `fgets` gives them to a buffer for `n` characters, which has `line` in it: a line
that is longer comes in several parts. -/
def fgetsLines (n : ℕ) (line : List Char) : List Char → List (List Char)
  | [] => if line = [] then [] else [line]
  | c :: s =>
    if c = '\n' ∨ line.length + 1 = n then (line ++ [c]) :: fgetsLines n [] s
    else fgetsLines n (line ++ [c]) s

/-! ### Lines -/

/-- A line that fits into the buffer comes as a whole. -/
theorem fgetsLines_line {n : ℕ} (l : List Char) {line : List Char} (hl : '\n' ∉ l)
    (hn : line.length + l.length + 1 ≤ n) (s : List Char) :
    fgetsLines n line (l ++ '\n' :: s) = (line ++ l ++ ['\n']) :: fgetsLines n [] s := by
  induction l generalizing line with
  | nil =>
    rw [List.nil_append, fgetsLines, if_pos (Or.inl rfl), List.append_nil]
  | cons c l ih =>
    rw [List.mem_cons, not_or] at hl
    rw [List.length_cons] at hn
    have hnot : ¬(c = '\n' ∨ line.length + 1 = n) := by
      rintro (hc | hlen)
      · exact hl.1 hc.symm
      · omega
    rw [List.cons_append, fgetsLines, if_neg hnot, ih hl.2 (by simp; omega)]
    simp

/-! ### Words -/

/-- A word after blanks. -/
theorem scanWord_blanks (k : ℕ) {word s : List Char} (hne : word ≠ [])
    (hword : ∀ c ∈ word, isSpace c = false) (hs : ∀ c ∈ s.head?, isSpace c = true) :
    scanWord (List.replicate k ' ' ++ (word ++ s)) = some (word, s) := by
  have hdrop : (List.replicate k ' ' ++ (word ++ s)).dropWhile isSpace = word ++ s := by
    induction k with
    | zero =>
      obtain ⟨c, word, rfl⟩ := List.exists_cons_of_ne_nil hne
      exact List.dropWhile_cons_of_neg (by simp [hword c List.mem_cons_self])
    | succ k ih =>
      rw [List.replicate_succ, List.cons_append, List.dropWhile_cons_of_pos (by decide), ih]
  have htake : (word ++ s).takeWhile (fun c => !isSpace c) = word := by
    rw [List.takeWhile_append_of_pos fun c hc => by simp [hword c hc]]
    cases s with
    | nil => simp
    | cons c s =>
      rw [List.takeWhile_cons_of_neg (by simp [hs c rfl]), List.append_nil]
  unfold scanWord
  rw [hdrop]
  dsimp only
  rw [htake, if_neg hne, List.drop_left]

/-! ### Numbers -/

/-- The digits that are read as one number each, when there is room for `w`. -/
def pieces (w : ℕ) : List Char → List (List Char)
  | [] => []
  | c :: digits => (c :: digits.take (w - 1)) :: pieces w (digits.drop (w - 1))
termination_by digits => digits.length
decreasing_by
  rw [List.length_drop, List.length_cons]
  omega

/-- Digits that fit are one piece. -/
theorem pieces_of_le {w : ℕ} {digits : List Char} (hne : digits ≠ []) (hw : digits.length ≤ w) :
    pieces w digits = [digits] := by
  obtain ⟨c, digits, rfl⟩ := List.exists_cons_of_ne_nil hne
  rw [List.length_cons] at hw
  rw [pieces, List.take_of_length_le (by omega), List.drop_eq_nil_of_le (by omega), pieces]

/-- The number that digits stand for. -/
def pieceValue (digits : List Char) : UInt64 := unsignedValue false digits

/-- Blanks before a number do not matter. -/
theorem scanNumbers_blanks (w n k : ℕ) (s : List Char) :
    scanNumbers w n (List.replicate k ' ' ++ s) = scanNumbers w n s := by
  cases n with
  | zero => rfl
  | succ n =>
    have hdrop : (List.replicate k ' ' ++ s).dropWhile isSpace = s.dropWhile isSpace := by
      induction k with
      | zero => rfl
      | succ k ih =>
        rw [List.replicate_succ, List.cons_append, List.dropWhile_cons_of_pos (by decide), ih]
    unfold scanNumbers scanNumber
    rw [hdrop]

theorem not_isSpace_of_isDigit {c : Char} (hc : c.isDigit = true) : isSpace c = false := by
  rw [Char.isDigit, Bool.and_eq_true, decide_eq_true_eq, decide_eq_true_eq] at hc
  obtain ⟨hlo, hhi⟩ := hc
  have hge : 48 ≤ c.toNat := hlo
  unfold isSpace
  simp
  omega

/-- One number: as many of its digits as there is room for. -/
theorem scanNumber_digits {w : ℕ} {c : Char} {digits s : List Char} (hw : 0 < w)
    (hdigits : ∀ d ∈ c :: digits, d.isDigit = true) (hs : ∀ d ∈ s.head?, d.isDigit = false) :
    scanNumber w (c :: digits ++ s) =
      some (pieceValue (c :: digits.take (w - 1)), digits.drop (w - 1) ++ s) := by
  obtain ⟨hc, hrest⟩ := List.forall_mem_cons.mp hdigits
  have hspace : (c :: digits ++ s).dropWhile isSpace = c :: digits ++ s :=
    List.dropWhile_cons_of_neg (by simp [not_isSpace_of_isDigit hc])
  have htaken : ((c :: digits ++ s).take w).takeWhile Char.isDigit = c :: digits.take (w - 1) := by
    obtain ⟨w, rfl⟩ := Nat.exists_eq_succ_of_ne_zero hw.ne'
    rw [Nat.succ_eq_add_one, Nat.add_sub_cancel, List.cons_append, List.take_succ_cons,
      List.takeWhile_cons_of_pos hc, List.take_append,
      List.takeWhile_append_of_pos fun d hd => hrest d (List.mem_of_mem_take hd)]
    -- After the digits there is no more room, or something else.
    have hnil : (s.take (w - digits.length)).takeWhile Char.isDigit = [] := by
      cases s with
      | nil => simp
      | cons d s =>
        cases w - digits.length with
        | zero => rfl
        | succ m => exact List.takeWhile_cons_of_neg (by simp [hs d rfl])
    rw [hnil, List.append_nil]
  have hsign : scanSign w (c :: digits ++ s) = (false, w, c :: digits ++ s) := by
    have hplus : c ≠ '+' := by
      rintro rfl
      cases hc
    have hminus : c ≠ '-' := by
      rintro rfl
      cases hc
    rw [List.cons_append, scanSign, if_neg hplus, if_neg hminus]
  have hdrop : (c :: digits ++ s).drop (c :: digits.take (w - 1)).length =
      digits.drop (w - 1) ++ s := by
    rw [List.length_cons, List.cons_append, List.drop_succ_cons, List.length_take]
    by_cases hle : w - 1 ≤ digits.length
    · rw [Nat.min_eq_left hle, List.drop_append_of_le_length hle]
    · rw [Nat.min_eq_right (by omega), List.drop_left, List.drop_eq_nil_of_le (by omega),
        List.nil_append]
  unfold scanNumber
  rw [hspace, hsign]
  dsimp only
  rw [htaken, if_neg (List.cons_ne_nil _ _), hdrop, pieceValue]

/-- A row of numbers, each of them after at least one blank. -/
def row : List (ℕ × List Char) → List Char
  | [] => []
  | (k, digits) :: rest => List.replicate (k + 1) ' ' ++ (digits ++ row rest)

/-- The pieces of a row. -/
def rowPieces (w : ℕ) (l : List (ℕ × List Char)) : List (List Char) :=
  l.flatMap fun f => pieces w f.2

/-- The digits of one number are read piece by piece. -/
theorem scanNumbers_digits {w : ℕ} (hw : 0 < w) (n : ℕ) {digits s : List Char}
    (hdigits : ∀ d ∈ digits, d.isDigit = true) (hs : ∀ d ∈ s.head?, d.isDigit = false) :
    scanNumbers w n (digits ++ s) = ((pieces w digits).map pieceValue).take n ++
      scanNumbers w (n - (pieces w digits).length) s := by
  induction digits using pieces.induct w generalizing n with
  | case1 => simp [pieces]
  | case2 c digits ih =>
    cases n with
    | zero => simp [scanNumbers]
    | succ n =>
      have hrest : ∀ d ∈ digits.drop (w - 1), d.isDigit = true := fun d hd =>
        hdigits d (List.mem_cons_of_mem _ (List.mem_of_mem_drop hd))
      rw [scanNumbers, scanNumber_digits hw hdigits hs]
      dsimp only
      rw [ih n hrest, pieces, List.map_cons, List.take_succ_cons, List.length_cons,
        Nat.add_sub_add_right, List.cons_append]

/-- The numbers of a row are read piece by piece, one after another. -/
theorem scanNumbers_row {w : ℕ} (hw : 0 < w) (n : ℕ) {l : List (ℕ × List Char)} {s : List Char}
    (hl : ∀ f ∈ l, ∀ d ∈ f.2, d.isDigit = true) (hs : ∀ d ∈ s.head?, d.isDigit = false) :
    scanNumbers w n (row l ++ s) = ((rowPieces w l).map pieceValue).take n ++
      scanNumbers w (n - (rowPieces w l).length) s := by
  induction l generalizing n with
  | nil => simp [row, rowPieces]
  | cons f l ih =>
    obtain ⟨k, digits⟩ := f
    obtain ⟨hdigits, hl'⟩ := List.forall_mem_cons.mp hl
    have hnext : ∀ d ∈ (row l ++ s).head?, d.isDigit = false := by
      cases l with
      | nil => exact hs
      | cons f l =>
        obtain ⟨k', digits'⟩ := f
        intro d hd
        obtain rfl : ' ' = d := Option.some.inj hd
        rfl
    rw [row, List.append_assoc, List.append_assoc, scanNumbers_blanks,
      scanNumbers_digits hw n hdigits hnext, ih _ hl']
    unfold rowPieces
    rw [List.flatMap_cons, List.map_append, List.take_append, List.length_map, List.length_append,
      Nat.sub_sub, List.append_assoc]

/-! ### Numbers in decimal -/

/-- A number as it is printed. -/
abbrev decimal (n : ℕ) : List Char := Nat.toDigits 10 n

theorem isDigit_of_mem_decimal {n : ℕ} {d : Char} (hd : d ∈ decimal n) : d.isDigit = true :=
  Nat.isDigit_of_mem_toDigits (by decide) (by decide) hd

theorem toNat_unsignedValue {digits : List Char} (h : Nat.ofDigitChars 10 digits 0 < 2 ^ 64) :
    (pieceValue digits).toNat = Nat.ofDigitChars 10 digits 0 := by
  unfold pieceValue unsignedValue
  rw [if_neg (by omega), if_neg Bool.false_ne_true]
  exact UInt64.toNat_ofNat_of_lt h

/-- So many digits are below so many powers of ten. -/
theorem ofDigitChars_lt {l : List Char} (hl : ∀ d ∈ l, d.isDigit = true) (init : ℕ) :
    Nat.ofDigitChars 10 l init < (init + 1) * 10 ^ l.length := by
  induction l generalizing init with
  | nil => simp
  | cons d l ih =>
    obtain ⟨hd, hl'⟩ := List.forall_mem_cons.mp hl
    have hdigit : d.toNat - '0'.toNat ≤ 9 := by
      rw [Char.isDigit, Bool.and_eq_true, decide_eq_true_eq, decide_eq_true_eq] at hd
      have hle : d.toNat ≤ 57 := hd.2
      have hzero : '0'.toNat = 48 := rfl
      omega
    have hstep : 10 * init + (d.toNat - '0'.toNat) + 1 ≤ (init + 1) * 10 := by omega
    rw [Nat.ofDigitChars_cons, List.length_cons, Nat.pow_succ']
    calc Nat.ofDigitChars 10 l (10 * init + (d.toNat - '0'.toNat))
        < (10 * init + (d.toNat - '0'.toNat) + 1) * 10 ^ l.length := ih hl' _
      _ ≤ (init + 1) * 10 * 10 ^ l.length := Nat.mul_le_mul_right _ hstep
      _ = (init + 1) * (10 * 10 ^ l.length) := Nat.mul_assoc _ _ _

/-- A number of 64 bits in decimal is read back. -/
theorem toNat_pieceValue_decimal {n : ℕ} (hn : n < 2 ^ 64) :
    (pieceValue (decimal n)).toNat = n := by
  have hvalue : Nat.ofDigitChars 10 (decimal n) 0 = n := Nat.ofDigitChars_ten_toDigits
  rw [toNat_unsignedValue (hvalue.symm ▸ hn), hvalue]

/-- A number that fits the width is one piece. -/
theorem pieces_decimal {w n : ℕ} (hw : 0 < w) (hn : n < 10 ^ w) :
    pieces w (decimal n) = [decimal n] :=
  pieces_of_le Nat.toDigits_ne_nil ((Nat.length_toDigits_le_iff (by decide) hw).mpr hn)

/-- The first piece of a number. -/
theorem head?_pieces {w : ℕ} (hw : 0 < w) {digits : List Char} (hne : digits ≠ []) :
    (pieces w digits).head? = some (digits.take w) := by
  obtain ⟨c, digits, rfl⟩ := List.exists_cons_of_ne_nil hne
  obtain ⟨w, rfl⟩ := Nat.exists_eq_succ_of_ne_zero hw.ne'
  rw [pieces]
  rfl

/-- The first piece of a number gives at most the number, and the number exactly when it fits. -/
theorem toNat_pieceValue_take {w n : ℕ} (hw : 0 < w) (hw' : 10 ^ w ≤ 2 ^ 64) :
    (pieceValue ((decimal n).take w)).toNat ≤ n ∧
      ((pieceValue ((decimal n).take w)).toNat = n ↔ n < 10 ^ w) := by
  by_cases hn : n < 10 ^ w
  · rw [List.take_of_length_le ((Nat.length_toDigits_le_iff (by decide) hw).mpr hn),
      toNat_pieceValue_decimal (by omega)]
    exact ⟨le_refl n, iff_of_true rfl hn⟩
  · have hlt : Nat.ofDigitChars 10 ((decimal n).take w) 0 < 10 ^ w := by
      calc Nat.ofDigitChars 10 ((decimal n).take w) 0
          < (0 + 1) * 10 ^ ((decimal n).take w).length :=
            ofDigitChars_lt (fun d hd => isDigit_of_mem_decimal (List.mem_of_mem_take hd)) 0
        _ = 10 ^ ((decimal n).take w).length := by rw [Nat.zero_add, Nat.one_mul]
        _ ≤ 10 ^ w := Nat.pow_le_pow_right (by decide) (List.length_take_le w _)
    rw [toNat_unsignedValue (by omega)]
    exact ⟨by omega, iff_of_false (by omega) hn⟩

end LoadBalance
