import LoadBalance.Daemon.ProcFiles
import LoadBalance.Daemon.Equiv.NodeStats
import Mathlib.Algebra.BigOperators.Group.List.Basic

/-!
# What the node counts of its interfaces

`/proc/net/dev` is two lines of headers and one line for each interface, with its name, a colon and
sixteen counters.  A counter is read with room for sixteen digits, so one of more digits is read as
two, and those after it in the place of the ones before.  The totals that the statistics tell are
those of the table exactly as long as no interface has received so much
(`netTotals_of_table`).
-/

namespace LoadBalance

/-- A number of a row, 0 when there are not so many. -/
def column (counters : List (ℕ × ℕ)) (k : ℕ) : ℕ := (counters.map Prod.snd).getD k 0

theorem column_eq_getElem {counters : List (ℕ × ℕ)} {k : ℕ} (hk : k < counters.length) :
    column counters k = counters[k].2 := by
  unfold column
  rw [List.getD_eq_getElem?_getD, List.getElem?_map, List.getElem?_eq_getElem hk]
  rfl

/-- An interface in `/proc/net/dev`: how far its line is indented, its name, and its counters, each
with the blanks before it beyond the first. -/
structure NetInterface where
  indent : ℕ
  name : List Char
  counters : List (ℕ × ℕ)
deriving DecidableEq, Repr

namespace NetInterface

/-- The fields after the name. -/
def fields (i : NetInterface) : List (ℕ × List Char) := i.counters.map fun f => (f.1, decimal f.2)

/-- Its line. -/
def line (i : NetInterface) : List Char :=
  List.replicate i.indent ' ' ++ (i.name ++ [':'] ++ row i.fields)

/-- The bytes that it has received, its first counter. -/
def received (i : NetInterface) : ℕ := column i.counters 0

/-- The bytes that it has sent, its ninth counter. -/
def sent (i : NetInterface) : ℕ := column i.counters 8

/-- Its name does not begin with `lo`. -/
def Counts (i : NetInterface) : Prop := ¬['l', 'o'] <+: i.name

instance (i : NetInterface) : Decidable i.Counts := inferInstanceAs (Decidable ¬_)

/-- What a line of the kernel is like. -/
structure WellFormed (i : NetInterface) : Prop where
  name : ∀ c ∈ i.name, isSpace c = false ∧ c.toNat ≠ 0
  /-- With its colon and a zero, it fits into `interf`. -/
  name_length : i.name.length ≤ 126
  counters : i.counters.length = 16
  counters_lt : ∀ f ∈ i.counters, f.2 < 2 ^ 64
  /-- It fits into the buffer for lines. -/
  length : i.line.length ≤ 510

/-- What comes after the name is read so: the counters, cut where they have more than sixteen
digits. -/
def pieces (i : NetInterface) : List (List Char) := rowPieces 16 i.fields

theorem isDigit_of_mem_fields (i : NetInterface) :
    ∀ f ∈ i.fields, ∀ d ∈ f.2, d.isDigit = true := by
  intro f hf d hd
  unfold fields at hf
  obtain ⟨g, -, rfl⟩ := List.mem_map.mp hf
  exact isDigit_of_mem_decimal hd

end NetInterface

/-- The text of the table after the two lines of its headers. -/
def tableText : List NetInterface → List Char
  | [] => []
  | i :: rest => i.line ++ '\n' :: tableText rest

/-! ### One line -/

theorem mem_row {l : List (ℕ × List Char)} (hl : ∀ f ∈ l, ∀ d ∈ f.2, d.isDigit = true) {c : Char}
    (hc : c ∈ row l) : c = ' ' ∨ c.isDigit = true := by
  induction l with
  | nil => cases hc
  | cons f l ih =>
    obtain ⟨hf, hl'⟩ := List.forall_mem_cons.mp hl
    rw [row, List.mem_append, List.mem_append] at hc
    rcases hc with hblank | hdigit | hrest
    · exact Or.inl (List.eq_of_mem_replicate hblank)
    · exact Or.inr (hf c hdigit)
    · exact ih hl' hrest

theorem le_length_rowPieces {w : ℕ} {l : List (ℕ × List Char)} (hl : ∀ f ∈ l, f.2 ≠ []) :
    l.length ≤ (rowPieces w l).length := by
  induction l with
  | nil => simp
  | cons f l ih =>
    obtain ⟨hf, hl'⟩ := List.forall_mem_cons.mp hl
    obtain ⟨c, digits, hdigits⟩ := List.exists_cons_of_ne_nil hf
    have hrest := ih hl'
    unfold rowPieces at hrest ⊢
    rw [List.flatMap_cons, hdigits, pieces]
    simp only [List.length_cons, List.cons_append, List.length_append]
    omega

theorem rowPieces_append (w : ℕ) (l l' : List (ℕ × List Char)) :
    rowPieces w (l ++ l') = rowPieces w l ++ rowPieces w l' := List.flatMap_append

/-- Numbers that fit the width are read as they are. -/
theorem rowPieces_decimal {w : ℕ} (hw : 0 < w) {l : List (ℕ × ℕ)} (hl : ∀ f ∈ l, f.2 < 10 ^ w) :
    rowPieces w (l.map fun f => (f.1, decimal f.2)) = l.map fun f => decimal f.2 := by
  induction l with
  | nil => rfl
  | cons f l ih =>
    obtain ⟨hf, hl'⟩ := List.forall_mem_cons.mp hl
    have hrest := ih hl'
    unfold rowPieces at hrest ⊢
    rw [List.map_cons, List.flatMap_cons, pieces_decimal hw hf, hrest, List.map_cons]
    rfl

theorem head?_newline {p : Char → Prop} (hp : p '\n') : ∀ c ∈ (['\n'] : List Char).head?, p c := by
  intro c hc
  obtain rfl : '\n' = c := Option.some.inj hc
  exact hp

/-- A row begins with a blank. -/
theorem head?_row_append {l : List (ℕ × List Char)} {s : List Char}
    (hs : ∀ c ∈ s.head?, isSpace c = true) : ∀ c ∈ (row l ++ s).head?, isSpace c = true := by
  cases l with
  | nil => exact hs
  | cons f l =>
    intro c hc
    obtain rfl : ' ' = c := Option.some.inj hc
    decide

namespace NetInterface

variable {i : NetInterface}

theorem mem_line {c : Char} (hc : c ∈ i.line) :
    c ∈ i.name ∨ c = ' ' ∨ c = ':' ∨ c.isDigit = true := by
  unfold line at hc
  rw [List.mem_append, List.mem_append, List.mem_append] at hc
  rcases hc with hindent | (hname | hcolon) | hrow
  · exact Or.inr (Or.inl (List.eq_of_mem_replicate hindent))
  · exact Or.inl hname
  · exact Or.inr (Or.inr (Or.inl (List.mem_singleton.mp hcolon)))
  · rcases mem_row i.isDigit_of_mem_fields hrow with hblank | hdigit
    · exact Or.inr (Or.inl hblank)
    · exact Or.inr (Or.inr (Or.inr hdigit))

theorem WellFormed.newline_not_mem (h : i.WellFormed) : '\n' ∉ i.line := by
  intro hc
  rcases mem_line hc with hname | hblank | hcolon | hdigit
  · exact absurd (h.name _ hname).1 (by decide)
  · cases hblank
  · cases hcolon
  · cases hdigit

/-- There is no zero in it at which a string would end. -/
theorem WellFormed.toNat_ne_zero (h : i.WellFormed) {c : Char} (hc : c ∈ i.line) :
    c.toNat ≠ 0 := by
  rcases mem_line hc with hname | rfl | rfl | hdigit
  · exact (h.name c hname).2
  · decide
  · decide
  · rw [Char.isDigit, Bool.and_eq_true, decide_eq_true_eq, decide_eq_true_eq] at hdigit
    have hge : 48 ≤ c.toNat := hdigit.1
    omega

theorem WellFormed.sixteen_le (h : i.WellFormed) : 16 ≤ i.pieces.length := by
  have hne : ∀ f ∈ i.fields, f.2 ≠ [] := by
    intro f hf
    unfold fields at hf
    obtain ⟨g, -, rfl⟩ := List.mem_map.mp hf
    exact Nat.toDigits_ne_nil
  have hle := le_length_rowPieces (w := 16) hne
  rwa [fields, List.length_map, h.counters] at hle

/-- The line is read as a whole, whatever the variables hold before. -/
theorem WellFormed.scanNetLine_line (h : i.WellFormed) (stale : UInt64 × UInt64) :
    scanNetLine stale (i.line ++ ['\n']) =
      ⟨String.ofList (i.name ++ [':']), pieceValue (i.pieces.getD 0 []),
        pieceValue (i.pieces.getD 8 [])⟩ := by
  have hzero : cString (i.line ++ ['\n']) = i.line ++ ['\n'] := by
    unfold cString
    rw [List.takeWhile_eq_self_iff]
    intro c hc
    rw [decide_eq_true_eq]
    rcases List.mem_append.mp hc with hline | hend
    · exact h.toNat_ne_zero hline
    · rw [List.mem_singleton.mp hend]
      decide
  have hword : scanWord (i.line ++ ['\n']) = some (i.name ++ [':'], row i.fields ++ ['\n']) := by
    unfold line
    rw [List.append_assoc, List.append_assoc (i.name ++ [':'])]
    refine scanWord_blanks _ (by simp) ?_ (head?_row_append (head?_newline rfl))
    intro c hc
    rcases List.mem_append.mp hc with hc | hc
    · exact (h.name c hc).1
    · rw [List.mem_singleton.mp hc]
      decide
  have hnumbers : scanNumbers 16 16 (row i.fields ++ ['\n']) =
      (i.pieces.map pieceValue).take 16 := by
    have hle : 16 ≤ (rowPieces 16 i.fields).length := h.sixteen_le
    rw [scanNumbers_row (by decide) 16 i.isDigit_of_mem_fields (head?_newline rfl),
      Nat.sub_eq_zero_of_le hle, scanNumbers, List.append_nil]
    rfl
  have hget : ∀ k, k < 16 → ∀ v, ((i.pieces.map pieceValue).take 16)[k]?.getD v =
      pieceValue (i.pieces.getD k []) := by
    intro k hk v
    have hlt : k < i.pieces.length := lt_of_lt_of_le hk h.sixteen_le
    rw [List.getElem?_take_of_lt hk, List.getElem?_map, List.getD_eq_getElem?_getD,
      List.getElem?_eq_getElem hlt]
    rfl
  unfold scanNetLine
  rw [hzero, hword]
  dsimp only
  rw [hnumbers, hget 0 (by decide), hget 8 (by decide)]

/-- What is read as the bytes received is at most them, and them exactly when they have no more
than sixteen digits. -/
theorem WellFormed.toNat_head (h : i.WellFormed) :
    (pieceValue (i.pieces.getD 0 [])).toNat ≤ i.received ∧
      ((pieceValue (i.pieces.getD 0 [])).toNat = i.received ↔ i.received < 10 ^ 16) := by
  have hfirst : i.pieces.getD 0 [] = (decimal i.received).take 16 := by
    obtain ⟨f, counters, hcounters⟩ :=
      List.exists_cons_of_length_pos (h.counters.symm ▸ (by decide : 0 < 16))
    have hhead : (LoadBalance.pieces 16 (decimal f.2)).head? = some ((decimal f.2).take 16) :=
      head?_pieces (by decide) Nat.toDigits_ne_nil
    unfold NetInterface.pieces NetInterface.received column fields rowPieces
    rw [hcounters]
    obtain ⟨p, ps, hps⟩ : ∃ p ps, LoadBalance.pieces 16 (decimal f.2) = p :: ps :=
      List.exists_cons_of_ne_nil fun hnil => by simp [hnil] at hhead
    rw [hps] at hhead
    simp only [List.map_cons, List.flatMap_cons, hps, List.cons_append, List.getD_cons_zero]
    exact Option.some.inj hhead
  rw [hfirst]
  exact toNat_pieceValue_take (by decide) (by decide)

/-- When the first nine counters fit, the ninth is read as the bytes sent. -/
theorem WellFormed.toNat_ninth (h : i.WellFormed)
    (hfit : ∀ f ∈ i.counters.take 9, f.2 < 10 ^ 16) :
    (pieceValue (i.pieces.getD 8 [])).toNat = i.sent := by
  have hlt : 8 < i.counters.length := by
    rw [h.counters]
    decide
  have hpieces : i.pieces = (i.counters.take 9).map (fun f => decimal f.2) ++
      rowPieces 16 ((i.counters.drop 9).map fun f => (f.1, decimal f.2)) := by
    rw [← rowPieces_decimal (by decide) hfit, ← rowPieces_append, ← List.map_append,
      List.take_append_drop]
    rfl
  have hninth : i.pieces.getD 8 [] = decimal i.counters[8].2 := by
    rw [hpieces, List.getD_eq_getElem?_getD, List.getElem?_append_left (by simp [h.counters]),
      List.getElem?_map, List.getElem?_take_of_lt (by decide), List.getElem?_eq_getElem hlt]
    rfl
  have hsent : i.sent = i.counters[8].2 := column_eq_getElem hlt
  rw [hninth, hsent]
  exact toNat_pieceValue_decimal (h.counters_lt _ (List.getElem_mem hlt))

end NetInterface

/-! ### The table -/

section

variable {table : List NetInterface}

/-- What the variables hold after the lines of a table. -/
def tableLine (i : NetInterface) : NetLine :=
  ⟨String.ofList (i.name ++ [':']), pieceValue (i.pieces.getD 0 []),
    pieceValue (i.pieces.getD 8 [])⟩

theorem fgetsLines_tableText (htable : ∀ i ∈ table, i.WellFormed) :
    fgetsLines 511 [] (tableText table) = table.map fun i => i.line ++ ['\n'] := by
  induction table with
  | nil => rfl
  | cons i table ih =>
    obtain ⟨hi, htable'⟩ := List.forall_mem_cons.mp htable
    have hlen := hi.length
    rw [tableText, fgetsLines_line _ hi.newline_not_mem (by simp; omega), ih htable', List.map_cons,
      List.nil_append]

/-- The lines after the headers, whatever the variables hold before each of them. -/
theorem mapIdx_scanNetLine (htable : ∀ i ∈ table, i.WellFormed)
    (stale : ℕ → UInt64 × UInt64) :
    (table.map fun i => i.line ++ ['\n']).mapIdx (fun pos line => scanNetLine (stale pos) line) =
      table.map tableLine := by
  induction table generalizing stale with
  | nil => rfl
  | cons i table ih =>
    obtain ⟨hi, htable'⟩ := List.forall_mem_cons.mp htable
    rw [List.map_cons, List.mapIdx_cons, hi.scanNetLine_line, List.map_cons]
    exact congrArg _ (ih htable' fun pos => stale (pos + 1))

theorem counts_iff (i : NetInterface) :
    (tableLine i).interf.toList.take 2 ≠ ['l', 'o'] ↔ i.Counts := by
  unfold tableLine NetInterface.Counts
  rw [String.toList_ofList]
  apply not_congr
  cases hname : i.name with
  | nil => simp
  | cons c name =>
    cases name with
    | nil => simp
    | cons d name => simp [eq_comm]

/-- The sums that the loop makes after the headers, modulo `2 ^ 64`. -/
theorem scanNetLines_table (table : List NetInterface) (shot : NetShot) {pos : ℕ} (hpos : 1 < pos) :
    (scanNetLines shot pos (table.map tableLine)).bytesRecv.toNat =
        (shot.bytesRecv.toNat + ((table.filter fun i => i.Counts).map fun i =>
          (pieceValue (i.pieces.getD 0 [])).toNat).sum) % 2 ^ 64 ∧
      (scanNetLines shot pos (table.map tableLine)).bytesSend.toNat =
        (shot.bytesSend.toNat + ((table.filter fun i => i.Counts).map fun i =>
          (pieceValue (i.pieces.getD 8 [])).toNat).sum) % 2 ^ 64 := by
  induction table generalizing shot pos with
  | nil =>
    have hrecv := shot.bytesRecv.toNat_lt
    have hsend := shot.bytesSend.toNat_lt
    exact ⟨(Nat.mod_eq_of_lt hrecv).symm, (Nat.mod_eq_of_lt hsend).symm⟩
  | cons i table ih =>
    rw [List.map_cons, scanNetLines]
    by_cases hcounts : i.Counts
    · rw [if_pos ⟨hpos, (counts_iff i).mpr hcounts⟩,
        List.filter_cons, if_pos (decide_eq_true hcounts)]
      obtain ⟨hrecv, hsend⟩ := ih ⟨shot.bytesRecv + (tableLine i).rBytes,
        shot.bytesSend + (tableLine i).sBytes⟩ (Nat.lt_succ_of_lt hpos)
      rw [hrecv, hsend]
      dsimp only
      rw [UInt64.toNat_add, UInt64.toNat_add, List.map_cons, List.sum_cons, List.map_cons,
        List.sum_cons, Nat.mod_add_mod, Nat.mod_add_mod, Nat.add_assoc, Nat.add_assoc]
      exact ⟨rfl, rfl⟩
    · rw [if_neg fun h => hcounts ((counts_iff i).mp h.2),
        List.filter_cons, if_neg (by simpa using hcounts)]
      exact ih shot (Nat.lt_succ_of_lt hpos)

/-- The text of `/proc/net/dev`: two lines of headers, and the table. -/
def netDevText (header header' : List Char) (table : List NetInterface) : List Char :=
  header ++ '\n' :: (header' ++ '\n' :: tableText table)

/-- The interfaces whose name does not begin with `lo`. -/
def counted (table : List NetInterface) : List NetInterface := table.filter fun i => i.Counts

/-- The totals that the statistics tell. -/
theorem getMachineNetShot_table (m : MachineSample) (stale : ℕ → UInt64 × UInt64)
    (stat : List Char) {header header' : List Char} (hheader : '\n' ∉ header)
    (hlen : header.length ≤ 510) (hheader' : '\n' ∉ header') (hlen' : header'.length ≤ 510)
    (htable : ∀ i ∈ table, i.WellFormed) :
    let shot := getMachineNetShot (m.withFiles stale stat (netDevText header header' table))
    shot.bytesRecv.toNat = ((counted table).map fun i =>
        (pieceValue (i.pieces.getD 0 [])).toNat).sum % 2 ^ 64 ∧
      shot.bytesSend.toNat = ((counted table).map fun i =>
        (pieceValue (i.pieces.getD 8 [])).toNat).sum % 2 ^ 64 := by
  have hlines : ∃ a b, scanNetDev stale (netDevText header header' table) =
      a :: b :: table.map tableLine := by
    unfold scanNetDev netDevText
    rw [fgetsLines_line _ hheader (by simp; omega), fgetsLines_line _ hheader' (by simp; omega),
      fgetsLines_tableText htable, List.mapIdx_cons, List.mapIdx_cons]
    exact ⟨_, _, congrArg _ (congrArg _ (mapIdx_scanNetLine htable fun pos => stale (pos + 1 + 1)))⟩
  obtain ⟨a, b, hlines⟩ := hlines
  have htwo : scanNetLines ⟨0, 0⟩ 0 (a :: b :: table.map tableLine) =
      scanNetLines ⟨0, 0⟩ 2 (table.map tableLine) := by
    rw [scanNetLines, scanNetLines]
    rfl
  have hsums := scanNetLines_table table ⟨0, 0⟩ (show 1 < 2 by decide)
  intro shot
  have hshot : shot = scanNetLines ⟨0, 0⟩ 2 (table.map tableLine) := by
    rw [← htwo, ← hlines]
    rfl
  rw [hshot]
  simpa [counted] using hsums

end

/-- Of numbers that are at most others, the sum is theirs only when they are them. -/
theorem sum_map_eq_iff {α : Type} {l : List α} {f g : α → ℕ} (hle : ∀ x ∈ l, f x ≤ g x) :
    (l.map f).sum = (l.map g).sum ↔ ∀ x ∈ l, f x = g x := by
  induction l with
  | nil => simp
  | cons x l ih =>
    obtain ⟨hx, hle'⟩ := List.forall_mem_cons.mp hle
    have hsum : (l.map f).sum ≤ (l.map g).sum := List.sum_le_sum hle'
    rw [List.map_cons, List.map_cons, List.sum_cons, List.sum_cons, List.forall_mem_cons,
      ← ih hle']
    omega

/-- The totals that the statistics tell are those of the table, modulo `2 ^ 64`, when each of the
first nine counters of the interfaces that count has no more than sixteen digits.  A total of the
bytes received that fits into 64 bits is told exactly when none of them is made of more. -/
theorem netTotals_of_table (call : StatsCall) (nodeStats : NodeStats)
    (stale : ℕ → UInt64 × UInt64) (stat : List Char) {header header' : List Char}
    (hheader : '\n' ∉ header) (hlen : header.length ≤ 510) (hheader' : '\n' ∉ header')
    (hlen' : header'.length ≤ 510) {table : List NetInterface}
    (htable : ∀ i ∈ table, i.WellFormed) :
    let sample := call.sample.withFiles stale stat (netDevText header header' table)
    let info := (serviceStat { call with sample := sample } nodeStats).1.machine
    let received := ((counted table).map NetInterface.received).sum
    let sent := ((counted table).map NetInterface.sent).sum
    ((∀ i ∈ counted table, ∀ f ∈ i.counters.take 9, f.2 < 10 ^ 16) →
        info.netTotalBytesRecv.toNat = received % 2 ^ 64 ∧
        info.netTotalBytesSend.toNat = sent % 2 ^ 64) ∧
      (received < 2 ^ 64 →
        (info.netTotalBytesRecv.toNat = received ↔
          ∀ i ∈ counted table, i.received < 10 ^ 16)) := by
  intro sample info received sent
  obtain ⟨hrecv, hsend⟩ := getMachineNetShot_table call.sample stale stat hheader hlen hheader'
    hlen' htable
  have hcounted : ∀ i ∈ counted table, i.WellFormed := fun i hi =>
    htable i (List.mem_of_mem_filter hi)
  have hle : ∀ i ∈ counted table, (pieceValue (i.pieces.getD 0 [])).toNat ≤ i.received :=
    fun i hi => (hcounted i hi).toNat_head.1
  constructor
  · intro hfit
    have hfirst : ∀ i ∈ counted table, i.received < 10 ^ 16 := by
      intro i hi
      have hlt : 0 < i.counters.length := by
        rw [(hcounted i hi).counters]
        decide
      have hreceived : i.received = i.counters[0].2 := column_eq_getElem hlt
      rw [hreceived]
      refine hfit i hi _ ?_
      rw [List.mem_take_iff_getElem]
      exact ⟨0, by omega, rfl⟩
    constructor
    · show (getMachineNetShot sample).bytesRecv.toNat = _
      rw [hrecv, List.map_congr_left fun i hi => (hcounted i hi).toNat_head.2.mpr (hfirst i hi)]
    · show (getMachineNetShot sample).bytesSend.toNat = _
      rw [hsend, List.map_congr_left fun i hi => (hcounted i hi).toNat_ninth (hfit i hi)]
  · intro hlt
    show (getMachineNetShot sample).bytesRecv.toNat = _ ↔ _
    rw [hrecv, Nat.mod_eq_of_lt (lt_of_le_of_lt (List.sum_le_sum hle) hlt), sum_map_eq_iff hle]
    exact forall₂_congr fun i hi => (hcounted i hi).toNat_head.2

namespace Sample

/-- An interface with nothing but bytes. -/
def interface (name : String) (received sent : ℕ) : NetInterface where
  indent := 2
  name := name.toList
  counters := [(0, received), (3, 0), (3, 0), (3, 0), (3, 0), (3, 0), (3, 0), (3, 0), (0, sent),
    (3, 0), (3, 0), (3, 0), (3, 0), (3, 0), (3, 0), (3, 0)]

theorem wellFormed_interface (name : String) {received sent : ℕ}
    (hname : name.toList.all (fun c => !isSpace c && c.toNat != 0) = true)
    (hnameLen : name.toList.length ≤ 126) (hreceived : received < 2 ^ 64) (hsent : sent < 2 ^ 64)
    (hlen : (interface name received sent).line.length ≤ 510) :
    (interface name received sent).WellFormed where
  name := by
    intro c hc
    have h := List.all_eq_true.mp hname c hc
    rw [Bool.and_eq_true, Bool.not_eq_true', bne_iff_ne] at h
    exact h
  name_length := hnameLen
  counters := rfl
  counters_lt := by
    intro f hf
    simp only [interface, List.mem_cons, List.not_mem_nil, or_false] at hf
    rcases hf with rfl | rfl | rfl | rfl | rfl | rfl | rfl | rfl | rfl | rfl | rfl | rfl | rfl |
      rfl | rfl | rfl <;> first | exact hreceived | exact hsent | decide
  length := hlen

end Sample

open Sample in
theorem netTotals_of_table_sample :
    (serviceStat ⟨0, [], (machine 0 []).withFiles (fun _ => (7, 7)) []
        (netDevText "Inter-| Receive".toList " face |bytes".toList
          [interface "lo" 100 100, interface "eth0" 5000 300])⟩
      (NodeStats.ofSample (machine 0 []))).1.machine.netTotalBytesSend.toNat = 300 := by
  have htable : ∀ i ∈ [interface "lo" 100 100, interface "eth0" 5000 300], i.WellFormed := by
    intro i hi
    simp only [List.mem_cons, List.not_mem_nil, or_false] at hi
    rcases hi with rfl | rfl
    · exact wellFormed_interface "lo" (by decide) (by decide) (by decide) (by decide) (by decide)
    · exact wellFormed_interface "eth0" (by decide) (by decide) (by decide) (by decide) (by decide)
  exact ((netTotals_of_table ⟨0, [], machine 0 []⟩ (NodeStats.ofSample (machine 0 []))
    (fun _ => (7, 7)) [] (by decide) (by decide) (by decide) (by decide) htable).1 (by decide)).2

/-! ### `/proc/stat` -/

/-- The text of `/proc/stat`: the row of the times, and the lines after it. -/
def statText (times : List (ℕ × ℕ)) (rest : List Char) : List Char :=
  ['c', 'p', 'u'] ++ (row (times.map fun f => (f.1, decimal f.2)) ++ '\n' :: rest)

/-- The first three times of a row. -/
def busyTime (times : List (ℕ × ℕ)) : ℕ := column times 0 + column times 1 + column times 2

/-- The first four. -/
def totalTime (times : List (ℕ × ℕ)) : ℕ := busyTime times + column times 3

theorem length_le_length_row {l : List (ℕ × List Char)} {f : ℕ × List Char} (hf : f ∈ l) :
    f.2.length ≤ (row l).length := by
  induction l with
  | nil => cases hf
  | cons g l ih =>
    rw [row, List.length_append, List.length_append]
    rcases List.mem_cons.mp hf with rfl | hrest
    · omega
    · have hle := ih hrest
      omega

/-- Numbers that fit the width are read one by one. -/
theorem scanNumbers_decimal {w n : ℕ} (hw : 0 < w) {l : List (ℕ × ℕ)} (hn : n ≤ l.length)
    (hl : ∀ f ∈ l, f.2 < 10 ^ w) {s : List Char} (hs : ∀ d ∈ s.head?, d.isDigit = false) :
    scanNumbers w n (row (l.map fun f => (f.1, decimal f.2)) ++ s) =
      (l.map fun f => pieceValue (decimal f.2)).take n := by
  have hdigits : ∀ f ∈ l.map (fun f => (f.1, decimal f.2)), ∀ d ∈ f.2, d.isDigit = true := by
    intro f hf d hd
    obtain ⟨g, -, rfl⟩ := List.mem_map.mp hf
    exact isDigit_of_mem_decimal hd
  rw [scanNumbers_row hw n hdigits hs, rowPieces_decimal hw hl, List.length_map,
    Nat.sub_eq_zero_of_le hn, scanNumbers, List.append_nil, List.map_map]
  rfl

/-- The first four times are read, whatever comes after them. -/
theorem scanProcStat_statText {times : List (ℕ × ℕ)} (hfour : 4 ≤ times.length)
    (htimes : ∀ f ∈ times, f.2 < 2 ^ 64) (rest : List Char) :
    ∃ read : CpuTimes, scanProcStat (statText times rest) = some read ∧
      read.user.toNat = column times 0 ∧ read.nice.toNat = column times 1 ∧
      read.system.toNat = column times 2 ∧ read.idle.toNat = column times 3 := by
  -- There is room for every number of a text in as many characters as the text has.
  have hpos : 0 < (statText times rest).length := by simp [statText]
  have hwidth : ∀ f ∈ times, f.2 < 10 ^ (statText times rest).length := by
    intro f hf
    have hle := length_le_length_row (List.mem_map_of_mem (f := fun f => (f.1, decimal f.2)) hf)
    refine (Nat.length_toDigits_le_iff (by decide) hpos).mp (le_trans hle ?_)
    unfold statText
    rw [List.length_append, List.length_append]
    omega
  have hend : ∀ d ∈ ('\n' :: rest).head?, d.isDigit = false := by
    intro d hd
    obtain rfl : '\n' = d := Option.some.inj hd
    rfl
  have hread := scanNumbers_decimal hpos hfour hwidth hend
  have hcpu : (statText times rest).take 3 = ['c', 'p', 'u'] := rfl
  have hdrop : (statText times rest).drop 3 =
      row (times.map fun f => (f.1, decimal f.2)) ++ '\n' :: rest := rfl
  rcases times with _ | ⟨user, _ | ⟨nice, _ | ⟨system, _ | ⟨idle, more⟩⟩⟩⟩
  iterate 4 simp at hfour
  refine ⟨⟨pieceValue (decimal user.2), pieceValue (decimal nice.2), pieceValue (decimal system.2),
    pieceValue (decimal idle.2)⟩, ?_, ?_, ?_, ?_, ?_⟩
  · unfold scanProcStat
    rw [if_pos hcpu, hdrop, hread]
    rfl
  all_goals exact toNat_pieceValue_decimal (htimes _ (by simp))

/-- What the shot of the processor is made of. -/
theorem getMachineCpuShot_statText {m : MachineSample} {times : List (ℕ × ℕ)}
    (hfour : 4 ≤ times.length) (htimes : ∀ f ∈ times, f.2 < 2 ^ 64) {rest : List Char}
    (hm : m.procStat = scanProcStat (statText times rest)) :
    (getMachineCpuShot m).cpuUsage.toNat = busyTime times % 2 ^ 64 ∧
      (getMachineCpuShot m).cpuLimit.toNat = totalTime times % 2 ^ 64 := by
  obtain ⟨read, hread, huser, hnice, hsystem, hidle⟩ := scanProcStat_statText hfour htimes rest
  have hcpu : m.cpuTimes = read := by
    unfold MachineSample.cpuTimes
    rw [hm, hread]
    rfl
  unfold getMachineCpuShot CpuTimes.busy totalTime busyTime
  dsimp only
  simp only [hcpu, UInt64.toNat_add, huser, hnice, hsystem, hidle]
  exact ⟨by omega, by omega⟩

/-- Of two calls one after another, between which none of the first four times of `/proc/stat` went
down, the second tells the busy share of the time that passed, whatever else the file says. -/
theorem cpuLoad_of_times (start : MachineSample) (before : List StatsCall) (call : StatsCall)
    {times times' : List (ℕ × ℕ)} {rest rest' : List Char} (hfour : 4 ≤ times.length)
    (hfour' : 4 ≤ times'.length) (htimes : ∀ f ∈ times, f.2 < 2 ^ 64)
    (htimes' : ∀ f ∈ times', f.2 < 2 ^ 64)
    (hlast : (lastSample start before).procStat = scanProcStat (statText times rest))
    (hnow : call.sample.procStat = scanProcStat (statText times' rest'))
    (hup : ∀ k < 4, column times k ≤ column times' k) (hfit : totalTime times' < 2 ^ 64) :
    let kept := run statsStep (NodeStats.ofSample start) before
    let load := (serviceStat call kept).1.machine.cpuLoad
    load * (totalTime times' - totalTime times : ℕ) =
        100 * (busyTime times' - busyTime times : ℕ) ∧
      (totalTime times' = totalTime times → load = 0) ∧ 0 ≤ load ∧ load ≤ 100 := by
  intro kept load
  obtain ⟨hbusy, htotal⟩ := getMachineCpuShot_statText hfour htimes hlast
  obtain ⟨hbusy', htotal'⟩ := getMachineCpuShot_statText hfour' htimes' hnow
  have hload : load = getCpuMachineLoad (getMachineCpuShot (lastSample start before))
      (getMachineCpuShot call.sample) := by
    have hkept : kept = NodeStats.ofSample (lastSample start before) := run_statsStep start before
    show (serviceStat call kept).1.machine.cpuLoad = _
    rw [hkept]
    rfl
  have huser := hup 0 (by decide)
  have hnice := hup 1 (by decide)
  have hsystem := hup 2 (by decide)
  have hidle := hup 3 (by decide)
  have hbusyUp : busyTime times ≤ busyTime times' := by
    unfold busyTime
    omega
  have hpart : totalTime times = busyTime times + column times 3 := rfl
  have hpart' : totalTime times' = busyTime times' + column times' 3 := rfl
  -- The sums of the times fit, so the differences modulo `2 ^ 64` are those of the sums.
  have hwhole : ((getMachineCpuShot call.sample).cpuLimit -
      (getMachineCpuShot (lastSample start before)).cpuLimit).toNat =
        totalTime times' - totalTime times := by
    rw [UInt64.toNat_sub, htotal, htotal']
    omega
  have hbusyDiff : ((getMachineCpuShot call.sample).cpuUsage -
      (getMachineCpuShot (lastSample start before)).cpuUsage).toNat =
        busyTime times' - busyTime times := by
    rw [UInt64.toNat_sub, hbusy, hbusy']
    omega
  have hle : load ≤ 100 := by
    rw [hload, getCpuMachineLoad_le_iff, hwhole, hbusyDiff]
    exact Or.inr (by omega)
  have hnonneg : 0 ≤ load := hload ▸ getCpuMachineLoad_nonneg _ _
  unfold getCpuMachineLoad at hload
  dsimp only at hload
  rw [hwhole, hbusyDiff] at hload
  by_cases hzero : ((totalTime times' - totalTime times : ℕ) : ℚ) = 0
  · rw [if_pos hzero] at hload
    have hbusyZero : busyTime times' - busyTime times = 0 := by
      rw [Nat.cast_eq_zero] at hzero
      omega
    refine ⟨?_, fun _ => hload, hnonneg, hle⟩
    rw [hload, hbusyZero]
    norm_num
  · rw [if_neg hzero] at hload
    refine ⟨?_, fun heq => absurd (by rw [heq, Nat.sub_self, Nat.cast_zero]) hzero, hnonneg, hle⟩
    rw [hload, mul_right_comm, div_mul_cancel₀ _ hzero, mul_comm]

namespace Sample

/-- A machine with these times, and others after them. -/
def timed (times : List (ℕ × ℕ)) : MachineSample :=
  (machine 0 []).withFiles (fun _ => (7, 7)) (statText times "intr 1".toList) []

def earlier : List (ℕ × ℕ) := [(1, 100), (0, 0), (0, 50), (0, 850), (0, 20)]

def later : List (ℕ × ℕ) := [(1, 150), (0, 0), (0, 50), (0, 900), (0, 30)]

end Sample

open Sample in
theorem cpuLoad_of_times_sample :
    (serviceStat ⟨0, [], timed later⟩
      (run statsStep (NodeStats.ofSample (timed earlier)) [])).1.machine.cpuLoad ≤ 100 :=
  (cpuLoad_of_times (timed earlier) [] ⟨0, [], timed later⟩ (show 4 ≤ earlier.length by decide)
    (show 4 ≤ later.length by decide) (by decide) (by decide) rfl rfl (by decide)
    (by decide)).2.2.2

end LoadBalance
