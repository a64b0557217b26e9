import LoadBalance.Library.Outcome
import Mathlib.Data.Finset.Card

/-!
# Handles that are created and destroyed

A heap of handles of which nothing is known but which ones are there.  To destroy a handle that is
not there is the end of the process.  `Owns` says of a heap that it has some handles besides those
that are held, each of them once: a new handle is held then (`run_create`), and one that is
destroyed no longer (`run_destroy`), so that what a call holds can be told from what it leaves
behind. -/

namespace LoadBalance

open LoadBalance.Action

/-- The handles that are there, all of them below the next one. -/
structure Heap where
  live : Finset ℕ
  next : ℕ
  lt_next : ∀ h ∈ live, h < next

namespace Heap

def empty : Heap := ⟨∅, 0, by simp⟩

/-- A new handle. -/
def push (heap : Heap) : Heap where
  live := insert heap.next heap.live
  next := heap.next + 1
  lt_next h hh := by
    rcases Finset.mem_insert.mp hh with rfl | hh
    · exact Nat.lt_succ_self _
    · exact Nat.lt_succ_of_lt (heap.lt_next h hh)

def drop (heap : Heap) (h : ℕ) : Heap where
  live := heap.live.erase h
  next := heap.next
  lt_next h' hh := heap.lt_next h' (Finset.mem_of_mem_erase hh)

variable {ε : Type}

/-- A call that gives a new handle, or none. -/
def create (succeeds : Bool) : Action Heap ε (Option ℕ) :=
  if succeeds then fun heap => (.ok (some heap.next), heap.push) else pure none

def destroy (h : ℕ) : Action Heap ε Unit := fun heap =>
  if h ∈ heap.live then (.ok (), heap.drop h) else (.abort, heap)

/-- One after another. -/
def destroyAll : List ℕ → Action Heap ε Unit
  | [] => pure ()
  | h :: rest => do
    destroy h
    destroyAll rest

/-! ### What is held -/

/-- Besides the handles `base`, the heap has those that are held, each of them once. -/
structure Owns (base : Finset ℕ) (held : List ℕ) (heap : Heap) : Prop where
  nodup : held.Nodup
  apart : ∀ h ∈ held, h ∉ base
  live : heap.live = base ∪ held.toFinset

variable {base : Finset ℕ} {held : List ℕ} {heap : Heap} {h : ℕ}

theorem Owns.of_empty : Owns ∅ [] empty := ⟨List.nodup_nil, by simp, rfl⟩

theorem Owns.card (hheap : Owns base held heap) : heap.live.card = base.card + held.length := by
  rw [hheap.live, Finset.card_union_of_disjoint, List.toFinset_card_of_nodup hheap.nodup]
  rw [Finset.disjoint_left]
  exact fun h hbase hheld => hheap.apart h (List.mem_toFinset.mp hheld) hbase

theorem Owns.mem (hheap : Owns base held heap) (hh : h ∈ held) : h ∈ heap.live := by
  rw [hheap.live]
  exact Finset.mem_union_right _ (List.mem_toFinset.mpr hh)

/-- What is held in another order. -/
theorem Owns.perm {held' : List ℕ} (hheap : Owns base held heap) (hperm : held.Perm held') :
    Owns base held' heap where
  nodup := hperm.nodup_iff.mp hheap.nodup
  apart h hh := hheap.apart h (hperm.mem_iff.mpr hh)
  live := by rw [hheap.live, List.toFinset_eq_of_perm _ _ hperm]

/-- What is not held any more, and was not destroyed, is left behind. -/
theorem Owns.leave {kept left : List ℕ} (hheap : Owns base (kept ++ left) heap) :
    Owns (base ∪ left.toFinset) kept heap where
  nodup := hheap.nodup.of_append_left
  apart h hh := by
    rw [Finset.mem_union, not_or, List.mem_toFinset]
    exact ⟨hheap.apart h (List.mem_append_left _ hh), List.disjoint_of_nodup_append hheap.nodup hh⟩
  live := by
    rw [hheap.live, List.toFinset_append, Finset.union_assoc, Finset.union_comm left.toFinset]

/-- How much is left behind then. -/
theorem Owns.card_leave {kept left : List ℕ} (hheap : Owns base (kept ++ left) heap) :
    (base ∪ left.toFinset).card = base.card + left.length := by
  have hall := hheap.card
  have hleft := hheap.leave.card
  rw [List.length_append] at hall
  omega

theorem run_create_false :
    (create false : Action Heap ε (Option ℕ)).run heap = (.ok none, heap) := rfl

variable (ε)

/-- A new handle is held. -/
theorem run_create (hheap : Owns base held heap) :
    ∃ h heap', (create true : Action Heap ε (Option ℕ)).run heap = (.ok (some h), heap') ∧
      Owns base (h :: held) heap' := by
  refine ⟨heap.next, heap.push, rfl, List.nodup_cons.mpr ⟨fun hh => ?_, hheap.nodup⟩,
    List.forall_mem_cons.mpr ⟨fun hbase => ?_, hheap.apart⟩, ?_⟩
  · exact lt_irrefl _ (heap.lt_next _ (hheap.mem hh))
  · refine lt_irrefl heap.next (heap.lt_next _ ?_)
    rw [hheap.live]
    exact Finset.mem_union_left _ hbase
  · show insert heap.next heap.live = _
    rw [hheap.live, List.toFinset_cons, Finset.union_insert]

/-- A handle that is held can be destroyed. -/
theorem run_destroy (hheap : Owns base (h :: held) heap) :
    ∃ heap', (destroy h : Action Heap ε Unit).run heap = (.ok (), heap') ∧
      Owns base held heap' := by
  obtain ⟨hnot, hnodup⟩ := List.nodup_cons.mp hheap.nodup
  obtain ⟨hbase, hapart⟩ := List.forall_mem_cons.mp hheap.apart
  refine ⟨heap.drop h, if_pos (hheap.mem List.mem_cons_self), hnodup, hapart, ?_⟩
  show heap.live.erase h = _
  rw [hheap.live, List.toFinset_cons, Finset.union_insert, Finset.erase_insert]
  rw [Finset.mem_union, not_or, List.mem_toFinset]
  exact ⟨hbase, hnot⟩

/-- Several of them. -/
theorem run_destroyAll {hs : List ℕ} (hheap : Owns base (hs ++ held) heap) :
    ∃ heap', (destroyAll hs : Action Heap ε Unit).run heap = (.ok (), heap') ∧
      Owns base held heap' := by
  induction hs generalizing heap with
  | nil => exact ⟨heap, rfl, hheap⟩
  | cons h hs ih =>
    obtain ⟨heap₁, hrun, howns⟩ := run_destroy ε hheap
    obtain ⟨heap₂, hrun', howns'⟩ := ih howns
    refine ⟨heap₂, ?_, howns'⟩
    rw [destroyAll, run_bind_of_ok hrun, hrun']

end Heap

end LoadBalance
