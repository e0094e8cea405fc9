import Mathlib.Data.List.Sort
import Mathlib.Data.Nat.Bitwise
import Scenarist.Step.Modifier

/-! # Modifiers in masks

A mask is read as the modifiers whose bits it has, and the mask of a list has the bits of its
members. So both stand for a set of modifiers: a mask may have other bits beside theirs, and a list
may have its members in any order and more than once.
-/

namespace Scenarist.Modifier

/-- The bits that stand for a modifier. -/
def known : UInt32 := 0b1111

/-- The members stand in the order of their bits, each of them once. -/
def InBitOrder (l : List Modifier) : Prop := l.Pairwise fun m n => m.bit < n.bit

/-! ## Bits -/

/-- The place of the modifier's bit. -/
def place : Modifier → Nat
  | .alt => 0
  | .control => 1
  | .meta => 2
  | .shift => 3

theorem toNat_bit (m : Modifier) : m.bit.toNat = 2 ^ m.place := by cases m <;> rfl

theorem place_injective : Function.Injective place := by
  intro m n h
  cases m <;> cases n <;> first | rfl | cases h

theorem mem_all (m : Modifier) : m ∈ all := by cases m <;> decide

theorem inBitOrder_all : InBitOrder all := by
  unfold InBitOrder
  decide

theorem InBitOrder.eq_of_mem_iff {l other : List Modifier} (h : InBitOrder l)
    (hother : InBitOrder other)
    (hmem : ∀ m, m ∈ l ↔ m ∈ other) : l = other := by
  have hirrefl : Std.Irrefl fun m n : Modifier => m.bit < n.bit := ⟨fun m => UInt32.lt_irrefl m.bit⟩
  have hantisymm : Std.Antisymm fun m n : Modifier => m.bit < n.bit :=
    ⟨fun _ _ h h' => absurd h' (UInt32.lt_asymm h)⟩
  exact List.Pairwise.eq_of_mem_iff h hother hmem

theorem eq_of_testBit {mask other : UInt32}
    (h : ∀ i, mask.toNat.testBit i = true ↔ other.toNat.testBit i = true) : mask = other :=
  UInt32.toNat.inj (Nat.eq_of_testBit_eq fun i => Bool.eq_iff_iff.mpr (h i))

theorem and_bit_ne_zero_iff (mask : UInt32) (m : Modifier) :
    mask &&& m.bit ≠ 0 ↔ mask.toNat.testBit m.place = true := by
  rw [Ne, ← UInt32.toNat_inj, UInt32.toNat_and, toNat_bit, Nat.and_two_pow]
  cases mask.toNat.testBit m.place <;> simp

/-! ## The mask of a list -/

theorem testBit_foldl (mask : UInt32) (l : List Modifier) (i : Nat) :
    (l.foldl (fun mask m => mask ||| m.bit) mask).toNat.testBit i = true ↔
      mask.toNat.testBit i = true ∨ ∃ m ∈ l, m.place = i := by
  induction l generalizing mask with
  | nil => simp
  | cons m l ih =>
    have hstep : (mask ||| m.bit).toNat.testBit i = true ↔
        mask.toNat.testBit i = true ∨ m.place = i := by
      rw [UInt32.toNat_or, toNat_bit, Nat.testBit_or, Nat.testBit_two_pow, Bool.or_eq_true,
        decide_eq_true_iff]
    rw [List.foldl_cons, ih, hstep, or_assoc]
    simp

theorem testBit_toMask (l : List Modifier) (i : Nat) :
    (toMask l).toNat.testBit i = true ↔ ∃ m ∈ l, m.place = i := by
  simp [toMask, testBit_foldl]

theorem testBit_toMask_place (l : List Modifier) (m : Modifier) :
    (toMask l).toNat.testBit m.place = true ↔ m ∈ l := by
  simp [testBit_toMask, place_injective.eq_iff]

theorem toMask_eq_iff (l other : List Modifier) :
    toMask l = toMask other ↔ ∀ m, m ∈ l ↔ m ∈ other := by
  constructor
  · intro h m
    rw [← testBit_toMask_place, h, testBit_toMask_place]
  · intro h
    exact eq_of_testBit fun i => by simp only [testBit_toMask, h]

theorem toMask_eq_zero_iff (l : List Modifier) : toMask l = 0 ↔ l = [] := by
  have hnil : toMask [] = 0 := rfl
  rw [← hnil, toMask_eq_iff, List.eq_nil_iff_forall_not_mem]
  simp

theorem toMask_all : toMask all = known := by decide

theorem testBit_known (i : Nat) : known.toNat.testBit i = true ↔ ∃ m : Modifier, m.place = i := by
  simp [← toMask_all, testBit_toMask, mem_all]

/-! ## The modifiers of a mask -/

/-- The modifiers whose bits the mask has. -/
def held (mask : UInt32) : List Modifier := all.filter fun m => mask &&& m.bit != 0

theorem ofMask?_eq (mask : UInt32) :
    ofMask? mask = if held mask = [] then none else some (held mask) := rfl

theorem mem_held (mask : UInt32) (m : Modifier) :
    m ∈ held mask ↔ mask.toNat.testBit m.place = true := by
  rw [held, List.mem_filter, bne_iff_ne, and_bit_ne_zero_iff]
  exact and_iff_right (mem_all m)

theorem inBitOrder_held (mask : UInt32) : InBitOrder (held mask) :=
  List.Pairwise.filter _ inBitOrder_all

theorem toMask_held (mask : UInt32) : toMask (held mask) = mask &&& known := by
  refine eq_of_testBit fun i => ?_
  rw [testBit_toMask, UInt32.toNat_and, Nat.testBit_and, Bool.and_eq_true, testBit_known]
  constructor
  · rintro ⟨m, hm, rfl⟩
    exact ⟨(mem_held mask m).mp hm, m, rfl⟩
  · rintro ⟨hbit, m, rfl⟩
    exact ⟨m, (mem_held mask m).mpr hbit, rfl⟩

theorem mem_held_toMask (l : List Modifier) (m : Modifier) : m ∈ held (toMask l) ↔ m ∈ l := by
  rw [mem_held, testBit_toMask_place]

theorem ofMask?_eq_none_iff (mask : UInt32) : ofMask? mask = none ↔ held mask = [] := by
  simp [ofMask?_eq]

theorem ofMask?_eq_some_iff (mask : UInt32) (l : List Modifier) :
    ofMask? mask = some l ↔ l ≠ [] ∧ held mask = l := by
  rw [ofMask?_eq, Option.ite_none_left_eq_some, Option.some_inj]
  exact and_congr_left fun h => by rw [h]

/-- Bits that stand for no modifier are passed over. -/
example : ofMask? 25 = some [.alt, .shift] := by decide

theorem getD_ofMask? (mask : UInt32) : (ofMask? mask).getD [] = held mask := by
  rw [ofMask?_eq]
  split
  · rename_i h
    exact h.symm
  · rfl

/-- A mask gives modifiers just if it has a known bit, and they give back its known bits. A list
comes back from its mask as its members in the order of their bits, unless it has none, and two
lists have one mask just if they have the same members. -/
theorem converted_both_ways :
    (∀ mask : UInt32, (ofMask? mask = none ↔ mask &&& known = 0) ∧
      toMask ((ofMask? mask).getD []) = mask &&& known) ∧
    ∀ l : List Modifier, (ofMask? (toMask l) = none ↔ l = []) ∧
      (∀ read, ofMask? (toMask l) = some read ↔ read ≠ [] ∧ InBitOrder read ∧ ∀ m, m ∈ read ↔
        m ∈ l) ∧
      ∀ other, toMask l = toMask other ↔ ∀ m, m ∈ l ↔ m ∈ other := by
  refine ⟨fun mask => ⟨?_, ?_⟩, fun l => ⟨?_, fun read => ?_, toMask_eq_iff l⟩⟩
  · rw [ofMask?_eq_none_iff, ← toMask_held, toMask_eq_zero_iff]
  · rw [getD_ofMask?, toMask_held]
  · rw [ofMask?_eq_none_iff, List.eq_nil_iff_forall_not_mem, List.eq_nil_iff_forall_not_mem]
    simp only [mem_held_toMask]
  · rw [ofMask?_eq_some_iff]
    refine and_congr_right fun _ => ⟨?_, ?_⟩
    · rintro rfl
      exact ⟨inBitOrder_held _, mem_held_toMask l⟩
    · rintro ⟨horder, hmem⟩
      -- a list in the order of the bits is settled by its members
      exact (inBitOrder_held _).eq_of_mem_iff horder fun m =>
        (mem_held_toMask l m).trans (hmem m).symm

end Scenarist.Modifier
