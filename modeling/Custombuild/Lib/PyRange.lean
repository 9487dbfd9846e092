/-
  Integer ranges with a positive step, `range(start, stop, step)`, and the facts about them
  that the depth levels and the raster lanes need.
-/
import Mathlib.Data.List.Range
import Mathlib.Tactic.Linarith

namespace Custombuild.Lib

/-- Number of elements of `range(start, stop, step)` for a positive step. -/
def rangeCount (start stop step : Int) : Nat := ((stop - start + step - 1) / step).toNat

/-- `range(start, stop, step)` for a positive step. -/
def pyRange (start stop step : Int) : List Int :=
  (List.range (rangeCount start stop step)).map fun (i : Nat) => start + (i : Int) * step

theorem mem_pyRange {start stop step v : Int} (hstep : 0 < step) (h : v ∈ pyRange start stop step) :
    start ≤ v ∧ v < stop := by
  obtain ⟨i, hi, rfl⟩ := List.mem_map.mp h
  have hi : i < rangeCount start stop step := List.mem_range.mp hi
  unfold rangeCount at hi
  have hq : (i : Int) + 1 ≤ (stop - start + step - 1) / step := by omega
  have hmul : ((i : Int) + 1) * step ≤ stop - start + step - 1 :=
    (Int.le_ediv_iff_mul_le hstep).mp hq
  have hnn : 0 ≤ (i : Int) * step := Int.mul_nonneg (by omega) (by omega)
  rw [Int.add_mul, Int.one_mul] at hmul
  constructor <;> omega

theorem pyRange_ne_nil {start stop step : Int} (hstep : 0 < step) (h : start < stop) :
    pyRange start stop step ≠ [] := by
  have hpos : 1 ≤ (stop - start + step - 1) / step :=
    (Int.le_ediv_iff_mul_le hstep).mpr (by omega)
  simp only [pyRange, ne_eq, List.map_eq_nil_iff, List.range_eq_nil, rangeCount]
  omega

/-- Neighbours of a range are one step apart. -/
theorem isChain_pyRange (start stop step : Int) :
    List.IsChain (fun a b => b = a + step) (pyRange start stop step) := by
  rw [pyRange, List.isChain_map, List.isChain_range]
  intro i _
  rw [Nat.succ_eq_add_one, Int.natCast_add, Int.natCast_one, Int.add_mul, Int.one_mul,
    Int.add_assoc]

/-- A range that is not empty starts at its start. -/
theorem head_pyRange {start stop step : Int} (hstep : 0 < step) (h : start < stop) :
    (pyRange start stop step).head? = some start := by
  have hne : rangeCount start stop step ≠ 0 := by
    intro hzero
    exact pyRange_ne_nil hstep h (by rw [pyRange, hzero, List.range_zero, List.map_nil])
  rw [pyRange, List.head?_map, List.head?_range, if_neg hne, Option.map_some]
  simp

/-- A range that is not empty ends less than a step before its stop. -/
theorem getLast_pyRange {start stop step : Int} (hstep : 0 < step) (h : start < stop) :
    ∃ v, (pyRange start stop step).getLast? = some v ∧ v < stop ∧ stop ≤ v + step := by
  have hmem : ∀ v ∈ (pyRange start stop step).getLast?, v < stop := by
    intro v hv
    exact (mem_pyRange hstep (List.mem_of_getLast? hv)).2
  have hcount : 1 ≤ (stop - start + step - 1) / step :=
    (Int.le_ediv_iff_mul_le hstep).mpr (by omega)
  have hlast : (pyRange start stop step).getLast? =
      some (start + ((rangeCount start stop step - 1 : Nat) : Int) * step) := by
    have hne : rangeCount start stop step ≠ 0 := by
      unfold rangeCount
      omega
    rw [pyRange, List.getLast?_map, List.getLast?_range, if_neg hne, Option.map_some]
  refine ⟨_, hlast, hmem _ hlast, ?_⟩
  -- the number of elements is the quotient rounded up
  have hcast : ((rangeCount start stop step - 1 : Nat) : Int) + 1 =
      (stop - start + step - 1) / step := by
    unfold rangeCount
    omega
  have hceil := Int.lt_ediv_add_one_mul_self (stop - start + step - 1) hstep
  rw [← hcast, Int.add_mul, Int.add_mul, Int.one_mul] at hceil
  omega

end Custombuild.Lib
