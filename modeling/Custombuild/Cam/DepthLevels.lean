/-
  The depth levels of a cut.  Planner and verifier compute the same levels, which go down to the
  depth by steps of at most the stepdown, and no shorter descent does.
  Source: `depth_levels_um` of `custombuild_cam.toolpaths`, `_depth_levels` of
  `custombuild_cam.production_verification`.
-/
import Custombuild.Cam.AreaCoverage

namespace Custombuild.Cam

open Custombuild.Lib

/-- A descent by steps of at most `step` reaches no deeper than its length times the step. -/
theorem descent_le {step start last : Int} {levels : List Int}
    (h : List.IsChain (fun a b => a - b ≤ step) (start :: levels))
    (hlast : levels.getLast? = some last) : start - last ≤ levels.length * step := by
  induction levels generalizing start with
  | nil => cases hlast
  | cons level levels ih =>
    rw [List.isChain_cons_cons] at h
    obtain ⟨hfirst, hrest⟩ := h
    rw [List.length_cons, Nat.cast_add, Nat.cast_one, Int.add_mul, Int.one_mul]
    cases levels with
    | nil =>
      obtain rfl : level = last := Option.some.inj hlast
      simpa using hfirst
    | cons next levels =>
      have hdeep := ih hrest (by rwa [List.getLast?_cons_cons] at hlast)
      omega

/-- The levels of a positive depth are as many as its steps, rounded up. -/
theorem rangeCount_levels_le {depthUm stepUm : Int} (hstep : 0 < stepUm) {n : Nat}
    (h : depthUm ≤ n * stepUm) : rangeCount stepUm (depthUm + stepUm) stepUm ≤ n := by
  have hlt : depthUm + stepUm - stepUm + stepUm - 1 < ((n : Int) + 1) * stepUm := by
    rw [Int.add_mul, Int.one_mul]
    omega
  have hquot := Int.ediv_lt_of_lt_mul hstep hlt
  unfold rangeCount
  omega

/-- The planner's levels of a positive depth go down to it, strictly and by the stepdown at most;
    no shorter list of such steps does, and the verifier expects the same levels. -/
theorem depth_levels_exact {depthUm stepdownUm : Int} (hdepth : 0 < depthUm)
    (hstep : 0 < stepdownUm) :
    ∃ levels, depthLevelsUm depthUm stepdownUm = .ok levels ∧
      levels.Pairwise (fun a b => b < a) ∧
      List.IsChain (fun a b => b < a ∧ a - b ≤ stepdownUm) (0 :: levels) ∧
      levels.getLast? = some (-depthUm) ∧
      (∀ other : List Int, List.IsChain (fun a b => a - b ≤ stepdownUm) (0 :: other) →
        other.getLast? = some (-depthUm) → levels.length ≤ other.length) ∧
      Verification.depthLevels depthUm stepdownUm = levels := by
  obtain ⟨hchain, hlast⟩ := descendsTo_levels hdepth hstep
  refine ⟨_, ?_, ?_, hchain, hlast, ?_, ?_⟩
  · simp only [depthLevelsUm, bind_eq_ok, require_eq_ok, decide_eq_true_eq]
    exact ⟨(), hdepth, (), hstep, rfl⟩
  · have hstrict : List.IsChain (fun a b : Int => b < a) (0 :: _) := hchain.imp fun _ _ h => h.1
    rw [List.isChain_iff_pairwise] at hstrict
    exact (List.pairwise_cons.mp hstrict).2
  · intro other hother hend
    have hdeep := descent_le hother hend
    rw [List.length_map, pyRange, List.length_map, List.length_range]
    exact rangeCount_levels_le hstep (by omega)
  · rw [Verification.depthLevels, if_neg (by omega)]

/-- A depth that is a multiple of the stepdown, and one that is not. -/
theorem depth_levels_exact_of_multiple :
    (∃ levels, depthLevelsUm 6000 3000 = .ok levels ∧
      levels.Pairwise (fun a b => b < a) ∧
      List.IsChain (fun a b => b < a ∧ a - b ≤ 3000) (0 :: levels) ∧
      levels.getLast? = some (-6000) ∧
      (∀ other : List Int, List.IsChain (fun a b => a - b ≤ 3000) (0 :: other) →
        other.getLast? = some (-6000) → levels.length ≤ other.length) ∧
      Verification.depthLevels 6000 3000 = levels) ∧
    depthLevelsUm 6000 3000 = .ok [-3000, -6000] ∧
    depthLevelsUm 6001 3000 = .ok [-3000, -6000, -6001] :=
  ⟨depth_levels_exact (by decide) (by decide), by decide, by decide⟩

end Custombuild.Cam
