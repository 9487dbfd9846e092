/-
  The clear widths of the bays are the fair division of the clear width: by the given ratios, or by
  equal ones.
-/
import Custombuild.Lib.Apportion
import Custombuild.Domain.Grid

namespace Custombuild.Domain

open Custombuild.Lib

/-! ## Largest remainders -/

section Ratios

variable {available : Int} {ratios : List Int}

/-- Rounding down loses less than a micrometre for each share. -/
theorem le_total_mul_sum_floor (available : Int) {total : Int} (htotal : 0 < total)
    (ratios : List Int) :
    available * ratios.sum ≤
      total * ((ratios.map fun ratio => available * ratio / total).sum + ratios.length) := by
  induction ratios with
  | nil => simp
  | cons ratio ratios ih =>
    have hdivision := Int.mul_ediv_add_emod (available * ratio) total
    have hrest := Int.emod_lt_of_pos (available * ratio) htotal
    simp only [List.map_cons, List.sum_cons, List.length_cons, Nat.cast_add, Nat.cast_one]
    rw [Int.mul_add] at ih
    rw [Int.mul_add available, Int.mul_add, Int.mul_add, Int.mul_add, Int.mul_one]
    omega

/-- The micrometres that are left over when every share is rounded down. -/
def remainderUm (available : Int) (ratios : List Int) : Int :=
  available - (ratios.map fun ratio => available * ratio / ratios.sum).sum

theorem remainderUm_range (htotal : 0 < ratios.sum) :
    0 ≤ remainderUm available ratios ∧ remainderUm available ratios ≤ ratios.length := by
  have hlow := total_mul_sum_floor_le available ratios.sum htotal ratios
  have hhigh := le_total_mul_sum_floor available htotal ratios
  rw [Int.mul_comm available] at hlow hhigh
  have hle := le_of_mul_le_mul_left hlow htotal
  have hge := le_of_mul_le_mul_left hhigh htotal
  unfold remainderUm
  omega

/-- The shares in the order of their remainders. -/
def byRemainder (available : Int) (ratios : List Int) : List (Int × Nat) :=
  sortBy (fun entry : Int × Nat => toLex (-(available * entry.1 % ratios.sum), entry.2))
    ratios.zipIdx

/-- The shares that take one of the micrometres left over. -/
def raisedShares (available : Int) (ratios : List Int) : List Nat :=
  ((byRemainder available ratios).take (remainderUm available ratios).toNat).map Prod.snd

theorem byRemainder_nodup (available : Int) (ratios : List Int) :
    ((byRemainder available ratios).map Prod.snd).Nodup := by
  have hperm : ((byRemainder available ratios).map Prod.snd).Perm (ratios.zipIdx.map Prod.snd) :=
    (sortBy_perm _ _).map _
  rw [hperm.nodup_iff, List.zipIdx_map_snd]
  exact List.nodup_range'

theorem mem_byRemainder {i : Nat} (hi : i < ratios.length) :
    (entries ratios.length ratios ⟨i, hi⟩, i) ∈ byRemainder available ratios := by
  rw [byRemainder, mem_sortBy, List.mem_zipIdx_iff_getElem?]
  simp [entries, hi]

theorem raisedShares_lt {i : Nat} (h : i ∈ raisedShares available ratios) : i < ratios.length := by
  obtain ⟨entry, hentry, rfl⟩ := List.mem_map.mp h
  have hmem : entry ∈ ratios.zipIdx := mem_sortBy.mp (List.mem_of_mem_take hentry)
  simpa using List.snd_lt_of_mem_zipIdx hmem

theorem length_raisedShares (htotal : 0 < ratios.sum) :
    ((raisedShares available ratios).length : Int) = remainderUm available ratios := by
  obtain ⟨hlow, hhigh⟩ := @remainderUm_range available ratios htotal
  have hlength : (byRemainder available ratios).length = ratios.length := by
    rw [byRemainder, length_sortBy, List.length_zipIdx]
  rw [raisedShares, List.length_map, List.length_take, hlength]
  omega

/-- A raised share has the larger remainder, or the same one and stands first. -/
theorem raised_before {i j : Fin ratios.length} (hi : i.val ∈ raisedShares available ratios)
    (hj : j.val ∉ raisedShares available ratios) :
    available * entries _ ratios j % ratios.sum < available * entries _ ratios i % ratios.sum ∨
      available * entries _ ratios j % ratios.sum = available * entries _ ratios i % ratios.sum ∧
        i < j := by
  have hsplit := List.take_append_drop (remainderUm available ratios).toNat
    (byRemainder available ratios)
  have hsorted := sortBy_pairwise (fun entry : Int × Nat =>
    toLex (-(available * entry.1 % ratios.sum), entry.2)) ratios.zipIdx
  rw [← byRemainder, ← hsplit, List.pairwise_append] at hsorted
  have hmem : (entries _ ratios i, i.val) ∈
      (byRemainder available ratios).take (remainderUm available ratios).toNat := by
    obtain ⟨entry, hentry, hindex⟩ := List.mem_map.mp hi
    have hsame : entry = (entries _ ratios i, i.val) :=
      List.inj_on_of_nodup_map (byRemainder_nodup available ratios) (List.mem_of_mem_take hentry)
        (mem_byRemainder i.isLt) hindex
    rwa [hsame] at hentry
  have hnot : (entries _ ratios j, j.val) ∈
      (byRemainder available ratios).drop (remainderUm available ratios).toNat := by
    have hall := @mem_byRemainder available ratios _ j.isLt
    rw [← hsplit] at hall
    refine (List.mem_append.mp hall).resolve_left fun htake => hj ?_
    exact List.mem_map.mpr ⟨_, htake, rfl⟩
  have hle := hsorted.2.2 _ hmem _ hnot
  have hne : i.val ≠ j.val := fun heq => hj (heq ▸ hi)
  rw [Prod.Lex.toLex_le_toLex] at hle
  simp only at hle
  rcases hle with hlt | ⟨heq, hle⟩
  · exact Or.inl (by omega)
  · exact Or.inr ⟨by omega, Fin.lt_def.mpr (by omega)⟩

theorem entries_ratioWidths (i : Fin ratios.length) :
    entries _ (ratioWidths available ratios) i =
      available * entries _ ratios i / ratios.sum +
        if i.val ∈ raisedShares available ratios then 1 else 0 := by
  have hunfold : ratioWidths available ratios =
      (ratios.map fun ratio => available * ratio / ratios.sum).zipIdx.map fun entry =>
        if (raisedShares available ratios).contains entry.2 then entry.1 + 1 else entry.1 := rfl
  rw [hunfold]
  simp only [entries, List.getD_eq_getElem?_getD, List.getElem?_map, List.getElem?_zipIdx,
    List.getElem?_eq_getElem i.isLt, Option.map_some, Option.getD_some, Nat.zero_add,
    List.contains_iff_mem]
  split <;> simp

theorem sum_raised (htotal : 0 < ratios.sum) :
    ∑ i : Fin ratios.length, (if i.val ∈ raisedShares available ratios then (1 : Int) else 0) =
      remainderUm available ratios := by
  have hnodup : (raisedShares available ratios).Nodup := by
    have hsublist := (List.take_sublist (remainderUm available ratios).toNat
      (byRemainder available ratios)).map Prod.snd
    exact (byRemainder_nodup available ratios).sublist hsublist
  rw [Fin.sum_univ_eq_sum_range (fun i => if i ∈ raisedShares available ratios then (1 : Int) else 0),
    Finset.sum_boole, ← length_raisedShares htotal, ← List.toFinset_card_of_nodup hnodup]
  congr 2
  ext i
  simp only [Finset.mem_filter, Finset.mem_range, List.mem_toFinset]
  exact ⟨fun h => h.2, fun h => ⟨raisedShares_lt h, h⟩⟩

/-- The method of the largest remainders divides fairly. -/
theorem fair_ratioWidths (htotal : 0 < ratios.sum) :
    Fair available (entries ratios.length ratios)
      (entries ratios.length (ratioWidths available ratios)) := by
  have hweights : ∑ k, entries ratios.length ratios k = ratios.sum := sum_entries rfl
  refine fair_of_raised (by rw [hweights]; exact htotal)
    (fun i => i.val ∈ raisedShares available ratios) (fun i => ?_) ?_ fun i j hi hj => ?_
  · rw [hweights]
    exact entries_ratioWidths i
  · have hfloors : ∑ i, available * entries ratios.length ratios i / ratios.sum =
        available - remainderUm available ratios := by
      have hmap : (ratios.map fun ratio => available * ratio / ratios.sum).length = ratios.length :=
        List.length_map _
      rw [remainderUm, sub_sub_cancel, ← sum_entries hmap]
      refine Finset.sum_congr rfl fun i _ => ?_
      simp [entries]
    rw [Finset.sum_congr rfl fun i _ => entries_ratioWidths i, Finset.sum_add_distrib, hfloors,
      sum_raised htotal]
    omega
  · rw [hweights]
    exact raised_before hi hj

end Ratios

/-! ## Equal shares -/

theorem entries_equalShares (total : Int) {count : Nat} (i : Fin count) :
    entries count (equalShares total count) i =
      total / count + if (i.val : Int) < total % count then 1 else 0 := by
  simp [entries, equalShares]

theorem sum_first {count : Nat} {first : Int} (hlow : 0 ≤ first) (hhigh : first ≤ count) :
    ∑ i : Fin count, (if (i.val : Int) < first then (1 : Int) else 0) = first := by
  obtain ⟨n, rfl⟩ := Int.eq_ofNat_of_zero_le hlow
  have hn : n ≤ count := by omega
  rw [Fin.sum_univ_eq_sum_range (fun i => if (i : Int) < (n : Int) then (1 : Int) else 0),
    Finset.sum_boole]
  have hfilter : (Finset.range count).filter (fun i : Nat => (i : Int) < (n : Int)) =
      Finset.range n := by
    ext i
    simp only [Finset.mem_filter, Finset.mem_range]
    omega
  rw [hfilter, Finset.card_range]

theorem fair_equalShares (total : Int) {count : Nat} (hcount : 0 < count) :
    Fair total (entries count (List.replicate count 1)) (entries count (equalShares total count)) := by
  have hpos : (0 : Int) < count := by omega
  have hone (i : Fin count) : entries count (List.replicate count 1) i = 1 := by
    simp [entries]
  have hweights : ∑ k, entries count (List.replicate count 1) k = count := by
    rw [sum_entries (List.length_replicate)]
    simp
  refine fair_of_raised (by rw [hweights]; exact hpos) (fun i => (i.val : Int) < total % count)
    (fun i => ?_) ?_ fun i j hi hj => ?_
  · rw [hweights, hone, mul_one]
    exact entries_equalShares total i
  · have hfirst := @sum_first count _ (Int.emod_nonneg total hpos.ne')
      (Int.emod_lt_of_pos total hpos).le
    have hdivision := Int.mul_ediv_add_emod total count
    rw [Finset.sum_congr rfl fun i _ => entries_equalShares total i, Finset.sum_add_distrib, hfirst,
      Finset.sum_const, Finset.card_univ, Fintype.card_fin, nsmul_eq_mul]
    exact hdivision
  · refine Or.inr ⟨by rw [hone, hone], Fin.lt_def.mpr ?_⟩
    omega

/-! ## The bays -/

namespace BookcaseParameters

variable {p : BookcaseParameters}

/-- The clear width of all bays. -/
def clearWidth (p : BookcaseParameters) : Int :=
  p.innerWidth - p.verticalDividerCount * p.actualThicknessUm

/-- The weights by which the compiler divides: the given ratios, or equal ones. -/
def bayWeights (p : BookcaseParameters) : List Int :=
  if p.bayWidthRatiosPpm.length = p.verticalDividerCount + 1 then p.bayWidthRatiosPpm
  else List.replicate (p.verticalDividerCount + 1) 1

theorem length_bayWeights (p : BookcaseParameters) :
    p.bayWeights.length = p.verticalDividerCount + 1 := by
  unfold bayWeights
  split
  · assumption
  · exact List.length_replicate

theorem bayWeights_pos (hratios : ∀ ratio ∈ p.bayWidthRatiosPpm, 0 < ratio) :
    ∀ weight ∈ p.bayWeights, 0 < weight := by
  unfold bayWeights
  split
  · exact hratios
  · intro weight hweight
    rw [List.eq_of_mem_replicate hweight]
    exact Int.one_pos

theorem bayWeights_sum_pos (hratios : ∀ ratio ∈ p.bayWidthRatiosPpm, 0 < ratio) :
    0 < p.bayWeights.sum := by
  refine List.sum_pos _ (bayWeights_pos hratios) fun hnil => ?_
  have hlength := length_bayWeights p
  rw [hnil] at hlength
  exact absurd hlength (by simp)

/-- The bays share the clear width fairly. -/
theorem fair_bayWidths (hratios : ∀ ratio ∈ p.bayWidthRatiosPpm, 0 < ratio) :
    Fair p.clearWidth (entries (p.verticalDividerCount + 1) p.bayWeights)
      (entries (p.verticalDividerCount + 1) p.bayWidths) := by
  have hpos := bayWeights_sum_pos hratios
  unfold bayWidths allocateBayWidthsUm
  unfold bayWeights at hpos ⊢
  simp only
  split
  · next hlength =>
    rw [if_pos hlength] at hpos
    rw [← hlength]
    exact fair_ratioWidths hpos
  · exact fair_equalShares _ (Nat.succ_pos _)

theorem sum_bayWidths (hratios : ∀ ratio ∈ p.bayWidthRatiosPpm, 0 < ratio) :
    p.bayWidths.sum = p.clearWidth := by
  rw [← sum_entries (length_bayWidths p)]
  exact (fair_bayWidths hratios).sum

end BookcaseParameters

end Custombuild.Domain
