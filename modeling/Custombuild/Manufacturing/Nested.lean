/-
  The layouts the nester makes.  They pass the nester's own validation, whatever the parts and
  the stock are, and they do not depend on the order of the parts.
-/
import Custombuild.Manufacturing.LayoutChecks

namespace Custombuild.Manufacturing

open Custombuild.Lib

/-! ## The invariant of the run -/

/-- A placement of an instance of the stock's material, in an orientation it may take, inside
    the usable area and off the zones. -/
def IsSoundFor (stock : StockSheet) (inst : PartInstance) (placement : Placement) : Prop :=
  compatible inst.part stock = true ∧ ∃ sheet orientation point, sheet < stock.quantity ∧
    orientation ∈ orientations inst.part stock ∧
    placement = placementAt stock inst (sheet : Nat) orientation point ∧
    fits placement [] stock = true

/-- What holds after some of the instances: their placements are sound and keep apart, and each
    of them is placed or left out, once. -/
structure IsNested (stock : StockSheet) (done : List PartInstance) (state : NestState) : Prop where
  sound : ∀ placement ∈ state.placements, ∃ inst ∈ done, IsSoundFor stock inst placement
  separated : state.placements.Pairwise (Separated stock)
  accounted : (state.placements.map Placement.instanceId ++ state.unplaced).Perm
    (done.map PartInstance.instanceId)

section Step

variable {stock : StockSheet} {done : List PartInstance} {state : NestState} {inst : PartInstance}
  {placement : Placement}

theorem isNested_empty (stock : StockSheet) : IsNested stock [] {} where
  sound := fun placement hplacement => by cases hplacement
  separated := List.Pairwise.nil
  accounted := List.Perm.refl _

theorem sound_of_choosePlacement (hcompatible : compatible inst.part stock = true)
    (h : choosePlacement stock state inst = some placement) : IsSoundFor stock inst placement := by
  obtain ⟨sheet, orientation, point, hfits, -, rfl⟩ := mem_candidates.mp (minBy_mem h)
  exact ⟨hcompatible, sheet, orientation, point, hfits.sheet_lt, hfits.allowed, rfl,
    fits_empty hfits.fitting sheet⟩

theorem separated_of_choosePlacement (h : choosePlacement stock state inst = some placement) :
    ∀ other ∈ state.placements, Separated stock other placement := by
  obtain ⟨sheet, orientation, point, hfits, -, rfl⟩ := mem_candidates.mp (minBy_mem h)
  intro other hother hsheet
  have hoccupied : other ∈ state.occupied sheet :=
    List.mem_filter.mpr ⟨hother, beq_iff_eq.mpr hsheet⟩
  rw [Rect.intersects_comm]
  refine (fits_iff.mp hfits.fitting).2 other.rect ?_
  exact List.mem_append_left _ (List.mem_append_left _ (List.mem_map_of_mem hoccupied))

theorem isNested_nestStep (inst : PartInstance) (h : IsNested stock done state) :
    IsNested stock (done ++ [inst]) (nestStep stock state inst) := by
  have hsound : ∀ placement ∈ state.placements, ∃ i ∈ done ++ [inst], IsSoundFor stock i placement := by
    intro placement hplacement
    obtain ⟨i, hi, hfor⟩ := h.sound placement hplacement
    exact ⟨i, List.mem_append_left _ hi, hfor⟩
  cases houtcome : outcomeOf stock state inst with
  | none =>
    rw [nestStep_of_none houtcome]
    refine ⟨hsound, h.separated, ?_⟩
    rw [← List.append_assoc, List.map_append]
    exact h.accounted.append_right _
  | some placement =>
    obtain ⟨hcompatible, hchoice, hstep⟩ := nestStep_of_some houtcome
    have hnew := sound_of_choosePlacement hcompatible hchoice
    rw [hstep]
    refine ⟨?_, ?_, ?_⟩
    · intro p hp
      rcases List.mem_append.mp hp with hold | hlast
      · exact hsound p hold
      · rw [List.mem_singleton.mp hlast]
        exact ⟨inst, List.mem_append_right _ List.mem_cons_self, hnew⟩
    · refine List.pairwise_append.mpr ⟨h.separated, List.pairwise_singleton _ _, ?_⟩
      intro other hother p hp
      rw [List.mem_singleton.mp hp]
      exact separated_of_choosePlacement hchoice other hother
    · have hid : placement.instanceId = inst.instanceId := by
        obtain ⟨-, sheet, orientation, point, -, -, rfl, -⟩ := hnew
        rfl
      rw [List.map_append, List.map_append, List.append_assoc]
      refine (List.perm_append_comm.append_left _).trans ?_
      rw [← List.append_assoc, List.map_singleton, List.map_singleton, hid]
      exact h.accounted.append_right _

theorem isNested_foldl (rest : List PartInstance) (h : IsNested stock done state) :
    IsNested stock (done ++ rest) (rest.foldl (nestStep stock) state) := by
  induction rest generalizing done state with
  | nil => simpa using h
  | cons inst rest ih => simpa using ih (isNested_nestStep inst h)

theorem isNested_stateBefore (stock : StockSheet) (before : List PartInstance) :
    IsNested stock before (stateBefore stock before) :=
  isNested_foldl before (isNested_empty stock)

end Step

/-! ## The finished layout -/

/-- The layout's placements are those of its run, and so are the unplaced instances. -/
theorem layoutOf_placements_perm (stock : StockSheet) (state : NestState) :
    (layoutOf stock state).placements.Perm state.placements :=
  sortBy_perm _ _

theorem layoutOf_unplaced_perm (stock : StockSheet) (state : NestState) :
    (layoutOf stock state).unplacedInstanceIds.Perm state.unplaced :=
  sortBy_perm _ _

section Known

variable {instances : List PartInstance}

/-- With unique identities every instance is found under its own. -/
theorem instanceById_of_mem (hunique : (instances.map PartInstance.instanceId).Nodup)
    {inst : PartInstance} (h : inst ∈ instances) :
    instanceById instances inst.instanceId = some inst := by
  unfold instanceById
  cases hfound : instances.reverse.find? fun i => i.instanceId == inst.instanceId with
  | none =>
    have hnot := List.find?_eq_none.mp hfound inst (List.mem_reverse.mpr h)
    simp at hnot
  | some found =>
    have hmem := List.mem_reverse.mp (List.mem_of_find?_eq_some hfound)
    have hid : found.instanceId = inst.instanceId := by simpa using List.find?_some hfound
    rw [List.inj_on_of_nodup_map hunique hmem h hid]

end Known

section Layout

variable {stock : StockSheet} {instances : List PartInstance} {state : NestState}

/-- A sound placement passes the validator's checks. -/
theorem IsSoundFor.placementChecks {inst : PartInstance} {placement : Placement}
    (h : IsSoundFor stock inst placement) : PlacementChecks stock placement inst := by
  obtain ⟨-, sheet, orientation, point, hsheet, hallowed, rfl, hfits⟩ := h
  obtain ⟨hinside, hclear⟩ := fits_iff.mp hfits
  obtain ⟨hturned, hgrain⟩ := List.mem_filter.mp hallowed
  refine ⟨rfl, ?_, hgrain, ⟨Int.natCast_nonneg _, Int.ofNat_lt.mpr hsheet⟩, hinside, ?_, ?_⟩
  · split at hturned
    · simp only [List.mem_cons, List.not_mem_nil, or_false] at hturned
      rcases hturned with rfl | rfl <;> rfl
    · rw [List.mem_singleton.mp hturned]
      rfl
  · intro zone hzone
    exact hclear zone (by simp [obstaclesOf, hzone])
  · intro zone hzone
    exact hclear zone (by simp [obstaclesOf, hzone])

theorem IsSoundFor.stockId {inst : PartInstance} {placement : Placement}
    (h : IsSoundFor stock inst placement) : placement.stockId = stock.stockId := by
  obtain ⟨-, sheet, orientation, point, -, -, rfl, -⟩ := h
  rfl

theorem IsSoundFor.instanceId {inst : PartInstance} {placement : Placement}
    (h : IsSoundFor stock inst placement) : placement.instanceId = inst.instanceId := by
  obtain ⟨-, sheet, orientation, point, -, -, rfl, -⟩ := h
  rfl

theorem usedSheets_le (h : IsNested stock instances state) :
    usedSheets state.placements ≤ stock.quantity := by
  have hbound : maxOf (-1) (state.placements.map Placement.sheetIndex) ≤ (stock.quantity : Int) - 1 := by
    refine maxOf_le.mpr ⟨by have := stock.dims_pos.2.2.2; omega, ?_⟩
    intro index hindex
    obtain ⟨placement, hplacement, rfl⟩ := List.mem_map.mp hindex
    obtain ⟨inst, -, hsound⟩ := h.sound placement hplacement
    have hsheet := hsound.placementChecks.sheet
    omega
  simp only [usedSheets]
  omega

theorem IsNested.layoutChecks (h : IsNested stock instances state)
    (hunique : (instances.map PartInstance.instanceId).Nodup) :
    LayoutChecks (layoutOf stock state) instances := by
  have hplacements := layoutOf_placements_perm stock state
  have hids := hplacements.map Placement.instanceId
  have hapart := List.nodup_append.mp (h.accounted.nodup_iff.mpr hunique)
  refine ⟨usedSheets_le h, ?_, hids.nodup_iff.mpr hapart.1, ?_, ?_⟩
  · intro placement hplacement
    obtain ⟨inst, hinst, hsound⟩ := h.sound placement (hplacements.mem_iff.mp hplacement)
    refine ⟨hsound.stockId, inst, ?_, hsound.placementChecks⟩
    rw [hsound.instanceId]
    exact instanceById_of_mem hunique hinst
  · exact (hplacements.pairwise_iff fun hsep => hsep.symm).mpr h.separated
  · intro id
    rw [(layoutOf_unplaced_perm stock state).mem_iff, hids.mem_iff, ← h.accounted.mem_iff,
      List.mem_append]
    constructor
    · intro hunplaced
      exact ⟨.inr hunplaced, fun hplaced => hapart.2.2 id hplaced id hunplaced rfl⟩
    · rintro ⟨hplaced | hunplaced, hnot⟩
      · exact absurd hplaced hnot
      · exact hunplaced

end Layout

/-! ## The nester -/

theorem isNested_nestAll (instances : List PartInstance) (stock : StockSheet) :
    IsNested stock (sortBy nestKey instances) (nestAll instances stock) :=
  isNested_stateBefore stock _

theorem IsNested.of_perm {stock : StockSheet} {done instances : List PartInstance}
    {state : NestState} (h : IsNested stock done state) (hperm : done.Perm instances) :
    IsNested stock instances state where
  sound := fun placement hplacement => by
    obtain ⟨inst, hinst, hsound⟩ := h.sound placement hplacement
    exact ⟨inst, hperm.mem_iff.mp hinst, hsound⟩
  separated := h.separated
  accounted := h.accounted.trans (hperm.map _)

/-- The nester never fails, and the layout is the one of its run. -/
theorem nest_eq_ok {parts : PartsInput} (stock : StockSheet)
    (hunique : ((coercePartInstances parts).map PartInstance.instanceId).Nodup) :
    nest parts stock = .ok (layoutOf stock (nestAll (coercePartInstances parts) stock)) := by
  unfold nest
  simp only
  split
  · rename_i hempty
    rw [List.isEmpty_iff.mp hempty]
    simp [nestAll, sortBy, layoutOf, usedSheets, maxOf]
  · have hnested := (isNested_nestAll (coercePartInstances parts) stock).of_perm (sortBy_perm _ _)
    have hclear := unexpectedIssues_eq_nil.mpr (hnested.layoutChecks hunique)
    rw [hclear]
    rfl

/-- A sheet of birch plywood with a knot. -/
def sampleStock : StockSheet where
  stockId := "sheet"
  materialId := "birch-ply"
  materialVersion := "1"
  widthUm := 1000000
  heightUm := 600000
  thicknessUm := 18000
  quantity := 2
  allowRotation := false
  defectZones := [⟨0, 0, 50000, 50000⟩]

theorem sampleShelf_named : "shelf" ≠ "" := by decide

def sampleShelf : PartSpec where
  partId := "shelf"
  widthUm := 800000
  heightUm := 300000
  thicknessUm := 18000
  materialId := "birch-ply"
  materialVersion := "1"
  id_required := sampleShelf_named

def sampleParts : PartsInput := .instances [⟨"shelf:001", sampleShelf⟩, ⟨"shelf:002", sampleShelf⟩]

theorem sampleParts_unique :
    ((coercePartInstances sampleParts).map PartInstance.instanceId).Nodup := by
  decide

theorem sampleParts_blank : ∀ inst ∈ coercePartInstances sampleParts,
    0 < inst.part.blankWidthUm ∧ 0 < inst.part.blankHeightUm := by
  decide

/-- What a finished layout promises: its placements are legal, and every instance is placed or
    reported unplaced, once and not both. -/
structure ValidLayout (stock : StockSheet) (instances : List PartInstance) (layout : NestingLayout) :
    Prop where
  stock_eq : layout.stock = stock
  inside : ∀ placement ∈ layout.placements,
    0 ≤ placement.sheetIndex ∧ placement.sheetIndex < stock.quantity ∧
      stock.usableRect.contains placement.rect = true
  separated : layout.placements.Pairwise (Separated stock)
  clear : ∀ placement ∈ layout.placements, ∀ zone ∈ stock.defectZones ++ stock.clampZones,
    placement.rect.intersects zone stock.kerfUm = false
  fitting : ∀ placement ∈ layout.placements, ∃ inst ∈ instances,
    placement.instanceId = inst.instanceId ∧ placement.partId = inst.part.partId ∧
      (placement.widthUm, placement.heightUm) = expectedSize inst.part placement.rotated90 ∧
      inst.part.materialId = stock.materialId ∧
      inst.part.materialVersion = stock.materialVersion ∧
      inst.part.thicknessUm = stock.thicknessUm ∧
      grainAllows inst.part stock placement.rotated90 = true
  accounted : ∀ inst ∈ instances,
    ((layout.placements.map Placement.instanceId).count inst.instanceId = 1 ∧
        layout.unplacedInstanceIds.count inst.instanceId = 0) ∨
      ((layout.placements.map Placement.instanceId).count inst.instanceId = 0 ∧
        layout.unplacedInstanceIds.count inst.instanceId = 1)

theorem compatible_iff {part : PartSpec} {stock : StockSheet} : compatible part stock = true ↔
    part.materialId = stock.materialId ∧ part.materialVersion = stock.materialVersion ∧
      part.thicknessUm = stock.thicknessUm := by
  simp only [compatible, Bool.and_eq_true, beq_iff_eq, and_assoc]

theorem IsNested.validLayout {stock : StockSheet} {instances : List PartInstance}
    {state : NestState} (h : IsNested stock instances state)
    (hunique : (instances.map PartInstance.instanceId).Nodup) :
    ValidLayout stock instances (layoutOf stock state) := by
  have hplacements := layoutOf_placements_perm stock state
  have hsound : ∀ placement ∈ (layoutOf stock state).placements,
      ∃ inst ∈ instances, IsSoundFor stock inst placement :=
    fun placement hplacement => h.sound placement (hplacements.mem_iff.mp hplacement)
  refine ⟨rfl, ?_, (h.layoutChecks hunique).separated, ?_, ?_, ?_⟩
  · intro placement hplacement
    obtain ⟨inst, -, hfor⟩ := hsound placement hplacement
    have hchecks := hfor.placementChecks
    exact ⟨hchecks.sheet.1, hchecks.sheet.2, hchecks.inside⟩
  · intro placement hplacement zone hzone
    obtain ⟨inst, -, hfor⟩ := hsound placement hplacement
    rcases List.mem_append.mp hzone with hdefect | hclamp
    · exact hfor.placementChecks.defects zone hdefect
    · exact hfor.placementChecks.clamps zone hclamp
  · intro placement hplacement
    obtain ⟨inst, hinst, hfor⟩ := hsound placement hplacement
    obtain ⟨hmaterial, hversion, hthickness⟩ := compatible_iff.mp hfor.1
    exact ⟨inst, hinst, hfor.instanceId, hfor.placementChecks.part, hfor.placementChecks.size,
      hmaterial, hversion, hthickness, hfor.placementChecks.grain⟩
  · intro inst hinst
    have hcount := h.accounted.count_eq inst.instanceId
    rw [List.count_append, List.count_eq_one_of_mem hunique (List.mem_map_of_mem hinst)] at hcount
    rw [(hplacements.map Placement.instanceId).count_eq, (layoutOf_unplaced_perm stock state).count_eq]
    omega

/-- Whatever the parts and the stock are, the nester does not fail and its layout is valid. -/
theorem nest_valid (parts : PartsInput) (stock : StockSheet)
    (hunique : ((coercePartInstances parts).map PartInstance.instanceId).Nodup) :
    ∃ layout, nest parts stock = .ok layout ∧
      ValidLayout stock (coercePartInstances parts) layout :=
  ⟨_, nest_eq_ok stock hunique,
    ((isNested_nestAll _ stock).of_perm (sortBy_perm _ _)).validLayout hunique⟩

theorem nest_valid_sample : ∃ layout, nest sampleParts sampleStock = .ok layout ∧
    ValidLayout sampleStock (coercePartInstances sampleParts) layout :=
  nest_valid sampleParts sampleStock sampleParts_unique

/-! ## Bottom left -/

/-- The state before an instance holds the placements the layout has of the instances before it. -/
theorem mem_stateBefore {stock : StockSheet} {instances before after : List PartInstance}
    (hunique : (instances.map PartInstance.instanceId).Nodup) (hsplit : instances = before ++ after)
    {placement : Placement} : placement ∈ (stateBefore stock before).placements ↔
      placement ∈ (stateBefore stock instances).placements ∧
        placement.instanceId ∈ before.map PartInstance.instanceId := by
  have hwhole := isNested_stateBefore stock instances
  have hpart := isNested_stateBefore stock before
  have hapart := List.nodup_append.mp (hwhole.accounted.nodup_iff.mpr hunique)
  obtain ⟨placements, unplaced, hplacements, hunplaced, -⟩ :=
    foldl_nestStep stock after (stateBefore stock before)
  have hrun : stateBefore stock instances = after.foldl (nestStep stock) (stateBefore stock before) := by
    rw [hsplit, stateBefore, List.foldl_append]
    rfl
  rw [← hrun] at hplacements hunplaced
  constructor
  · intro hmem
    refine ⟨by rw [hplacements]; exact List.mem_append_left _ hmem, hpart.accounted.mem_iff.mp ?_⟩
    exact List.mem_append_left _ (List.mem_map_of_mem hmem)
  · rintro ⟨hmem, hid⟩
    rcases List.mem_append.mp (hpart.accounted.mem_iff.mpr hid) with hplaced | hleft
    · obtain ⟨other, hother, hsame⟩ := List.mem_map.mp hplaced
      have hotherMem : other ∈ (stateBefore stock instances).placements := by
        rw [hplacements]
        exact List.mem_append_left _ hother
      rw [← List.inj_on_of_nodup_map hapart.1 hotherMem hmem hsame]
      exact hother
    · have hlast : placement.instanceId ∈ (stateBefore stock instances).unplaced := by
        rw [hunplaced]
        exact List.mem_append_left _ hleft
      exact absurd rfl (hapart.2.2 _ (List.mem_map_of_mem hmem) _ hlast)

/-- What the layout says of an instance that comes after the instances `before`: `state` holds
    the placements the layout has of these. -/
structure BottomLeftIn (layout : NestingLayout) (stock : StockSheet) (before : List PartInstance)
    (inst : PartInstance) (state : NestState) : Prop where
  earlier : ∀ placement, placement ∈ state.placements ↔ placement ∈ layout.placements ∧
    placement.instanceId ∈ before.map PartInstance.instanceId
  unplaced_iff : inst.instanceId ∈ layout.unplacedInstanceIds ↔
    ∀ sheet orientation point, ¬FitsAt stock state inst sheet orientation point
  placed : inst.instanceId ∉ layout.unplacedInstanceIds →
    ∃ placement ∈ layout.placements, IsBottomLeft stock state inst placement

/-- Every instance of the stock's material stands, in the order of the run, at the least
    sheet, y and x of all the integer positions at which it fits; it is left out only where
    there is none, and no used sheet is empty. -/
theorem nest_bottom_left (parts : PartsInput) (stock : StockSheet)
    (hunique : ((coercePartInstances parts).map PartInstance.instanceId).Nodup)
    (hblank : ∀ inst ∈ coercePartInstances parts,
      0 < inst.part.blankWidthUm ∧ 0 < inst.part.blankHeightUm) :
    ∃ layout, nest parts stock = .ok layout ∧
      (∀ before inst after,
        sortBy nestKey (coercePartInstances parts) = before ++ inst :: after →
        compatible inst.part stock = true →
          BottomLeftIn layout stock before inst (stateBefore stock before)) ∧
      ∀ sheet : Nat, (sheet : Int) < layout.usedSheetCount →
        ∃ placement ∈ layout.placements, placement.sheetIndex = sheet := by
  have hperm := sortBy_perm nestKey (coercePartInstances parts)
  have hsorted := (hperm.map PartInstance.instanceId).nodup_iff.mpr hunique
  refine ⟨_, nest_eq_ok stock hunique, ?_, ?_⟩
  · intro before inst after hsplit hcompatible
    have hpositive := hblank inst (hperm.mem_iff.mp (by rw [hsplit]; simp))
    obtain ⟨hplaced, hunplaced⟩ := outcome_in_run stock hsorted hsplit
    have houtcome : outcomeOf stock (stateBefore stock before) inst =
        choosePlacement stock (stateBefore stock before) inst := if_pos hcompatible
    rw [houtcome] at hplaced hunplaced
    refine ⟨?_, ?_, ?_⟩
    · intro placement
      rw [(layoutOf_placements_perm stock _).mem_iff]
      exact mem_stateBefore hsorted hsplit
    · rw [(layoutOf_unplaced_perm stock _).mem_iff, ← choosePlacement_eq_none hpositive]
      exact hunplaced
    · rw [(layoutOf_unplaced_perm stock _).mem_iff]
      intro hnot
      obtain ⟨placement, hchoice⟩ := Option.ne_none_iff_exists'.mp fun h => hnot (hunplaced.mpr h)
      refine ⟨placement, ?_, choosePlacement_eq_some hpositive hchoice⟩
      exact (layoutOf_placements_perm stock _).mem_iff.mpr (hplaced placement hchoice)
  · intro sheet hsheet
    have hgaps : NoGaps (nestAll (coercePartInstances parts) stock).placements :=
      noGaps_stateBefore fun inst hinst => hblank inst (hperm.mem_iff.mp hinst)
    obtain ⟨placement, hplacement, hindex⟩ := exists_on_used_sheet hgaps hsheet
    exact ⟨placement, (layoutOf_placements_perm stock _).mem_iff.mpr hplacement, hindex⟩

theorem nest_bottom_left_sample : ∃ layout, nest sampleParts sampleStock = .ok layout ∧
    BottomLeftIn layout sampleStock [] ⟨"shelf:001", sampleShelf⟩ {} := by
  obtain ⟨layout, hnest, hplaced, -⟩ :=
    nest_bottom_left sampleParts sampleStock sampleParts_unique sampleParts_blank
  have hsorted : sortBy nestKey (coercePartInstances sampleParts) =
      coercePartInstances sampleParts := by
    exact List.Pairwise.insertionSort_eq (by decide +kernel)
  exact ⟨layout, hnest, hplaced [] _ [⟨"shelf:002", sampleShelf⟩] hsorted (by decide)⟩

/-! ## The order of the parts -/

/-- The same parts in another order. -/
def PartsInput.Perm : PartsInput → PartsInput → Prop
  | .specs parts, .specs parts' => parts.Perm parts'
  | .instances parts, .instances parts' => parts.Perm parts'
  | _, _ => False

theorem nestKey_instanceId {inst inst' : PartInstance} (h : nestKey inst = nestKey inst') :
    inst.instanceId = inst'.instanceId := by
  have h' := congrArg (fun key => (ofLex (ofLex (ofLex (ofLex key).2).2).2)) h
  exact congrArg (fun key => (ofLex key).2) h'

/-- Parts whose instances have unique identities have unique identities. -/
theorem partId_unique {parts : List PartSpec}
    (hunique : ((expandPartInstances parts).map PartInstance.instanceId).Nodup) :
    (parts.map PartSpec.partId).Nodup := by
  have hsorted : ((sortBy PartSpec.partId parts).map PartSpec.partId).Nodup := by
    unfold expandPartInstances at hunique
    rw [List.map_flatMap, List.nodup_flatMap] at hunique
    rw [List.nodup_iff_pairwise_ne, List.pairwise_map]
    refine hunique.2.imp fun {part part'} hdisjoint hid => ?_
    have hfirst (part : PartSpec) : part.partId ++ ":" ++ pad3 (((0 : Nat) : Int) + 1) ∈
        ((List.range part.quantity).map fun (index : Nat) =>
          (⟨part.partId ++ ":" ++ pad3 (index + 1), part⟩ : PartInstance)).map
            PartInstance.instanceId := by
      refine List.mem_map.mpr ⟨_, List.mem_map.mpr ⟨0, List.mem_range.mpr ?_, rfl⟩, rfl⟩
      exact part.quantity_pos
    exact hdisjoint (hfirst part) (by rw [hid]; exact hfirst part')
  exact ((sortBy_perm _ _).map _).nodup_iff.mp hsorted

theorem coercePartInstances_perm {parts parts' : PartsInput} (hperm : parts.Perm parts')
    (hunique : ((coercePartInstances parts).map PartInstance.instanceId).Nodup) :
    (coercePartInstances parts).Perm (coercePartInstances parts') := by
  cases parts with
  | specs specs =>
    cases parts' with
    | specs specs' =>
      have hsame : sortBy PartSpec.partId specs = sortBy PartSpec.partId specs' :=
        sortBy_eq_of_perm hperm fun a ha b hb hid =>
          List.inj_on_of_nodup_map (partId_unique hunique) ha hb hid
      simp only [coercePartInstances, expandPartInstances, hsame, List.Perm.refl]
    | instances _ => cases hperm
  | instances specs =>
    cases parts' with
    | specs _ => cases hperm
    | instances specs' => exact hperm

/-- The nester returns the same layout for the parts in any order. -/
theorem nest_order_independent (parts parts' : PartsInput) (stock : StockSheet)
    (hunique : ((coercePartInstances parts).map PartInstance.instanceId).Nodup)
    (hperm : parts.Perm parts') :
    ∃ layout, nest parts stock = .ok layout ∧ nest parts' stock = .ok layout := by
  have hinstances := coercePartInstances_perm hperm hunique
  have hunique' := (hinstances.map PartInstance.instanceId).nodup_iff.mp hunique
  refine ⟨_, nest_eq_ok stock hunique, ?_⟩
  rw [nest_eq_ok stock hunique', nestAll, nestAll]
  rw [sortBy_eq_of_perm hinstances fun a ha b hb hkey =>
    List.inj_on_of_nodup_map hunique ha hb (nestKey_instanceId hkey)]

theorem nest_order_independent_sample : ∃ layout, nest sampleParts sampleStock = .ok layout ∧
    nest (.instances [⟨"shelf:002", sampleShelf⟩, ⟨"shelf:001", sampleShelf⟩]) sampleStock =
      .ok layout :=
  nest_order_independent sampleParts _ sampleStock sampleParts_unique (List.Perm.swap _ _ _)

/-! ## Edited layouts -/

/-- The constraints of the nester, read off a layout that anyone may have made. -/
structure NesterConstraints (layout : NestingLayout) (instances : List PartInstance) : Prop where
  made : ∀ placement ∈ layout.placements, ∃ inst,
    instanceById instances placement.instanceId = some inst ∧
      compatible inst.part layout.stock = true ∧
      (placement.rotated90 = true →
        inst.part.allowRotation = true ∧ layout.stock.allowRotation = true)
  inside : ∀ placement ∈ layout.placements,
    layout.stock.usableRect.contains placement.rect = true
  clear : ∀ placement ∈ layout.placements,
    ∀ zone ∈ layout.stock.defectZones ++ layout.stock.clampZones,
      placement.rect.intersects zone layout.stock.kerfUm = false
  separated : layout.placements.Pairwise (Separated layout.stock)
  sheets : layout.usedSheetCount = usedSheets layout.placements

/-- The constraints that `validate_layout` has no check for. -/
structure UncheckedConstraints (layout : NestingLayout) (instances : List PartInstance) : Prop where
  made : ∀ placement ∈ layout.placements, ∀ inst,
    instanceById instances placement.instanceId = some inst →
      compatible inst.part layout.stock = true ∧
      (placement.rotated90 = true →
        inst.part.allowRotation = true ∧ layout.stock.allowRotation = true)
  sheets : layout.usedSheetCount = usedSheets layout.placements

/-- A layout that passes every check meets the constraints exactly when it meets the unchecked
    ones. -/
theorem nesterConstraints_iff {layout : NestingLayout} {instances : List PartInstance}
    (h : LayoutChecks layout instances) :
    NesterConstraints layout instances ↔ UncheckedConstraints layout instances := by
  constructor
  · intro hmeets
    refine ⟨fun placement hplacement inst hinst => ?_, hmeets.sheets⟩
    obtain ⟨inst', hinst', hmade⟩ := hmeets.made placement hplacement
    rw [hinst] at hinst'
    cases hinst'
    exact hmade
  · intro hmeets
    refine ⟨?_, ?_, ?_, h.separated, hmeets.sheets⟩
    · intro placement hplacement
      obtain ⟨-, inst, hinst, -⟩ := h.checked placement hplacement
      exact ⟨inst, hinst, hmeets.made placement hplacement inst hinst⟩
    · intro placement hplacement
      obtain ⟨-, inst, -, hchecks⟩ := h.checked placement hplacement
      exact hchecks.inside
    · intro placement hplacement zone hzone
      obtain ⟨-, inst, -, hchecks⟩ := h.checked placement hplacement
      rcases List.mem_append.mp hzone with hdefect | hclamp
      · exact hchecks.defects zone hdefect
      · exact hchecks.clamps zone hclamp

/-- A clean report guarantees the nester's constraints exactly for the layouts that fail a
    check, leave a part unplaced, or meet the unchecked constraints by themselves. -/
theorem validateLayout_guards_iff (layout : NestingLayout) (instances : List PartInstance) :
    ((∀ issue ∈ validateLayout layout instances, issue.severity ≠ .block) →
        NesterConstraints layout instances) ↔
      (LayoutChecks layout instances → layout.unplacedInstanceIds = [] →
        UncheckedConstraints layout instances) := by
  rw [validateLayout_clear]
  constructor
  · intro h hchecks hunplaced
    exact (nesterConstraints_iff hchecks).mp (h ⟨hchecks, hunplaced⟩)
  · rintro h ⟨hchecks, hunplaced⟩
    exact (nesterConstraints_iff hchecks).mpr (h hchecks hunplaced)

/-- A turned shelf of another thickness, on a sheet that may not be turned; the layout counts a
    sheet nothing is on. -/
def editedLayout : NestingLayout where
  stock := sampleStock
  placements := [⟨"thin:001", "thin", "sheet", 0, 100000, 100000, 300000, 400000, true⟩]
  usedSheetCount := 2
  algorithm := "manual-v1"

def thinShelf : PartSpec where
  partId := "thin"
  widthUm := 400000
  heightUm := 300000
  thicknessUm := 12000
  materialId := "birch-ply"
  materialVersion := "1"

theorem validateLayout_misses :
    ¬∀ (layout : NestingLayout) (instances : List PartInstance),
      (∀ issue ∈ validateLayout layout instances, issue.severity ≠ .block) →
        NesterConstraints layout instances := by
  intro h
  have hclear : validateLayout editedLayout [⟨"thin:001", thinShelf⟩] = [] := by decide +kernel
  have hmeets := h editedLayout [⟨"thin:001", thinShelf⟩] fun issue hissue => by
    rw [hclear] at hissue
    cases hissue
  exact absurd hmeets.sheets (by decide)

end Custombuild.Manufacturing
