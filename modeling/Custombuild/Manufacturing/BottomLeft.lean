/-
  The nester places every blank at the least position there is.  The candidate positions are
  the corners made by the edges of what is in the way; a blank that fits anywhere can be moved
  down and to the left, micrometre by micrometre, until it stands at one of them.
-/
import Custombuild.Lib.Descent
import Custombuild.Manufacturing.Nesting

namespace Custombuild.Manufacturing

open Custombuild.Lib

/-! ## Fitting -/

theorem Rect.intersects_eq_false {r other : Rect} {clearance : Int} :
    r.intersects other clearance = false ↔
      r.rightUm + clearance ≤ other.xUm ∨ other.rightUm + clearance ≤ r.xUm ∨
        r.topUm + clearance ≤ other.yUm ∨ other.topUm + clearance ≤ r.yUm := by
  simp only [Rect.intersects, Bool.not_eq_false', Bool.or_eq_true, decide_eq_true_eq, or_assoc]

theorem Rect.intersects_comm (r other : Rect) (clearance : Int) :
    r.intersects other clearance = other.intersects r clearance := by
  rw [Bool.eq_iff_iff, ← not_iff_not, Bool.not_eq_true, Bool.not_eq_true, intersects_eq_false,
    intersects_eq_false]
  omega

theorem fits_iff {candidate : Placement} {occupied : List Placement} {stock : StockSheet} :
    fits candidate occupied stock = true ↔ stock.usableRect.contains candidate.rect = true ∧
      ∀ o ∈ obstaclesOf stock occupied, candidate.rect.intersects o stock.kerfUm = false := by
  simp only [fits, obstaclesOf, Bool.and_eq_true, Bool.not_eq_true', List.any_eq_false,
    Bool.not_eq_true, List.mem_append, List.mem_map, and_assoc]
  constructor
  · rintro ⟨hinside, hdefects, hclamps, hplaced⟩
    refine ⟨hinside, ?_⟩
    rintro o ((⟨placed, hmem, rfl⟩ | hdefect) | hclamp)
    · exact hplaced placed hmem
    · exact hdefects o hdefect
    · exact hclamps o hclamp
  · rintro ⟨hinside, hclear⟩
    exact ⟨hinside, fun o ho => hclear o (.inl (.inr ho)), fun o ho => hclear o (.inr ho),
      fun placed hplaced => hclear _ (.inl (.inl ⟨placed, hplaced, rfl⟩))⟩

/-! ## Candidate positions -/

/-- The x coordinates at which a blank is tried. -/
def IsCandidateX (stock : StockSheet) (occupied : List Placement) (x : Int) : Prop :=
  x = stock.usableRect.xUm ∨ ∃ o ∈ obstaclesOf stock occupied, o.rightUm + stock.kerfUm = x

/-- The y coordinates at which a blank is tried. -/
def IsCandidateY (stock : StockSheet) (occupied : List Placement) (y : Int) : Prop :=
  y = stock.usableRect.yUm ∨ ∃ o ∈ obstaclesOf stock occupied, o.topUm + stock.kerfUm = y

section Positions

variable {stock : StockSheet} {occupied : List Placement} {inst : PartInstance} {sheet : Int}
  {orientation : Orientation}

theorem mem_candidateOrigins {p : Point2D} : p ∈ candidateOrigins stock occupied ↔
    (IsCandidateX stock occupied p.xUm ∧ IsCandidateY stock occupied p.yUm) ∧
      p.xUm < stock.usableRect.rightUm ∧ p.yUm < stock.usableRect.topUm := by
  obtain ⟨x, y⟩ := p
  simp only [candidateOrigins, mem_sortBy, List.mem_filter, List.mem_flatMap, mem_sortedSet,
    List.mem_map, List.mem_cons, Point2D.mk.injEq, Bool.and_eq_true, decide_eq_true_eq,
    IsCandidateX, IsCandidateY]
  constructor
  · rintro ⟨⟨x', hx, y', hy, rfl, rfl⟩, hin⟩
    exact ⟨⟨hx, hy⟩, hin⟩
  · rintro ⟨⟨hx, hy⟩, hin⟩
    exact ⟨⟨x, hx, y, hy, rfl, rfl⟩, hin⟩

/-- A blank that fits, but not at a candidate x, also fits one micrometre to the left. -/
theorem fits_left {x y : Int}
    (h : fits (placementAt stock inst sheet orientation ⟨x, y⟩) occupied stock = true)
    (hx : ¬IsCandidateX stock occupied x) :
    fits (placementAt stock inst sheet orientation ⟨x - 1, y⟩) occupied stock = true := by
  rw [fits_iff, Rect.contains_iff] at h ⊢
  obtain ⟨⟨hleft, hbottom, hright, htop⟩, hclear⟩ := h
  simp only [IsCandidateX, not_or, not_exists, not_and] at hx
  simp only [placementAt, Placement.rect, Rect.rightUm, Rect.topUm] at *
  refine ⟨⟨by omega, hbottom, by omega, htop⟩, fun o ho => ?_⟩
  have hfree := Rect.intersects_eq_false.mp (hclear o ho)
  have hedge := hx.2 o ho
  rw [Rect.intersects_eq_false]
  simp only [Rect.rightUm, Rect.topUm] at hfree hedge ⊢
  omega

/-- A blank that fits, but not at a candidate y, also fits one micrometre further down. -/
theorem fits_down {x y : Int}
    (h : fits (placementAt stock inst sheet orientation ⟨x, y⟩) occupied stock = true)
    (hy : ¬IsCandidateY stock occupied y) :
    fits (placementAt stock inst sheet orientation ⟨x, y - 1⟩) occupied stock = true := by
  rw [fits_iff, Rect.contains_iff] at h ⊢
  obtain ⟨⟨hleft, hbottom, hright, htop⟩, hclear⟩ := h
  simp only [IsCandidateY, not_or, not_exists, not_and] at hy
  simp only [placementAt, Placement.rect, Rect.rightUm, Rect.topUm] at *
  refine ⟨⟨hleft, by omega, hright, by omega⟩, fun o ho => ?_⟩
  have hfree := Rect.intersects_eq_false.mp (hclear o ho)
  have hedge := hy.2 o ho
  rw [Rect.intersects_eq_false]
  simp only [Rect.rightUm, Rect.topUm] at hfree hedge ⊢
  omega

/-- Below and to the left of every position at which a blank fits there is a candidate
    position at which it fits. -/
theorem exists_candidate_le (hwidth : 0 < orientation.widthUm) (hheight : 0 < orientation.heightUm)
    {x y : Int} (h : fits (placementAt stock inst sheet orientation ⟨x, y⟩) occupied stock = true) :
    ∃ p ∈ candidateOrigins stock occupied, p.xUm ≤ x ∧ p.yUm ≤ y ∧
      fits (placementAt stock inst sheet orientation p) occupied stock = true := by
  have hinside (x y : Int)
      (h : fits (placementAt stock inst sheet orientation ⟨x, y⟩) occupied stock = true) :
      stock.usableRect.xUm ≤ x ∧ stock.usableRect.yUm ≤ y ∧
        x + orientation.widthUm ≤ stock.usableRect.rightUm ∧
        y + orientation.heightUm ≤ stock.usableRect.topUm :=
    Rect.contains_iff.mp (fits_iff.mp h).1
  obtain ⟨x', y', hx', hy', hX, hY, hfits⟩ :=
    exists_corner_le (P := fun x y =>
        fits (placementAt stock inst sheet orientation ⟨x, y⟩) occupied stock = true)
      (fun x y h => (hinside x y h).1) (fun x y h => (hinside x y h).2.1)
      (fun x y h hx => fits_left h hx) (fun x y h hy => fits_down h hy) h
  obtain ⟨-, -, hright, htop⟩ := hinside x' y' hfits
  exact ⟨⟨x', y'⟩, mem_candidateOrigins.mpr ⟨⟨hX, hY⟩, by simp only; omega, by simp only; omega⟩,
    hx', hy', hfits⟩

end Positions

/-! ## One instance -/

/-- The blank of the instance fits at a position of a sheet, in an orientation it may take,
    beside the placements made so far. -/
structure FitsAt (stock : StockSheet) (state : NestState) (inst : PartInstance) (sheet : Nat)
    (orientation : Orientation) (point : Point2D) : Prop where
  sheet_lt : sheet < stock.quantity
  allowed : orientation ∈ orientations inst.part stock
  fitting : fits (placementAt stock inst sheet orientation point) (state.occupied sheet) stock = true

/-- The order of the positions: sheet, y, x. -/
def positionOf (sheet : Nat) (point : Point2D) : Int ×ₗ Int ×ₗ Int :=
  toLex ((sheet : Int), toLex (point.yUm, point.xUm))

/-- The placement is at the least position at which the blank fits. -/
structure IsBottomLeft (stock : StockSheet) (state : NestState) (inst : PartInstance)
    (placement : Placement) : Prop where
  fitting : ∃ sheet orientation point, FitsAt stock state inst sheet orientation point ∧
    placement = placementAt stock inst sheet orientation point ∧
    ∀ sheet' orientation' point', FitsAt stock state inst sheet' orientation' point' →
      positionOf sheet point ≤ positionOf sheet' point'

section Choice

variable {stock : StockSheet} {state : NestState} {inst : PartInstance}

theorem mem_candidates {candidate : Placement} :
    candidate ∈ ((List.range stock.quantity).flatMap fun (sheet : Nat) =>
      fittingOn stock (state.occupied sheet) inst sheet) ↔
      ∃ sheet orientation point, FitsAt stock state inst sheet orientation point ∧
        point ∈ candidateOrigins stock (state.occupied sheet) ∧
        candidate = placementAt stock inst sheet orientation point := by
  simp only [List.mem_flatMap, List.mem_range, fittingOn, List.mem_filter, List.mem_map]
  constructor
  · rintro ⟨sheet, hsheet, orientation, horientation, ⟨point, hpoint, rfl⟩, hfits⟩
    exact ⟨sheet, orientation, point, ⟨hsheet, horientation, hfits⟩, hpoint, rfl⟩
  · rintro ⟨sheet, orientation, point, hfits, hpoint, rfl⟩
    exact ⟨sheet, hfits.sheet_lt, orientation, hfits.allowed, ⟨point, hpoint, rfl⟩, hfits.fitting⟩

/-- An orientation takes the sides of the blank. -/
theorem orientation_positive (hblank : 0 < inst.part.blankWidthUm ∧ 0 < inst.part.blankHeightUm)
    {orientation : Orientation} (h : orientation ∈ orientations inst.part stock) :
    0 < orientation.widthUm ∧ 0 < orientation.heightUm := by
  have hmem := (List.mem_filter.mp h).1
  split at hmem
  · simp only [List.mem_cons, List.not_mem_nil, or_false] at hmem
    rcases hmem with rfl | rfl
    · exact hblank
    · exact hblank.symm
  · rw [List.mem_singleton.mp hmem]
    exact hblank

theorem position_le_of_scoreOf {sheet sheet' : Nat} {orientation orientation' : Orientation}
    {point point' : Point2D}
    (h : scoreOf (placementAt stock inst sheet orientation point) ≤
      scoreOf (placementAt stock inst sheet' orientation' point')) :
    positionOf sheet point ≤ positionOf sheet' point' := by
  simp only [scoreOf, placementAt, positionOf, Prod.Lex.toLex_le_toLex] at h ⊢
  omega

theorem position_le {sheet : Nat} {point point' : Point2D} (hx : point.xUm ≤ point'.xUm)
    (hy : point.yUm ≤ point'.yUm) : positionOf sheet point ≤ positionOf sheet point' := by
  refine Prod.Lex.toLex_le_toLex.mpr (.inr ⟨rfl, Prod.Lex.toLex_le_toLex.mpr ?_⟩)
  simp only
  omega

theorem choosePlacement_eq_none
    (hblank : 0 < inst.part.blankWidthUm ∧ 0 < inst.part.blankHeightUm) :
    choosePlacement stock state inst = none ↔
      ∀ sheet orientation point, ¬FitsAt stock state inst sheet orientation point := by
  unfold choosePlacement
  rw [minBy_eq_none, List.eq_nil_iff_forall_not_mem]
  constructor
  · intro hnone sheet orientation point hfits
    obtain ⟨hwidth, hheight⟩ := orientation_positive hblank hfits.allowed
    obtain ⟨corner, hcorner, -, -, hcornerFits⟩ :=
      exists_candidate_le hwidth hheight hfits.fitting
    exact hnone _ (mem_candidates.mpr ⟨sheet, orientation, corner,
      ⟨hfits.sheet_lt, hfits.allowed, hcornerFits⟩, hcorner, rfl⟩)
  · intro hnone candidate hcandidate
    obtain ⟨sheet, orientation, point, hfits, -⟩ := mem_candidates.mp hcandidate
    exact hnone sheet orientation point hfits

theorem choosePlacement_eq_some
    (hblank : 0 < inst.part.blankWidthUm ∧ 0 < inst.part.blankHeightUm) {placement : Placement}
    (h : choosePlacement stock state inst = some placement) :
    IsBottomLeft stock state inst placement := by
  obtain ⟨sheet, orientation, point, hfits, -, rfl⟩ := mem_candidates.mp (minBy_mem h)
  refine ⟨sheet, orientation, point, hfits, rfl, fun sheet' orientation' point' hfits' => ?_⟩
  obtain ⟨hwidth, hheight⟩ := orientation_positive hblank hfits'.allowed
  obtain ⟨corner, hcorner, hx, hy, hcornerFits⟩ :=
    exists_candidate_le hwidth hheight hfits'.fitting
  have hmem := mem_candidates.mpr ⟨sheet', orientation', corner,
    ⟨hfits'.sheet_lt, hfits'.allowed, hcornerFits⟩, hcorner, rfl⟩
  calc positionOf sheet point
      ≤ positionOf sheet' corner := position_le_of_scoreOf (minBy_le h hmem)
    _ ≤ positionOf sheet' point' := position_le hx hy

end Choice

/-! ## The run -/

/-- Where the instance goes: nowhere when it is made of something else, or fits nowhere. -/
def outcomeOf (stock : StockSheet) (state : NestState) (inst : PartInstance) : Option Placement :=
  if compatible inst.part stock then choosePlacement stock state inst else none

section Run

variable {stock : StockSheet} {state : NestState} {inst : PartInstance}
  {instances before after : List PartInstance}

theorem nestStep_of_none (h : outcomeOf stock state inst = none) :
    nestStep stock state inst = { state with unplaced := state.unplaced ++ [inst.instanceId] } := by
  unfold nestStep
  cases hcompatible : compatible inst.part stock with
  | false => rfl
  | true =>
    rw [outcomeOf, if_pos hcompatible] at h
    rw [h]
    rfl

theorem nestStep_of_some {placement : Placement} (h : outcomeOf stock state inst = some placement) :
    compatible inst.part stock = true ∧ choosePlacement stock state inst = some placement ∧
      nestStep stock state inst =
        { state with placements := state.placements ++ [placement] } := by
  unfold outcomeOf at h
  split at h
  · rename_i hcompatible
    refine ⟨hcompatible, h, ?_⟩
    unfold nestStep
    rw [hcompatible, h]
    rfl
  · cases h

/-- What instances add to a state: placements and unplaced identities of their own. -/
theorem foldl_nestStep (stock : StockSheet) (instances : List PartInstance) (state : NestState) :
    ∃ placements unplaced,
      (instances.foldl (nestStep stock) state).placements = state.placements ++ placements ∧
      (instances.foldl (nestStep stock) state).unplaced = state.unplaced ++ unplaced ∧
      ∀ id ∈ unplaced, id ∈ instances.map PartInstance.instanceId := by
  induction instances generalizing state with
  | nil => exact ⟨[], [], by simp, by simp, by simp⟩
  | cons inst instances ih =>
    obtain ⟨placements, unplaced, hplacements, hunplaced, hids⟩ := ih (nestStep stock state inst)
    have hlater : ∀ id ∈ unplaced, id ∈ (inst :: instances).map PartInstance.instanceId :=
      fun id hid => List.mem_cons_of_mem _ (hids id hid)
    rw [List.foldl_cons]
    cases houtcome : outcomeOf stock state inst with
    | none =>
      rw [nestStep_of_none houtcome] at hplacements hunplaced ⊢
      refine ⟨placements, inst.instanceId :: unplaced, hplacements, ?_, ?_⟩
      · rw [hunplaced, List.append_assoc]
        rfl
      · exact List.forall_mem_cons.mpr ⟨List.mem_cons_self, hlater⟩
    | some placement =>
      rw [(nestStep_of_some houtcome).2.2] at hplacements hunplaced ⊢
      refine ⟨placement :: placements, unplaced, ?_, hunplaced, hlater⟩
      rw [hplacements, List.append_assoc]
      rfl

/-- The state before an instance of the run. -/
def stateBefore (stock : StockSheet) (before : List PartInstance) : NestState :=
  before.foldl (nestStep stock) {}

/-- In the run over all instances each one has the outcome of its own step. -/
theorem outcome_in_run (stock : StockSheet)
    (hunique : (instances.map PartInstance.instanceId).Nodup)
    (hsplit : instances = before ++ inst :: after) :
    (∀ placement, outcomeOf stock (stateBefore stock before) inst = some placement →
        placement ∈ (stateBefore stock instances).placements) ∧
      (inst.instanceId ∈ (stateBefore stock instances).unplaced ↔
        outcomeOf stock (stateBefore stock before) inst = none) := by
  subst hsplit
  have hrun : stateBefore stock (before ++ inst :: after) =
      after.foldl (nestStep stock) (nestStep stock (stateBefore stock before) inst) := by
    simp [stateBefore]
  obtain ⟨placements, unplaced, hplacements, hunplaced, hids⟩ :=
    foldl_nestStep stock after (nestStep stock (stateBefore stock before) inst)
  obtain ⟨_, earlier, -, hearlier, hearlierIds⟩ := foldl_nestStep stock before {}
  rw [List.map_append, List.map_cons, List.nodup_append] at hunique
  obtain ⟨-, hlater, hapart⟩ := hunique
  have hnotEarlier : inst.instanceId ∉ (stateBefore stock before).unplaced := by
    intro hmem
    have hmem' : inst.instanceId ∈ earlier := by
      rw [stateBefore, hearlier] at hmem
      simpa using hmem
    exact hapart _ (hearlierIds _ hmem') _ List.mem_cons_self rfl
  have hnotLater : inst.instanceId ∉ unplaced :=
    fun hmem => (List.nodup_cons.mp hlater).1 (hids _ hmem)
  rw [hrun, hplacements, hunplaced]
  cases houtcome : outcomeOf stock (stateBefore stock before) inst with
  | none =>
    rw [nestStep_of_none houtcome]
    refine ⟨fun placement h => ?_, ?_⟩
    · cases h
    · simp
  | some found =>
    rw [(nestStep_of_some houtcome).2.2]
    refine ⟨fun placement h => ?_, ?_⟩
    · cases h
      simp
    · simp [hnotEarlier, hnotLater]

/-! ## Used sheets -/

/-- No sheet below a used one is empty. -/
def NoGaps (placements : List Placement) : Prop :=
  ∀ placement ∈ placements, ∀ sheet : Nat, (sheet : Int) < placement.sheetIndex →
    ∃ other ∈ placements, other.sheetIndex = sheet

/-- What fits beside some placements fits where there are none. -/
theorem fits_empty {candidate : Placement} {occupied : List Placement}
    (h : fits candidate occupied stock = true) (sheet : Nat) :
    fits { candidate with sheetIndex := sheet } [] stock = true := by
  rw [fits_iff] at h ⊢
  refine ⟨h.1, fun o ho => h.2 o ?_⟩
  simp only [obstaclesOf, List.map_nil, List.nil_append, List.mem_append] at ho ⊢
  rcases ho with hdefect | hclamp
  · exact .inl (.inr hdefect)
  · exact .inr hclamp

theorem noGaps_concat (hstate : NoGaps state.placements) {placement : Placement}
    (h : IsBottomLeft stock state inst placement) : NoGaps (state.placements ++ [placement]) := by
  intro last hlast sheet hsheet
  rcases List.mem_append.mp hlast with hold | hnew
  · obtain ⟨other, hother, hindex⟩ := hstate last hold sheet hsheet
    exact ⟨other, List.mem_append_left _ hother, hindex⟩
  obtain rfl := List.mem_singleton.mp hnew
  obtain ⟨chosen, orientation, point, hfits, rfl, hleast⟩ := h.fitting
  by_contra hnone
  -- the empty sheet would have taken the blank
  have hlt : sheet < chosen := by
    simp only [placementAt] at hsheet
    omega
  have hempty : state.occupied sheet = [] := by
    refine List.filter_eq_nil_iff.mpr fun other hother hindex => hnone ?_
    exact ⟨other, List.mem_append_left _ hother, by simpa using hindex⟩
  have hfree : FitsAt stock state inst sheet orientation point := by
    refine ⟨by have := hfits.sheet_lt; omega, hfits.allowed, ?_⟩
    rw [hempty]
    exact fits_empty hfits.fitting sheet
  have hle := hleast sheet orientation point hfree
  simp only [positionOf, Prod.Lex.toLex_le_toLex] at hle
  omega

theorem noGaps_stateBefore (hblank : ∀ inst ∈ instances,
      0 < inst.part.blankWidthUm ∧ 0 < inst.part.blankHeightUm) :
    NoGaps (stateBefore stock instances).placements := by
  suffices h : ∀ state : NestState, NoGaps state.placements →
      NoGaps (instances.foldl (nestStep stock) state).placements by
    exact h {} fun placement hplacement => by cases hplacement
  intro state hstate
  induction instances generalizing state with
  | nil => exact hstate
  | cons inst instances ih =>
    rw [List.foldl_cons]
    refine ih (fun i hi => hblank i (List.mem_cons_of_mem _ hi)) _ ?_
    cases houtcome : outcomeOf stock state inst with
    | none =>
      rw [nestStep_of_none houtcome]
      exact hstate
    | some placement =>
      obtain ⟨-, hchoice, hstep⟩ := nestStep_of_some houtcome
      rw [hstep]
      exact noGaps_concat hstate (choosePlacement_eq_some (hblank inst List.mem_cons_self) hchoice)

/-- Every sheet counted as used has a placement. -/
theorem exists_on_used_sheet {placements : List Placement} (hgaps : NoGaps placements) {sheet : Nat}
    (h : (sheet : Int) < usedSheets placements) :
    ∃ placement ∈ placements, placement.sheetIndex = sheet := by
  by_contra hnone
  have hbelow : ∀ index ∈ placements.map Placement.sheetIndex, index ≤ (sheet : Int) - 1 := by
    intro index hindex
    obtain ⟨placement, hplacement, rfl⟩ := List.mem_map.mp hindex
    by_contra hlarge
    rcases Int.lt_or_eq_of_le (show (sheet : Int) ≤ placement.sheetIndex by omega) with hlt | heq
    · exact hnone (hgaps placement hplacement sheet hlt)
    · exact hnone ⟨placement, hplacement, heq.symm⟩
  have hmax := maxOf_le.mpr ⟨show (-1 : Int) ≤ (sheet : Int) - 1 by omega, hbelow⟩
  simp only [usedSheets] at h
  omega

end Run

end Custombuild.Manufacturing
