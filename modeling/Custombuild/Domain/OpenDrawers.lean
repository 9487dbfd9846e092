/-
  The solids of tables and chests, with the drawers of a chest closed or open.

  Every board of a drawer stays in the cell of its row: between the sides of the carcass, above
  the row before and in front of the back.  No panel of the carcass reaches into these cells, and
  an opening moves a board along its cell only.
-/
import Custombuild.Domain.FurnitureFamilies
import Custombuild.Domain.Solids
import Custombuild.Domain.ExactShares

namespace Custombuild.Domain

open Custombuild.Lib

/-! ## Boxes -/

/-- A box with positive sides, anywhere in space. -/
structure Box where
  xUm : Int
  yUm : Int
  zUm : Int
  size : Dimensions3D

namespace Box

/-- Two boxes have volume in common. -/
def Overlap (a b : Box) : Prop :=
  (a.xUm < b.xUm + b.size.widthUm ∧ b.xUm < a.xUm + a.size.widthUm) ∧
  (a.yUm < b.yUm + b.size.depthUm ∧ b.yUm < a.yUm + a.size.depthUm) ∧
  (a.zUm < b.zUm + b.size.heightUm ∧ b.zUm < a.zUm + a.size.heightUm)

/-- A box moved towards the front. -/
def pulled (box : Box) (um : Int) : Box := { box with yUm := box.yUm - um }

@[simp] theorem pulled_zero (box : Box) : box.pulled 0 = box := by simp [pulled]

theorem Overlap.symm {a b : Box} (h : a.Overlap b) : b.Overlap a := by
  unfold Overlap at h ⊢
  omega

/-- A box lies in the envelope of a width, a height and a depth. -/
def Inside (box : Box) (dimensions : Int × Int × Int) : Prop :=
  (0 ≤ box.xUm ∧ box.xUm + box.size.widthUm ≤ dimensions.1) ∧
  (0 ≤ box.yUm ∧ box.yUm + box.size.depthUm ≤ dimensions.2.2) ∧
  (0 ≤ box.zUm ∧ box.zUm + box.size.heightUm ≤ dimensions.2.1)

end Box

/-- The box that a part takes up. -/
def FurniturePart.box (part : FurniturePart) : Box :=
  ⟨part.placement.xUm, part.placement.yUm, part.placement.zUm, part.finishedSize⟩

/-! ## Solids of furniture -/

def FurniturePart.IsCarcass (part : FurniturePart) : Prop := ∃ role, part.role = .carcass role

/-- A dado joins two parts. -/
def Joint.LinksByDado (joint : Joint) (a b : FurniturePart) : Prop :=
  joint.jointType = .dado ∧
    (joint.partIds = [a.partId, b.partId] ∨ joint.partIds = [b.partId, a.partId])

/-- Rows one above the other that leave nothing between a lower and an upper end. -/
def Tiles : Int → List DrawerRow → Int → Prop
  | low, [], high => low = high
  | low, row :: rows, high => row.cursorUm = low ∧ 0 < row.heightUm ∧ Tiles row.endUm rows high

/-- The boards of a group keep to the height of a row, the front gap away from its ends. -/
def KeepsToRow (result : FamilyResult) (gap : Int) (row : DrawerRow) (group : MovingGroup) : Prop :=
  ∀ part ∈ result.parts, part.partId ∈ group.partIds →
    row.cursorUm + gap ≤ part.box.zUm ∧
      part.box.zUm + part.box.size.heightUm ≤ row.endUm - gap

/-- An opening of every drawer, within its travel. -/
def Openings (result : FamilyResult) (opening : MovingGroup → Int) : Prop :=
  ∀ group ∈ result.movingGroups, 0 ≤ opening group ∧ opening group ≤ group.travelUm

/-- The solids of furniture keep clear of each other, however far its drawers are open. -/
structure SolidsClear (design : FurnitureDesign) (result : FamilyResult) : Prop where
  inside : ∀ part ∈ result.parts, part.box.Inside design.intent.dimensions
  joined : ∀ a ∈ result.parts, ∀ b ∈ result.parts, a ≠ b → a.box.Overlap b.box →
    a.IsCarcass ∧ b.IsCarcass ∧ ∃ joint ∈ result.joints, joint.LinksByDado a b
  rows : ∀ p, design.intent = .chest p →
    ∃ rows : List DrawerRow, rows.length = p.drawerCount ∧
      Tiles design.material.measuredThicknessUm rows
        (p.heightUm - design.material.measuredThicknessUm) ∧
      List.Forall₂ (KeepsToRow result p.frontGapUm) rows result.movingGroups
  moving : ∀ p, design.intent = .chest p → ∀ part ∈ result.parts,
    ¬part.IsCarcass ↔ ∃ group ∈ result.movingGroups, part.partId ∈ group.partIds
  open_clear : ∀ opening, Openings result opening →
    ∀ group ∈ result.movingGroups, ∀ a ∈ result.parts, a.partId ∈ group.partIds →
      (∀ b ∈ result.parts, b.IsCarcass → ¬(a.box.pulled (opening group)).Overlap b.box) ∧
      ∀ other ∈ result.movingGroups, other ≠ group →
        ∀ b ∈ result.parts, b.partId ∈ other.partIds →
          ¬(a.box.pulled (opening group)).Overlap (b.box.pulled (opening other))

/-! ## Boards and their plans -/

/-- A part has the role and the box of its plan. -/
structure BoardPlan.Makes (plan : BoardPlan) (part : FurniturePart) : Prop where
  role : part.role = plan.role
  widthUm : part.box.size.widthUm = plan.widthUm
  depthUm : part.box.size.depthUm = plan.depthUm
  heightUm : part.box.size.heightUm = plan.heightUm
  xUm : part.box.xUm = plan.xUm
  yUm : part.box.yUm = plan.yUm
  zUm : part.box.zUm = plan.zUm

theorem makes_of_panel {ident : Identity} {design : FurnitureDesign} {plan : BoardPlan}
    {part : FurniturePart} (h : panel ident design plan = .ok part) : plan.Makes part := by
  simp only [panel, bind_eq_ok, require_eq_ok] at h
  obtain ⟨_, -, size, hsize, placement, hplacement, hpart⟩ := h
  cases hpart
  obtain ⟨hw, hd, hh⟩ := dimensions_make_ok hsize
  obtain ⟨hx, hy, hz⟩ := point_make_ok hplacement
  exact ⟨rfl, hw, hd, hh, hx, hy, hz⟩

/-- Two plans have no volume in common. -/
def BoardPlan.Apart (a b : BoardPlan) : Prop :=
  (a.xUm + a.widthUm ≤ b.xUm ∨ b.xUm + b.widthUm ≤ a.xUm) ∨
  (a.yUm + a.depthUm ≤ b.yUm ∨ b.yUm + b.depthUm ≤ a.yUm) ∨
  (a.zUm + a.heightUm ≤ b.zUm ∨ b.zUm + b.heightUm ≤ a.zUm)

theorem BoardPlan.Apart.symm {a b : BoardPlan} (h : a.Apart b) : b.Apart a := by
  unfold BoardPlan.Apart at h ⊢
  omega

theorem not_overlap_of_apart {plan plan' : BoardPlan} {a b : FurniturePart}
    (h : plan.Apart plan') (ha : plan.Makes a) (hb : plan'.Makes b) : ¬a.box.Overlap b.box := by
  intro hoverlap
  unfold Box.Overlap at hoverlap
  rw [ha.xUm, ha.yUm, ha.zUm, ha.widthUm, ha.depthUm, ha.heightUm, hb.xUm, hb.yUm, hb.zUm,
    hb.widthUm, hb.depthUm, hb.heightUm] at hoverlap
  unfold BoardPlan.Apart at h
  omega

/-- Different boards made from plans that are apart have no volume in common. -/
theorem not_overlap_of_pairwise {ident : Identity} {design : FurnitureDesign}
    {plans : List BoardPlan} {boards : List FurniturePart} (hplans : plans.Pairwise BoardPlan.Apart)
    (hboards : collect (panel ident design) plans = .ok boards) {a b : FurniturePart}
    (ha : a ∈ boards) (hb : b ∈ boards) (hne : a ≠ b) : ¬a.box.Overlap b.box := by
  obtain ⟨plan, hplan, hmake⟩ := mem_of_collect hboards ha
  obtain ⟨plan', hplan', hmake'⟩ := mem_of_collect hboards hb
  have hdifferent : plan ≠ plan' := by
    intro heq
    rw [heq, hmake'] at hmake
    exact hne (Except.ok.inj hmake).symm
  have : Std.Symm BoardPlan.Apart := ⟨fun _ _ h => h.symm⟩
  exact not_overlap_of_apart (hplans.forall hplan hplan' hdifferent) (makes_of_panel hmake)
    (makes_of_panel hmake')

/-! ## Tables -/

/-- The boards of a table have no volume in common. -/
theorem tablePlans_apart {m : MaterialVersion} {t : Int} {p : TableIntent}
    (hdepth : 4 * t < p.depthUm) (hclear : 0 ≤ p.widthUm - 2 * (p.endInsetUm + t)) :
    (tablePlans m t p).Pairwise BoardPlan.Apart := by
  simp only [tablePlans, List.pairwise_cons, List.mem_cons, List.not_mem_nil, or_false,
    forall_eq_or_imp, forall_eq, BoardPlan.Apart, List.Pairwise.nil, false_imp_iff, implies_true,
    and_true]
  refine ⟨⟨?_, ?_, ?_, ?_⟩, ⟨?_, ?_, ?_⟩, ⟨?_, ?_⟩, ?_⟩ <;> omega

/-! ## Rows -/

theorem tiles_stackRows : ∀ (index : Nat) (low : Int) (heights : List Int),
    (∀ row ∈ stackRows index low heights, 0 < row.heightUm) →
      Tiles low (stackRows index low heights) (low + heights.sum)
  | _, low, [], _ => by simp [stackRows, Tiles]
  | index, low, height :: heights, h => by
    have ih := tiles_stackRows (index + 1) (low + height) heights fun row hrow =>
      h row (List.mem_cons_of_mem _ hrow)
    rw [add_assoc, ← List.sum_cons] at ih
    exact ⟨rfl, h _ List.mem_cons_self, ih⟩

theorem length_stackRows : ∀ (index : Nat) (low : Int) (heights : List Int),
    (stackRows index low heights).length = heights.length
  | _, _, [] => rfl
  | index, low, height :: heights => by
    rw [stackRows, List.length_cons, length_stackRows, List.length_cons]

/-- The rows of a tiling lie between its ends. -/
theorem Tiles.within : ∀ {low : Int} {rows : List DrawerRow} {high : Int}, Tiles low rows high →
    low ≤ high ∧ ∀ row ∈ rows, low ≤ row.cursorUm ∧ row.endUm ≤ high
  | _, [], _, h => ⟨le_of_eq h, fun _ hrow => absurd hrow List.not_mem_nil⟩
  | low, row :: rows, high, h => by
    obtain ⟨hcursor, hheight, htail⟩ := h
    obtain ⟨hle, hrows⟩ := htail.within
    have hend : low < row.endUm := by
      unfold DrawerRow.endUm
      omega
    refine ⟨by omega, fun other hother => ?_⟩
    rcases List.mem_cons.mp hother with rfl | hmem
    · exact ⟨by omega, hle⟩
    · have hother := hrows other hmem
      exact ⟨by omega, hother.2⟩

/-- Different rows of a tiling lie one above the other. -/
theorem Tiles.pairwise : ∀ {low : Int} {rows : List DrawerRow} {high : Int}, Tiles low rows high →
    rows.Pairwise fun a b => a.endUm ≤ b.cursorUm
  | _, [], _, _ => List.Pairwise.nil
  | _, _ :: _, _, h =>
    List.pairwise_cons.mpr ⟨fun _ hother => (h.2.2.within.2 _ hother).1, h.2.2.pairwise⟩

theorem Tiles.apart {low high : Int} {rows : List DrawerRow} (h : Tiles low rows high)
    {a b : DrawerRow} (ha : a ∈ rows) (hb : b ∈ rows) (hne : a ≠ b) :
    a.endUm ≤ b.cursorUm ∨ b.endUm ≤ a.cursorUm := by
  have hpairs : rows.Pairwise fun a b => a.endUm ≤ b.cursorUm ∨ b.endUm ≤ a.cursorUm :=
    h.pairwise.imp Or.inl
  have : Std.Symm fun a b : DrawerRow => a.endUm ≤ b.cursorUm ∨ b.endUm ≤ a.cursorUm :=
    ⟨fun _ _ hab => hab.symm⟩
  exact hpairs.forall ha hb hne

theorem sum_equalShares (total : Int) {count : Nat} (hcount : 0 < count) :
    (equalShares total count).sum = total := by
  rw [← sum_entries (length_equalShares total count)]
  exact (fair_equalShares total hcount).sum

/-! ## Drawers -/

/-- The measures of a drawer leave room for its boards. -/
structure DrawerMeasures.Roomy (s : DrawerMeasures) : Prop where
  thickness_pos : 0 < s.t
  depth : 2 * s.t < s.drawerDepth
  side_nonneg : 0 ≤ s.hardware.sideClearanceUm
  rear_nonneg : 0 ≤ s.hardware.rearClearanceUm
  gap_nonneg : 0 ≤ s.p.frontGapUm
  fits : s.drawerDepth ≤ s.usableDepth
  wide : 100000 ≤ s.drawerWidth - 2 * s.t

/-- The space of a chest that its drawers move in, at the height of a row. -/
def InCell (s : DrawerMeasures) (row : DrawerRow) (box : Box) : Prop :=
  (s.t ≤ box.xUm ∧ box.xUm + box.size.widthUm ≤ s.p.widthUm - s.t) ∧
  box.yUm + box.size.depthUm ≤ s.p.depthUm - 12000 - s.bottom ∧
  (row.cursorUm + s.p.frontGapUm ≤ box.zUm ∧
    box.zUm + box.size.heightUm ≤ row.endUm - s.p.frontGapUm)

section Drawers

variable {s : DrawerMeasures} {row : DrawerRow}

/-- An opening moves a board along its cell. -/
theorem InCell.pulled {box : Box} (h : InCell s row box) {um : Int} (hum : 0 ≤ um) :
    InCell s row (box.pulled um) := by
  simp only [InCell, Box.pulled] at h ⊢
  omega

/-- The boards of a drawer keep to the cell of their row. -/
theorem inCell_of_board (room : s.Roomy)
    (hheight : 60000 ≤ s.boxHeight row ∧ s.bottom < s.boxHeight row) {plan : BoardPlan}
    (hplan : plan ∈ s.boards row) {part : FurniturePart} (hmakes : plan.Makes part) :
    InCell s row part.box := by
  have ht := room.thickness_pos
  have hdepth := room.depth
  have hside := room.side_nonneg
  have hrear := room.rear_nonneg
  have hgap := room.gap_nonneg
  have hfits := room.fits
  have hwide := room.wide
  unfold InCell
  rw [hmakes.xUm, hmakes.yUm, hmakes.zUm, hmakes.widthUm, hmakes.depthUm, hmakes.heightUm]
  unfold DrawerRow.endUm
  simp only [DrawerMeasures.boards, List.mem_cons, List.not_mem_nil, or_false] at hplan
  simp only [DrawerMeasures.usableDepth, DrawerMeasures.boxY] at hfits
  simp only [DrawerMeasures.drawerWidth, DrawerMeasures.innerWidth] at hwide
  simp only [DrawerMeasures.boxHeight, DrawerMeasures.frontHeight] at hheight
  rcases hplan with rfl | rfl | rfl | rfl | rfl | rfl <;>
    simp only [DrawerMeasures.innerWidth, DrawerMeasures.drawerWidth, DrawerMeasures.boxY,
      DrawerMeasures.left, DrawerMeasures.boxZ, DrawerMeasures.boxHeight,
      DrawerMeasures.frontHeight] <;>
    omega

/-- The boards of one drawer have no volume in common. -/
theorem boards_apart (room : s.Roomy) : (s.boards row).Pairwise BoardPlan.Apart := by
  have ht := room.thickness_pos
  have hdepth := room.depth
  have hwide := room.wide
  simp only [DrawerMeasures.boards, List.pairwise_cons, List.mem_cons, List.not_mem_nil, or_false,
    forall_eq_or_imp, forall_eq, List.Pairwise.nil, false_imp_iff, implies_true, and_true]
  refine ⟨⟨?_, ?_, ?_, ?_, ?_⟩, ⟨?_, ?_, ?_, ?_⟩, ⟨?_, ?_, ?_⟩, ⟨?_, ?_⟩, ?_⟩ <;>
    unfold BoardPlan.Apart <;>
    simp only [DrawerMeasures.boxY] <;>
    omega

theorem board_role {plan : BoardPlan} (h : plan ∈ s.boards row) (role : PartRole) :
    plan.role ≠ .carcass role := by
  simp only [DrawerMeasures.boards, List.mem_cons, List.not_mem_nil, or_false] at h
  rcases h with rfl | rfl | rfl | rfl | rfl | rfl <;> exact nofun

/-- What a turn of the loop makes of a row. -/
structure DrawerMade (s : DrawerMeasures) (row : DrawerRow) (boards : List FurniturePart)
    (group : MovingGroup) : Prop where
  cell : ∀ board ∈ boards, InCell s row board.box
  apart : ∀ a ∈ boards, ∀ b ∈ boards, a ≠ b → ¬a.box.Overlap b.box
  role : ∀ board ∈ boards, ¬board.IsCarcass
  group : group.partIds = boards.map FurniturePart.partId
  height : 0 < row.heightUm

theorem drawerMade {ident : Identity} {design : FurnitureDesign} (room : s.Roomy)
    {made : List FurniturePart × MovingGroup} (h : s.drawer ident design row = .ok made) :
    DrawerMade s row made.1 made.2 := by
  simp only [DrawerMeasures.drawer, bind_eq_ok, require_eq_ok, decide_eq_true_eq] at h
  obtain ⟨_, hheight, boards, hboards, hmade⟩ := h
  cases hmade
  constructor
  · intro board hboard
    obtain ⟨plan, hplan, hpanel⟩ := mem_of_collect hboards hboard
    exact inCell_of_board room hheight hplan (makes_of_panel hpanel)
  · intro a ha b hb hne
    exact not_overlap_of_pairwise (boards_apart room) hboards ha hb hne
  · rintro board hboard ⟨role, hrole⟩
    obtain ⟨plan, hplan, hpanel⟩ := mem_of_collect hboards hboard
    exact board_role hplan role ((makes_of_panel hpanel).role.symm.trans hrole)
  · rfl
  · have hgap := room.gap_nonneg
    simp only [DrawerMeasures.boxHeight, DrawerMeasures.frontHeight] at hheight
    omega

/-- Boards at different heights have no volume in common. -/
theorem not_overlap_of_rows {row' : DrawerRow} {a b : Box} (hgap : 0 ≤ s.p.frontGapUm)
    (ha : InCell s row a) (hb : InCell s row' b)
    (h : row.endUm ≤ row'.cursorUm ∨ row'.endUm ≤ row.cursorUm) : ¬a.Overlap b := by
  intro hoverlap
  unfold InCell at ha hb
  unfold Box.Overlap at hoverlap
  omega

end Drawers

/-! ## The carcass of a chest -/

/-- No panel of a carcass without shelves reaches into the space between its sides, its bottom,
    its top and its back. -/
theorem carcass_off_cells {design : FurnitureDesign} {p : ChestIntent} {capture : Int}
    {panel : Panel} (h : panel.Present (carcassParameters design p.carcassIntent)) :
    let q := carcassParameters design p.carcassIntent
    let plan := panel.plan q capture
    plan.xUm + plan.widthUm ≤ q.actualThicknessUm ∨ q.widthUm - q.actualThicknessUm ≤ plan.xUm ∨
      plan.zUm + plan.heightUm ≤ q.actualThicknessUm ∨
      q.heightUm - q.actualThicknessUm ≤ plan.zUm ∨
      q.depthUm - 12000 - q.backThicknessUm ≤ plan.yUm := by
  intro q plan
  have hopen : q.baseCabinetCount = 0 := rfl
  cases panel with
  | leftSide =>
    left
    show 0 + q.actualThicknessUm ≤ q.actualThicknessUm
    omega
  | rightSide =>
    right
    left
    exact le_rfl
  | bottom =>
    right
    right
    left
    show q.bottomZ + q.actualThicknessUm ≤ q.actualThicknessUm
    have hzone : q.shelfZoneBottom = 0 + q.actualThicknessUm := shelfZoneBottom_of_open hopen
    unfold BookcaseParameters.bottomZ
    omega
  | top =>
    right
    right
    right
    left
    exact le_rfl
  | divider bay => exact absurd h.2 (Nat.not_lt_zero _)
  | shelf row bay =>
    have hnone : shelfRows q = [] := rfl
    rw [Panel.Present, hnone] at h
    exact absurd h.1 List.not_mem_nil
  | baseSide cabinet => exact absurd hopen h.1
  | baseBottom cabinet => exact absurd hopen h.1
  | cabinetFront cabinet => exact absurd hopen h.1
  | surfaceBack => cases h
  | insetBack bay =>
    right
    right
    right
    right
    exact le_rfl
  | plinth => exact absurd rfl h

/-- A carcass without shelves, dividers and cabinets keeps clear. -/
theorem keepsClear_of_chest (design : FurnitureDesign) (p : ChestIntent) :
    KeepsClear (carcassParameters design p.carcassIntent) where
  back_of_cabinets h := h.2 rfl
  plinth_and_divider _ h := h.2.1 rfl
  shelves_in_divider _ h := h.2.1 rfl
  bottoms_in_baseSide _ := Nat.zero_lt_two
  plinth_and_back _ h := h.2.1 rfl

/-! ## Designs that are built -/

theorem buildFamily_ok {env : FamilyEnv} {design : FurnitureDesign} {result : FamilyResult}
    (h : buildFamily env design = .ok result) :
    ∃ hardware made, designHardware design = .ok hardware ∧
      familyParts env design hardware = .ok made ∧ result.parts = made.parts ∧
      result.joints = made.joints ∧ result.movingGroups = made.movingGroups ∧
      result.spec = design ∧ result.validate = .ok () := by
  simp only [buildFamily, bind_eq_ok] at h
  obtain ⟨_, _, hardware, hhardware, made, hmade, _, _, _, hvalid, hresult⟩ := h
  cases hresult
  exact ⟨hardware, made, hhardware, hmade, rfl, rfl, rfl, rfl, hvalid⟩

theorem inside_of_validate {result : FamilyResult} (h : result.validate = .ok ())
    {part : FurniturePart} (hpart : part ∈ result.parts) :
    part.box.Inside result.spec.intent.dimensions := by
  simp only [FamilyResult.validate, bind_eq_ok, require_eq_ok] at h
  obtain ⟨_, -, _, -, _, -, _, -, _, -, hall⟩ := h
  have hbounds := List.all_eq_true.mp hall part hpart
  simp only [Bool.and_eq_true, decide_eq_true_eq] at hbounds
  have hplace := part.placement.nonneg
  exact ⟨⟨hplace.1, hbounds.1.1⟩, ⟨hplace.2.1, hbounds.1.2⟩, hplace.2.2, hbounds.2⟩

theorem partIds_of_validate {result : FamilyResult} (h : result.validate = .ok ()) :
    (result.parts.map FurniturePart.partId).Nodup := by
  simp only [FamilyResult.validate, bind_eq_ok, require_eq_ok, Bool.and_eq_true] at h
  obtain ⟨_, -, _, -, _, hunique, -⟩ := h
  exact nodup_of_isUnique hunique.1

/-- The drawer hardware of the catalogue. -/
theorem chest_hardware {selection : HardwareSelection} {hardware : HardwareProfile}
    (h : resolveHardware .chestOfDrawers selection = .ok hardware) :
    400000 ≤ hardware.runnerLengthUm ∧ 0 ≤ hardware.sideClearanceUm ∧
      0 ≤ hardware.rearClearanceUm ∧ hardware.minimumThicknessUm = 17000 ∧
      hardware.maximumThicknessUm = 19000 := by
  simp only [resolveHardware, bind_eq_ok, demand_eq_ok, require_eq_ok, Option.filter_eq_some_iff] at h
  obtain ⟨found, ⟨hfind, -⟩, _, hfamily, hsame⟩ := h
  cases hsame
  have hmem := List.mem_of_find?_eq_some hfind
  have hall : ∀ item ∈ hardwareCatalog, item.family = .chestOfDrawers →
      400000 ≤ item.runnerLengthUm ∧ 0 ≤ item.sideClearanceUm ∧ 0 ≤ item.rearClearanceUm ∧
        item.minimumThicknessUm = 17000 ∧ item.maximumThicknessUm = 19000 := by decide
  exact hall _ hmem (beq_iff_eq.mp hfamily)

/-! ## Tables keep clear -/

theorem solidsClear_of_table {env : FamilyEnv} {design : FurnitureDesign} {result : FamilyResult}
    {p : TableIntent} (hintent : design.intent = .table p)
    (h : buildFamily env design = .ok result) : SolidsClear design result := by
  obtain ⟨hardware, made, -, hmade, hparts, -, hgroups, hspec, hvalid⟩ := buildFamily_ok h
  rw [familyParts, hintent] at hmade
  simp only [bind_eq_ok] at hmade
  obtain ⟨parts, htable, hresult⟩ := hmade
  cases hresult
  simp only [tableParts, bind_eq_ok, require_eq_ok, decide_eq_true_eq] at htable
  obtain ⟨material, -, _, hwidth, _, hdepth, hboards⟩ := htable
  have hapart : (tablePlans material design.material.measuredThicknessUm p).Pairwise
      BoardPlan.Apart := tablePlans_apart hdepth.2 (by omega)
  constructor
  · intro part hpart
    rw [← hspec]
    exact inside_of_validate hvalid hpart
  · intro a ha b hb hne hoverlap
    rw [hparts] at ha hb
    exact absurd hoverlap (not_overlap_of_pairwise hapart hboards ha hb hne)
  · intro chest hchest
    rw [hintent] at hchest
    cases hchest
  · intro chest hchest
    rw [hintent] at hchest
    cases hchest
  · intro opening _ group hgroup
    rw [hgroups] at hgroup
    exact absurd hgroup List.not_mem_nil

/-! ## Chests keep clear -/

/-- What the compiler makes of a chest. -/
structure ChestMade (env : FamilyEnv) (design : FurnitureDesign) (p : ChestIntent)
    (result : FamilyResult) where
  s : DrawerMeasures
  carcass : DesignResult
  drawers : List (List FurniturePart × MovingGroup)
  measures : s.t = design.material.measuredThicknessUm ∧
    s.bottom = design.backMaterial.measuredThicknessUm ∧ s.p = p
  room : s.Roomy
  spec : CarcassSpec design p.carcassIntent carcass.spec
  built : build env.hashing carcass.spec = .ok carcass
  drawers_eq : collect (s.drawer env.hashing.toIdentity design) (drawerRows s.t p) = .ok drawers
  parts : result.parts = carcass.parts.map PartInstance.asFurniture ++ drawers.flatMap Prod.fst
  joints : result.joints = carcass.joints
  groups : result.movingGroups = drawers.map Prod.snd
  valid : result.validate = .ok ()
  count : 0 < p.drawerCount

theorem chestMade {env : FamilyEnv} {design : FurnitureDesign} {result : FamilyResult}
    {p : ChestIntent} (hintent : design.intent = .chest p) (hvalid : design.validate = .ok ())
    (h : buildFamily env design = .ok result) : Nonempty (ChestMade env design p result) := by
  obtain ⟨hardware, made, hhardware, hmade, hparts, hjoints, hgroups, -, hresult⟩ := buildFamily_ok h
  rw [familyParts, hintent] at hmade
  simp only [bind_eq_ok, demand_eq_ok] at hmade
  obtain ⟨profile, rfl, carcass, hcarcass, drawers, hdrawers, hmade⟩ := hmade
  cases hmade
  obtain ⟨hspec, hbuilt⟩ := carcassSpec_of_carcass hcarcass
  simp only [drawerParts, bind_eq_ok, require_eq_ok, decide_eq_true_eq] at hdrawers
  obtain ⟨m, -, back, -, _, hfits, hdrawers⟩ := hdrawers
  -- the hardware is that of the catalogue for drawers
  unfold designHardware at hhardware
  split at hhardware
  · cases hhardware
  rename_i selection _
  simp only [bind_eq_ok, require_eq_ok, decide_eq_true_eq] at hhardware
  obtain ⟨found, hfound, _, hthickness, hsame⟩ := hhardware
  cases hsame
  rw [hintent] at hfound
  obtain ⟨hrunner, hside, hrear, hminimum, hmaximum⟩ := chest_hardware hfound
  -- the ranges of the intent
  simp only [FurnitureDesign.validate, hintent, FurnitureIntent.validate, ChestIntent.validate,
    bind_eq_ok, require_eq_ok, inRange, Bool.and_eq_true, decide_eq_true_eq] at hvalid
  obtain ⟨_, -, _, ⟨_, -, _, hcount, _, -, hgap⟩, -⟩ := hvalid
  refine ⟨{
    s := { m := m, back := back, t := design.material.measuredThicknessUm
           bottom := design.backMaterial.measuredThicknessUm, p := p, hardware := profile }
    carcass := carcass
    drawers := drawers
    measures := ⟨rfl, rfl, rfl⟩
    room := {
      thickness_pos := by show 0 < design.material.measuredThicknessUm; omega
      depth := by
        show 2 * design.material.measuredThicknessUm < profile.runnerLengthUm
        omega
      side_nonneg := hside
      rear_nonneg := hrear
      gap_nonneg := by show 0 ≤ p.frontGapUm; omega
      fits := hfits.1
      wide := hfits.2 }
    spec := hspec
    built := hbuilt
    drawers_eq := hdrawers
    parts := hparts
    joints := hjoints
    groups := hgroups
    valid := hresult
    count := by omega }⟩

/-- Boxes of panels overlap where the panels do. -/
theorem overlap_of_boxes {a b : PartInstance}
    (h : a.asFurniture.box.Overlap b.asFurniture.box) : Overlap a b := by
  have ha := a.finishedSize.positive
  have hb := b.finishedSize.positive
  simp only [Box.Overlap, FurniturePart.box, PartInstance.asFurniture] at h
  intro axis
  cases axis <;>
    simp only [overlapAlong, overlapInterval, PartInstance.globalInterval,
      PartInstance.placementAxis, PartInstance.axisDimension] <;>
    omega

namespace ChestMade

variable {env : FamilyEnv} {design : FurnitureDesign} {p : ChestIntent} {result : FamilyResult}
variable (c : ChestMade env design p result)

include c

/-- A board comes from the turn of a row. -/
theorem exists_row {entry : List FurniturePart × MovingGroup} (h : entry ∈ c.drawers) :
    ∃ row ∈ drawerRows c.s.t p, DrawerMade c.s row entry.1 entry.2 := by
  obtain ⟨row, hrow, hdrawer⟩ := mem_of_collect c.drawers_eq h
  exact ⟨row, hrow, drawerMade c.room hdrawer⟩

theorem tiles : Tiles c.s.t (drawerRows c.s.t p) (p.heightUm - c.s.t) := by
  have hheights : ∀ row ∈ drawerRows c.s.t p, 0 < row.heightUm := by
    intro row hrow
    obtain ⟨entry, -, hdrawer⟩ := collect_mem c.drawers_eq hrow
    exact (drawerMade c.room hdrawer).height
  have htiles := tiles_stackRows _ _ _ hheights
  rw [sum_equalShares _ c.count] at htiles
  have hend : c.s.t + (p.heightUm - 2 * c.s.t) = p.heightUm - c.s.t := by omega
  rw [hend] at htiles
  exact htiles

/-- A part of a chest is a panel of its carcass or a board of a drawer. -/
theorem mem_parts {part : FurniturePart} : part ∈ result.parts ↔
    (∃ panel ∈ c.carcass.parts, panel.asFurniture = part) ∨ ∃ entry ∈ c.drawers, part ∈ entry.1 := by
  rw [c.parts, List.mem_append, List.mem_map, List.mem_flatMap]

/-- The parts of a moving group are the boards of its drawer. -/
theorem board_of_group {entry : List FurniturePart × MovingGroup} (hentry : entry ∈ c.drawers)
    {part : FurniturePart} (hpart : part ∈ result.parts) (hid : part.partId ∈ entry.2.partIds) :
    part ∈ entry.1 := by
  obtain ⟨row, -, hmade⟩ := c.exists_row hentry
  rw [hmade.group, List.mem_map] at hid
  obtain ⟨board, hboard, hsame⟩ := hid
  have hmem : board ∈ result.parts := c.mem_parts.mpr (Or.inr ⟨entry, hentry, hboard⟩)
  have heq := List.inj_on_of_nodup_map (partIds_of_validate c.valid) hmem hpart hsame
  rw [← heq]
  exact hboard

/-- A board, however far it is drawn, keeps off the panels of the carcass. -/
theorem board_off_panel {row : DrawerRow} (hrow : row ∈ drawerRows c.s.t p) {box : Box}
    (hbox : InCell c.s row box) {panel : PartInstance} (hpanel : panel ∈ c.carcass.parts) :
    ¬box.Overlap panel.asFurniture.box := by
  obtain ⟨compiled⟩ := compiled_of_build c.built
  obtain ⟨plan, hpresent, hfits⟩ := design_fits compiled hpanel
  rw [c.spec.parameters] at hpresent hfits
  have hoff := @carcass_off_cells design p compiled.capture plan hpresent
  obtain ⟨ht, hbottom, hp⟩ := c.measures
  have hgap := c.room.gap_nonneg
  have hwithin := c.tiles.within.2 row hrow
  intro hoverlap
  unfold Box.Overlap at hoverlap
  unfold InCell at hbox
  simp only [FurniturePart.box, PartInstance.asFurniture, hfits.xUm, hfits.yUm, hfits.zUm,
    hfits.widthUm, hfits.depthUm, hfits.heightUm] at hoverlap
  simp only [carcassParameters, ChestIntent.carcassIntent] at hoff hoverlap
  rw [hp] at hbox hgap
  omega

/-- Boards of different drawers keep off each other, however far these are drawn. -/
theorem board_off_board {row row' : DrawerRow} (hrow : row ∈ drawerRows c.s.t p)
    (hrow' : row' ∈ drawerRows c.s.t p) (hne : row ≠ row') {a b : Box} (ha : InCell c.s row a)
    (hb : InCell c.s row' b) : ¬a.Overlap b :=
  not_overlap_of_rows c.room.gap_nonneg ha hb (c.tiles.apart hrow hrow' hne)

/-- Two boards that overlap while the drawers are closed are the same board. -/
theorem boards_of_overlap {entry entry' : List FurniturePart × MovingGroup}
    (hentry : entry ∈ c.drawers) (hentry' : entry' ∈ c.drawers) {a b : FurniturePart}
    (ha : a ∈ entry.1) (hb : b ∈ entry'.1) (hne : a ≠ b) : ¬a.box.Overlap b.box := by
  obtain ⟨row, hrow, hdrawer⟩ := mem_of_collect c.drawers_eq hentry
  obtain ⟨row', hrow', hdrawer'⟩ := mem_of_collect c.drawers_eq hentry'
  have hmade := drawerMade c.room hdrawer
  by_cases hsame : row = row'
  · rw [← hsame, hdrawer] at hdrawer'
    rw [← Except.ok.inj hdrawer'] at hb
    exact hmade.apart a ha b hb hne
  · exact c.board_off_board hrow hrow' hsame (hmade.cell a ha)
      ((drawerMade c.room hdrawer').cell b hb)

theorem keepsToRows :
    List.Forall₂ (KeepsToRow result p.frontGapUm) (drawerRows c.s.t p) result.movingGroups := by
  rw [c.groups, List.forall₂_map_right_iff, List.forall₂_iff_zip]
  obtain ⟨hlength, hzip⟩ := List.forall₂_iff_zip.mp (collect_eq_ok.mp c.drawers_eq)
  refine ⟨hlength, ?_⟩
  intro row entry hmem part hpart hid
  have hboard := c.board_of_group (List.of_mem_zip hmem).2 hpart hid
  have hcell := (drawerMade c.room (hzip hmem)).cell part hboard
  rw [← c.measures.2.2]
  exact hcell.2.2

theorem carcass_or_board {part : FurniturePart} (h : part ∈ result.parts) (hnot : ¬part.IsCarcass) :
    ∃ entry ∈ c.drawers, part ∈ entry.1 := by
  rcases c.mem_parts.mp h with ⟨panel, -, hsame⟩ | hboard
  · rw [← hsame] at hnot
    exact absurd ⟨panel.role, rfl⟩ hnot
  · exact hboard

theorem panel_of_carcass {part : FurniturePart} (h : part ∈ result.parts) (hrole : part.IsCarcass) :
    ∃ panel ∈ c.carcass.parts, panel.asFurniture = part := by
  rcases c.mem_parts.mp h with hpanel | ⟨entry, hentry, hboard⟩
  · exact hpanel
  · obtain ⟨row, -, hmade⟩ := c.exists_row hentry
    exact absurd hrole (hmade.role part hboard)

theorem solidsApart : SolidsApart c.carcass := by
  refine (solidsApart_iff c.spec.valid c.built).mpr ?_
  rw [c.spec.parameters]
  exact keepsClear_of_chest design p

theorem joined {a b : FurniturePart} (ha : a ∈ result.parts) (hb : b ∈ result.parts) (hne : a ≠ b)
    (hoverlap : a.box.Overlap b.box) :
    a.IsCarcass ∧ b.IsCarcass ∧ ∃ joint ∈ result.joints, joint.LinksByDado a b := by
  rcases c.mem_parts.mp ha with ⟨x, hx, rfl⟩ | ⟨entry, hentry, haboard⟩
  · rcases c.mem_parts.mp hb with ⟨y, hy, rfl⟩ | ⟨entry, hentry, hboard⟩
    · have hdifferent : x ≠ y := by
        intro hsame
        exact hne (by rw [hsame])
      have hcommon : Domain.Overlap x y := overlap_of_boxes hoverlap
      obtain ⟨⟨joint, hjoint, hlinked⟩, -⟩ := c.solidsApart x hx y hy hdifferent hcommon
      rw [← c.joints] at hjoint
      exact ⟨⟨x.role, rfl⟩, ⟨y.role, rfl⟩, joint, hjoint, hlinked⟩
    · obtain ⟨row, hrow, hmade⟩ := c.exists_row hentry
      exact absurd hoverlap.symm (c.board_off_panel hrow (hmade.cell b hboard) hx)
  · obtain ⟨row, hrow, hmade⟩ := c.exists_row hentry
    rcases c.mem_parts.mp hb with ⟨y, hy, rfl⟩ | ⟨entry', hentry', hboard⟩
    · exact absurd hoverlap (c.board_off_panel hrow (hmade.cell a haboard) hy)
    · exact absurd hoverlap (c.boards_of_overlap hentry hentry' haboard hboard hne)

theorem open_clear {opening : MovingGroup → Int} (hopening : Openings result opening)
    {group : MovingGroup} (hgroup : group ∈ result.movingGroups) {a : FurniturePart}
    (ha : a ∈ result.parts) (hid : a.partId ∈ group.partIds) :
    (∀ b ∈ result.parts, b.IsCarcass → ¬(a.box.pulled (opening group)).Overlap b.box) ∧
      ∀ other ∈ result.movingGroups, other ≠ group →
        ∀ b ∈ result.parts, b.partId ∈ other.partIds →
          ¬(a.box.pulled (opening group)).Overlap (b.box.pulled (opening other)) := by
  have hdrawn := (hopening group hgroup).1
  rw [c.groups, List.mem_map] at hgroup
  obtain ⟨entry, hentry, rfl⟩ := hgroup
  obtain ⟨row, hrow, hdrawer⟩ := mem_of_collect c.drawers_eq hentry
  have hcell := (drawerMade c.room hdrawer).cell a (c.board_of_group hentry ha hid)
  constructor
  · intro b hb hrole
    obtain ⟨panel, hpanel, rfl⟩ := c.panel_of_carcass hb hrole
    exact c.board_off_panel hrow (hcell.pulled hdrawn) hpanel
  · intro other hother hne b hb hid'
    have hdrawn' := (hopening other hother).1
    rw [c.groups, List.mem_map] at hother
    obtain ⟨entry', hentry', rfl⟩ := hother
    obtain ⟨row', hrow', hdrawer'⟩ := mem_of_collect c.drawers_eq hentry'
    have hcell' := (drawerMade c.room hdrawer').cell b (c.board_of_group hentry' hb hid')
    -- one row makes one drawer
    have hrows : row ≠ row' := by
      intro hsame
      rw [← hsame, hdrawer] at hdrawer'
      exact hne (by rw [Except.ok.inj hdrawer'])
    exact c.board_off_board hrow hrow' hrows (hcell.pulled hdrawn) (hcell'.pulled hdrawn')

end ChestMade

/-- The solids of every table and every chest that is built keep clear of each other, with the
    drawers closed or open. -/
theorem solids_clear_when_open {env : FamilyEnv} {design : FurnitureDesign} {result : FamilyResult}
    (hfamily : design.intent.family ≠ .shelving) (hvalid : design.validate = .ok ())
    (h : buildFamily env design = .ok result) : SolidsClear design result := by
  cases hintent : design.intent with
  | shelving p => exact absurd (by rw [hintent]; rfl) hfamily
  | table p => exact solidsClear_of_table hintent h
  | chest p =>
    obtain ⟨c⟩ := chestMade hintent hvalid h
    have hspec : result.spec = design := by
      obtain ⟨_, _, _, _, _, _, _, hspec, _⟩ := buildFamily_ok h
      exact hspec
    constructor
    · intro part hpart
      rw [← hspec]
      exact inside_of_validate c.valid hpart
    · intro a ha b hb hne hoverlap
      exact c.joined ha hb hne hoverlap
    · intro chest hchest
      rw [hintent] at hchest
      cases hchest
      have htiles := c.tiles
      have hlength : (drawerRows c.s.t p).length = p.drawerCount := by
        unfold drawerRows
        rw [length_stackRows, length_equalShares]
      rw [c.measures.1] at htiles hlength
      have hrows := c.keepsToRows
      rw [c.measures.1] at hrows
      exact ⟨_, hlength, htiles, hrows⟩
    · intro chest _ part hpart
      constructor
      · intro hnot
        obtain ⟨entry, hentry, hboard⟩ := c.carcass_or_board hpart hnot
        obtain ⟨row, -, hmade⟩ := c.exists_row hentry
        refine ⟨entry.2, ?_, ?_⟩
        · rw [c.groups]
          exact List.mem_map_of_mem hentry
        · rw [hmade.group]
          exact List.mem_map_of_mem hboard
      · rintro ⟨group, hgroup, hid⟩
        rw [c.groups, List.mem_map] at hgroup
        obtain ⟨entry, hentry, rfl⟩ := hgroup
        obtain ⟨row, -, hmade⟩ := c.exists_row hentry
        exact hmade.role part (c.board_of_group hentry hpart hid)
    · intro opening hopening group hgroup a ha hid
      exact c.open_clear hopening hgroup ha hid

namespace ThreeDrawers

/-- Identities that are the joined names, and hashes that are never compared. -/
def env : FamilyEnv where
  hashing := namedHashing
  furnitureHash _ _ _ := ""
  otherFamily _ := .error (.message "")
  designHash _ _ _ _ := ""
  intentHash _ _ := ""

def design : FurnitureDesign :=
  { designId := "chest", intent := .chest {}
    hardware := some { catalogId := "drawer-side-mount-450-layout" } }

theorem solids_clear_when_open_three :
    ∃ result, buildFamily env design = .ok result ∧ SolidsClear design result := by
  obtain ⟨result, hresult⟩ := exists_eq_ok
    (show (buildFamily env design).isOk = true by decide +kernel)
  exact ⟨result, hresult, solids_clear_when_open (by decide) (by decide +kernel) hresult⟩

end ThreeDrawers

end Custombuild.Domain
