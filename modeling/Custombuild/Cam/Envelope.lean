/-
  The machining envelope of a pocket or groove with dogbone reliefs and open ends, as the
  source computes it four times: on the feature (`machining_bounds`), in the CAM validator
  (`custombuild_cam.validation`), in the planner (`custombuild_cam.toolpaths`) and, on
  purpose independently, in the verifier (`custombuild_cam.production_verification`).

  Proved here: the four agree for every feature, placement and side.  The common form is
  `hull`: a base rectangle widened by a disc at every relief centre.  The nesting transform
  carries hulls to hulls, so agreement reduces to the base rectangle (the open ends) and to
  the list of centres.
-/
import Custombuild.Manufacturing.Operations

namespace Custombuild.Cam

open Custombuild.Lib Custombuild.Manufacturing

/-! ## Boundaries through rotation and flip -/

/-- The source-edge dictionary of the validator and of the verifier. -/
def edgeMapping (rotated90 : Bool) : SourceEdge → Option MachineEdge
  | .uMin => some (if rotated90 then .yMin else .xMin)
  | .uMax => some (if rotated90 then .yMax else .xMax)
  | .vMin => some (if rotated90 then .xMax else .yMin)
  | .vMax => some (if rotated90 then .xMin else .yMax)
  | .unsupported _ => none

/-- The exchange of `y_min` and `y_max` for the flip side. -/
def MachineEdge.flipY : MachineEdge → MachineEdge
  | .yMin => .yMax
  | .yMax => .yMin
  | e => e

/-- `_source_edge_machine_boundary` of the planner; an unsupported edge raises. -/
def sourceEdgeMachineBoundary (edge : SourceEdge) (rotated90 : Bool) (side : Side) :
    Except String MachineEdge := do
  let boundary ← match edge with
    | .uMin => .ok (if rotated90 then .yMin else .xMin)
    | .uMax => .ok (if rotated90 then .yMax else .xMax)
    | .vMin => .ok (if rotated90 then .xMax else .yMin)
    | .vMax => .ok (if rotated90 then .xMin else .yMax)
    | .unsupported name => .error ("unsupported open-end edge: " ++ name)
  return if side = .b then MachineEdge.flipY boundary else boundary

/-- `_source_corner_machine_boundaries`, written identically in validator and planner. -/
def sourceCornerMachineBoundaries (u v : SourceEdge) (rotated90 : Bool) (side : Side) :
    MachineEdge × MachineEdge :=
  let x : MachineEdge :=
    if rotated90 then (if v = .vMin then .xMax else .xMin)
    else (if u = .uMin then .xMin else .xMax)
  let y : MachineEdge :=
    if rotated90 then (if u = .uMin then .yMin else .yMax)
    else (if v = .vMin then .yMin else .yMax)
  (x, if side = .b then (if y = .yMin then .yMax else .yMin) else y)

/-! ## The CAM validator -/

/-- One iteration of the validator's loop over the declared open ends. -/
def openEndStep (op : CAMOperation) (nominal : Rect) (radiusUm : Int)
    (acc : Int × Int × Int × Int) (edge : SourceEdge) : Int × Int × Int × Int :=
  match edgeMapping op.sourceRotation90 edge with
  | none => acc
  | some boundary =>
    match if op.side = .b then MachineEdge.flipY boundary else boundary with
    | .xMin => (nominal.xUm - radiusUm, acc.2.1, acc.2.2.1, acc.2.2.2)
    | .xMax => (acc.1, nominal.rightUm + radiusUm, acc.2.2.1, acc.2.2.2)
    | .yMin => (acc.1, acc.2.1, nominal.yUm - radiusUm, acc.2.2.2)
    | .yMax => (acc.1, acc.2.1, acc.2.2.1, nominal.topUm + radiusUm)

/-- The unsuppressed source corners as machine points of a nominal rectangle. -/
def reliefCorners (op : CAMOperation) (nominal : Rect) : List (Int × Int) :=
  (sourceCorners.filter fun c =>
      !cornerSuppressed op.cornerStrategy op.openEndReliefs c.1 c.2).map fun c =>
    let b := sourceCornerMachineBoundaries c.1 c.2 op.sourceRotation90 op.side
    (if b.1 = .xMin then nominal.xUm else nominal.rightUm,
      if b.2 = .yMin then nominal.yUm else nominal.topUm)

/-- `_expected_versioned_dogbone_envelope`. -/
def expectedVersionedDogboneEnvelope (op : CAMOperation) (nominal : Rect) : Rect :=
  match op.cornerReliefRadiusUm with
  | none => nominal
  | some radiusUm =>
    if isDogbone op.cornerStrategy then
      let (left, right, bottom, top) := op.openEndReliefs.foldl (openEndStep op nominal radiusUm)
        (nominal.xUm, nominal.rightUm, nominal.yUm, nominal.topUm)
      let corners := reliefCorners op nominal
      Rect.ofBounds
        (corners.foldl (fun l c => min l (c.1 - radiusUm)) left)
        (corners.foldl (fun r c => max r (c.1 + radiusUm)) right)
        (corners.foldl (fun b c => min b (c.2 - radiusUm)) bottom)
        (corners.foldl (fun t c => max t (c.2 + radiusUm)) top)
    else nominal

/-! ## The planner -/

/-- The rectangle of an operation with a width and a length. -/
def nominalRect (op : CAMOperation) : Rect :=
  ⟨op.xUm, op.yUm, op.widthUm.getD 0, op.lengthUm.getD 0⟩

/-- `_dogbone_centres` (for an operation with a width and a length). -/
def dogboneCentres (op : CAMOperation) : List (Int × Int) :=
  if isDogbone op.cornerStrategy then
    (sourceCorners.filter fun c =>
        !cornerSuppressed op.cornerStrategy op.openEndReliefs c.1 c.2).map fun c =>
      let b := sourceCornerMachineBoundaries c.1 c.2 op.sourceRotation90 op.side
      (if b.1 = .xMin then op.xUm else op.xUm + op.widthUm.getD 0,
        if b.2 = .yMin then op.yUm else op.yUm + op.lengthUm.getD 0)
  else []

/-- The rectangle of raster centres as `(left, right, bottom, top)`. -/
structure RasterBounds where
  left : Int
  right : Int
  bottom : Int
  top : Int
deriving DecidableEq

/-- `_area_raster_bounds` (for an operation with a width and a length). -/
def areaRasterBounds (op : CAMOperation) (radiusUm : Int) : Except String RasterBounds := do
  let opened ← collect (fun e => sourceEdgeMachineBoundary e op.sourceRotation90 op.side)
    op.openEndReliefs
  return {
    left := op.xUm + if .xMin ∈ opened then 0 else radiusUm
    right := op.xUm + op.widthUm.getD 0 - if .xMax ∈ opened then 0 else radiusUm
    bottom := op.yUm + if .yMin ∈ opened then 0 else radiusUm
    top := op.yUm + op.lengthUm.getD 0 - if .yMax ∈ opened then 0 else radiusUm }

/-- `_dogbone_envelope`. -/
def dogboneEnvelope (op : CAMOperation) (radiusUm : Int) : Except String Rect := do
  let centres := dogboneCentres op
  let raster ← areaRasterBounds op radiusUm
  return Rect.ofBounds
    (minOf (raster.left - radiusUm) (centres.map fun c => c.1 - radiusUm))
    (maxOf (raster.right + radiusUm) (centres.map fun c => c.1 + radiusUm))
    (minOf (raster.bottom - radiusUm) (centres.map fun c => c.2 - radiusUm))
    (maxOf (raster.top + radiusUm) (centres.map fun c => c.2 + radiusUm))

/-! ## The verifier -/

/-- `_independent_dogbone_centres`; the frozen set is a list without duplicates. -/
def independentDogboneCentres (op : CAMOperation) : List (Int × Int) :=
  match op.widthUm, op.lengthUm with
  | some width, some length =>
    if isDogbone op.cornerStrategy then
      ((sourceCorners.filter fun c =>
          !cornerSuppressed op.cornerStrategy op.openEndReliefs c.1 c.2).map fun c =>
        let xMax : Bool := if op.sourceRotation90 then c.2 = .vMin else c.1 = .uMax
        let yMax : Bool := if op.sourceRotation90 then c.1 = .uMax else c.2 = .vMax
        let yMax : Bool := if op.side = .b then !yMax else yMax
        (op.xUm + (if xMax then width else 0), op.yUm + (if yMax then length else 0))).dedup
    else []
  | _, _ => []

/-- `_physical_open_end_boundaries`. -/
def physicalOpenEndBoundaries (op : CAMOperation) : List MachineEdge :=
  op.openEndReliefs.filterMap (edgeMapping op.sourceRotation90)

/-- `_independent_area_raster_bounds` (for an operation with a width and a length). -/
def independentAreaRasterBounds (op : CAMOperation) (radiusUm : Int) : RasterBounds :=
  let opened := physicalOpenEndBoundaries op
  let opened := if op.side = .b then opened.map MachineEdge.flipY else opened
  { left := if .xMin ∈ opened then op.xUm else op.xUm + radiusUm
    right := op.xUm + op.widthUm.getD 0 - if .xMax ∈ opened then 0 else radiusUm
    bottom := if .yMin ∈ opened then op.yUm else op.yUm + radiusUm
    top := op.yUm + op.lengthUm.getD 0 - if .yMax ∈ opened then 0 else radiusUm }

/-- `_independent_area_cutter_envelope`. -/
def independentAreaCutterEnvelope (op : CAMOperation) (radiusUm : Int) : Rect :=
  let centres := independentDogboneCentres op
  let raster := independentAreaRasterBounds op radiusUm
  Rect.ofBounds
    (minOf (raster.left - radiusUm) (centres.map fun c => c.1 - radiusUm))
    (maxOf (raster.right + radiusUm) (centres.map fun c => c.1 + radiusUm))
    (minOf (raster.bottom - radiusUm) (centres.map fun c => c.2 - radiusUm))
    (maxOf (raster.top + radiusUm) (centres.map fun c => c.2 + radiusUm))

/-! ## Hulls -/

def RasterBounds.rect (b : RasterBounds) : Rect := Rect.ofBounds b.left b.right b.bottom b.top

/-- A base rectangle widened by a disc of radius `r` at every centre. -/
def hull (base : RasterBounds) (centres : List (Int × Int)) (r : Int) : RasterBounds where
  left := minOf base.left (centres.map fun c => c.1 - r)
  right := maxOf base.right (centres.map fun c => c.1 + r)
  bottom := minOf base.bottom (centres.map fun c => c.2 - r)
  top := maxOf base.top (centres.map fun c => c.2 + r)

theorem hull_congr {base : RasterBounds} {cs cs' : List (Int × Int)} {r : Int}
    (h : ∀ c, c ∈ cs ↔ c ∈ cs') : hull base cs r = hull base cs' r := by
  have hmap (f : Int × Int → Int) : ∀ b, b ∈ cs.map f ↔ b ∈ cs'.map f := by
    intro b
    simp only [List.mem_map, h]
  unfold hull
  rw [minOf_congr (hmap _), maxOf_congr (hmap _), minOf_congr (hmap _), maxOf_congr (hmap _)]

theorem hull_ordered {base : RasterBounds} (cs : List (Int × Int)) (r : Int)
    (hx : base.left ≤ base.right) (hy : base.bottom ≤ base.top) :
    (hull base cs r).left ≤ (hull base cs r).right ∧
      (hull base cs r).bottom ≤ (hull base cs r).top :=
  ⟨(minOf_le_first _ _).trans (hx.trans (first_le_maxOf _ _)),
    (minOf_le_first _ _).trans (hy.trans (first_le_maxOf _ _))⟩

/-- The nesting transform of a rectangle given by its extreme coordinates. -/
def transformBounds (b : RasterBounds) (placement : Placement) (stockHeightUm : Int)
    (side : Side) : RasterBounds :=
  let left := if placement.rotated90 then placement.xUm + (placement.widthUm - b.top)
    else placement.xUm + b.left
  let right := if placement.rotated90 then placement.xUm + (placement.widthUm - b.bottom)
    else placement.xUm + b.right
  let bottom := placement.yUm + if placement.rotated90 then b.left else b.bottom
  let top := placement.yUm + if placement.rotated90 then b.right else b.top
  if side = .b then ⟨left, right, stockHeightUm - top, stockHeightUm - bottom⟩
  else ⟨left, right, bottom, top⟩

theorem transformRectToMachine_rect (b : RasterBounds) (placement : Placement)
    (stockHeightUm : Int) (side : Side) (hx : b.left ≤ b.right) (hy : b.bottom ≤ b.top) :
    transformRectToMachine b.rect placement stockHeightUm side =
      (transformBounds b placement stockHeightUm side).rect := by
  have hw : 0 ≤ b.rect.widthUm := by
    simp only [RasterBounds.rect, Rect.ofBounds]
    omega
  have hh : 0 ≤ b.rect.heightUm := by
    simp only [RasterBounds.rect, Rect.ofBounds]
    omega
  rw [transformRectToMachine_eq _ _ _ _ hw hh]
  rcases hr : placement.rotated90 with _ | _ <;> by_cases hb : side = .b <;>
    simp [RasterBounds.rect, transformBounds, Rect.ofBounds, Rect.topUm, hr, hb]

/-- The transform carries hulls to hulls. -/
theorem transformBounds_hull (base : RasterBounds) (cs : List (Int × Int)) (r : Int)
    (placement : Placement) (stockHeightUm : Int) (side : Side) :
    transformBounds (hull base cs r) placement stockHeightUm side =
      hull (transformBounds base placement stockHeightUm side)
        (cs.map fun c => transformPointToMachine c.1 c.2 placement stockHeightUm side) r := by
  rcases hr : placement.rotated90 with _ | _ <;> by_cases hb : side = .b <;>
    simp only [hull, transformBounds, transformPointToMachine, hr, hb, Function.comp_def,
      add_minOf, add_maxOf, sub_minOf, sub_maxOf, List.map_map, if_true, if_false,
      Bool.false_eq_true, RasterBounds.mk.injEq] <;>
    refine ⟨?_, ?_, ?_, ?_⟩ <;>
    exact congrArg _ (List.map_congr_left fun c _ => by omega)

/-! ## The four envelopes as hulls -/

/-- The machine boundary of a declared open end. -/
def machineEdge (rotated90 : Bool) (side : Side) (edge : SourceEdge) : Option MachineEdge :=
  (edgeMapping rotated90 edge).map fun m => if side = .b then MachineEdge.flipY m else m

/-- The declared open ends as machine boundaries. -/
def machineOpened (op : CAMOperation) : List MachineEdge :=
  op.openEndReliefs.filterMap (machineEdge op.sourceRotation90 op.side)

/-- The source boundary that a machine boundary comes from. -/
def sourceEdgeOf (rotated90 : Bool) (side : Side) (edge : MachineEdge) : SourceEdge :=
  match rotated90, if side = .b then MachineEdge.flipY edge else edge with
  | false, .xMin => .uMin
  | false, .xMax => .uMax
  | false, .yMin => .vMin
  | false, .yMax => .vMax
  | true, .xMin => .vMax
  | true, .xMax => .vMin
  | true, .yMin => .uMin
  | true, .yMax => .uMax

theorem machineEdge_eq_some {rotated90 : Bool} {side : Side} {e : SourceEdge}
    {m : MachineEdge} :
    machineEdge rotated90 side e = some m ↔ e = sourceEdgeOf rotated90 side m := by
  cases rotated90 <;> by_cases hb : side = .b <;> cases e <;> cases m <;>
    simp [machineEdge, edgeMapping, sourceEdgeOf, MachineEdge.flipY, hb]

theorem mem_machineOpened {op : CAMOperation} {m : MachineEdge} :
    m ∈ machineOpened op ↔ sourceEdgeOf op.sourceRotation90 op.side m ∈ op.openEndReliefs := by
  simp [machineOpened, machineEdge_eq_some]

theorem sourceEdgeMachineBoundary_eq_ok {e : SourceEdge} {rotated90 : Bool} {side : Side}
    {m : MachineEdge} (h : machineEdge rotated90 side e = some m) :
    sourceEdgeMachineBoundary e rotated90 side = .ok m := by
  cases e <;> simp_all [machineEdge, edgeMapping, sourceEdgeMachineBoundary, bind, Except.bind,
    pure, Except.pure]

theorem machineEdge_isSome {e : SourceEdge} (rotated90 : Bool) (side : Side)
    (h : e.isAllowed = true) : ∃ m, machineEdge rotated90 side e = some m := by
  cases e <;> simp_all [machineEdge, edgeMapping, SourceEdge.isAllowed]

theorem collect_machineBoundary (rotated90 : Bool) (side : Side) {l : List SourceEdge}
    (ha : ∀ e ∈ l, e.isAllowed = true) :
    collect (fun e => sourceEdgeMachineBoundary e rotated90 side) l =
      .ok (l.filterMap (machineEdge rotated90 side)) := by
  induction l with
  | nil => rfl
  | cons e l ih =>
    obtain ⟨m, hm⟩ := machineEdge_isSome rotated90 side (ha e (by simp))
    rw [List.filterMap_cons_some hm]
    exact bind_eq_ok.mpr ⟨m, sourceEdgeMachineBoundary_eq_ok hm,
      bind_eq_ok.mpr ⟨_, ih fun e h => ha e (by simp [h]), rfl⟩⟩

/-- The nominal rectangle widened by `r` at every open machine boundary. -/
def openedBase (op : CAMOperation) (r : Int) : RasterBounds where
  left := op.xUm - if .xMin ∈ machineOpened op then r else 0
  right := op.xUm + op.widthUm.getD 0 + if .xMax ∈ machineOpened op then r else 0
  bottom := op.yUm - if .yMin ∈ machineOpened op then r else 0
  top := op.yUm + op.lengthUm.getD 0 + if .yMax ∈ machineOpened op then r else 0

theorem areaRasterBounds_eq_ok {op : CAMOperation} (r : Int)
    (ha : ∀ e ∈ op.openEndReliefs, e.isAllowed = true) :
    areaRasterBounds op r = .ok {
      left := op.xUm + if .xMin ∈ machineOpened op then 0 else r
      right := op.xUm + op.widthUm.getD 0 - if .xMax ∈ machineOpened op then 0 else r
      bottom := op.yUm + if .yMin ∈ machineOpened op then 0 else r
      top := op.yUm + op.lengthUm.getD 0 - if .yMax ∈ machineOpened op then 0 else r } :=
  bind_eq_ok.mpr ⟨_, collect_machineBoundary _ _ ha, rfl⟩

theorem physicalOpenEnd_flipped (op : CAMOperation) :
    (if op.side = .b then (physicalOpenEndBoundaries op).map MachineEdge.flipY
      else physicalOpenEndBoundaries op) = machineOpened op := by
  unfold machineOpened physicalOpenEndBoundaries machineEdge
  split
  · rw [List.map_filterMap]
  · simp

/-- Planner and verifier agree on the rectangle of raster centres. -/
theorem areaRasterBounds_eq_independent {op : CAMOperation} (r : Int)
    (ha : ∀ e ∈ op.openEndReliefs, e.isAllowed = true) :
    areaRasterBounds op r = .ok (independentAreaRasterBounds op r) := by
  rw [areaRasterBounds_eq_ok r ha]
  simp only [independentAreaRasterBounds, physicalOpenEnd_flipped, Except.ok.injEq,
    RasterBounds.mk.injEq]
  refine ⟨?_, trivial, ?_, trivial⟩ <;> split <;> omega

theorem independentAreaRasterBounds_widened (op : CAMOperation) (r : Int) :
    openedBase op r = {
      left := (independentAreaRasterBounds op r).left - r
      right := (independentAreaRasterBounds op r).right + r
      bottom := (independentAreaRasterBounds op r).bottom - r
      top := (independentAreaRasterBounds op r).top + r } := by
  simp only [independentAreaRasterBounds, physicalOpenEnd_flipped, openedBase,
    RasterBounds.mk.injEq]
  refine ⟨?_, ?_, ?_, ?_⟩ <;> split <;> omega

theorem mem_sourceCorners {c : SourceEdge × SourceEdge} :
    c ∈ sourceCorners ↔
      c = (.uMin, .vMin) ∨ c = (.uMax, .vMin) ∨ c = (.uMin, .vMax) ∨ c = (.uMax, .vMax) := by
  simp [sourceCorners]

/-- Planner and verifier agree on the dogbone centres. -/
theorem mem_independentDogboneCentres {op : CAMOperation} {w l : Int}
    (hw : op.widthUm = some w) (hl : op.lengthUm = some l) (c : Int × Int) :
    c ∈ independentDogboneCentres op ↔ c ∈ dogboneCentres op := by
  unfold independentDogboneCentres dogboneCentres
  simp only [hw, hl, Option.getD_some]
  split
  · rw [List.mem_dedup]
    refine iff_of_eq (congrArg (c ∈ ·) (List.map_congr_left fun k hk => ?_))
    obtain rfl | rfl | rfl | rfl := mem_sourceCorners.mp (List.mem_of_mem_filter hk) <;>
      rcases hr : op.sourceRotation90 with _ | _ <;> by_cases hb : op.side = .b <;>
      simp [sourceCornerMachineBoundaries, hb]
  · exact Iff.rfl

theorem independentAreaCutterEnvelope_eq {op : CAMOperation} {w l : Int} (r : Int)
    (hw : op.widthUm = some w) (hl : op.lengthUm = some l) :
    independentAreaCutterEnvelope op r = (hull (openedBase op r) (dogboneCentres op) r).rect := by
  rw [independentAreaRasterBounds_widened,
    hull_congr fun c => (mem_independentDogboneCentres hw hl c).symm]
  rfl

theorem dogboneEnvelope_eq {op : CAMOperation} (r : Int)
    (ha : ∀ e ∈ op.openEndReliefs, e.isAllowed = true) :
    dogboneEnvelope op r = .ok (hull (openedBase op r) (dogboneCentres op) r).rect := by
  rw [independentAreaRasterBounds_widened]
  exact bind_eq_ok.mpr ⟨_, areaRasterBounds_eq_independent r ha, rfl⟩

/-- The validator's loop over the open ends widens exactly the opened boundaries. -/
theorem foldl_openEndStep (op : CAMOperation) (nominal : Rect) (r : Int)
    (l : List SourceEdge) (acc : Int × Int × Int × Int) :
    l.foldl (openEndStep op nominal r) acc =
      let opened := l.filterMap (machineEdge op.sourceRotation90 op.side)
      (if .xMin ∈ opened then nominal.xUm - r else acc.1,
        if .xMax ∈ opened then nominal.rightUm + r else acc.2.1,
        if .yMin ∈ opened then nominal.yUm - r else acc.2.2.1,
        if .yMax ∈ opened then nominal.topUm + r else acc.2.2.2) := by
  induction l generalizing acc with
  | nil => simp
  | cons e l ih =>
    rw [List.foldl_cons, ih]
    rcases he : edgeMapping op.sourceRotation90 e with _ | m
    · have hm : machineEdge op.sourceRotation90 op.side e = none := by simp [machineEdge, he]
      simp only [openEndStep, he, List.filterMap_cons_none hm]
    · have hm : machineEdge op.sourceRotation90 op.side e =
          some (if op.side = .b then MachineEdge.flipY m else m) := by simp [machineEdge, he]
      rw [List.filterMap_cons_some hm]
      simp only [openEndStep, he]
      cases (if op.side = .b then MachineEdge.flipY m else m) <;> simp

theorem expectedEnvelope_eq {op : CAMOperation} {r : Int}
    (hd : isDogbone op.cornerStrategy = true) (hr : op.cornerReliefRadiusUm = some r) :
    expectedVersionedDogboneEnvelope op (nominalRect op) =
      (hull (openedBase op r) (dogboneCentres op) r).rect := by
  have hcorners : reliefCorners op (nominalRect op) = dogboneCentres op := by
    simp [reliefCorners, dogboneCentres, hd, nominalRect, Rect.rightUm, Rect.topUm]
  have hopen (p : Prop) [Decidable p] (a b : Int) :
      (if p then a + b else a) = a + if p then b else 0 := by split <;> omega
  have hopen' (p : Prop) [Decidable p] (a b : Int) :
      (if p then a - b else a) = a - if p then b else 0 := by split <;> omega
  simp only [expectedVersionedDogboneEnvelope, hr, hd, if_true, foldl_openEndStep, hcorners,
    hopen, hopen']
  simp only [hull, RasterBounds.rect, openedBase, minOf, maxOf, List.foldl_map, nominalRect,
    Rect.rightUm, Rect.topUm]
  rfl

theorem expectedEnvelope_of_not_dogbone {op : CAMOperation} (r : Int)
    (hd : ¬isDogbone op.cornerStrategy = true) (ho : op.openEndReliefs = []) :
    expectedVersionedDogboneEnvelope op (nominalRect op) =
      (hull (openedBase op r) (dogboneCentres op) r).rect := by
  have hexpected : expectedVersionedDogboneEnvelope op (nominalRect op) = nominalRect op := by
    unfold expectedVersionedDogboneEnvelope
    split <;> simp [hd]
  rw [hexpected]
  have hcentres : dogboneCentres op = [] := by simp [dogboneCentres, hd]
  have hopened : machineOpened op = [] := by simp [machineOpened, ho]
  have hwidth : op.xUm + op.widthUm.getD 0 - op.xUm = op.widthUm.getD 0 := by omega
  have hlength : op.yUm + op.lengthUm.getD 0 - op.yUm = op.lengthUm.getD 0 := by omega
  rw [hcentres]
  simp only [hull, openedBase, hopened, List.map_nil, minOf, maxOf, List.foldl_nil,
    RasterBounds.rect, Rect.ofBounds, nominalRect, List.not_mem_nil, if_false, Int.sub_zero,
    Int.add_zero, hwidth, hlength]

/-! ## The envelope of a feature -/

variable (f : ManufacturingFeature) (r : Int)

/-- The unsuppressed corners of the nominal bounds, in panel coordinates. -/
def localCentres : List (Int × Int) :=
  if isDogbone f.cornerStrategy then
    (sourceCorners.filter fun c =>
        !cornerSuppressed f.cornerStrategy f.openEndReliefs c.1 c.2).map fun c =>
      (if c.1 = .uMin then f.bounds.xUm else f.bounds.rightUm,
        if c.2 = .vMin then f.bounds.yUm else f.bounds.topUm)
  else []

/-- The nominal bounds widened at the open ends, in panel coordinates. -/
def localBase : RasterBounds where
  left := f.bounds.xUm - if .uMin ∈ f.openEndReliefs then r else 0
  right := f.bounds.rightUm + if .uMax ∈ f.openEndReliefs then r else 0
  bottom := f.bounds.yUm - if .vMin ∈ f.openEndReliefs then r else 0
  top := f.bounds.topUm + if .vMax ∈ f.openEndReliefs then r else 0

theorem machiningBounds_eq (hr : isDogbone f.cornerStrategy = true →
    f.cornerReliefRadiusUm = some r) :
    f.machiningBounds = (hull (localBase f r) (localCentres f) r).rect := by
  by_cases hd : isDogbone f.cornerStrategy = true
  · have hpos : r ≠ 0 := by
      have := f.relief_pos r (by simp [hr hd])
      omega
    simp only [ManufacturingFeature.machiningBounds, ManufacturingFeature.reliefCircles, hr hd,
      hd, if_true, orElse, hpos, if_false, hull, RasterBounds.rect, localBase, localCentres, minOf,
      maxOf, List.foldl_map]
  · have hopen : f.openEndReliefs = [] := by
      by_contra hne
      exact hd (f.openEnds_dogbone hne)
    have hcircles : f.reliefCircles = [] := by
      unfold ManufacturingFeature.reliefCircles
      split <;> simp [hd]
    simp [ManufacturingFeature.machiningBounds, hcircles, hull, RasterBounds.rect, localBase,
      localCentres, hd, hopen, minOf, maxOf]

theorem bounds_nonneg (hk : isDrillKind f.kind = false) :
    0 ≤ f.bounds.widthUm ∧ 0 ≤ f.bounds.heightUm := by
  have hpos (d : Option Int) (hd : d ∈ [f.diameterUm, f.widthUm, f.lengthUm, f.radiusUm])
      (e : Int) (he : 0 ≤ e) : 0 ≤ orElse d e := by
    rcases d with _ | v
    · exact he
    · have := f.dims_pos _ hd v rfl
      unfold orElse
      dsimp only
      split <;> omega
  have hw : 0 ≤ orElse f.widthUm (orElse f.diameterUm 0) :=
    hpos _ (by simp) _ (hpos _ (by simp) _ le_rfl)
  simp only [ManufacturingFeature.bounds, hk, Bool.false_eq_true, if_false]
  exact ⟨hw, hpos _ (by simp) _ hw⟩

theorem localBase_ordered (hk : isDrillKind f.kind = false)
    (hr : isDogbone f.cornerStrategy = true → f.cornerReliefRadiusUm = some r) :
    (localBase f r).left ≤ (localBase f r).right ∧
      (localBase f r).bottom ≤ (localBase f r).top := by
  obtain ⟨hw, hh⟩ := bounds_nonneg f hk
  have hwidth : f.bounds.xUm ≤ f.bounds.rightUm := by
    unfold Rect.rightUm
    omega
  have hheight : f.bounds.yUm ≤ f.bounds.topUm := by
    unfold Rect.topUm
    omega
  by_cases hopen : f.openEndReliefs = []
  · simp [localBase, hopen, hwidth, hheight]
  · have hpos := f.relief_pos r (by simp [hr (f.openEnds_dogbone hopen)])
    simp only [localBase]
    constructor <;> split <;> split <;> omega

variable (layout : NestingLayout) (placement : Placement) (inst : PartInstance)
  (tool : ToolSpec)

/-- The nominal rectangle of the generated operation. -/
theorem areaOperation_bounds (hk : isDrillKind f.kind = false) :
    let op := areaOperation layout placement inst f tool
    (⟨op.xUm, op.xUm + op.widthUm.getD 0, op.yUm, op.yUm + op.lengthUm.getD 0⟩ : RasterBounds) =
      transformBounds ⟨f.bounds.xUm, f.bounds.rightUm, f.bounds.yUm, f.bounds.topUm⟩ placement
        layout.stock.heightUm f.side := by
  obtain ⟨hw, hh⟩ := bounds_nonneg f hk
  rcases hr : placement.rotated90 with _ | _ <;> by_cases hb : f.side = .b <;>
    simp [areaOperation, baseOperation, transformRectToMachine_eq _ _ _ _ hw hh, transformBounds,
      Rect.rightUm, Rect.topUm, hr, hb] <;>
    omega

theorem transform_localBase (hk : isDrillKind f.kind = false) :
    transformBounds (localBase f r) placement layout.stock.heightUm f.side =
      openedBase (areaOperation layout placement inst f tool) r := by
  have h := areaOperation_bounds f layout placement inst tool hk
  have hends : (areaOperation layout placement inst f tool).openEndReliefs = f.openEndReliefs :=
    rfl
  have hrot : (areaOperation layout placement inst f tool).sourceRotation90 =
    placement.rotated90 := rfl
  have hside : (areaOperation layout placement inst f tool).side = f.side := rfl
  generalize areaOperation layout placement inst f tool = op at h hends hrot hside ⊢
  rcases hr : placement.rotated90 with _ | _ <;> by_cases hb : f.side = .b <;>
    simp only [transformBounds, hr, hb, if_true, if_false, Bool.false_eq_true,
      RasterBounds.mk.injEq] at h <;>
    simp only [transformBounds, localBase, openedBase, mem_machineOpened, hends, hrot, hside,
      sourceEdgeOf, MachineEdge.flipY, hr, hb, if_true, if_false, Bool.false_eq_true,
      RasterBounds.mk.injEq] <;>
    omega

theorem transform_localCentres (hk : isDrillKind f.kind = false) :
    (localCentres f).map (fun c => transformPointToMachine c.1 c.2 placement
        layout.stock.heightUm f.side) =
      dogboneCentres (areaOperation layout placement inst f tool) := by
  have h := areaOperation_bounds f layout placement inst tool hk
  have hstrategy : (areaOperation layout placement inst f tool).cornerStrategy =
    f.cornerStrategy := rfl
  have hends : (areaOperation layout placement inst f tool).openEndReliefs = f.openEndReliefs :=
    rfl
  have hrot : (areaOperation layout placement inst f tool).sourceRotation90 =
    placement.rotated90 := rfl
  have hside : (areaOperation layout placement inst f tool).side = f.side := rfl
  generalize areaOperation layout placement inst f tool = op at h hstrategy hends hrot hside ⊢
  unfold localCentres dogboneCentres
  rw [hstrategy, hends, hrot, hside]
  split
  · rw [List.map_map]
    refine List.map_congr_left fun c hc => ?_
    obtain rfl | rfl | rfl | rfl := mem_sourceCorners.mp (List.mem_of_mem_filter hc) <;>
      rcases hr : placement.rotated90 with _ | _ <;> by_cases hb : f.side = .b <;>
      simp [transformBounds, hr, hb] at h <;>
      simp [transformPointToMachine, sourceCornerMachineBoundaries, hr, hb] <;>
      omega
  · rfl

/-- The four computations of the machining envelope agree, and so do the planner's and the
    verifier's dogbone centres and raster bounds, for the operation that the generator makes
    of a feature with a rectangular extent.  `r` is the cutter radius; a feature with a
    dogbone strategy declares it as its relief radius. -/
theorem machining_envelopes_agree (hk : isDrillKind f.kind = false)
    (hr : isDogbone f.cornerStrategy = true → f.cornerReliefRadiusUm = some r) :
    let op := areaOperation layout placement inst f tool
    let envelope := transformRectToMachine f.machiningBounds placement layout.stock.heightUm f.side
    expectedVersionedDogboneEnvelope op (nominalRect op) = envelope ∧
      dogboneEnvelope op r = .ok envelope ∧
      independentAreaCutterEnvelope op r = envelope ∧
      (∀ c, c ∈ dogboneCentres op ↔ c ∈ independentDogboneCentres op) ∧
      areaRasterBounds op r = .ok (independentAreaRasterBounds op r) := by
  intro op envelope
  have henvelope : envelope = (hull (openedBase op r) (dogboneCentres op) r).rect := by
    obtain ⟨hx, hy⟩ := localBase_ordered f r hk hr
    obtain ⟨hx', hy'⟩ := hull_ordered (localCentres f) r hx hy
    calc envelope
        = transformRectToMachine (hull (localBase f r) (localCentres f) r).rect placement
            layout.stock.heightUm f.side := by rw [← machiningBounds_eq f r hr]
      _ = (transformBounds (hull (localBase f r) (localCentres f) r) placement
            layout.stock.heightUm f.side).rect := transformRectToMachine_rect _ _ _ _ hx' hy'
      _ = (hull (openedBase op r) (dogboneCentres op) r).rect := by
            rw [transformBounds_hull, transform_localBase f r layout placement inst tool hk,
              transform_localCentres f layout placement inst tool hk]
  have ha : ∀ e ∈ op.openEndReliefs, e.isAllowed = true := f.openEnds_allowed
  refine ⟨?_, ?_, ?_, ?_, areaRasterBounds_eq_independent r ha⟩
  · rw [henvelope]
    by_cases hd : isDogbone f.cornerStrategy = true
    · exact expectedEnvelope_eq hd (hr hd)
    · exact expectedEnvelope_of_not_dogbone r hd (by_contra fun hne => hd (f.openEnds_dogbone hne))
  · rw [henvelope]
    exact dogboneEnvelope_eq r ha
  · rw [henvelope]
    exact independentAreaCutterEnvelope_eq r rfl rfl
  · exact fun c => (mem_independentDogboneCentres rfl rfl c).symm

/-- A groove open at `u_max` on side B of a rotated placement: the reliefs at the closed
    end widen the envelope on three sides, the cutter's exit through the mouth on the
    fourth. -/
theorem machining_envelopes_agree_groove :
    let f : ManufacturingFeature := {
      featureId := "dado", partId := "side", kind := .groove, side := .b, xUm := 100000
      yUm := 40000, depthUm := 6000, widthUm := some 200000, lengthUm := some 18000
      cornerStrategy := some .dogboneV2, cornerReliefRadiusUm := some 3000
      openEndReliefs := [.uMax] }
    let part : PartSpec := {
      partId := "side", widthUm := 300000, heightUm := 600000, thicknessUm := 18000
      materialId := "birch", materialVersion := "1" }
    let tool : ToolSpec := {
      toolId := "t6", name := "6 mm", diameterUm := 6000, cuttingLengthUm := 25000
      supportedOperations := [.groove], spindleRpm := 18000, feedUmMin := 3000000
      plungeUmMin := 800000 }
    let layout : NestingLayout := {
      stock := {
        stockId := "sheet", materialId := "birch", materialVersion := "1"
        widthUm := 2440000, heightUm := 1220000, thicknessUm := 18000 }
      placements := [] }
    let placement : Placement := ⟨"side:001", "side", "sheet", 0, 20000, 30000, 600000, 300000,
      true⟩
    let op := areaOperation layout placement ⟨"side:001", part⟩ f tool
    dogboneEnvelope op 3000 = .ok (independentAreaCutterEnvelope op 3000) ∧
      independentAreaCutterEnvelope op 3000 = ⟨559000, 887000, 24000, 206000⟩ := by
  intro f part tool layout placement op
  obtain ⟨-, h2, h3, -, -⟩ := machining_envelopes_agree f 3000 layout placement
    ⟨"side:001", part⟩ tool rfl (fun _ => rfl)
  exact ⟨h3 ▸ h2, by decide +kernel⟩

end Custombuild.Cam
