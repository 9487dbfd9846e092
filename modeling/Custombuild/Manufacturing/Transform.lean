/-
  From panel coordinates to machine coordinates: the nesting transform with its optional
  quarter turn, the flip of the sheet for side B, and the tool selection.  Source:
  `custombuild_manufacturing.dfm`.
-/
import Custombuild.Manufacturing.Model
import Custombuild.Lib.SortBy
import Mathlib.Data.String.Basic

namespace Custombuild.Manufacturing

open Custombuild.Lib

/-- `FEATURE_TO_OPERATION`. -/
def featureToOperation : FeatureKind → OperationKind
  | .drill => .drill
  | .drillPattern => .drill
  | .countersink => .countersink
  | .pocket => .pocket
  | .groove => .groove
  | .rabbet => .groove
  | .innerContour => .contour
  | .outerContour => .contour
  | .engrave => .engrave
  | .label => .engrave

/-- Part-local coordinates through nesting (a quarter turn counter-clockwise when the
    placement is rotated) and the documented flip of side B about the X axis. -/
def transformPointToMachine (xUm yUm : Int) (placement : Placement) (stockHeightUm : Int)
    (side : Side) : Int × Int :=
  let nestedX :=
    if placement.rotated90 then placement.xUm + (placement.widthUm - yUm)
    else placement.xUm + xUm
  let nestedY :=
    if placement.rotated90 then placement.yUm + xUm else placement.yUm + yUm
  (nestedX, if side = .b then stockHeightUm - nestedY else nestedY)

/-- The axis-aligned rectangle around the four transformed corners. -/
def transformRectToMachine (rect : Rect) (placement : Placement) (stockHeightUm : Int)
    (side : Side) : Rect :=
  let corners := [(rect.xUm, rect.yUm), (rect.rightUm, rect.yUm),
    (rect.xUm, rect.topUm), (rect.rightUm, rect.topUm)]
  let transformed := corners.map fun c =>
    transformPointToMachine c.1 c.2 placement stockHeightUm side
  let xs := transformed.map Prod.fst
  let ys := transformed.map Prod.snd
  Rect.ofBounds (minOf (xs.headD 0) xs) (maxOf (xs.headD 0) xs)
    (minOf (ys.headD 0) ys) (maxOf (ys.headD 0) ys)

/-- A nested part envelope in the coordinates of the active setup. -/
def placementRectToMachine (placement : Placement) (stockHeightUm : Int) (side : Side) : Rect :=
  if side ≠ .b then placement.rect
  else ⟨placement.xUm, stockHeightUm - placement.rect.topUm, placement.widthUm,
    placement.heightUm⟩

/-- Whether a tool of the machine can make the feature. -/
def toolFits (feature : ManufacturingFeature) (machine : MachineProfile) (tool : ToolSpec) :
    Bool :=
  featureToOperation feature.kind ∈ tool.supportedOperations
    && !(tool.cuttingLengthUm < feature.depthUm)
    && (if isDrillKind feature.kind then
          match feature.diameterUm with
          | none => false
          | some d =>
            !(max machine.accuracyUm (feature.metadata.diameterToleranceUm.getD 100)
              < (tool.effectiveDiameterUm - d).natAbs)
        else
          match feature.widthUm with
          | none => true
          | some w => !(w < tool.effectiveDiameterUm))

/-- The compatible tool that comes first by effective diameter, identity and version. -/
def selectTool (feature : ManufacturingFeature) (machine : MachineProfile) : Option ToolSpec :=
  (sortBy (fun t : ToolSpec => toLex (t.effectiveDiameterUm, toLex (t.toolId, t.version)))
    (machine.tools.filter (toolFits feature machine))).head?

/-! ## The transform of a rectangle -/

/-- On a rectangle with non-negative sides the transform is again a rectangle whose sides
    are swapped by the quarter turn. -/
theorem transformRectToMachine_eq (rect : Rect) (placement : Placement) (stockHeightUm : Int)
    (side : Side) (hw : 0 ≤ rect.widthUm) (hh : 0 ≤ rect.heightUm) :
    transformRectToMachine rect placement stockHeightUm side =
      let w := if placement.rotated90 then rect.heightUm else rect.widthUm
      let h := if placement.rotated90 then rect.widthUm else rect.heightUm
      let x := if placement.rotated90 then placement.xUm + (placement.widthUm - rect.topUm)
        else placement.xUm + rect.xUm
      let y := if placement.rotated90 then placement.yUm + rect.xUm
        else placement.yUm + rect.yUm
      ⟨x, if side = .b then stockHeightUm - (y + h) else y, w, h⟩ := by
  rcases hr : placement.rotated90 with _ | _ <;> by_cases hb : side = .b <;>
    simp [transformRectToMachine, transformPointToMachine, minOf, maxOf, Rect.ofBounds,
      Rect.rightUm, Rect.topUm, hr, hb] <;>
    omega

end Custombuild.Manufacturing
