/-
  The semantic layer over the bookcase compiler: snap targets, intents of a user or a proposal,
  and their compilation to a validated specification.
  Source: `custombuild_domain.semantic`.

  Ratios are millionths.  The bounds of a target and the pointer of an intent carry the checks of
  their models, so only the compilation itself can fail.
-/
import Custombuild.Lib.Apportion
import Custombuild.Domain.Parts

namespace Custombuild.Domain

open Custombuild.Lib

def semanticDesignVersion : String := "semantic-design-1.2.0"

def defaultPlinthHeightUm : Int := 80000

/-- The whole of a ratio. -/
def wholePpm : Int := 1000000

inductive SemanticComponentKind
  | shelfRow | divider | backPanel | plinth | baseCabinet
deriving DecidableEq

def SemanticComponentKind.value : SemanticComponentKind → String
  | .shelfRow => "shelf_row"
  | .divider => "divider"
  | .backPanel => "back_panel"
  | .plinth => "plinth"
  | .baseCabinet => "base_cabinet"

inductive SemanticAction
  | add | remove | move
deriving DecidableEq

inductive SemanticIntentSource
  | userDrag | userCommand | aiProposal | template
deriving DecidableEq

inductive SemanticSnapRelation
  | shelfInBay | dividerInCarcass | backBehindCarcass | plinthUnderCarcass | cabinetUnderShelves
deriving DecidableEq

def SemanticSnapRelation.value : SemanticSnapRelation → String
  | .shelfInBay => "shelf_in_bay"
  | .dividerInCarcass => "divider_in_carcass"
  | .backBehindCarcass => "back_behind_carcass"
  | .plinthUnderCarcass => "plinth_under_carcass"
  | .cabinetUnderShelves => "cabinet_under_shelves"

inductive SemanticPlacementPolicy
  | parametricEqualDistribution | constrainedCustomLayout
deriving DecidableEq

def BackPanelType.value : BackPanelType → String
  | .none => "none"
  | .surfaceMounted => "surface_mounted"
  | .insetGroove => "inset_groove"

def ReinforcementMode.value : ReinforcementMode → String
  | .manual => "manual"
  | .auto => "auto"

/-- What the semantic layer raises.  `invalidBookcase` is the error of a specification that would
    not be valid. -/
inductive SemanticError
  | approvalRequired (text : String)
  | unsupported (text : String)
  | compilation (text : String)
  | invalidBookcase (reason : ValueError)
  | value (reason : ValueError)
deriving DecidableEq

structure SemanticBounds where
  minXUm : Int
  maxXUm : Int
  minYUm : Int
  maxYUm : Int
  minZUm : Int
  maxZUm : Int
  nonneg : 0 ≤ minXUm ∧ 0 ≤ maxXUm ∧ 0 ≤ minYUm ∧ 0 ≤ maxYUm ∧ 0 ≤ minZUm ∧ 0 ≤ maxZUm
  ordered : minXUm ≤ maxXUm ∧ minYUm ≤ maxYUm ∧ minZUm ≤ maxZUm
deriving DecidableEq

/-- The bounds of three ranges. -/
def SemanticBounds.make (x y z : Int × Int) : Except ValueError SemanticBounds :=
  if hnonneg : 0 ≤ x.1 ∧ 0 ≤ x.2 ∧ 0 ≤ y.1 ∧ 0 ≤ y.2 ∧ 0 ≤ z.1 ∧ 0 ≤ z.2 then
    if hordered : x.1 ≤ x.2 ∧ y.1 ≤ y.2 ∧ z.1 ≤ z.2 then
      .ok ⟨x.1, x.2, y.1, y.2, z.1, z.2, hnonneg, hordered⟩
    else .error (.message "semantic bounds are inverted")
  else .error (.field "bounds")

structure SemanticSnapTarget where
  targetId : String
  label : String
  relation : SemanticSnapRelation
  acceptedComponents : List SemanticComponentKind
  bounds : SemanticBounds
  bayIndex : Option Nat := none
deriving DecidableEq

structure SemanticIntent where
  intentId : String
  action : SemanticAction
  componentKind : SemanticComponentKind
  targetId : String
  source : SemanticIntentSource
  pointerXPermille : Int := 500
  pointerYPermille : Int := 500
  rationale : Option String := none
  pointer : 0 ≤ pointerXPermille ∧ pointerXPermille ≤ 1000 ∧ 0 ≤ pointerYPermille ∧
    pointerYPermille ≤ 1000 := by decide
  attributed : source = .aiProposal → isGiven rationale = true := by decide

/-- A value before or after a change. -/
inductive SemanticValue
  | int (value : Int)
  | text (value : String)
deriving DecidableEq

structure SemanticChange where
  field : String
  before : SemanticValue
  after : SemanticValue
  reason : String
  targetId : String
deriving DecidableEq

structure SemanticCompilationResult where
  semanticVersion : String := semanticDesignVersion
  spec : BookcaseDesignSpec
  intent : SemanticIntent
  target : SemanticSnapTarget
  changes : List SemanticChange
  placementPolicy : SemanticPlacementPolicy := .constrainedCustomLayout
  warnings : List String := []
  requiresEngineRebuild : Bool := true

/-! ## Ratios -/

/-- `_equal_ratios`. -/
def equalRatios (count : Nat) : List Int := equalShares wholePpm count

/-- `_bay_ratios`. -/
def bayRatios (p : BookcaseParameters) : List Int :=
  if p.bayWidthRatiosPpm ≠ [] then p.bayWidthRatiosPpm else equalRatios (p.verticalDividerCount + 1)

/-- `_shelf_ratios`. -/
def shelfRatios (p : BookcaseParameters) : List Int :=
  if p.shelfHeightRatiosPpm ≠ [] then p.shelfHeightRatiosPpm
  else (List.range p.shelfCount).map fun index : Nat =>
    ((index : Int) + 1) * wholePpm / ((p.shelfCount : Int) + 1)

/-- `_boundaries`: the running sums, where the last one is the whole whatever it was. -/
def boundaries (ratios : List Int) : List Int :=
  (ratios.scanl (· + ·) 0).dropLast ++ [wholePpm]

/-- `_ratios_from_boundaries`. -/
def ratiosFromBoundaries (bounds : List Int) : List Int :=
  List.zipWith (fun left right => right - left) bounds bounds.tail

/-- The openings between neighbouring boundaries. -/
def openingsOf (existing : List Int) : List (Int × Int) :=
  (0 :: existing ++ [wholePpm]).zip (existing ++ [wholePpm])

/-- The place in the opening under the pointer, where it has room. -/
def directPosition (existing : List Int) (requested minimumGap : Int) : Option Int :=
  match (openingsOf existing).find? fun opening => requested ≤ opening.2 with
  | none => none
  | some (left, right) =>
    if right - left < minimumGap * 2 then none
    else
      let value := min (right - minimumGap) (max (left + minimumGap) requested)
      if existing.all fun current => minimumGap ≤ |value - current| then some value else none

/-- The middle of the widest opening with room. -/
def widestPosition (existing : List Int) (minimumGap : Int) : Option Int :=
  let candidates := ((openingsOf existing).filter fun opening =>
    minimumGap * 2 ≤ opening.2 - opening.1).map fun opening =>
      (opening.2 - opening.1, (opening.1 + opening.2) / 2)
  (minBy (fun candidate => toLex (-candidate.1, -candidate.2)) candidates).map Prod.snd

/-- `_insert_constrained_position`. -/
def insertConstrainedPosition (existing : List Int) (requested minimumGap : Int) :
    Except SemanticError (List Int) := do
  let value ← demand ((directPosition existing requested minimumGap).or
      (widestPosition existing minimumGap))
    (.unsupported "no supported opening remains for this component")
  return sortBy id (existing ++ [value])

/-- `_remove_nearest_position`. -/
def removeNearestPosition (existing : List Int) (requested : Int) :
    Except SemanticError (List Int) := do
  let nearest ← demand (minBy (fun entry : Int × Nat => |entry.1 - requested|) existing.zipIdx)
    (.compilation "semantic intent does not change the current design")
  return existing.eraseIdx nearest.2

/-! ## Snap targets -/

/-- `inner_width` of the snap targets. -/
def snapInnerWidth (p : BookcaseParameters) : Int :=
  p.widthUm - 2 * p.actualThicknessUm - p.verticalDividerCount * p.actualThicknessUm

/-- The widths of the bays of the snap targets: shares in millionths, and what is left over goes
    round the bays. -/
def snapBayWidths (p : BookcaseParameters) : List Int :=
  let bayWidths := (bayRatios p).map fun ratio => snapInnerWidth p * ratio / wholePpm
  roundRobin (p.verticalDividerCount + 1) bayWidths (snapInnerWidth p - bayWidths.sum).toNat

/-- The heights of the shelf zone. -/
def usableZ (p : BookcaseParameters) : Int × Int :=
  (p.shelfZoneBottom, p.heightUm - p.actualThicknessUm)

/-- The targets of the bays from a number and a cursor on. -/
def bayTargets (p : BookcaseParameters) : Nat → Int → List Int →
    Except ValueError (List SemanticSnapTarget)
  | _, _, [] => .ok []
  | bayNumber, cursorX, bayWidth :: widths => do
    let bounds ← SemanticBounds.make (cursorX, cursorX + bayWidth) (0, p.depthUm) (usableZ p)
    let target : SemanticSnapTarget :=
      { targetId := numbered "bookcase:shelf:bay:" bayNumber
        label := numbered "Hyllfack " bayNumber
        relation := .shelfInBay
        acceptedComponents := [.shelfRow]
        bounds := bounds
        bayIndex := some bayNumber }
    let targets ← bayTargets p (bayNumber + 1) (cursorX + bayWidth + p.actualThicknessUm) widths
    return target :: targets

/-- A target that is not a bay. -/
def carcassTarget (targetId label : String) (relation : SemanticSnapRelation)
    (kind : SemanticComponentKind) (x y z : Int × Int) : Except ValueError SemanticSnapTarget := do
  let bounds ← SemanticBounds.make x y z
  return ⟨targetId, label, relation, [kind], bounds, none⟩

/-- `derive_bookcase_snap_targets`. -/
def deriveBookcaseSnapTargets (spec : BookcaseDesignSpec) :
    Except ValueError (List SemanticSnapTarget) := do
  let p := spec.parameters
  let t := p.actualThicknessUm
  let targets ← bayTargets p 1 t (snapBayWidths p)
  let divider ← carcassTarget "bookcase:divider:carcass" "Bokhyllans stomme" .dividerInCarcass
    .divider (t, p.widthUm - t) (0, p.depthUm) (usableZ p)
  let back ← carcassTarget "bookcase:back:rear" "Stommens baksida" .backBehindCarcass .backPanel
    (0, p.widthUm) (0, p.backThicknessUm) (0, p.heightUm)
  let plinth ← carcassTarget "bookcase:plinth:base" "Stommens undersida" .plinthUnderCarcass .plinth
    (t, p.widthUm - t) (0, p.depthUm) (0, max p.plinthHeightUm defaultPlinthHeightUm)
  let cabinet ← carcassTarget "bookcase:cabinet:lower-zone" "Nedre förvaringszon"
    .cabinetUnderShelves .baseCabinet (t, p.widthUm - t) (0, p.depthUm)
    (p.plinthHeightUm, max p.baseCabinetHeightUm 680000)
  return targets ++ [divider, back, plinth, cabinet]

/-! ## Intents -/

/-- What a branch of the compilation collects. -/
structure SemanticUpdate where
  parameters : BookcaseParameters
  changes : List SemanticChange
  warnings : List String := []

def screeningSource : PropertySource :=
  ⟨"screening-library", "Custombuild conservative screening fixture; replace with supplier declaration",
    "2026.1"⟩

def screeningBirchPlywood6 : MaterialVersion :=
  { materialId := "birch-plywood-6", version := "screening-2026.1", nominalThicknessUm := 6000
    densityKgM3 := 680, elasticModulusMpa := 5000, bendingStrengthMpa := 24, shearStrengthMpa := 3
    creepFactorPermille := 500, propertyUncertaintyPermille := 250
    minSupportedThicknessUm := 5500, maxSupportedThicknessUm := 6500, grainDirection := .x
    source := screeningSource }

def screeningMdf6 : MaterialVersion :=
  { materialId := "mdf-6", version := "screening-2026.1", nominalThicknessUm := 6000
    densityKgM3 := 780, elasticModulusMpa := 2500, bendingStrengthMpa := 15, shearStrengthMpa := 2
    creepFactorPermille := 800, propertyUncertaintyPermille := 300
    minSupportedThicknessUm := 5500, maxSupportedThicknessUm := 6500, grainDirection := .none
    source := screeningSource }

/-- `_screened_back_material_for`. -/
def screenedBackMaterialFor (spec : BookcaseDesignSpec) : Except SemanticError MaterialVersion :=
  if spec.material.materialId = "birch-plywood" then .ok screeningBirchPlywood6
  else if spec.material.materialId = "mdf" then .ok screeningMdf6
  else .error (.compilation "adding a back panel requires an explicit supported back material")

section Branches

variable (p : BookcaseParameters) (intent : SemanticIntent) (target : SemanticSnapTarget)

/-- Whether the intent adds; it removes otherwise. -/
def SemanticIntent.adding : Bool := intent.action == .add

/-- A shelf row that finds no opening is an invalid bookcase. -/
def shelfPositionError : SemanticError → SemanticError
  | .unsupported text => .invalidBookcase (.message text)
  | error => error

/-- The branch of a shelf row. -/
def updateShelfRow : Except SemanticError SemanticUpdate := do
  let requested := (1000 - intent.pointerYPermille) * 1000
  let afterRatios ← if intent.adding then
      (insertConstrainedPosition (shelfRatios p) requested 50000).mapError shelfPositionError
    else removeNearestPosition (shelfRatios p) requested
  return {
    parameters :=
      { p with shelfCount := afterRatios.length, shelfHeightRatiosPpm := afterRatios }
    changes := [⟨"shelf_count", .int p.shelfCount, .int afterRatios.length,
      "Hyllrad " ++ (if intent.adding then "lades till i" else "togs bort från") ++ " " ++
        target.label.toLower, target.targetId⟩]
    warnings := ["The pointer height was compiled to a constrained shelf ratio; the geometry engine still derives every final part and joint coordinate, so it is not a direct CNC coordinate."] }

/-- The branch of a divider. -/
def updateDivider : Except SemanticError SemanticUpdate := do
  let beforePositions := (boundaries (bayRatios p)).tail.dropLast
  let requested := intent.pointerXPermille * 1000
  let afterPositions ← if intent.adding then
      insertConstrainedPosition beforePositions requested 80000
    else removeNearestPosition beforePositions requested
  let dividerAfter := afterPositions.length
  return {
    parameters :=
      { p with
        verticalDividerCount := dividerAfter
        bayWidthRatiosPpm := ratiosFromBoundaries (0 :: afterPositions ++ [wholePpm])
        reinforcementMode := .manual }
    changes := [⟨"vertical_divider_count", .int p.verticalDividerCount, .int dividerAfter,
        if intent.adding then "Vertikal avdelare lades till via semantisk snapping"
        else "Vertikal avdelare togs bort via semantisk redigering", target.targetId⟩,
      ⟨"reinforcement_mode", .text p.reinforcementMode.value, .text ReinforcementMode.manual.value,
        "En användarstyrd strukturändring ska granskas som manuell.", target.targetId⟩]
    warnings := ["The pointer width was compiled to constrained bay ratios; production coordinates are regenerated by the geometry engine."] }

/-- The branch of a back. -/
def updateBackPanel : SemanticUpdate :=
  let backAfter : BackPanelType := if intent.adding then .insetGroove else .none
  { parameters := { p with backPanel := backAfter }
    changes := [⟨"back_panel", .text p.backPanel.value, .text backAfter.value,
      "Bakstyckets semantiska närvaro ändrades.", target.targetId⟩] }

/-- The branch of a plinth. -/
def updatePlinth : SemanticUpdate :=
  let plinthAfter := if intent.adding then defaultPlinthHeightUm else 0
  { parameters := { p with plinthHeightUm := plinthAfter }
    changes := [⟨"plinth_height_um", .int p.plinthHeightUm, .int plinthAfter,
      "Sockelns semantiska närvaro ändrades.", target.targetId⟩] }

/-- The branch of the base cabinets. -/
def updateBaseCabinet : SemanticUpdate :=
  let cabinetAfter := if intent.adding then p.verticalDividerCount + 1 else 0
  { parameters :=
      { p with
        baseCabinetCount := cabinetAfter
        baseCabinetHeightUm := if intent.adding then 680000 else 0
        baseCabinetDepthUm := if intent.adding then p.depthUm else 0 }
    changes := [⟨"base_cabinet_count", .int p.baseCabinetCount, .int cabinetAfter,
      "Underskåpsraden kopplades till den bärande fackindelningen.", target.targetId⟩] }

/-- The branches over the kinds of components. -/
def semanticUpdate : Except SemanticError SemanticUpdate :=
  match intent.componentKind with
  | .shelfRow => updateShelfRow p intent target
  | .divider => updateDivider p intent target
  | .backPanel => .ok (updateBackPanel p intent target)
  | .plinth => .ok (updatePlinth p intent target)
  | .baseCabinet => .ok (updateBaseCabinet p intent target)

end Branches

/-- The back material after the intent, with the warning for it. -/
def backMaterialAfter (spec : BookcaseDesignSpec) (intent : SemanticIntent) :
    Except SemanticError (Option MaterialVersion × List String) :=
  if intent.componentKind = .backPanel then
    if intent.adding then do
      let material ← screenedBackMaterialFor spec
      return (some material, ["A versioned 6 mm screening back material was selected deterministically; supplier batch evidence remains required before physical production."])
    else .ok (none, [])
  else .ok (spec.backMaterial, [])

/-- `compile_semantic_intent`. -/
def compileSemanticIntent (spec : BookcaseDesignSpec) (intent : SemanticIntent)
    (userConfirmed : Bool) : Except SemanticError SemanticCompilationResult := do
  require (!(intent.source == .aiProposal && !userConfirmed))
    (.approvalRequired "AI-originated furniture intent requires explicit user confirmation")
  require (intent.action != .move) (.unsupported
    "MOVE requires a stable component-instance target; use the versioned shelf/divider position command instead of a free semantic transform")
  let targets ← (deriveBookcaseSnapTargets spec).mapError .value
  let target ← demand (targets.find? fun item => item.targetId == intent.targetId)
    (.compilation ("unknown semantic snap target: " ++ intent.targetId))
  require (target.acceptedComponents.contains intent.componentKind) (.compilation
    (intent.componentKind.value ++ " cannot snap to " ++ target.relation.value))
  let update ← semanticUpdate spec.parameters intent target
  require (!update.changes.all fun change => change.before == change.after)
    (.compilation "semantic intent does not change the current design")
  update.parameters.validate.mapError .invalidBookcase
  let (backMaterial, backWarnings) ← backMaterialAfter spec intent
  let updatedSpec : BookcaseDesignSpec :=
    { spec with
      parameters := update.parameters
      backMaterial := backMaterial
      jointRetention := none }
  updatedSpec.validate.mapError .invalidBookcase
  return {
    spec := updatedSpec
    intent := intent
    target := target
    changes := update.changes
    warnings := update.warnings ++ backWarnings ++
      (if spec.jointRetention.isSome then ["The geometry change invalidated the previous joint-retention binding; a new exact contract is required before CAM can be released."]
        else []) ++
      (if intent.source = .aiProposal then ["AI supplied only the furniture intent; all dimensions and manufacturing features must be regenerated and validated deterministically."]
        else []) }

end Custombuild.Domain
