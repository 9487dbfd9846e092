/-
  The check of blanks against sheets, one material at a time, and the least sheet formats that
  would do: no nesting, every part by itself.
  Source: `custombuild_manufacturing.furniture_stock_planning`, `furniture_stock_requirements` of
  `custombuild_manufacturing.furniture_handoff`, and the stock formats of
  `custombuild_domain.furniture`.

  Not modelled: what the result repeats of the machine and the text on the scope of the formats.
-/
import Mathlib.Algebra.Ring.Int.Defs
import Mathlib.Data.String.Basic
import Custombuild.Lib.Frontier
import Custombuild.Lib.Partition
import Custombuild.Manufacturing.Profiles

namespace Custombuild.Manufacturing

open Custombuild.Lib

/-! ## Requirements -/

/-- A part of a furniture result and the panel that `adapt_design_result` makes of it.  The sides
    of its blank are two of the three sides of a raw size, and those are positive. -/
structure AdaptedPart where
  semanticKey : String
  materialId : String
  materialVersion : String
  actualThicknessUm : Int
  panel : PartSpec
  blank_pos : 0 < panel.blankWidthUm ∧ 0 < panel.blankHeightUm

/-- Material, version and measured thickness. -/
abbrev MaterialKey := String ×ₗ String ×ₗ Int

def AdaptedPart.materialKey (part : AdaptedPart) : MaterialKey :=
  toLex (part.materialId, toLex (part.materialVersion, part.actualThicknessUm))

/-- A part as a requirement lists it. -/
structure RequiredPart where
  partId : String
  semanticKey : String
  rawWidthUm : Int
  rawHeightUm : Int
  grainDirection : String
  alongGrainUm : Option Int
  acrossGrainUm : Option Int
  raw_pos : 0 < rawWidthUm ∧ 0 < rawHeightUm

def requiredPart (part : AdaptedPart) : RequiredPart :=
  let width := part.panel.blankWidthUm
  let height := part.panel.blankHeightUm
  let grain := part.panel.grainDirection
  let directional := grain ≠ "NONE"
  { partId := part.panel.partId
    semanticKey := part.semanticKey
    rawWidthUm := width
    rawHeightUm := height
    grainDirection := grain
    alongGrainUm := if directional then some (if grain = "X" then width else height) else none
    acrossGrainUm := if directional then some (if grain = "X" then height else width) else none
    raw_pos := part.blank_pos }

structure StockRequirement where
  materialId : String
  materialVersion : String
  measuredThicknessUm : Int
  partCount : Nat
  rawAreaUm2 : Int
  minimumLongEdgeUm : Int
  minimumShortEdgeUm : Int
  minimumAlongGrainUm : Int
  minimumAcrossGrainUm : Int
  parts : List RequiredPart

/-- The requirement of the parts of one material. -/
def requirementOf (key : MaterialKey) (parts : List RequiredPart) : StockRequirement where
  materialId := (ofLex key).1
  materialVersion := (ofLex (ofLex key).2).1
  measuredThicknessUm := (ofLex (ofLex key).2).2
  partCount := parts.length
  rawAreaUm2 := (parts.map fun p => p.rawWidthUm * p.rawHeightUm).sum
  minimumLongEdgeUm := maxOf 0 (parts.map fun p => max p.rawWidthUm p.rawHeightUm)
  minimumShortEdgeUm := maxOf 0 (parts.map fun p => min p.rawWidthUm p.rawHeightUm)
  minimumAlongGrainUm := maxOf 0 (parts.map fun p => orElse p.alongGrainUm 0)
  minimumAcrossGrainUm := maxOf 0 (parts.map fun p => orElse p.acrossGrainUm 0)
  parts := sortBy RequiredPart.semanticKey parts

/-- `furniture_stock_requirements`. -/
def furnitureStockRequirements (parts : List AdaptedPart) : List StockRequirement :=
  (sortedSet (parts.map AdaptedPart.materialKey)).map fun key =>
    requirementOf key ((parts.filter fun part => part.materialKey = key).map requiredPart)

/-! ## Formats -/

inductive GrainAxis
  | x
  | y
deriving DecidableEq

def GrainAxis.value : GrainAxis → String
  | .x => "x"
  | .y => "y"

structure FurnitureStockFormat where
  stockWidthUm : Int := 2440000
  stockHeightUm : Int := 1220000
  stockGrainAxis : Option GrainAxis := none
  edgeMarginUm : Int := 0
  margin_range : 0 ≤ edgeMarginUm ∧ edgeMarginUm ≤ 100000 := by decide

/-- A format of its own for one material; no two have the same material. -/
structure ManufacturingSelection where
  format : FurnitureStockFormat
  machineProfileId : String
  machineProfileVersion : String := "1.0.0-validation"
  materialStocks : List (MaterialKey × FurnitureStockFormat) := []
  keys_unique : (materialStocks.map Prod.fst).Nodup := by simp

/-- `overrides.get(key, selection)`. -/
def ManufacturingSelection.formatFor (selection : ManufacturingSelection) (key : MaterialKey) :
    FurnitureStockFormat :=
  ((selection.materialStocks.find? fun stock => stock.1 = key).map Prod.snd).getD selection.format

/-! ## Orientations -/

/-- The rotations that the grain allows; none where the grain of the sheet is not given. -/
def rotationsOf (grain : String) (axis : Option GrainAxis) : List Bool :=
  if grain ≠ "NONE" then
    match axis with
    | none => []
    | some axis => [grain.toLower != axis.value]
  else [false, true]

structure OrientationOption where
  rotationDeg : Nat
  requiredStockWidthUm : Int
  requiredStockHeightUm : Int
  widthShortfallUm : Int
  heightShortfallUm : Int
  fitsStock : Bool
  fitsMachine : Bool

/-- The sheet a blank needs in an orientation, margins included. -/
def requiredSize (part : RequiredPart) (margin : Int) (rotate : Bool) : Int × Int :=
  let size := if rotate then (part.rawHeightUm, part.rawWidthUm)
    else (part.rawWidthUm, part.rawHeightUm)
  (size.1 + 2 * margin, size.2 + 2 * margin)

def orientationOption (stock : FurnitureStockFormat) (machine : MachineProfile)
    (part : RequiredPart) (rotate : Bool) : OrientationOption :=
  let required := requiredSize part stock.edgeMarginUm rotate
  { rotationDeg := if rotate then 90 else 0
    requiredStockWidthUm := required.1
    requiredStockHeightUm := required.2
    widthShortfallUm := max 0 (required.1 - stock.stockWidthUm)
    heightShortfallUm := max 0 (required.2 - stock.stockHeightUm)
    fitsStock := required.1 ≤ stock.stockWidthUm && required.2 ≤ stock.stockHeightUm
    fitsMachine := required.1 ≤ machine.workWidthUm && required.2 ≤ machine.workHeightUm }

/-- A part with its orientations. -/
structure PlannedPart where
  part : RequiredPart
  fitsStock : Option Bool
  orientations : List OrientationOption

def planPart (stock : FurnitureStockFormat) (machine : MachineProfile) (part : RequiredPart) :
    PlannedPart :=
  let rotations := rotationsOf part.grainDirection stock.stockGrainAxis
  let orientations := rotations.map (orientationOption stock machine part)
  ⟨part, if rotations ≠ [] then some (orientations.any OrientationOption.fitsStock) else none,
    orientations⟩

/-! ## Issues -/

/-- `_mm` of a length that is not negative: millimetres with at most three decimals. -/
def mm (value : Int) : String :=
  let digits := (toString (value % 1000)).toList
  let decimals := (List.replicate (3 - digits.length) '0' ++ digits).reverse.dropWhile (· == '0')
  toString (value / 1000) ++
    (if decimals = [] then "" else "." ++ String.ofList decimals.reverse)

structure StockIssue where
  materialId : String
  materialVersion : String
  measuredThicknessUm : Int
  code : String
  message : String
  partId : Option String := none

/-- `issue`: an issue of the group of a requirement. -/
def groupIssue (requirement : StockRequirement) (code message : String)
    (partId : Option String := none) : StockIssue :=
  { materialId := requirement.materialId
    materialVersion := requirement.materialVersion
    measuredThicknessUm := requirement.measuredThicknessUm
    code := code
    message := requirement.materialId ++ " · " ++ mm requirement.measuredThicknessUm ++ " mm: " ++
      message
    partId := partId }

def exceedsMachine (stock : FurnitureStockFormat) (machine : MachineProfile) : Bool :=
  stock.stockWidthUm > machine.workWidthUm || stock.stockHeightUm > machine.workHeightUm

def marginConsumesSheet (stock : FurnitureStockFormat) : Bool :=
  min (stock.stockWidthUm - 2 * stock.edgeMarginUm) (stock.stockHeightUm - 2 * stock.edgeMarginUm)
    ≤ 0

def sheetIssues (requirement : StockRequirement) (stock : FurnitureStockFormat)
    (machine : MachineProfile) : List StockIssue :=
  (if exceedsMachine stock machine then [groupIssue requirement "STOCK_EXCEEDS_MACHINE"
      ("Råskivan " ++ mm stock.stockWidthUm ++ " × " ++ mm stock.stockHeightUm ++
        " mm ryms inte inom maskinens arbetsområde " ++ mm machine.workWidthUm ++ " × " ++
        mm machine.workHeightUm ++ " mm (X × Y).")]
    else []) ++
  (if marginConsumesSheet stock then [groupIssue requirement "STOCK_MARGIN_CONSUMES_SHEET"
      "Kantmarginalen lämnar inget användbart skivformat."]
    else [])

def partIssues (requirement : StockRequirement) (stock : FurnitureStockFormat)
    (planned : PlannedPart) : List StockIssue :=
  let part := planned.part
  match planned.fitsStock with
  | none => [groupIssue requirement "GRAIN_AXIS_REQUIRED" "Råskivans fiberriktning måste anges."
      (some part.partId)]
  | some true => []
  | some false => [groupIssue requirement "PART_EXCEEDS_STOCK"
      (part.semanticKey ++ ": råmått " ++ mm part.rawWidthUm ++ " × " ++ mm part.rawHeightUm ++
        " mm ryms inte på det användbara skivformatet " ++
        mm (max 0 (stock.stockWidthUm - 2 * stock.edgeMarginUm)) ++ " × " ++
        mm (max 0 (stock.stockHeightUm - 2 * stock.edgeMarginUm)) ++
        " mm med angiven fiberriktning. Välj annat format eller rita om fördelningen " ++
        "i moduler med verifierade förband. Delen skarvas inte automatiskt.")
      (some part.partId)]

/-! ## Groups -/

structure RequiredFormat where
  stockWidthUm : Int
  stockHeightUm : Int
  fitsMachine : Bool

structure StockGroup where
  requirement : StockRequirement
  fromMaterial : Bool
  stock : FurnitureStockFormat
  usableWidthUm : Int
  usableHeightUm : Int
  geometryCompatible : Bool
  parts : List PlannedPart
  requiredFormats : List RequiredFormat
  issues : List StockIssue

/-- The sheets on which a part fits in one of its orientations are those at least one of these. -/
def PlannedPart.envelopes (planned : PlannedPart) : List (Int × Int) :=
  planned.orientations.map fun option =>
    (option.requiredStockWidthUm, option.requiredStockHeightUm)

/-- `envelopes` after the loop: joined part by part and pruned each time. -/
def envelopesOf (parts : List PlannedPart) : List (Int × Int) :=
  parts.foldl (fun envelopes part => frontier (joins envelopes part.envelopes)) [(0, 0)]

def planGroup (selection : ManufacturingSelection) (machine : MachineProfile)
    (requirement : StockRequirement) : StockGroup :=
  let key : MaterialKey := toLex (requirement.materialId,
    toLex (requirement.materialVersion, requirement.measuredThicknessUm))
  let stock := selection.formatFor key
  let parts := requirement.parts.map (planPart stock machine)
  let issues := sheetIssues requirement stock machine ++
    parts.flatMap (partIssues requirement stock)
  { requirement := requirement
    fromMaterial := (selection.materialStocks.map Prod.fst).contains key
    stock := stock
    usableWidthUm := max 0 (stock.stockWidthUm - 2 * stock.edgeMarginUm)
    usableHeightUm := max 0 (stock.stockHeightUm - 2 * stock.edgeMarginUm)
    geometryCompatible := issues.isEmpty
    parts := parts
    requiredFormats := (sortedSet ((envelopesOf parts).map toLex)).map fun envelope =>
      let size := ofLex envelope
      ⟨size.1, size.2, size.1 ≤ machine.workWidthUm && size.2 ≤ machine.workHeightUm⟩
    issues := issues }

structure StockPlan where
  stockGroups : List StockGroup
  issues : List StockIssue
  geometryCompatible : Bool

/-- The materials with a format of their own that no part is made of. -/
def unusedKeys (selection : ManufacturingSelection) (requirements : List StockRequirement) :
    List MaterialKey :=
  let used := requirements.map fun requirement => (toLex (requirement.materialId,
    toLex (requirement.materialVersion, requirement.measuredThicknessUm)) : MaterialKey)
  (sortedSet (selection.materialStocks.map Prod.fst)).filter fun key => !used.contains key

def unusedIssue (key : MaterialKey) : StockIssue :=
  let materialId := (ofLex key).1
  let materialVersion := (ofLex (ofLex key).2).1
  let thicknessUm := (ofLex (ofLex key).2).2
  { materialId := materialId
    materialVersion := materialVersion
    measuredThicknessUm := thicknessUm
    code := "MATERIAL_STOCK_NOT_USED"
    message := "Råformatet för " ++ materialId ++ " · " ++ materialVersion ++ " · " ++
      mm thicknessUm ++ " mm hör inte till någon del i möbeln. Ta bort det eller välj material " ++
      "och tjocklek igen." }

/-- `plan_furniture_stock`. -/
def planFurnitureStock (selection : ManufacturingSelection) (parts : List AdaptedPart)
    (machine : MachineProfile) : StockPlan :=
  let requirements := furnitureStockRequirements parts
  let groups := requirements.map (planGroup selection machine)
  let issues := groups.flatMap StockGroup.issues ++ (unusedKeys selection requirements).map unusedIssue
  ⟨groups, issues, issues.isEmpty⟩

/-! ## The required formats -/

/-- The blank fits the format by itself, with margins, in a rotation that its grain allows. -/
def FitsFormat (stock : FurnitureStockFormat) (part : RequiredPart) (width height : Int) : Prop :=
  ∃ rotate ∈ rotationsOf part.grainDirection stock.stockGrainAxis,
    (requiredSize part stock.edgeMarginUm rotate).1 ≤ width ∧
      (requiredSize part stock.edgeMarginUm rotate).2 ≤ height

section Group

variable {stock : FurnitureStockFormat} {machine : MachineProfile}

theorem serves_envelopes {part : RequiredPart} {width height : Int} :
    Serves (planPart stock machine part).envelopes (width, height) ↔
      FitsFormat stock part width height := by
  simp only [Serves, PlannedPart.envelopes, planPart, List.mem_map, FitsFormat]
  constructor
  · intro h
    obtain ⟨_, ⟨_, ⟨rotate, hrotate, rfl⟩, rfl⟩, hle⟩ := h
    exact ⟨rotate, hrotate, hle⟩
  · intro h
    obtain ⟨rotate, hrotate, hle⟩ := h
    exact ⟨_, ⟨_, ⟨rotate, hrotate, rfl⟩, rfl⟩, hle⟩

/-- Whatever a blank fits is positive in both directions. -/
theorem FitsFormat.pos {part : RequiredPart} {width height : Int}
    (h : FitsFormat stock part width height) :
    0 < width - 2 * stock.edgeMarginUm ∧ 0 < height - 2 * stock.edgeMarginUm := by
  obtain ⟨rotate, -, hwidth, hheight⟩ := h
  have hraw := part.raw_pos
  unfold requiredSize at hwidth hheight
  split at hwidth
  · rename_i hrotate
    rw [if_pos hrotate] at hheight
    simp only at hwidth hheight
    omega
  · rename_i hrotate
    rw [if_neg hrotate] at hheight
    simp only at hwidth hheight
    omega

/-- The envelopes cover the formats on which every part fits by itself. -/
theorem serves_envelopesOf {parts : List RequiredPart} (hparts : parts ≠ []) {width height : Int} :
    Serves (envelopesOf (parts.map (planPart stock machine))) (width, height) ↔
      ∀ part ∈ parts, FitsFormat stock part width height := by
  rw [envelopesOf, serves_foldl, List.forall_mem_map]
  simp only [serves_envelopes]
  constructor
  · intro h
    exact h.2
  · intro h
    refine ⟨⟨(0, 0), List.mem_singleton_self _, ?_⟩, h⟩
    obtain ⟨part, hpart⟩ := List.exists_mem_of_ne_nil _ hparts
    have hpos := (h part hpart).pos
    have hmargin := stock.margin_range
    simp only
    omega

theorem envelopesOf_pairwise {parts : List PlannedPart} (hparts : parts ≠ []) :
    (envelopesOf parts).Pairwise fun a b => a.1 < b.1 ∧ b.2 < a.2 := by
  rw [envelopesOf, ← List.dropLast_append_getLast hparts, List.foldl_append]
  exact frontier_pairwise _

theorem partIssues_eq_nil {requirement : StockRequirement} {part : RequiredPart}
    (hallowed : rotationsOf part.grainDirection stock.stockGrainAxis ≠ []) :
    partIssues requirement stock (planPart stock machine part) = [] ↔
      FitsFormat stock part stock.stockWidthUm stock.stockHeightUm := by
  have hfits : (planPart stock machine part).fitsStock =
      some (((rotationsOf part.grainDirection stock.stockGrainAxis).map
        (orientationOption stock machine part)).any OrientationOption.fitsStock) := by
    rw [planPart, if_pos hallowed]
  have hany : (((rotationsOf part.grainDirection stock.stockGrainAxis).map
      (orientationOption stock machine part)).any OrientationOption.fitsStock) = true ↔
      FitsFormat stock part stock.stockWidthUm stock.stockHeightUm := by
    simp only [List.any_map, List.any_eq_true, Function.comp_apply, orientationOption,
      Bool.and_eq_true, decide_eq_true_eq, FitsFormat]
  rw [← hany, partIssues, hfits]
  split
  · rename_i hnone
    cases hnone
  · rename_i htrue
    exact ⟨fun _ => Option.some.inj htrue, fun _ => rfl⟩
  · rename_i hfalse
    rw [Option.some.injEq] at hfalse
    rw [hfalse]
    simp

theorem sheetIssues_eq_nil {requirement : StockRequirement} :
    sheetIssues requirement stock machine = [] ↔
      exceedsMachine stock machine = false ∧ marginConsumesSheet stock = false := by
  unfold sheetIssues
  cases exceedsMachine stock machine <;> cases marginConsumesSheet stock <;> simp

theorem marginConsumesSheet_of_fits {part : RequiredPart}
    (h : FitsFormat stock part stock.stockWidthUm stock.stockHeightUm) :
    marginConsumesSheet stock = false := by
  have hpos := h.pos
  rw [marginConsumesSheet, decide_eq_false_iff_not]
  omega

/-- A group is compatible when its sheet fits the machine and every part fits the sheet. -/
theorem group_issues_eq_nil {selection : ManufacturingSelection} {requirement : StockRequirement}
    (hparts : requirement.parts ≠ [])
    (hstock : (planGroup selection machine requirement).stock = stock)
    (hallowed : ∀ part ∈ requirement.parts,
      rotationsOf part.grainDirection stock.stockGrainAxis ≠ []) :
    (planGroup selection machine requirement).geometryCompatible = true ↔
      exceedsMachine stock machine = false ∧
        ∀ part ∈ requirement.parts, FitsFormat stock part stock.stockWidthUm stock.stockHeightUm := by
  subst hstock
  have hissues : (planGroup selection machine requirement).geometryCompatible = true ↔
      sheetIssues requirement (planGroup selection machine requirement).stock machine = [] ∧
        ∀ part ∈ requirement.parts,
          partIssues requirement (planGroup selection machine requirement).stock
            (planPart (planGroup selection machine requirement).stock machine part) = [] := by
    simp only [planGroup, List.isEmpty_iff, List.append_eq_nil_iff, List.flatMap_eq_nil_iff,
      List.forall_mem_map]
  rw [hissues, sheetIssues_eq_nil]
  constructor
  · intro h
    exact ⟨h.1.1, fun part hpart => (partIssues_eq_nil (hallowed part hpart)).mp (h.2 part hpart)⟩
  · intro h
    obtain ⟨part, hpart⟩ := List.exists_mem_of_ne_nil _ hparts
    refine ⟨⟨h.1, marginConsumesSheet_of_fits (h.2 part hpart)⟩, ?_⟩
    intro part hpart
    exact (partIssues_eq_nil (hallowed part hpart)).mpr (h.2 part hpart)

/-- Of two envelopes one is wider and the other higher. -/
theorem incomparable_of_mem {parts : List PlannedPart} (hparts : parts ≠ []) {a b : Int × Int}
    (ha : a ∈ envelopesOf parts) (hb : b ∈ envelopesOf parts) (hne : a ≠ b) :
    (a.1 < b.1 ∧ b.2 < a.2) ∨ (b.1 < a.1 ∧ a.2 < b.2) := by
  have hpairs : (envelopesOf parts).Pairwise fun a b : Int × Int =>
      (a.1 < b.1 ∧ b.2 < a.2) ∨ (b.1 < a.1 ∧ a.2 < b.2) :=
    (envelopesOf_pairwise hparts).imp Or.inl
  have : Std.Symm fun a b : Int × Int =>
      (a.1 < b.1 ∧ b.2 < a.2) ∨ (b.1 < a.1 ∧ a.2 < b.2) := ⟨fun _ _ h => h.symm⟩
  exact hpairs.forall ha hb hne

end Group

theorem requirement_parts_ne_nil {parts : List AdaptedPart} {requirement : StockRequirement}
    (h : requirement ∈ furnitureStockRequirements parts) : requirement.parts ≠ [] := by
  obtain ⟨key, hkey, rfl⟩ := List.mem_map.mp h
  obtain ⟨part, hpart, hsame⟩ := List.mem_map.mp (mem_sortedSet.mp hkey)
  apply List.ne_nil_of_mem (a := requiredPart part)
  rw [requirementOf, mem_sortBy]
  exact List.mem_map_of_mem (List.mem_filter.mpr ⟨hpart, decide_eq_true hsame⟩)

/-- The entries of `required_formats`, as pairs. -/
theorem mem_requiredFormats {selection : ManufacturingSelection} {machine : MachineProfile}
    {requirement : StockRequirement} {width height : Int} :
    (∃ format ∈ (planGroup selection machine requirement).requiredFormats,
      format.stockWidthUm ≤ width ∧ format.stockHeightUm ≤ height) ↔
      Serves (envelopesOf (planGroup selection machine requirement).parts) (width, height) := by
  simp only [planGroup, List.mem_map, mem_sortedSet, Serves]
  constructor
  · intro h
    obtain ⟨_, ⟨_, ⟨envelope, henvelope, rfl⟩, rfl⟩, hle⟩ := h
    exact ⟨envelope, henvelope, hle⟩
  · intro h
    obtain ⟨envelope, henvelope, hle⟩ := h
    exact ⟨_, ⟨_, ⟨envelope, henvelope, rfl⟩, rfl⟩, hle⟩

/-- For a group whose parts all have an allowed orientation the required formats are the exact
    Pareto frontier of the sheets on which every part fits by itself, and the group is compatible
    when its own sheet fits the machine and is at least one of them. -/
theorem required_formats_exact (selection : ManufacturingSelection) (parts : List AdaptedPart)
    (machine : MachineProfile) (group : StockGroup)
    (hgroup : group ∈ (planFurnitureStock selection parts machine).stockGroups)
    (hallowed : ∀ planned ∈ group.parts,
      rotationsOf planned.part.grainDirection group.stock.stockGrainAxis ≠ []) :
    (∀ width height : Int,
      (∀ planned ∈ group.parts, FitsFormat group.stock planned.part width height) ↔
        ∃ format ∈ group.requiredFormats,
          format.stockWidthUm ≤ width ∧ format.stockHeightUm ≤ height) ∧
    (group.requiredFormats.Pairwise fun a b =>
      ¬(a.stockWidthUm ≤ b.stockWidthUm ∧ a.stockHeightUm ≤ b.stockHeightUm) ∧
        ¬(b.stockWidthUm ≤ a.stockWidthUm ∧ b.stockHeightUm ≤ a.stockHeightUm)) ∧
    (group.geometryCompatible = true ↔
      (group.stock.stockWidthUm ≤ machine.workWidthUm ∧
        group.stock.stockHeightUm ≤ machine.workHeightUm) ∧
      ∃ format ∈ group.requiredFormats, format.stockWidthUm ≤ group.stock.stockWidthUm ∧
        format.stockHeightUm ≤ group.stock.stockHeightUm) := by
  obtain ⟨requirement, hrequirement, rfl⟩ := List.mem_map.mp hgroup
  have hparts := requirement_parts_ne_nil hrequirement
  have hplanned : (planGroup selection machine requirement).parts = requirement.parts.map
      (planPart (planGroup selection machine requirement).stock machine) := rfl
  rw [hplanned, List.forall_mem_map] at hallowed
  have hexact (width height : Int) :
      (∀ planned ∈ (planGroup selection machine requirement).parts,
        FitsFormat (planGroup selection machine requirement).stock planned.part width height) ↔
      ∃ format ∈ (planGroup selection machine requirement).requiredFormats,
        format.stockWidthUm ≤ width ∧ format.stockHeightUm ≤ height := by
    rw [mem_requiredFormats, hplanned, serves_envelopesOf hparts, List.forall_mem_map]
    rfl
  refine ⟨hexact, ?_, ?_⟩
  · have hne : (planGroup selection machine requirement).parts ≠ [] := by
      rw [hplanned]
      simpa using hparts
    simp only [planGroup, List.pairwise_map]
    refine (sortedSet_pairwise _).imp_of_mem ?_
    intro a b ha hb hlt
    obtain ⟨a, hfirst, rfl⟩ := List.mem_map.mp (mem_sortedSet.mp ha)
    obtain ⟨b, hsecond, rfl⟩ := List.mem_map.mp (mem_sortedSet.mp hb)
    have hdistinct : a ≠ b := fun heq => hlt.ne (congrArg toLex heq)
    rcases incomparable_of_mem hne hfirst hsecond hdistinct with h | h
    · simp only [ofLex_toLex]
      omega
    · simp only [ofLex_toLex]
      omega
  · rw [group_issues_eq_nil hparts rfl hallowed, ← hexact, hplanned, List.forall_mem_map,
      exceedsMachine]
    simp only [Bool.or_eq_false_iff, decide_eq_false_iff_not, not_lt, gt_iff_lt]
    rfl

namespace TwoPanels

/-- A panel of a bookcase of birch plywood. -/
def panelOf (partId : String) (widthUm heightUm : Int) (grain : String)
    (hpos : 0 < widthUm ∧ 0 < heightUm := by decide) (hid : partId ≠ "" := by decide) :
    PartSpec where
  partId := partId
  widthUm := widthUm
  heightUm := heightUm
  thicknessUm := 18000
  materialId := "birch-plywood"
  materialVersion := "screening-2026.1"
  grainDirection := grain
  id_required := hid
  dims_pos := ⟨hpos.1, hpos.2, by decide⟩

def parts : List AdaptedPart :=
  [⟨"side:left", "birch-plywood", "screening-2026.1", 18000, panelOf "side" 320000 2000000 "NONE",
      by decide⟩,
    ⟨"shelf:1", "birch-plywood", "screening-2026.1", 18000, panelOf "shelf" 864000 300000 "X",
      by decide⟩]

/-- A sheet whose grain runs along its width. -/
def selection : ManufacturingSelection where
  format := { stockGrainAxis := some .x, edgeMarginUm := 10000 }
  machineProfileId := "custombuild-router-1325-linuxcnc"

def requirement : StockRequirement :=
  requirementOf (toLex ("birch-plywood", toLex ("screening-2026.1", 18000))) (parts.map requiredPart)

def group : StockGroup := planGroup selection linuxcncReferenceRouter1325 requirement

theorem group_mem :
    group ∈ (planFurnitureStock selection parts linuxcncReferenceRouter1325).stockGroups := by
  have hkeys : sortedSet (parts.map AdaptedPart.materialKey) =
      [toLex ("birch-plywood", toLex ("screening-2026.1", 18000))] := by decide +kernel
  refine List.mem_map.mpr ⟨requirement, List.mem_map.mpr ⟨_, ?_, rfl⟩, rfl⟩
  rw [hkeys]
  exact List.mem_singleton_self _

/-- A side that may be turned and a shelf whose grain fixes it. -/
theorem required_formats_exact_two :
    (∀ width height : Int, (∀ planned ∈ group.parts, FitsFormat group.stock planned.part width height) ↔
      ∃ format ∈ group.requiredFormats,
        format.stockWidthUm ≤ width ∧ format.stockHeightUm ≤ height) ∧
    ∃ format ∈ group.requiredFormats, format.stockWidthUm ≤ 2440000 ∧
      format.stockHeightUm ≤ 1220000 := by
  have hallowed : ∀ planned ∈ group.parts,
      rotationsOf planned.part.grainDirection group.stock.stockGrainAxis ≠ [] := by decide +kernel
  obtain ⟨hexact, -, hcompatible⟩ :=
    required_formats_exact selection parts linuxcncReferenceRouter1325 group group_mem hallowed
  exact ⟨hexact, (hcompatible.mp (by decide +kernel)).2⟩

end TwoPanels

end Custombuild.Manufacturing
