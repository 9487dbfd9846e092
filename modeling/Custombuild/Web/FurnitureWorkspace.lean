/-
  Furniture workspaces as JSON: how the server reads and writes them, and the identity by which the
  browser compares them.
  Source: `apps/web/lib/furniture-workspace.ts`, `apps/web/lib/furniture-module-plan.ts`,
  `workspaceIdentity`, and `custombuild_domain/furniture.py`.

  A document has the members of the browser's interface; where a member may be null, an absent one
  is null.  Lengths are integers and counts are natural numbers: the server refuses any other number.
  Strings are ordered by their characters, as identities are ASCII in both languages.
-/
import Custombuild.Domain.Furniture

namespace Custombuild.Web.Furniture

open Custombuild.Lib Custombuild.Domain

/-! ## Manufacturing selections of the server -/

inductive GrainAxis
  | x | y
deriving DecidableEq

structure FurnitureMaterialStock where
  materialId : String
  materialVersion : String
  measuredThicknessUm : Int
  stockWidthUm : Int := 2440000
  stockHeightUm : Int := 1220000
  stockGrainAxis : Option GrainAxis := none
  edgeMarginUm : Int := 0
deriving DecidableEq

structure ManufacturingSelection where
  machineProfileId : String
  machineProfileVersion : String := "1.0.0-validation"
  stockWidthUm : Int := 2440000
  stockHeightUm : Int := 1220000
  stockGrainAxis : Option GrainAxis := none
  edgeMarginUm : Int := 0
  materialStocks : List FurnitureMaterialStock := []
deriving DecidableEq

/-- The declared ranges of a stock format. -/
def checkStockFormat (widthUm heightUm edgeMarginUm : Int) : Except ValueError Unit := do
  require (inRange 1 6000000 widthUm) (.field "stock_width_um")
  require (inRange 1 6000000 heightUm) (.field "stock_height_um")
  require (inRange 0 100000 edgeMarginUm) (.field "edge_margin_um")

def FurnitureMaterialStock.validate (stock : FurnitureMaterialStock) : Except ValueError Unit := do
  checkStockFormat stock.stockWidthUm stock.stockHeightUm stock.edgeMarginUm
  require (inRange 1000 100000 stock.measuredThicknessUm) (.field "measured_thickness_um")

/-- `material_key` -/
def FurnitureMaterialStock.materialKey (stock : FurnitureMaterialStock) :
    String ×ₗ String ×ₗ Int :=
  toLex (stock.materialId, toLex (stock.materialVersion, stock.measuredThicknessUm))

/-- The declared ranges of a selection, and its stocks in canonical order. -/
def ManufacturingSelection.canonical (selection : ManufacturingSelection) :
    Except ValueError ManufacturingSelection := do
  checkStockFormat selection.stockWidthUm selection.stockHeightUm selection.edgeMarginUm
  forEach FurnitureMaterialStock.validate selection.materialStocks
  require (decide (selection.materialStocks.length ≤ 16)) (.field "material_stocks")
  require (decide (selection.materialStocks.map FurnitureMaterialStock.materialKey).Nodup)
    (.message "only one stock format per material, version and thickness is allowed")
  return { selection with
    materialStocks := sortBy FurnitureMaterialStock.materialKey selection.materialStocks }

/-! ## Documents -/

inductive FurnitureFamily
  | shelving | table | chestOfDrawers
deriving DecidableEq

structure IntentDocument where
  family : FurnitureFamily
  widthUm : Int
  heightUm : Int
  depthUm : Int
  shelfCount : Option Nat := none
  dividerCount : Option Nat := none
  shelfLoadN : Option Int := none
  shelfLoadBasis : Option ShelfLoadBasis := none
  shelfLoadPerMetreN : Option Int := none
  shelfHeightRatiosPpm : Option (List Int) := none
  bayWidthRatiosPpm : Option (List Int) := none
  backPanel : Option BackPanelType := none
  shelfMount : Option ShelfMount := none
  plinthHeightUm : Option Int := none
  endInsetUm : Option Int := none
  stretcherHeightUm : Option Int := none
  topLoadN : Option Int := none
  drawerCount : Option Nat := none
  drawerLoadN : Option Int := none
  frontGapUm : Option Int := none
deriving DecidableEq

structure StockDocument where
  materialId : String
  materialVersion : String
  measuredThicknessUm : Int
  stockWidthUm : Int
  stockHeightUm : Int
  stockGrainAxis : Option GrainAxis
  edgeMarginUm : Option Int := none
deriving DecidableEq

structure SelectionDocument where
  machineProfileId : String
  machineProfileVersion : String
  stockWidthUm : Int
  stockHeightUm : Int
  stockGrainAxis : Option GrainAxis
  edgeMarginUm : Option Int := none
  materialStocks : Option (List StockDocument) := none
deriving DecidableEq

/-- A material, hardware and an installation have all their members, so they are the server's own. -/
structure WorkspaceDocument where
  designId : String
  revision : Nat
  intent : IntentDocument
  material : MaterialSelection
  backMaterial : MaterialSelection
  hardware : Option HardwareSelection
  installation : Option InstallationSpace := none
  manufacturing : Option SelectionDocument
deriving DecidableEq

/-! ## Reading: `FurnitureWorkspace.model_validate` -/

section Reading

/-! Members of another family are absent. -/

def IntentDocument.noShelving (intent : IntentDocument) : Bool :=
  intent.shelfCount.isNone && intent.dividerCount.isNone && intent.shelfLoadN.isNone &&
    intent.shelfLoadBasis.isNone && intent.shelfLoadPerMetreN.isNone &&
    intent.shelfHeightRatiosPpm.isNone && intent.bayWidthRatiosPpm.isNone &&
    intent.backPanel.isNone && intent.shelfMount.isNone && intent.plinthHeightUm.isNone

def IntentDocument.noTable (intent : IntentDocument) : Bool :=
  intent.endInsetUm.isNone && intent.stretcherHeightUm.isNone && intent.topLoadN.isNone

def IntentDocument.noChest (intent : IntentDocument) : Bool :=
  intent.drawerCount.isNone && intent.drawerLoadN.isNone && intent.frontGapUm.isNone

def readShelving (intent : IntentDocument) : ShelvingIntent :=
  { widthUm := intent.widthUm
    heightUm := intent.heightUm
    depthUm := intent.depthUm
    shelfCount := intent.shelfCount.getD 4
    dividerCount := intent.dividerCount.getD 1
    shelfLoadN := intent.shelfLoadN.getD 200
    shelfLoadBasis := intent.shelfLoadBasis.getD .perRow
    shelfLoadPerMetreN := intent.shelfLoadPerMetreN.getD 0
    shelfHeightRatiosPpm := intent.shelfHeightRatiosPpm.getD []
    bayWidthRatiosPpm := intent.bayWidthRatiosPpm.getD []
    backPanel := intent.backPanel.getD .insetGroove
    shelfMount := intent.shelfMount.getD .fixed
    plinthHeightUm := intent.plinthHeightUm.getD 0 }

def readTable (intent : IntentDocument) : TableIntent :=
  { widthUm := intent.widthUm
    heightUm := intent.heightUm
    depthUm := intent.depthUm
    endInsetUm := intent.endInsetUm.getD 60000
    stretcherHeightUm := intent.stretcherHeightUm.getD 100000
    topLoadN := intent.topLoadN.getD 300 }

def readChest (intent : IntentDocument) : ChestIntent :=
  { widthUm := intent.widthUm
    heightUm := intent.heightUm
    depthUm := intent.depthUm
    drawerCount := intent.drawerCount.getD 3
    drawerLoadN := intent.drawerLoadN.getD 100
    frontGapUm := intent.frontGapUm.getD 3000 }

/-- Members of another family are forbidden. -/
def readIntent (intent : IntentDocument) : Except ValueError FurnitureIntent := do
  match intent.family with
  | .shelving =>
    require (intent.noTable && intent.noChest) (.field "design.intent")
    return .shelving (readShelving intent)
  | .table =>
    require (intent.noShelving && intent.noChest) (.field "design.intent")
    return .table (readTable intent)
  | .chestOfDrawers =>
    require (intent.noShelving && intent.noTable) (.field "design.intent")
    return .chest (readChest intent)

def readStock (stock : StockDocument) : FurnitureMaterialStock :=
  { materialId := stock.materialId
    materialVersion := stock.materialVersion
    measuredThicknessUm := stock.measuredThicknessUm
    stockWidthUm := stock.stockWidthUm
    stockHeightUm := stock.stockHeightUm
    stockGrainAxis := stock.stockGrainAxis
    edgeMarginUm := stock.edgeMarginUm.getD 0 }

/-- A selection before its stocks are put in order. -/
def givenSelection (selection : SelectionDocument) : ManufacturingSelection :=
  { machineProfileId := selection.machineProfileId
    machineProfileVersion := selection.machineProfileVersion
    stockWidthUm := selection.stockWidthUm
    stockHeightUm := selection.stockHeightUm
    stockGrainAxis := selection.stockGrainAxis
    edgeMarginUm := selection.edgeMarginUm.getD 0
    materialStocks := (selection.materialStocks.getD []).map readStock }

def readSelection (selection : SelectionDocument) : Except ValueError ManufacturingSelection :=
  (givenSelection selection).canonical

def readManufacturing : Option SelectionDocument →
    Except ValueError (Option ManufacturingSelection)
  | none => .ok none
  | some selection => (readSelection selection).map some

def readWorkspace (document : WorkspaceDocument) :
    Except ValueError (FurnitureWorkspace ManufacturingSelection) := do
  let intent ← readIntent document.intent
  let manufacturing ← readManufacturing document.manufacturing
  let workspace : FurnitureWorkspace ManufacturingSelection :=
    { design := {
        designId := document.designId
        revision := document.revision
        intent
        material := document.material
        backMaterial := document.backMaterial
        hardware := document.hardware
        installation := document.installation }
      manufacturing }
  workspace.validate
  return workspace

end Reading

/-! ## Writing: `model_dump(mode="json")` -/

section Writing

/-- A member that is left out where it has its default. -/
def unlessDefault {α : Type} [DecidableEq α] (default value : α) : Option α :=
  if value = default then none else some value

def dumpIntent : FurnitureIntent → IntentDocument
  | .shelving p =>
    { family := .shelving
      widthUm := p.widthUm
      heightUm := p.heightUm
      depthUm := p.depthUm
      shelfCount := some p.shelfCount
      dividerCount := some p.dividerCount
      shelfLoadN := some p.shelfLoadN
      shelfLoadBasis := unlessDefault .perRow p.shelfLoadBasis
      shelfLoadPerMetreN := unlessDefault 0 p.shelfLoadPerMetreN
      shelfHeightRatiosPpm := some p.shelfHeightRatiosPpm
      bayWidthRatiosPpm := unlessDefault [] p.bayWidthRatiosPpm
      backPanel := unlessDefault .insetGroove p.backPanel
      shelfMount := unlessDefault .fixed p.shelfMount
      plinthHeightUm := unlessDefault 0 p.plinthHeightUm }
  | .table p =>
    { family := .table
      widthUm := p.widthUm
      heightUm := p.heightUm
      depthUm := p.depthUm
      endInsetUm := some p.endInsetUm
      stretcherHeightUm := some p.stretcherHeightUm
      topLoadN := some p.topLoadN }
  | .chest p =>
    { family := .chestOfDrawers
      widthUm := p.widthUm
      heightUm := p.heightUm
      depthUm := p.depthUm
      drawerCount := some p.drawerCount
      drawerLoadN := some p.drawerLoadN
      frontGapUm := some p.frontGapUm }

def dumpStock (stock : FurnitureMaterialStock) : StockDocument :=
  { materialId := stock.materialId
    materialVersion := stock.materialVersion
    measuredThicknessUm := stock.measuredThicknessUm
    stockWidthUm := stock.stockWidthUm
    stockHeightUm := stock.stockHeightUm
    stockGrainAxis := stock.stockGrainAxis
    edgeMarginUm := unlessDefault 0 stock.edgeMarginUm }

def dumpSelection (selection : ManufacturingSelection) : SelectionDocument :=
  { machineProfileId := selection.machineProfileId
    machineProfileVersion := selection.machineProfileVersion
    stockWidthUm := selection.stockWidthUm
    stockHeightUm := selection.stockHeightUm
    stockGrainAxis := selection.stockGrainAxis
    edgeMarginUm := unlessDefault 0 selection.edgeMarginUm
    materialStocks := unlessDefault [] (selection.materialStocks.map dumpStock) }

def dumpWorkspace (workspace : FurnitureWorkspace ManufacturingSelection) : WorkspaceDocument :=
  { designId := workspace.design.designId
    revision := workspace.design.revision
    intent := dumpIntent workspace.design.intent
    material := workspace.design.material
    backMaterial := workspace.design.backMaterial
    hardware := workspace.design.hardware
    installation := workspace.design.installation
    manufacturing := workspace.manufacturing.map dumpSelection }

end Writing

/-! ## The browser's identity -/

/-- `{...newFurnitureWorkspace(family).design.intent, ...}`: the defaults of the family under what is
    given. -/
def identityIntent (intent : IntentDocument) : IntentDocument :=
  match intent.family with
  | .shelving =>
    { intent with
      shelfCount := some (intent.shelfCount.getD 4)
      dividerCount := some (intent.dividerCount.getD 1)
      shelfLoadN := some (intent.shelfLoadN.getD 200)
      shelfHeightRatiosPpm := some (intent.shelfHeightRatiosPpm.getD [])
      shelfLoadBasis := some (intent.shelfLoadBasis.getD .perRow)
      shelfLoadPerMetreN := some (intent.shelfLoadPerMetreN.getD 0)
      bayWidthRatiosPpm := some (intent.bayWidthRatiosPpm.getD [])
      backPanel := some (intent.backPanel.getD .insetGroove)
      shelfMount := some (intent.shelfMount.getD .fixed)
      plinthHeightUm := some (intent.plinthHeightUm.getD 0) }
  | .table =>
    { intent with
      endInsetUm := some (intent.endInsetUm.getD 60000)
      stretcherHeightUm := some (intent.stretcherHeightUm.getD 100000)
      topLoadN := some (intent.topLoadN.getD 300) }
  | .chestOfDrawers =>
    { intent with
      drawerCount := some (intent.drawerCount.getD 3)
      drawerLoadN := some (intent.drawerLoadN.getD 100)
      frontGapUm := some (intent.frontGapUm.getD 3000) }

def identityStock (stock : StockDocument) : StockDocument :=
  { stock with edgeMarginUm := some (stock.edgeMarginUm.getD 0) }

def stockKey (stock : StockDocument) : String ×ₗ String ×ₗ Int :=
  toLex (stock.materialId, toLex (stock.materialVersion, stock.measuredThicknessUm))

def identitySelection (selection : SelectionDocument) : SelectionDocument :=
  { selection with
    edgeMarginUm := some (selection.edgeMarginUm.getD 0)
    materialStocks :=
      some (sortBy stockKey ((selection.materialStocks.getD []).map identityStock)) }

/-- `workspaceIdentity`; two texts of ordered JSON are equal when their values are. -/
def workspaceIdentity (document : WorkspaceDocument) : WorkspaceDocument :=
  { document with
    intent := identityIntent document.intent
    manufacturing := document.manufacturing.map identitySelection }

/-! ## The identity and reading -/

section Identity

theorem unlessDefault_getD {α : Type} [DecidableEq α] (default value : α) :
    (unlessDefault default value).getD default = value := by
  unfold unlessDefault
  split
  · rename_i h
    exact h.symm
  · rfl

/-- What the server writes of an intent has the identity of what it read. -/
theorem identityIntent_dump {document : IntentDocument} {intent : FurnitureIntent}
    (h : readIntent document = .ok intent) :
    identityIntent (dumpIntent intent) = identityIntent document := by
  obtain ⟨family, widthUm, heightUm, depthUm, shelfCount, dividerCount, shelfLoadN, shelfLoadBasis,
    shelfLoadPerMetreN, shelfHeightRatiosPpm, bayWidthRatiosPpm, backPanel, shelfMount,
    plinthHeightUm, endInsetUm, stretcherHeightUm, topLoadN, drawerCount, drawerLoadN,
    frontGapUm⟩ := document
  cases family with
  | shelving =>
    simp only [readIntent, bind_eq_ok, require_eq_ok, IntentDocument.noTable,
      IntentDocument.noChest, Bool.and_eq_true, Option.isNone_iff_eq_none] at h
    obtain ⟨-, ⟨⟨⟨rfl, rfl⟩, rfl⟩, ⟨rfl, rfl⟩, rfl⟩, h⟩ := h
    obtain rfl := Except.ok.inj h
    simp only [dumpIntent, identityIntent, readShelving, unlessDefault_getD, Option.getD_some]
  | table | chestOfDrawers =>
    simp only [readIntent, bind_eq_ok, require_eq_ok, IntentDocument.noShelving,
      IntentDocument.noTable, IntentDocument.noChest, Bool.and_eq_true,
      Option.isNone_iff_eq_none] at h
    obtain ⟨-, ⟨⟨⟨⟨⟨⟨⟨⟨⟨⟨rfl, rfl⟩, rfl⟩, rfl⟩, rfl⟩, rfl⟩, rfl⟩, rfl⟩, rfl⟩, rfl⟩, ⟨rfl, rfl⟩, rfl⟩,
      h⟩ := h
    obtain rfl := Except.ok.inj h
    simp only [dumpIntent, identityIntent, readTable, readChest, Option.getD_some]

/-- The defaults that the browser fills in are those of the server. -/
theorem readIntent_identity (document : IntentDocument) :
    readIntent (identityIntent document) = readIntent document := by
  obtain ⟨family, rest⟩ := document
  cases family with
  | shelving => rfl
  | table => rfl
  | chestOfDrawers => rfl

theorem readIntent_eq {a b : IntentDocument} (h : identityIntent a = identityIntent b) :
    readIntent a = readIntent b := by
  rw [← readIntent_identity a, h, readIntent_identity]

theorem identityStock_dump (stock : StockDocument) :
    identityStock (dumpStock (readStock stock)) = identityStock stock := by
  simp only [identityStock, dumpStock, readStock, unlessDefault_getD]

/-- The stocks of a document, with their defaults. -/
def identityStocks (selection : SelectionDocument) : List StockDocument :=
  (selection.materialStocks.getD []).map identityStock

theorem materialStocks_eq (selection : SelectionDocument) :
    (givenSelection selection).materialStocks = (identityStocks selection).map readStock := by
  simp only [givenSelection, identityStocks, List.map_map]
  rfl

theorem materialKeys_eq (selection : SelectionDocument) :
    (givenSelection selection).materialStocks.map FurnitureMaterialStock.materialKey =
      (identityStocks selection).map stockKey := by
  rw [materialStocks_eq, List.map_map]
  rfl

/-- Different stocks have different keys. -/
theorem eq_of_key {α κ : Type*} {key : α → κ} {l : List α} (h : (l.map key).Nodup) :
    ∀ a ∈ l, ∀ b ∈ l, key a = key b → a = b :=
  fun _ ha _ hb heq => List.inj_on_of_nodup_map h ha hb heq

theorem canonical_eq_ok {given selection : ManufacturingSelection}
    (h : given.canonical = .ok selection) :
    (given.materialStocks.map FurnitureMaterialStock.materialKey).Nodup ∧
      selection = { given with
        materialStocks := sortBy FurnitureMaterialStock.materialKey given.materialStocks } := by
  simp only [ManufacturingSelection.canonical, bind_eq_ok, require_eq_ok, decide_eq_true_eq] at h
  obtain ⟨-, -, -, -, -, -, -, hnodup, h⟩ := h
  exact ⟨hnodup, (Except.ok.inj h).symm⟩

/-- What the server writes of a selection has the identity of what it read, whatever the order of
    the stocks was. -/
theorem identitySelection_dump {document : SelectionDocument} {selection : ManufacturingSelection}
    (h : readSelection document = .ok selection) :
    identitySelection (dumpSelection selection) = identitySelection document := by
  obtain ⟨hnodup, rfl⟩ := canonical_eq_ok h
  rw [materialKeys_eq] at hnodup
  have hstocks : (unlessDefault [] ((sortBy FurnitureMaterialStock.materialKey
      (givenSelection document).materialStocks).map dumpStock)).getD [] =
        (sortBy FurnitureMaterialStock.materialKey (givenSelection document).materialStocks).map
          dumpStock := unlessDefault_getD _ _
  have hperm : (((sortBy FurnitureMaterialStock.materialKey
      (givenSelection document).materialStocks).map dumpStock).map identityStock).Perm
        (identityStocks document) := by
    refine (((sortBy_perm _ _).map dumpStock).map identityStock).trans ?_
    have hsame : ((givenSelection document).materialStocks.map dumpStock).map identityStock =
        identityStocks document := by
      simp only [givenSelection, identityStocks, List.map_map]
      exact List.map_congr_left fun stock _ => identityStock_dump stock
    rw [hsame]
  have hsorted := sortBy_eq_of_perm hperm.symm (eq_of_key hnodup)
  simp only [identitySelection, dumpSelection, hstocks, unlessDefault_getD, ← hsorted]
  rfl

/-- The order of the stocks does not matter. -/
theorem canonical_of_perm {given selection : ManufacturingSelection}
    {stocks : List FurnitureMaterialStock} (hperm : given.materialStocks.Perm stocks)
    (h : given.canonical = .ok selection) :
    { given with materialStocks := stocks }.canonical = .ok selection := by
  obtain ⟨hnodup, rfl⟩ := canonical_eq_ok h
  have hsorted := sortBy_eq_of_perm hperm (eq_of_key hnodup)
  simp only [ManufacturingSelection.canonical, bind_eq_ok, require_eq_ok, decide_eq_true_eq,
    forEach_eq_ok] at h ⊢
  obtain ⟨_, hformat, _, hstocks, _, hlength, _, -, -⟩ := h
  refine ⟨(), hformat, (), fun stock hstock => hstocks stock (hperm.mem_iff.mpr hstock), (), ?_, (),
    ?_, ?_⟩
  · rw [← hperm.length_eq]
    exact hlength
  · exact (hperm.map _).nodup_iff.mp hnodup
  · rw [hsorted]
    rfl

/-- Selections of one identity are read alike. -/
theorem readSelection_of_identity {a b : SelectionDocument} {selection : ManufacturingSelection}
    (h : identitySelection a = identitySelection b) (ha : readSelection a = .ok selection) :
    readSelection b = .ok selection := by
  simp only [identitySelection, SelectionDocument.mk.injEq, Option.some.injEq] at h
  obtain ⟨hid, hversion, hwidth, hheight, hgrain, hmargin, hsorted⟩ := h
  have hperm : (identityStocks a).Perm (identityStocks b) := by
    refine (sortBy_perm stockKey _).symm.trans ?_
    rw [identityStocks, hsorted]
    exact sortBy_perm stockKey _
  have hstocks : (givenSelection a).materialStocks.Perm (givenSelection b).materialStocks := by
    rw [materialStocks_eq, materialStocks_eq]
    exact hperm.map readStock
  have hsame : givenSelection b =
      { givenSelection a with materialStocks := (givenSelection b).materialStocks } := by
    simp only [givenSelection, hid, hversion, hwidth, hheight, hgrain, hmargin]
  unfold readSelection
  rw [hsame]
  exact canonical_of_perm hstocks ha

theorem readManufacturing_of_identity {a b : Option SelectionDocument}
    {selection : Option ManufacturingSelection}
    (h : a.map identitySelection = b.map identitySelection)
    (ha : readManufacturing a = .ok selection) : readManufacturing b = .ok selection := by
  cases a with
  | none =>
    cases b with
    | none => exact ha
    | some b => cases h
  | some a =>
    cases b with
    | none => cases h
    | some b =>
      rw [Option.map_some, Option.map_some, Option.some.injEq] at h
      cases hread : readSelection a with
      | error error => simp [readManufacturing, hread, Except.map] at ha
      | ok given =>
        rw [readManufacturing, hread] at ha
        rw [readManufacturing, readSelection_of_identity h hread]
        exact ha

theorem identityManufacturing_dump {document : Option SelectionDocument}
    {selection : Option ManufacturingSelection} (h : readManufacturing document = .ok selection) :
    (selection.map dumpSelection).map identitySelection = document.map identitySelection := by
  cases document with
  | none =>
    obtain rfl := Except.ok.inj h
    rfl
  | some document =>
    cases hread : readSelection document with
    | error error => simp [readManufacturing, hread, Except.map] at h
    | ok given =>
      rw [readManufacturing, hread] at h
      obtain rfl := Except.ok.inj h
      rw [Option.map_some, Option.map_some, Option.map_some, identitySelection_dump hread]

/-- What reading a workspace takes from its document. -/
theorem readWorkspace_eq_ok {document : WorkspaceDocument}
    {workspace : FurnitureWorkspace ManufacturingSelection} :
    readWorkspace document = .ok workspace ↔ ∃ intent manufacturing,
      readIntent document.intent = .ok intent ∧
      readManufacturing document.manufacturing = .ok manufacturing ∧
      workspace = {
        design := {
          designId := document.designId
          revision := document.revision
          intent
          material := document.material
          backMaterial := document.backMaterial
          hardware := document.hardware
          installation := document.installation }
        manufacturing } ∧ workspace.validate = .ok () := by
  simp only [readWorkspace, bind_eq_ok]
  constructor
  · rintro ⟨intent, hintent, manufacturing, hmanufacturing, ⟨⟩, hvalid, hworkspace⟩
    obtain rfl := Except.ok.inj hworkspace
    exact ⟨intent, manufacturing, hintent, hmanufacturing, rfl, hvalid⟩
  · rintro ⟨intent, manufacturing, hintent, hmanufacturing, rfl, hvalid⟩
    exact ⟨intent, hintent, manufacturing, hmanufacturing, (), hvalid, rfl⟩

/-- What the server writes of a workspace has the identity of what it read. -/
theorem workspaceIdentity_dump {document : WorkspaceDocument}
    {workspace : FurnitureWorkspace ManufacturingSelection}
    (h : readWorkspace document = .ok workspace) :
    workspaceIdentity (dumpWorkspace workspace) = workspaceIdentity document := by
  obtain ⟨intent, manufacturing, hintent, hmanufacturing, rfl, -⟩ := readWorkspace_eq_ok.mp h
  simp only [workspaceIdentity, dumpWorkspace, identityIntent_dump hintent,
    identityManufacturing_dump hmanufacturing]

end Identity

end Custombuild.Web.Furniture
