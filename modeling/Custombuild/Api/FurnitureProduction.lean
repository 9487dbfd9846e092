/-
  Saved shelving on its way into production: the preview input made of it normalises to the
  specification that it compiles to, as long as the load of a row is at most 4903 N, which is
  where the public limit of 500 kg lies; and a bound revision has the parameters and the
  materials of the saved draft.
  Source: `services/api/app/furniture_production.py`.
-/
import Custombuild.Api.PreviewInput

namespace Custombuild.Api

open Custombuild.Lib Custombuild.Domain

/-! ## The input of a saved design -/

/-- The input that `furniture_production_input` writes for a specification. -/
def inputOf (spec : BookcaseDesignSpec) : BookcasePreviewInput :=
  let p := spec.parameters
  { widthMm := p.widthUm / 1000
    heightMm := p.heightUm / 1000
    depthMm := p.depthUm / 1000
    materialId := spec.material.materialId
    backMaterialId := spec.backMaterial.map MaterialVersion.materialId
    measuredThicknessMm := p.actualThicknessUm / 1000
    measuredBackThicknessMm := p.backThicknessUm / 1000
    shelfCount := p.shelfCount
    shelfMount := p.shelfMount
    dividerCount := p.verticalDividerCount
    bayWidthRatios := p.bayWidthRatiosPpm.map fun v : Int => (v : ℚ) / 1000000
    shelfHeightRatios := p.shelfHeightRatiosPpm.map fun v : Int => (v : ℚ) / 1000000
    loadPerShelfKg := p.shelfLoadN / newtonsOfKg
    backPanel := .named p.backPanel
    plinth := decide (0 < p.plinthHeightUm)
    plinthHeightMm := some (p.plinthHeightUm / 1000) }

/-- `furniture_production_input`. -/
def furnitureProductionInput {Selection : Type} (env : FurnitureEnv)
    (workspace : FurnitureWorkspace Selection) : Except ValueError BookcasePreviewInput := do
  let spec ← shelvingProductionSpec env workspace
  let result := inputOf spec
  result.validate
  let normalized ← normalizePreview result spec.designId spec.revision
  require (normalized == spec)
    (.message "furniture production conversion changed canonical inputs")
  return result

/-! ## Binding a revision to the saved design -/

/-- What the bridge raises: a value error, or a response with a status. -/
inductive ProductionError
  | value (error : ValueError)
  | http (status : Nat) (detail : String)
deriving DecidableEq

/-- `FurnitureProductionSource`. -/
structure FurnitureProductionSource (Selection : Type) where
  workspace : FurnitureWorkspace Selection
  workspaceSha256 : String
  furnitureDesignHash : String
deriving DecidableEq

/-- A project with a stored draft: its schema version, and what `model_validate` gives of it. -/
structure Project (Selection : Type) where
  id : String
  currentRevision : Nat
  draftRevision : Nat
  draftDesignHash : Option String
  draftSchemaVersion : Option String
  draft : Except ValueError (FurnitureWorkspace Selection)

def furnitureSchemaVersion : String := "custombuild.furniture-design.v1"

section Binding

variable {Selection : Type} [DecidableEq Selection] (env : FurnitureEnv)
  (contentHash : FurnitureWorkspace Selection → String)

/-- `saved_furniture_workspace`. -/
def savedFurnitureWorkspace (project : Project Selection) :
    Except ProductionError (FurnitureWorkspace Selection) := do
  require (project.draftSchemaVersion == some furnitureSchemaVersion)
    (.http 409 "Projektet saknar en sparad möbelrevision.")
  let workspace ← project.draft.mapError ProductionError.value
  workspace.validate.mapError ProductionError.value
  return workspace

/-- `verify_source`. -/
def FurnitureProductionSource.validate (source : FurnitureProductionSource Selection) :
    Except ValueError Unit := do
  assertProductionDimensions source.workspace.design
  require (source.workspaceSha256 == contentHash source.workspace)
    (.message "furniture source workspace checksum differs")
  let result ← buildFurniture env source.workspace.design
  require (result.shelvingResult.isSome && result.designHash == source.furnitureDesignHash)
    (.message "furniture source does not match the supported saved design")

/-- `furniture_production_source`. -/
def furnitureProductionSource (workspace : FurnitureWorkspace Selection) :
    Except ValueError (FurnitureProductionSource Selection) := do
  let _ ← shelvingProductionSpec env workspace
  let result ← buildFurniture env workspace.design
  let source : FurnitureProductionSource Selection :=
    { workspace
      workspaceSha256 := contentHash workspace
      furnitureDesignHash := result.designHash }
  source.validate env contentHash
  return source

/-- `assert_furniture_production_spec`. -/
def assertFurnitureProductionSpec (source : FurnitureProductionSource Selection)
    (spec : BookcaseDesignSpec) : Except ValueError Unit := do
  let expected ← shelvingProductionSpec env source.workspace
  let unbound := { spec with revision := expected.revision, jointRetention := none }
  require (unbound == expected)
    (.message "production inputs differ from the exact saved furniture design")

/-- `bind_saved_furniture_source`. -/
def bindSavedFurnitureSource (project : Project Selection)
    (source : Option (FurnitureProductionSource Selection)) (requested : BookcasePreviewInput)
    (templateId : String) :
    Except ProductionError (Option (FurnitureProductionSource Selection)) :=
  let isFurniture := project.draftSchemaVersion == some furnitureSchemaVersion
  match source with
  | none =>
    if isFurniture then
      .error (.http 409 "Tillverkningsrevisionen måste bindas till sparat hyllsystem.")
    else .ok none
  | some source => do
    require (isFurniture && templateId == "shelving")
      (.http 409 "Tillverkningsrevisionen måste bindas till sparat hyllsystem.")
    let workspace ← savedFurnitureWorkspace project
    let current ← (furnitureProductionSource env contentHash workspace).mapError .value
    require (source == current && workspace.design.designId == project.id &&
        workspace.design.revision == project.draftRevision &&
        some source.furnitureDesignHash == project.draftDesignHash)
      (.http 409 "Möbeln eller profilerna har ändrats. Öppna beredningen på nytt.")
    let spec ← (normalizePreview requested project.id (project.currentRevision + 1)).mapError .value
    (assertFurnitureProductionSpec env current spec).mapError fun _ =>
      ProductionError.http 409 "Beredningen ändrar den sparade möbeln."
    return some current

end Binding

/-! ## Materials of the catalogue -/

theorem mem_of_resolveMaterial {selection : MaterialSelection} {material : MaterialVersion}
    (h : resolveMaterial selection = .ok material) :
    material ∈ materialCatalog ∧ material.supports selection.measuredThicknessUm = true := by
  simp only [resolveMaterial, bind_eq_ok, demand_eq_ok, require_eq_ok] at h
  obtain ⟨found, hfound, _, hsupports, hmaterial⟩ := h
  obtain rfl := Except.ok.inj hmaterial
  exact ⟨List.mem_of_find?_eq_some (Option.filter_eq_some_iff.mp hfound).1, hsupports⟩

theorem eq_of_nominal_18 {material : MaterialVersion} (h : material ∈ materialCatalog)
    (hnominal : material.nominalThicknessUm = 18000) :
    material = screeningBirchPlywood18 ∨ material = screeningMdf18 := by
  simp only [materialCatalog, List.mem_cons, List.not_mem_nil, or_false] at h
  rcases h with rfl | rfl | rfl | rfl
  · exact .inl rfl
  · cases hnominal
  · exact .inr rfl
  · cases hnominal

theorem eq_of_nominal_6 {material : MaterialVersion} (h : material ∈ materialCatalog)
    (hnominal : material.nominalThicknessUm = 6000) :
    material = screeningBirchPlywood6 ∨ material = screeningMdf6 := by
  simp only [materialCatalog, List.mem_cons, List.not_mem_nil, or_false] at h
  rcases h with rfl | rfl | rfl | rfl
  · cases hnominal
  · exact .inl rfl
  · cases hnominal
  · exact .inr rfl

/-! ## The bounds of the input -/

/-- The ranges of the parameters that an input repeats. -/
structure InputRanges (p : BookcaseParameters) : Prop where
  width : 250000 ≤ p.widthUm ∧ p.widthUm ≤ 6000000
  height : 300000 ≤ p.heightUm ∧ p.heightUm ≤ 4000000
  depth : 100000 ≤ p.depthUm ∧ p.depthUm ≤ 1200000
  shelfCount : p.shelfCount ≤ 40
  load : 0 ≤ p.shelfLoadN
  dividers : p.verticalDividerCount ≤ 16
  bays : p.bayWidthRatiosPpm ≠ [] → p.bayWidthRatiosPpm.length = p.verticalDividerCount + 1 ∧
    ∀ ratio ∈ p.bayWidthRatiosPpm, p.bayWidthRatiosPpm.sum * 8 ≤ ratio * 100
  shelves : p.shelfHeightRatiosPpm ≠ [] → p.shelfHeightRatiosPpm.length = p.shelfCount ∧
    BookcaseParameters.centresOrdered p.shelfHeightRatiosPpm = true

theorem inputRanges_of_validate {p : BookcaseParameters} (h : p.validate = .ok ()) :
    InputRanges p := by
  simp only [BookcaseParameters.validate, BookcaseParameters.checkFields,
    BookcaseParameters.validateGeometry, bind_eq_ok] at h
  obtain ⟨-, ⟨⟨⟩, hranges, -⟩, ⟨⟩, -, ⟨⟩, hbays, ⟨⟩, hshelves, -⟩ := h
  simp only [BookcaseParameters.checkRanges, bind_eq_ok, require_eq_ok, exists_const,
    decide_eq_true_eq, Bool.and_eq_true] at hranges
  obtain ⟨hwidth, hheight, hdepth, -, -, hcount, hload, hdividers, -⟩ := hranges
  refine ⟨hwidth, hheight, hdepth, hcount, hload.1, hdividers, fun hne => ?_, fun hne => ?_⟩
  · rw [BookcaseParameters.checkBayRatios, if_pos hne] at hbays
    simpa [bind_eq_ok] using hbays
  · rw [BookcaseParameters.checkShelfRatios, if_pos hne] at hshelves
    simpa [bind_eq_ok] using hshelves

theorem within_um {low high um : Int} (h : low * 1000 ≤ um ∧ um ≤ high * 1000) :
    within low high ((um : ℚ) / 1000) = true := by
  have hlow : (low : ℚ) * 1000 ≤ um := by exact_mod_cast h.1
  have hhigh : (um : ℚ) ≤ high * 1000 := by exact_mod_cast h.2
  rw [within, Bool.and_eq_true, decide_eq_true_eq, decide_eq_true_eq]
  constructor
  · linarith
  · linarith

/-- The public limit of 500 kg in whole newtons. -/
theorem within_load {n : Int} (h : 0 ≤ n) : within 0 500 ((n : ℚ) / newtonsOfKg) = true ↔ n ≤ 4903 := by
  have hpos : (0 : ℚ) < newtonsOfKg := by norm_num [newtonsOfKg]
  have hn : (0 : ℚ) ≤ n := by exact_mod_cast h
  rw [within, Bool.and_eq_true, decide_eq_true_eq, decide_eq_true_eq, div_le_iff₀ hpos]
  constructor
  · rintro ⟨_, hle⟩
    have hlt : (n : ℚ) < 4904 := by
      refine lt_of_le_of_lt hle ?_
      norm_num [newtonsOfKg]
    have : n < 4904 := by exact_mod_cast hlt
    omega
  · intro hle
    refine ⟨div_nonneg hn hpos.le, ?_⟩
    have hcast : (n : ℚ) ≤ 4903 := by exact_mod_cast hle
    refine hcast.trans ?_
    norm_num [newtonsOfKg]

theorem levelsSeparated_shares {ratios : List Int}
    (h : BookcaseParameters.centresOrdered ratios = true) :
    levelsSeparated (ratios.map fun ratio : Int => (ratio : ℚ) / 1000000) = true := by
  have hrange : ∀ ratio : Int, 50000 ≤ ratio ∧ ratio ≤ 950000 →
      within (1 / 20 - ratioComparisonTolerance) (19 / 20 + ratioComparisonTolerance)
        ((ratio : ℚ) / 1000000) = true := by
    intro ratio hratio
    have hlow : (50000 : ℚ) ≤ ratio := by exact_mod_cast hratio.1
    have hhigh : (ratio : ℚ) ≤ 950000 := by exact_mod_cast hratio.2
    rw [within, ratioComparisonTolerance, Bool.and_eq_true, decide_eq_true_eq, decide_eq_true_eq]
    constructor
    · linarith
    · linarith
  fun_induction BookcaseParameters.centresOrdered ratios with
  | case1 => rfl
  | case2 value =>
    rw [Bool.and_eq_true, decide_eq_true_eq, decide_eq_true_eq] at h
    exact hrange value h
  | case3 value next rest ih =>
    simp only [Bool.and_eq_true, decide_eq_true_eq] at h
    obtain ⟨⟨hvalue, hgap⟩, hrest⟩ := h
    have hdistance : (50000 : ℚ) ≤ next - value := by exact_mod_cast hgap
    have hnext := ih hrest
    rw [List.map_cons, List.map_cons, levelsSeparated, Bool.and_eq_true, Bool.and_eq_true]
    refine ⟨⟨hrange value hvalue, ?_⟩, hnext⟩
    rw [ratioComparisonTolerance, decide_eq_true_eq]
    linarith

/-! ## The input of a carcass -/

section Carcass

variable {design : FurnitureDesign} {p : ShelvingIntent} {spec : BookcaseDesignSpec}

/-- What `canonical_bay_proportions` and the ranges of the intent add. -/
structure IntentRanges (p : ShelvingIntent) : Prop where
  bays : ∀ ratio ∈ p.bayWidthRatiosPpm, 1 ≤ ratio
  baysLength : p.bayWidthRatiosPpm.length ≤ 17
  shelvesLength : p.shelfHeightRatiosPpm.length ≤ 40
  plinth : 0 ≤ p.plinthHeightUm ∧ p.plinthHeightUm ≤ 300000
  baysSum : p.bayWidthRatiosPpm ≠ [] → p.bayWidthRatiosPpm.sum = 1000000

theorem intentRanges_of_validate (h : p.validate = .ok ()) : IntentRanges p := by
  simp only [ShelvingIntent.validate, bind_eq_ok, require_eq_ok, exists_const] at h
  obtain ⟨-, -, -, -, -, -, hshelves, hbays, hplinth, hsum, -⟩ := h
  simp only [inRange, Bool.and_eq_true, List.all_eq_true, decide_eq_true_eq, Bool.or_eq_true,
    List.isEmpty_iff, beq_iff_eq] at hshelves hbays hplinth hsum
  exact ⟨fun ratio hratio => (hbays.1 ratio hratio).1, hbays.2, hshelves.2, hplinth,
    fun hne => hsum.resolve_left hne⟩

/-- The materials of a carcass, of the four of the catalogue. -/
structure CarcassMaterials (design : FurnitureDesign) (p : ShelvingIntent)
    (spec : BookcaseDesignSpec) : Prop where
  material : spec.material = screeningBirchPlywood18 ∨ spec.material = screeningMdf18
  thickness : 17000 ≤ design.material.measuredThicknessUm ∧
    design.material.measuredThicknessUm ≤ 19000
  back : spec.backMaterial = if p.backPanel = .none then none else spec.backMaterial
  backMaterial : p.backPanel ≠ .none →
    spec.backMaterial = some screeningBirchPlywood6 ∨ spec.backMaterial = some screeningMdf6
  backThickness : 5500 ≤ design.backMaterial.measuredThicknessUm ∧
    design.backMaterial.measuredThicknessUm ≤ 6500

theorem carcassMaterials (h : CarcassSpec design p spec) : CarcassMaterials design p spec := by
  obtain ⟨hmember, hsupports⟩ := mem_of_resolveMaterial h.material
  obtain ⟨back, hback, hnominal, hsome⟩ := h.back
  obtain ⟨hbackMember, hbackSupports⟩ := mem_of_resolveMaterial hback
  have hmaterial := eq_of_nominal_18 hmember h.nominal
  have hbackMaterial := eq_of_nominal_6 hbackMember hnominal
  simp only [MaterialVersion.supports, Bool.and_eq_true, decide_eq_true_eq] at hsupports hbackSupports
  refine ⟨hmaterial, ?_, ?_, ?_, ?_⟩
  · rcases hmaterial with heq | heq
    · rw [heq] at hsupports
      exact hsupports
    · rw [heq] at hsupports
      exact hsupports
  · rw [hsome]
    split
    · rfl
    · rfl
  · intro hpanel
    rw [hsome, if_neg hpanel]
    exact hbackMaterial.imp (congrArg some) (congrArg some)
  · rcases hbackMaterial with heq | heq
    · rw [heq] at hbackSupports
      exact hbackSupports
    · rw [heq] at hbackSupports
      exact hbackSupports

theorem backPanel_eq (h : CarcassSpec design p spec) : spec.parameters.backPanel = p.backPanel := by
  rw [h.parameters]
  rfl

/-- A back is of one of the two materials that the public input knows. -/
theorem backMaterial_known (h : CarcassSpec design p spec) :
    (spec.backMaterial.map MaterialVersion.materialId).all
      (["mdf-6", "birch-plywood-6"].contains ·) = true := by
  have hmaterials := carcassMaterials h
  by_cases hpanel : p.backPanel = .none
  · rw [hmaterials.back, if_pos hpanel]
    rfl
  · rcases hmaterials.backMaterial hpanel with heq | heq
    · rw [heq]
      decide
    · rw [heq]
      decide

theorem checkMeasures_ok (h : CarcassSpec design p spec) :
    (inputOf spec).checkMeasures = .ok () := by
  have hranges := inputRanges_of_validate (parameters_valid h.valid)
  have hmaterials := carcassMaterials h
  have hthickness := hmaterials.thickness
  have hback := hmaterials.backThickness
  have hactual : spec.parameters.actualThicknessUm = design.material.measuredThicknessUm := by
    rw [h.parameters]
    rfl
  have hbackActual : spec.parameters.backThicknessUm = design.backMaterial.measuredThicknessUm := by
    rw [h.parameters]
    rfl
  have hmaterial : ["mdf", "birch-plywood"].contains spec.material.materialId = true := by
    rcases hmaterials.material with heq | heq
    · rw [heq]
      decide
    · rw [heq]
      decide
  have hbackMaterial := backMaterial_known h
  have hhalf : within (11 / 2) (13 / 2) ((spec.parameters.backThicknessUm : ℚ) / 1000) = true := by
    have hlow : (5500 : ℚ) ≤ spec.parameters.backThicknessUm := by
      rw [hbackActual]
      exact_mod_cast hback.1
    have hhigh : (spec.parameters.backThicknessUm : ℚ) ≤ 6500 := by
      rw [hbackActual]
      exact_mod_cast hback.2
    rw [within, Bool.and_eq_true, decide_eq_true_eq, decide_eq_true_eq]
    constructor
    · linarith
    · linarith
  have hwidth : within 250 6000 ((spec.parameters.widthUm : ℚ) / 1000) = true :=
    within_um hranges.width
  have hheight : within 300 4000 ((spec.parameters.heightUm : ℚ) / 1000) = true :=
    within_um hranges.height
  have hdepth : within 100 1200 ((spec.parameters.depthUm : ℚ) / 1000) = true :=
    within_um hranges.depth
  have hmeasured : within 17 19 ((spec.parameters.actualThicknessUm : ℚ) / 1000) = true := by
    rw [hactual]
    exact within_um hthickness
  have hnominal : within 18 18 18 = true := by norm_num [within]
  simp only [BookcasePreviewInput.checkMeasures, requireMicrometrePrecision, inputOf, bind_eq_ok,
    require_eq_ok, exists_const]
  exact ⟨hwidth, hheight, hdepth, by decide, hmaterial, hbackMaterial, hnominal, hmeasured, hhalf,
    isWholeMicrometres_um _, decide_eq_true hranges.shelfCount⟩

theorem checkOptions_ok (h : CarcassSpec design p spec) (hp : p.validate = .ok ()) :
    (inputOf spec).checkOptions = .ok () := by
  have hranges := inputRanges_of_validate (parameters_valid h.valid)
  have hintent := intentRanges_of_validate hp
  have hplinth : within 0 500 ((spec.parameters.plinthHeightUm : ℚ) / 1000) = true := by
    rw [h.parameters]
    exact within_um ⟨hintent.plinth.1, hintent.plinth.2.trans (by norm_num)⟩
  have hbays : (spec.parameters.bayWidthRatiosPpm.map fun v : Int => (v : ℚ) / 1000000).length ≤ 17 := by
    rw [List.length_map, h.parameters]
    exact hintent.baysLength
  have hshelves :
      (spec.parameters.shelfHeightRatiosPpm.map fun v : Int => (v : ℚ) / 1000000).length ≤ 40 := by
    rw [List.length_map, h.parameters]
    exact hintent.shelvesLength
  simp only [BookcasePreviewInput.checkOptions, requireMicrometrePrecision, inputOf, bind_eq_ok,
    require_eq_ok, exists_const]
  exact ⟨hplinth, decide_eq_true hranges.dividers, decide_eq_true hbays, decide_eq_true hshelves,
    by norm_num [within], by norm_num [within], rfl, by norm_num [within],
    by norm_num [isWholeMicrometres], rfl⟩

theorem checkBackAndPlinth_ok (h : CarcassSpec design p spec) :
    (inputOf spec).checkBackAndPlinth = .ok () := by
  have hback : (backPanelEnabled (.named spec.parameters.backPanel) ||
      (spec.backMaterial.map MaterialVersion.materialId).isNone) = true := by
    by_cases hpanel : p.backPanel = .none
    · rw [(carcassMaterials h).back, if_pos hpanel]
      simp
    · rw [backPanel_eq h, backPanelEnabled, bne_iff_ne.mpr hpanel, Bool.true_or]
  have hplinth : (decide (0 < spec.parameters.plinthHeightUm) ==
      decide (0 < (spec.parameters.plinthHeightUm : ℚ) / 1000)) = true := by
    have hiff : 0 < spec.parameters.plinthHeightUm ↔
        0 < (spec.parameters.plinthHeightUm : ℚ) / 1000 := by
      rw [div_pos_iff_of_pos_right (by norm_num), Int.cast_pos]
    rw [beq_iff_eq, decide_eq_decide]
    exact hiff
  simp only [BookcasePreviewInput.checkBackAndPlinth, inputOf, bind_eq_ok, require_eq_ok,
    exists_const, Option.all_some]
  exact ⟨hback, hplinth⟩

theorem checkBays_ok (h : CarcassSpec design p spec) (hp : p.validate = .ok ()) :
    (inputOf spec).checkBays = .ok () := by
  have hranges := inputRanges_of_validate (parameters_valid h.valid)
  have hintent := intentRanges_of_validate hp
  have hratios : spec.parameters.bayWidthRatiosPpm = p.bayWidthRatiosPpm := by
    rw [h.parameters]
    rfl
  unfold BookcasePreviewInput.checkBays
  split
  · rename_i hne
    have hnonempty : spec.parameters.bayWidthRatiosPpm ≠ [] := by
      intro hempty
      exact hne (by rw [inputOf, hempty]; rfl)
    obtain ⟨hlength, hshare⟩ := hranges.bays hnonempty
    have hsum : spec.parameters.bayWidthRatiosPpm.sum = 1000000 := by
      rw [hratios] at hnonempty ⊢
      exact hintent.baysSum hnonempty
    have htotal : (spec.parameters.bayWidthRatiosPpm.map fun v : Int => (v : ℚ) / 1000000).sum = 1 := by
      rw [sum_shares, hsum]
      norm_num
    simp only [inputOf, bind_eq_ok, require_eq_ok, exists_const, htotal, List.length_map,
      beq_iff_eq, Bool.and_eq_true, decide_eq_true_eq, List.all_eq_true, List.mem_map]
    refine ⟨hlength, one_pos, ?_⟩
    rintro value ⟨ratio, hratio, rfl⟩
    have height : (80000 : ℚ) ≤ ratio := by
      have := hshare ratio hratio
      rw [hsum] at this
      have : 80000 ≤ ratio := by omega
      exact_mod_cast this
    constructor
    · linarith
    · rw [div_one]
      linarith
  · rfl

theorem checkShelves_ok (h : CarcassSpec design p spec) :
    (inputOf spec).checkShelves = .ok () := by
  have hranges := inputRanges_of_validate (parameters_valid h.valid)
  unfold BookcasePreviewInput.checkShelves
  split
  · rename_i hne
    have hnonempty : spec.parameters.shelfHeightRatiosPpm ≠ [] := by
      intro hempty
      exact hne (by rw [inputOf, hempty]; rfl)
    obtain ⟨hlength, hordered⟩ := hranges.shelves hnonempty
    simp only [inputOf, bind_eq_ok, require_eq_ok, exists_const, List.length_map, beq_iff_eq]
    exact ⟨hlength, levelsSeparated_shares hordered⟩
  · rfl

/-- The input meets every bound exactly when the load of a row is below 500 kg. -/
theorem inputOf_validate_iff (h : CarcassSpec design p spec) (hp : p.validate = .ok ()) :
    (inputOf spec).validate = .ok () ↔ p.resolvedShelfLoadN ≤ 4903 := by
  have hranges := inputRanges_of_validate (parameters_valid h.valid)
  have hload : spec.parameters.shelfLoadN = p.resolvedShelfLoadN := by
    rw [h.parameters]
    rfl
  have hchecked : (inputOf spec).checkLoad = .ok () ↔ p.resolvedShelfLoadN ≤ 4903 := by
    rw [← hload, ← within_load hranges.load]
    exact require_eq_ok
  simp only [BookcasePreviewInput.validate, bind_eq_ok, checkMeasures_ok h, checkOptions_ok h hp,
    checkBackAndPlinth_ok h, checkBays_ok h hp, checkShelves_ok h, true_and, exists_const,
    and_true, hchecked]

/-- What the parameters of an input are, once each of its measures is whole. -/
theorem parametersOf_inputOf (h : CarcassSpec design p spec) (hp : p.validate = .ok ()) :
    parametersOf (inputOf spec) = .ok spec.parameters := by
  have hintent := intentRanges_of_validate hp
  have hmaterials := carcassMaterials h
  have hnominal : (18000 : Int) == (materialOf (inputOf spec)).nominalThicknessUm := by
    rw [materialOf]
    split
    · rfl
    · rfl
  have hknown := backMaterial_known h
  have hpanel : (!(spec.parameters.backPanel == .none &&
      (spec.backMaterial.map MaterialVersion.materialId).isSome)) = true := by
    by_cases hnone : p.backPanel = .none
    · rw [hmaterials.back, if_pos hnone]
      simp
    · rw [backPanel_eq h, beq_eq_false_iff_ne.mpr hnone]
      rfl
  have heighteen : mm 18 = .ok 18000 := by
    have := mm_um 18000
    norm_num at this
    exact this
  have hzero : mm 0 = .ok 0 := by
    have := mm_um 0
    norm_num at this
    exact this
  have hbays : ratiosPpm (spec.parameters.bayWidthRatiosPpm.map fun v : Int => (v : ℚ) / 1000000) =
      spec.parameters.bayWidthRatiosPpm := by
    have hsame : spec.parameters.bayWidthRatiosPpm = p.bayWidthRatiosPpm := by
      rw [h.parameters]
      rfl
    rw [hsame]
    by_cases hempty : p.bayWidthRatiosPpm = []
    · rw [hempty]
      rfl
    · exact ratiosPpm_shares hintent.bays (hintent.baysSum hempty)
  simp only [parametersOf, inputOf, backPanelOf, mm_um, heighteen, hzero, bind_eq_ok,
    Except.ok.injEq, require_eq_ok, exists_eq_left', exists_const, Option.getD_some, hknown,
    hpanel, true_and, hbays, positionsPpm_shares, loadNewtons_kg]
  refine ⟨hnominal, ?_⟩
  rw [h.parameters]
  rfl

theorem materialOf_inputOf (h : CarcassSpec design p spec) :
    materialOf (inputOf spec) = spec.material := by
  show (if birchNames.contains spec.material.materialId.toLower then screeningBirchPlywood18
    else screeningMdf18) = spec.material
  rcases (carcassMaterials h).material with heq | heq
  · rw [heq]
    exact if_pos (by decide +kernel)
  · rw [heq]
    exact if_neg (by decide +kernel)

theorem backMaterialOf_inputOf (h : CarcassSpec design p spec) :
    backMaterialOf (inputOf spec) = spec.backMaterial := by
  have hmaterials := carcassMaterials h
  have hsame := backPanel_eq h
  by_cases hpanel : p.backPanel = .none
  · rw [backMaterialOf, inputOf, backPanelOf, hsame, if_pos hpanel, hmaterials.back, if_pos hpanel]
  · rw [backMaterialOf, inputOf, backPanelOf, hsame, if_neg hpanel]
    rcases hmaterials.backMaterial hpanel with heq | heq
    · rw [heq]
      exact if_pos (.inl rfl)
    · rw [heq]
      refine if_neg ?_
      rintro (hbirch | ⟨hnone, -⟩)
      · have hnames : some "mdf-6" = some "birch-plywood-6" := hbirch
        exact absurd hnames (by decide)
      · cases hnone

/-- Normalising the input of a carcass gives its specification, whatever the load. -/
theorem normalizePreview_inputOf (h : CarcassSpec design p spec) (hp : p.validate = .ok ()) :
    normalizePreview (inputOf spec) spec.designId spec.revision = .ok spec := by
  have hspec : ({
      designId := spec.designId
      revision := spec.revision
      parameters := spec.parameters
      material := spec.material
      backMaterial := spec.backMaterial } : BookcaseDesignSpec) = spec := by
    rw [h.identity]
  have hfamily : assertFurnitureFamily spec.parameters (inputOf spec).furnitureType = .ok () := by
    rw [h.parameters]
    rfl
  simp only [normalizePreview, bind_eq_ok, require_eq_ok, parametersOf_inputOf h hp,
    materialOf_inputOf h, backMaterialOf_inputOf h, hspec, Except.ok.injEq, exists_eq_left',
    exists_const, parameters_valid h.valid, hfamily, h.valid, true_and]
  exact ⟨rfl, rfl⟩

end Carcass

/-! ## The bridge -/

/-- What entering production without loss means for a saved design and its specification. -/
def EntersLosslessly {Selection : Type} (env : FurnitureEnv)
    (workspace : FurnitureWorkspace Selection) (spec : BookcaseDesignSpec) : Prop :=
  ∃ input, furnitureProductionInput env workspace = .ok input ∧ input.validate = .ok () ∧
    normalizePreview input spec.designId spec.revision = .ok spec

/-- The load of a row of the saved shelving is at most what 500 kg are, in whole newtons. -/
def WithinPublicLoad {Selection : Type} (workspace : FurnitureWorkspace Selection) : Prop :=
  ∃ p, workspace.design.intent = .shelving p ∧ p.resolvedShelfLoadN ≤ 4903

theorem entersLosslessly_iff {Selection : Type} {env : FurnitureEnv}
    {workspace : FurnitureWorkspace Selection} {spec : BookcaseDesignSpec}
    (hvalid : workspace.validate = .ok ())
    (hspec : shelvingProductionSpec env workspace = .ok spec) :
    EntersLosslessly env workspace spec ↔ WithinPublicLoad workspace := by
  obtain ⟨p, hintent, hcarcass⟩ := carcassSpec_of_production hspec
  have hp := intent_of_validate hintent hvalid
  have hiff := inputOf_validate_iff hcarcass hp
  constructor
  · rintro ⟨input, hinput, -, -⟩
    simp only [furnitureProductionInput, hspec, bind_eq_ok, Except.ok.injEq, exists_eq_left'] at hinput
    obtain ⟨⟨⟩, hchecked, -⟩ := hinput
    exact ⟨p, hintent, hiff.mp hchecked⟩
  · rintro ⟨p', hintent', hload⟩
    obtain rfl : p = p' := FurnitureIntent.shelving.inj (hintent.symm.trans hintent')
    have hchecked := hiff.mpr hload
    have hnormalized := normalizePreview_inputOf hcarcass hp
    refine ⟨inputOf spec, ?_, hchecked, hnormalized⟩
    simp only [furnitureProductionInput, hspec, bind_eq_ok, hchecked, hnormalized, require_eq_ok,
      Except.ok.injEq, exists_eq_left', exists_const, beq_self_eq_true, true_and]
    rfl

/-- The specification of a bound revision has the parameters and materials of the draft. -/
theorem bound_of_bind {Selection : Type} [DecidableEq Selection] {env : FurnitureEnv}
    {contentHash : FurnitureWorkspace Selection → String} {project : Project Selection}
    {source : Option (FurnitureProductionSource Selection)} {requested : BookcasePreviewInput}
    {templateId : String} {bound : FurnitureProductionSource Selection}
    (h : bindSavedFurnitureSource env contentHash project source requested templateId =
      .ok (some bound)) :
    ∃ workspace expected spec, savedFurnitureWorkspace project = .ok workspace ∧
      shelvingProductionSpec env workspace = .ok expected ∧
      normalizePreview requested project.id (project.currentRevision + 1) = .ok spec ∧
      spec.parameters = expected.parameters ∧ spec.material = expected.material ∧
      spec.backMaterial = expected.backMaterial := by
  cases source with
  | none =>
    rw [bindSavedFurnitureSource] at h
    split at h
    · cases h
    · cases h
  | some source =>
    simp only [bindSavedFurnitureSource, bind_eq_ok, mapError_eq_ok] at h
    obtain ⟨-, -, workspace, hworkspace, current, hcurrent, -, -, spec, hspec, ⟨⟩, hassert, -⟩ := h
    simp only [furnitureProductionSource, bind_eq_ok] at hcurrent
    obtain ⟨expected, hexpected, result, -, ⟨⟩, -, hcurrent⟩ := hcurrent
    obtain rfl := Except.ok.inj hcurrent
    simp only [assertFurnitureProductionSpec, hexpected, bind_eq_ok, Except.ok.injEq,
      exists_eq_left', require_eq_ok, beq_iff_eq] at hassert
    refine ⟨workspace, expected, spec, hworkspace, hexpected, hspec, ?_, ?_, ?_⟩
    · rw [← hassert]
    · rw [← hassert]
    · rw [← hassert]

/-- Saved shelving enters production without loss exactly when the load of a row is within the
    public limit; a bound revision has the parameters and materials of its draft always. -/
theorem furniture_enters_losslessly_iff {Selection : Type} [DecidableEq Selection]
    (env : FurnitureEnv) (contentHash : FurnitureWorkspace Selection → String) :
    (∀ (workspace : FurnitureWorkspace Selection) (spec : BookcaseDesignSpec),
      workspace.validate = .ok () → shelvingProductionSpec env workspace = .ok spec →
      (EntersLosslessly env workspace spec ↔ WithinPublicLoad workspace)) ∧
    ∀ (project : Project Selection) (source : Option (FurnitureProductionSource Selection))
      (requested : BookcasePreviewInput) (templateId : String)
      (bound : FurnitureProductionSource Selection),
      bindSavedFurnitureSource env contentHash project source requested templateId =
        .ok (some bound) →
      ∃ workspace expected spec, savedFurnitureWorkspace project = .ok workspace ∧
        shelvingProductionSpec env workspace = .ok expected ∧
        normalizePreview requested project.id (project.currentRevision + 1) = .ok spec ∧
        spec.parameters = expected.parameters ∧ spec.material = expected.material ∧
        spec.backMaterial = expected.backMaterial :=
  ⟨fun _ _ hvalid hspec => entersLosslessly_iff hvalid hspec,
    fun _ _ _ _ _ hbound => bound_of_bind hbound⟩

/-! Low shelving without a back, whose row carries 200 N, and one whose row carries 5000 N. -/

namespace LowShelving

/-- Identities that are the joined names, and hashes that are never compared. -/
def env : FurnitureEnv where
  hashing := namedHashing
  furnitureHash _ _ _ := ""
  otherFamily _ := .error (.message "")

def intent (loadN : Int) : ShelvingIntent :=
  { widthUm := 600000, heightUm := 600000, depthUm := 300000, shelfCount := 1, dividerCount := 0
    shelfLoadN := loadN, backPanel := .none }

def workspace (loadN : Int) : FurnitureWorkspace Unit :=
  { design := { designId := "low", intent := .shelving (intent loadN) } }

def source : FurnitureProductionSource Unit := ⟨workspace 200, "", ""⟩

def project : Project Unit where
  id := "low"
  currentRevision := 0
  draftRevision := 1
  draftDesignHash := some ""
  draftSchemaVersion := some furnitureSchemaVersion
  draft := .ok (workspace 200)

def requested : BookcasePreviewInput :=
  { widthMm := 600, heightMm := 600, depthMm := 300, materialId := "birch-plywood", shelfCount := 1
    loadPerShelfKg := 200 / newtonsOfKg, backPanel := .named .none, plinth := false
    plinthHeightMm := some 0 }

theorem furniture_enters_losslessly_iff_light :
    (∃ spec, shelvingProductionSpec env (workspace 200) = .ok spec ∧
      EntersLosslessly env (workspace 200) spec) ∧
    ∃ workspace expected spec, savedFurnitureWorkspace project = .ok workspace ∧
      shelvingProductionSpec env workspace = .ok expected ∧
      normalizePreview requested "low" 1 = .ok spec ∧ spec.parameters = expected.parameters ∧
      spec.material = expected.material ∧ spec.backMaterial = expected.backMaterial := by
  obtain ⟨hspec, hvalid, hbound⟩ : (shelvingProductionSpec env (workspace 200)).isOk = true ∧
      (workspace 200).validate = .ok () ∧
      okAnd (bindSavedFurnitureSource env (fun _ : FurnitureWorkspace Unit => "") project
        (some source) requested "shelving") Option.isSome = true := by decide +kernel
  obtain ⟨spec, hspec⟩ := exists_eq_ok hspec
  obtain ⟨bound, hbind, hsome⟩ := exists_of_okAnd hbound
  obtain ⟨bound, rfl⟩ := Option.isSome_iff_exists.mp hsome
  have hboth := @furniture_enters_losslessly_iff Unit _ env fun _ => ""
  exact ⟨⟨spec, hspec, (hboth.1 _ _ hvalid hspec).mpr ⟨intent 200, rfl, by decide⟩⟩,
    hboth.2 _ _ _ _ _ hbind⟩

/-- A row of 5000 N compiles, and is more than the public input takes. -/
theorem heavy_row_never_produced :
    (workspace 5000).validate = .ok () ∧
      (∃ spec, shelvingProductionSpec env (workspace 5000) = .ok spec) ∧
      ¬∃ input, furnitureProductionInput env (workspace 5000) = .ok input := by
  obtain ⟨hvalid, hspec, hrefused⟩ : (workspace 5000).validate = .ok () ∧
      (shelvingProductionSpec env (workspace 5000)).isOk = true ∧
      (furnitureProductionInput env (workspace 5000)).isOk = false := by decide +kernel
  refine ⟨hvalid, exists_eq_ok hspec, ?_⟩
  rintro ⟨input, hinput⟩
  rw [hinput] at hrefused
  cases hrefused

example : (intent 5000).validate = .ok () := by decide +kernel

end LowShelving

end Custombuild.Api
