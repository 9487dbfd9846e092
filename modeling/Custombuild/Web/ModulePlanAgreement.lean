/-
  The browser accepts every module plan that the server makes: what the server computes of the grid,
  the loads, the identities and the drafts is what the browser computes again.
-/
import Custombuild.Web.ModulePlanCheck

namespace Custombuild.Web.Furniture

open Custombuild.Lib Custombuild.Domain Custombuild.Manufacturing
open Custombuild.Cam (isSha256)

/-! ## Weights -/

theorem density_le {selection : MaterialSelection} {material : MaterialVersion}
    (h : resolveMaterial selection = .ok material) :
    0 ≤ material.densityKgM3 ∧ material.densityKgM3 ≤ 780 := by
  simp only [resolveMaterial, bind_eq_ok] at h
  obtain ⟨found, hfound, -, -, h⟩ := h
  obtain rfl := Except.ok.inj h
  have hmem : found ∈ materialCatalog := by
    rw [demand_eq_ok, Option.filter_eq_some_iff] at hfound
    exact List.mem_of_find?_eq_some hfound.1
  have hall : ∀ m ∈ materialCatalog, 0 ≤ m.densityKgM3 ∧ m.densityKgM3 ≤ 780 := by decide
  exact hall _ hmem

/-- A board inside the largest envelope of the lightest and the heaviest material. -/
theorem weightG_le {size : Dimensions3D} {density : Int} (hw : size.widthUm ≤ 6000000)
    (hd : size.depthUm ≤ 6000000) (hh : size.heightUm ≤ 6000000) (hlow : 0 ≤ density)
    (hhigh : density ≤ 780) : 0 ≤ weightG size density ∧ weightG size density ≤ 2 ^ 28 := by
  obtain ⟨hw0, hd0, hh0⟩ := size.positive
  have hproduct : size.widthUm * size.depthUm * size.heightUm * density * 1000 ≤
      6000000 * 6000000 * 6000000 * 780 * 1000 := by
    have hwd : size.widthUm * size.depthUm ≤ 6000000 * 6000000 :=
      mul_le_mul hw hd (by omega) (by omega)
    have hwdh : size.widthUm * size.depthUm * size.heightUm ≤ 6000000 * 6000000 * 6000000 :=
      mul_le_mul hwd hh (by omega) (by omega)
    have hall : size.widthUm * size.depthUm * size.heightUm * density ≤
        6000000 * 6000000 * 6000000 * 780 := mul_le_mul hwdh hhigh hlow (by omega)
    omega
  unfold weightG
  simp only
  omega

/-- The weight of a shelving module is a safe integer. -/
theorem totalWeight_safe {env : FurnitureEnv} {design : FurnitureDesign} {p : ShelvingIntent}
    {result : FurnitureResult} (hintent : design.intent = .shelving p)
    (hw : p.widthUm ≤ 6000000) (hd : p.depthUm ≤ 6000000) (hh : p.heightUm ≤ 6000000)
    (h : buildFurniture env design = .ok result) (hcount : result.parts.length ≤ 512) :
    isSafe result.totalWeightG = true ∧ 0 ≤ result.totalWeightG := by
  obtain ⟨shelving, hshelving, hparts, -⟩ := carcass_of_buildFurniture hintent h
  obtain ⟨hspec, hbuild⟩ := carcassSpec_of_carcass hshelving
  obtain ⟨c⟩ := compiled_of_build hbuild
  have hresult := h
  rw [buildFurniture, hintent] at hresult
  simp only [bind_eq_ok] at hresult
  obtain ⟨_, -, carcass, -, ⟨⟩, hvalid, hresult⟩ := hresult
  have hsum : result.totalWeightG = (result.parts.map PartInstance.weightG).sum := by
    obtain rfl := Except.ok.inj hresult
    rfl
  have hspecIntent : result.spec.intent = .shelving p := by
    rw [← hintent]
    obtain rfl := Except.ok.inj hresult
    rfl
  have hvalid' : result.validate = .ok () := by
    obtain rfl := Except.ok.inj hresult
    exact hvalid
  simp only [FurnitureResult.validate, bind_eq_ok, require_eq_ok, List.all_eq_true,
    Bool.and_eq_true, decide_eq_true_eq, hspecIntent, FurnitureIntent.dimensions] at hvalid'
  obtain ⟨-, -, -, -, -, -, hinside⟩ := hvalid'
  have hbound : ∀ weight ∈ result.parts.map PartInstance.weightG, 0 ≤ weight ∧ weight ≤ 2 ^ 28 := by
    intro weight hweight
    obtain ⟨part, hpart, rfl⟩ := List.mem_map.mp hweight
    obtain ⟨⟨hx, hy⟩, hz⟩ := hinside part hpart
    have hcorner := part.placement.nonneg
    rw [hparts, c.design_parts] at hpart
    obtain ⟨made, hmade, rfl⟩ := List.mem_map.mp hpart
    obtain ⟨plan, -, hmake⟩ := mem_of_collect c.parts_eq hmade
    simp only [makePart, bind_eq_ok] at hmake
    obtain ⟨size, -, placement, -, raw, -, hmake⟩ := hmake
    obtain rfl := Except.ok.inj hmake
    have hdensity : 0 ≤ (partMaterial shelving.spec plan.role).densityKgM3 ∧
        (partMaterial shelving.spec plan.role).densityKgM3 ≤ 780 := by
      have hmaterial := density_le hspec.material
      obtain ⟨back, hback, -, heq⟩ := hspec.back
      unfold partMaterial
      split
      · rw [heq]
        split
        · exact hmaterial
        · exact density_le hback
      · exact hmaterial
    simp only at hx hy hz hcorner
    exact weightG_le (by omega) (by omega) (by omega) hdensity.1 hdensity.2
  have hhigh := List.sum_le_card_nsmul _ (2 ^ 28 : Int) fun weight hweight => (hbound weight hweight).2
  have hlow := List.sum_nonneg fun weight hweight => (hbound weight hweight).1
  rw [List.length_map, nsmul_eq_mul] at hhigh
  rw [hsum]
  have hcast : (result.parts.length : Int) ≤ 512 := by exact_mod_cast hcount
  refine ⟨?_, hlow⟩
  simp only [isSafe, inRange, Bool.and_eq_true, decide_eq_true_eq]
  omega

/-! ## The loop over the modules -/

section Loop

variable {plan : ModulePlanDocument} {workspace : WorkspaceDocument} {designHash : String}
  {grid : FurnitureModuleGrid} {layout : LayoutDocument}

theorem identitiesMatch_iff {positions : List (Nat × Nat)} {ids : List String}
    {draft : ModuleDraftDocument} :
    identitiesMatch plan designHash grid positions ids draft = true ↔
      identitiesMatch plan designHash grid [] [] draft = true ∧
        (draft.row, draft.column) ∉ positions ∧ draft.moduleId ∉ ids := by
  simp only [identitiesMatch, Bool.and_eq_true, decide_eq_true_eq, Bool.not_eq_true',
    List.contains_eq_mem, decide_eq_false_iff_not, List.not_mem_nil, not_false_eq_true, and_true]
  tauto

/-- The loop passes when every draft matches and no position and no identity is repeated. -/
theorem checkDrafts_eq_ok {drafts : List ModuleDraftDocument} {positions : List (Nat × Nat)}
    {ids : List String} :
    checkDrafts plan workspace designHash grid layout positions ids drafts = .ok () ↔
      (∀ draft ∈ drafts, identitiesMatch plan designHash grid [] [] draft = true ∧
        measuresMatch workspace grid layout draft = true ∧
        workspaceIdentity (restored workspace draft.workspace) = workspaceIdentity workspace) ∧
      (∀ draft ∈ drafts, (draft.row, draft.column) ∉ positions ∧ draft.moduleId ∉ ids) ∧
      (drafts.map fun draft => (draft.row, draft.column)).Nodup ∧
      (drafts.map ModuleDraftDocument.moduleId).Nodup := by
  induction drafts generalizing positions ids with
  | nil => simp [checkDrafts]
  | cons draft drafts ih =>
    rw [checkDrafts]
    simp only [bind_eq_ok, require_eq_ok, exists_const, ih, decide_eq_true_eq,
      List.forall_mem_cons, List.map_cons, List.nodup_cons, List.mem_map, not_exists, not_and]
    rw [identitiesMatch_iff]
    constructor
    · rintro ⟨⟨hids, hposition, hid⟩, hmeasures, hrestored, hall, hnew, hpositions, hidsNodup⟩
      have hfresh : ∀ other ∈ drafts, ((other.row, other.column) ≠ (draft.row, draft.column) ∧
          (other.row, other.column) ∉ positions) ∧
            other.moduleId ≠ draft.moduleId ∧ other.moduleId ∉ ids := by
        intro other hother
        have hother := hnew other hother
        rwa [List.mem_cons, List.mem_cons, not_or, not_or] at hother
      exact ⟨⟨⟨hids, hmeasures, hrestored⟩, hall⟩,
        ⟨⟨hposition, hid⟩, fun other hother => ⟨(hfresh other hother).1.2, (hfresh other hother).2.2⟩⟩,
        ⟨fun other hother heq => (hfresh other hother).1.1 heq, hpositions⟩,
        fun other hother heq => (hfresh other hother).2.1 heq, hidsNodup⟩
    · rintro ⟨⟨⟨hids, hmeasures, hrestored⟩, hall⟩, ⟨⟨hposition, hid⟩, hnew⟩,
        ⟨hpositions, hpositionsNodup⟩, hfresh, hidsNodup⟩
      refine ⟨⟨hids, hposition, hid⟩, hmeasures, hrestored, hall, fun other hother => ?_,
        hpositionsNodup, hidsNodup⟩
      rw [List.mem_cons, List.mem_cons, not_or, not_or]
      exact ⟨⟨fun heq => hpositions other hother heq, (hnew other hother).1⟩,
        fun heq => hfresh other hother heq, (hnew other hother).2⟩

end Loop

/-! ## Identities of modules -/

/-- Rows and columns of a grid give different identities. -/
theorem moduleIdText_injective {planHash : String} {r c r' c' : Nat} (hr : r < 4) (hc : c < 8)
    (hr' : r' < 4) (hc' : c' < 8) (h : moduleIdText planHash r c = moduleIdText planHash r' c') :
    (r, c) = (r', c') := by
  have hsuffix : ("-r" ++ toString (r + 1) ++ "-c" ++ toString (c + 1)) =
      ("-r" ++ toString (r' + 1) ++ "-c" ++ toString (c' + 1)) := by
    have htext := congrArg String.toList h
    simp only [moduleIdText, String.toList_append, List.append_assoc, List.append_cancel_left_eq] at htext
    apply String.toList_injective
    simpa only [String.toList_append, List.append_assoc, List.append_cancel_left_eq] using htext
  have hall : ∀ r : Fin 4, ∀ c : Fin 8, ∀ r' : Fin 4, ∀ c' : Fin 8,
      ("-r" ++ toString (r.val + 1) ++ "-c" ++ toString (c.val + 1)) =
        ("-r" ++ toString (r'.val + 1) ++ "-c" ++ toString (c'.val + 1)) → r = r' ∧ c = c' := by
    decide +kernel
  obtain ⟨hrow, hcolumn⟩ := hall ⟨r, hr⟩ ⟨c, hc⟩ ⟨r', hr'⟩ ⟨c', hc'⟩ hsuffix
  rw [Fin.mk.injEq] at hrow hcolumn
  rw [hrow, hcolumn]

/-- The ceiling of the browser is the one of the server. -/
theorem ceilDiv_eq {a n : Int} (hn : 0 < n) : ceilDiv a n = (a + n - 1) / n := by
  have hlow := Int.ediv_mul_le (-a) hn.ne'
  have hhigh := Int.lt_ediv_add_one_mul_self (-a) hn
  symm
  rw [ceilDiv, Int.ediv_eq_iff_of_pos hn]
  have hneg : -(-a / n) * n = -(-a / n * n) := by ring
  have hsucc : (-a / n + 1) * n = -a / n * n + n := by ring
  omega

/-! ## What the server plans -/

section Planned

variable {Selection Report : Type} {env : PlanningEnv Selection Report}
  {workspace : FurnitureWorkspace Selection} {grid : FurnitureModuleGrid}
  {intent : ShelvingIntent} {planHash : String} {cell : Cell}
  {planned : PlannedModule Selection Report}

/-- The draft of a module, its preview and what is said of them. -/
structure Drafted (env : PlanningEnv Selection Report) (workspace : FurnitureWorkspace Selection)
    (intent : ShelvingIntent) (grid : FurnitureModuleGrid) (planHash : String) (cell : Cell)
    (planned : PlannedModule Selection Report) : Prop where
  workspace : planned.workspace = draftOf workspace intent grid planHash cell
  valid : (draftIntent intent grid cell).validate = .ok ()
  moduleId : planned.moduleId = planned.workspace.design.designId
  workspaceHash : planned.workspaceHash = env.workspaceHash planned.workspace
  designHash : planned.designHash = planned.preview.design.designHash
  weight : planned.weightG = planned.preview.design.totalWeightG
  built : buildFurniture env.furniture planned.workspace.design = .ok planned.preview.design

theorem drafted_of_planModule
    (h : planModule env workspace intent grid planHash cell = .ok planned) :
    Drafted env workspace intent grid planHash cell planned := by
  simp only [planModule, bind_eq_ok, mapError_eq_ok] at h
  obtain ⟨preview, ⟨⟨⟩, hvalid, hpreview⟩, hplanned⟩ := h
  obtain rfl := Except.ok.inj hplanned
  simp only [previewFurniture, bind_eq_ok] at hpreview
  obtain ⟨design, hdesign, report, -, hresult⟩ := hpreview
  obtain rfl := Except.ok.inj hresult
  exact ⟨rfl, intent_of_validate draftOf_intent hvalid, rfl, rfl, rfl, rfl, hdesign⟩

/-- A complete plan, module by module. -/
structure Planned (env : PlanningEnv Selection Report) (workspace : FurnitureWorkspace Selection)
    (intent : ShelvingIntent) (grid : FurnitureModuleGrid) (planHash : String)
    (plan : ModulePlan Selection Report) : Prop where
  widths : allocate intent.widthUm grid.columns grid.gapUm = .ok plan.columnWidthsUm
  heights : allocate intent.heightUm grid.rows grid.gapUm = .ok plan.rowHeightsUm
  gap : plan.gapUm = grid.gapUm
  envelope : plan.envelope = (intent.widthUm, intent.heightUm, intent.depthUm)
  cells : plan.modules.map (fun m => (m.row, m.column)) =
    List.product (List.range grid.rows) (List.range grid.columns)
  modules : ∀ m ∈ plan.modules, ∃ cell, Drafted env workspace intent grid planHash cell m ∧
    MadeOf intent grid cell m ∧ Placed grid.gapUm plan.columnWidthsUm plan.rowHeightsUm
      (columnLoads intent plan.columnWidthsUm) m
  parts : ∀ m ∈ plan.modules, m.preview.design.parts.length ≤ 512

theorem planned_of_planShelving {current : Preview Report} {plan : ModulePlan Selection Report}
    (hgrid : grid.validate = .ok ()) (h : planShelving env workspace grid current intent = .ok plan) :
    Planned env workspace intent grid (env.planHash workspace grid current) plan := by
  simp only [FurnitureModuleGrid.validate, bind_eq_ok, require_eq_ok, exists_const,
    Bool.and_eq_true, decide_eq_true_eq] at hgrid
  obtain ⟨hcolumns, hrows, -⟩ := hgrid
  simp only [planShelving, bind_eq_ok, mapError_eq_ok, require_eq_ok, decide_eq_true_eq] at h
  obtain ⟨⟨⟩, -, widths, hwidths, heights, hheights, -, -, modules, hmodules, -, hparts, hplan⟩ := h
  obtain rfl := Except.ok.inj hplan
  have hloads := length_columnLoads intent widths
  have hindices : (gridCells grid.gapUm (widths.zip (columnLoads intent widths)) 0 0 heights).map
      (fun cell => (cell.row, cell.column)) =
        List.product (List.range grid.rows) (List.range grid.columns) := by
    rw [gridCells_indices, (allocated_of_ok (by omega) hheights).length, List.length_zip, hloads,
      Nat.min_self, (allocated_of_ok (by omega) hwidths).length, ← List.range_eq_range']
  refine ⟨hwidths, hheights, rfl, rfl, ?_, fun m hm => ?_, fun m hm => ?_⟩
  · rw [← hindices]
    refine map_of_collect hmodules fun cell _ m hok => ?_
    have hof := madeOf_of_planModule hok
    rw [hof.row, hof.column]
  · obtain ⟨cell, hcell, hok⟩ := mem_of_collect hmodules hm
    have hof := madeOf_of_planModule hok
    exact ⟨cell, drafted_of_planModule hok, hof, placed_of_mem hloads hcell hof⟩
  · have hsum := List.le_sum_of_mem (List.mem_map_of_mem (f := fun m : PlannedModule Selection Report =>
      m.preview.design.parts.length) hm)
    exact le_trans hsum hparts

/-- The measures of a module are those of a valid draft. -/
theorem measures_of_drafted (hdraft : Drafted env workspace intent grid planHash cell planned)
    (hof : MadeOf intent grid cell planned) :
    (1 ≤ planned.widthUm ∧ planned.widthUm ≤ 6000000) ∧
      1 ≤ planned.heightUm ∧ planned.heightUm ≤ 6000000 := by
  have hvalid := hdraft.valid
  simp only [ShelvingIntent.validate, checkLengths, inRange, bind_eq_ok, require_eq_ok, exists_const,
    Bool.and_eq_true, decide_eq_true_eq] at hvalid
  obtain ⟨⟨hwidth, hheight, -⟩, -⟩ := hvalid
  rw [hof.width, hof.height]
  exact ⟨hwidth, hheight⟩

variable {plan : ModulePlan Selection Report}

theorem exists_module (h : Planned env workspace intent grid planHash plan) {row column : Nat}
    (hrow : row < grid.rows) (hcolumn : column < grid.columns) :
    ∃ m ∈ plan.modules, m.row = row ∧ m.column = column := by
  have hmem : (row, column) ∈ List.product (List.range grid.rows) (List.range grid.columns) :=
    List.mem_product.mpr ⟨List.mem_range.mpr hrow, List.mem_range.mpr hcolumn⟩
  rw [← h.cells] at hmem
  obtain ⟨m, hm, heq⟩ := List.mem_map.mp hmem
  rw [Prod.mk.injEq] at heq
  exact ⟨m, hm, heq.1, heq.2⟩

/-- Every width and every height of a plan is that of a module. -/
theorem sizes_of_planned (hgrid : 0 < grid.rows ∧ 0 < grid.columns)
    (h : Planned env workspace intent grid planHash plan) :
    ∀ size ∈ plan.columnWidthsUm ++ plan.rowHeightsUm, 1 ≤ size ∧ size ≤ 6000000 := by
  have hwidths := allocated_of_ok hgrid.2 h.widths
  have hheights := allocated_of_ok hgrid.1 h.heights
  intro size hsize
  rcases List.mem_append.mp hsize with hsize | hsize
  · obtain ⟨i, hi, rfl⟩ := List.getElem_of_mem hsize
    obtain ⟨m, hm, -, hcolumn⟩ := exists_module h hgrid.1 (by rwa [hwidths.length] at hi)
    obtain ⟨cell, hdraft, hof, hplaced⟩ := h.modules m hm
    have hwidth := hplaced.width
    rw [hcolumn, List.getElem?_eq_getElem hi, Option.some.injEq] at hwidth
    rw [hwidth]
    exact (measures_of_drafted hdraft hof).1
  · obtain ⟨i, hi, rfl⟩ := List.getElem_of_mem hsize
    obtain ⟨m, hm, hrow, -⟩ := exists_module h (by rwa [hheights.length] at hi) hgrid.2
    obtain ⟨cell, hdraft, hof, hplaced⟩ := h.modules m hm
    have hheight := hplaced.height
    rw [hrow, List.getElem?_eq_getElem hi, Option.some.injEq] at hheight
    rw [hheight]
    exact (measures_of_drafted hdraft hof).2

end Planned

/-! ## The server's plan passes -/

theorem isSha256_of_build {Report : Type} {env : PlanningEnv ManufacturingSelection Report}
    (hashes : HashesAreDigests env) {design : FurnitureDesign} {result : FurnitureResult}
    (h : buildFurniture env.furniture design = .ok result) : isSha256 result.designHash = true := by
  unfold buildFurniture at h
  split at h
  · simp only [bind_eq_ok] at h
    obtain ⟨-, -, carcass, -, -, -, h⟩ := h
    obtain rfl := Except.ok.inj h
    exact hashes.furniture _ _ _
  · exact hashes.otherFamily _ _ h

theorem equalAllocation_of_allocate {total gap : Int} {count : Nat} {sizes : List Int}
    (hcount : 0 < count) (h : allocate total count gap = .ok sizes) :
    equalAllocation gap sizes total = true := by
  have hlength := (allocated_of_ok hcount h).length
  simp only [allocate, bind_eq_ok, require_eq_ok, decide_eq_true_eq] at h
  obtain ⟨-, husable, hsizes⟩ := h
  simp only [equalAllocation, hlength, decide_eq_true_eq, Int.tmod_eq_emod_of_nonneg husable.le]
  exact (Except.ok.inj hsizes).symm

/-- What is read of a shelving workspace. -/
theorem readShelving_of_readWorkspace {document : WorkspaceDocument}
    {workspace : FurnitureWorkspace ManufacturingSelection} {intent : ShelvingIntent}
    (h : readWorkspace document = .ok workspace) (hintent : workspace.design.intent = .shelving intent) :
    document.intent.family = .shelving ∧ intent = readShelving document.intent := by
  obtain ⟨read, manufacturing, hread, -, rfl, -⟩ := readWorkspace_eq_ok.mp h
  simp only at hintent
  subst hintent
  unfold readIntent at hread
  split at hread
  · rename_i hfamily
    simp only [bind_eq_ok] at hread
    obtain ⟨-, -, hread⟩ := hread
    exact ⟨hfamily, FurnitureIntent.shelving.inj (Except.ok.inj hread).symm⟩
  · simp only [bind_eq_ok] at hread
    obtain ⟨-, -, hread⟩ := hread
    cases Except.ok.inj hread
  · simp only [bind_eq_ok] at hread
    obtain ⟨-, -, hread⟩ := hread
    cases Except.ok.inj hread

section Accepted

variable {Report : Type} {env : PlanningEnv ManufacturingSelection Report}
  {document : WorkspaceDocument} {workspace : FurnitureWorkspace ManufacturingSelection}
  {grid : FurnitureModuleGrid} {intent : ShelvingIntent} {planHash : String} {cell : Cell}
  {planned : PlannedModule ManufacturingSelection Report}

/-- A draft with the changed members put back has the identity of its source. -/
theorem restored_dump (hread : readWorkspace document = .ok workspace)
    (hintent : workspace.design.intent = .shelving intent)
    (hdraft : Drafted env workspace intent grid planHash cell planned) :
    workspaceIdentity (restored document (dumpWorkspace planned.workspace)) =
      workspaceIdentity document := by
  have hidentity := workspaceIdentity_dump hread
  obtain ⟨hfamily, hshelving⟩ := readShelving_of_readWorkspace hread hintent
  have hdraftIntent : planned.workspace.design.intent = .shelving (draftIntent intent grid cell) := by
    rw [hdraft.workspace, draftOf_intent]
  rw [← hidentity]
  obtain ⟨read, manufacturing, -, -, rfl, -⟩ := readWorkspace_eq_ok.mp hread
  simp only at hintent
  subst hintent
  simp only [workspaceIdentity, restored, dumpWorkspace, hdraftIntent]
  rw [hdraft.workspace]
  simp only [draftOf, WorkspaceDocument.mk.injEq, true_and, and_true]
  cases hbasis : document.intent.shelfLoadBasis with
  | none =>
    simp [identityIntent, dumpIntent, draftIntent, hshelving, readShelving, unlessDefault_getD, hbasis]
  | some basis =>
    cases basis with
    | perRow =>
      simp [identityIntent, dumpIntent, draftIntent, hshelving, readShelving, unlessDefault_getD,
        hbasis]
    | perMetre =>
      simp [identityIntent, dumpIntent, draftIntent, hshelving, readShelving, unlessDefault_getD,
        hbasis]

/-- The measures of a draft of the server are those that the browser computes. -/
theorem measures_of_planned {widths heights : List Int} {layout : LayoutDocument}
    (hread : readWorkspace document = .ok workspace)
    (hintent : workspace.design.intent = .shelving intent)
    (hcounts : grid.shelfCountPerRow.length = grid.rows) (hheights : heights.length = grid.rows)
    (hpositive : 0 < widths.sum) (hlayout : layout.columnWidthsUm = widths)
    (hlayoutRows : layout.rowHeightsUm = heights)
    (hdraft : Drafted env workspace intent grid planHash cell planned)
    (hof : MadeOf intent grid cell planned)
    (hplaced : Placed grid.gapUm widths heights (columnLoads intent widths) planned)
    (workspaceHash designHash planHash : String) :
    measuresMatch document grid layout
      (moduleDocument workspaceHash designHash planHash planned) = true := by
  obtain ⟨hfamily, hshelving⟩ := readShelving_of_readWorkspace hread hintent
  have hdraftIntent : planned.workspace.design.intent = .shelving (draftIntent intent grid cell) := by
    rw [hdraft.workspace, draftOf_intent]
  have hdepth : document.intent.depthUm = intent.depthUm := by rw [hshelving]; rfl
  have hwidth : widths.getD planned.column 0 = planned.widthUm := by
    rw [List.getD_eq_getElem?_getD, hplaced.width, Option.getD_some]
  have hheight : heights.getD planned.row 0 = planned.heightUm := by
    rw [List.getD_eq_getElem?_getD, hplaced.height, Option.getD_some]
  have hrow : planned.row < grid.shelfCountPerRow.length := by
    rw [hcounts, ← hheights]
    exact lt_length hplaced.height
  have hcount : some (grid.shelfCountPerRow.getD cell.row 0) = grid.shelfCountPerRow[planned.row]? := by
    rw [← hof.row, List.getD_eq_getElem?_getD, List.getElem?_eq_getElem hrow, Option.getD_some]
  have hload : document.intent.shelfLoadBasis = some .perMetre ∨
      some (draftIntent intent grid cell).shelfLoadN =
        some (ceilDiv (document.intent.shelfLoadN.getD 200 * planned.widthUm) widths.sum) := by
    by_cases hmetre : document.intent.shelfLoadBasis = some .perMetre
    · exact .inl hmetre
    · right
      have hbasis : intent.shelfLoadBasis = .perRow := by
        rw [hshelving]
        simp only [readShelving]
        cases hbasis : document.intent.shelfLoadBasis with
        | none => rfl
        | some basis =>
          cases basis with
          | perRow => rfl
          | perMetre => exact absurd hbasis hmetre
      have hcolumn := hplaced.load
      rw [columnLoads, hbasis] at hcolumn
      simp only [List.getElem?_map, hplaced.width, Option.map_some, Option.some.injEq,
        ShelvingIntent.resolvedShelfLoadN, hbasis] at hcolumn
      rw [draftIntent]
      simp only [hbasis, if_true]
      rw [ceilDiv_eq hpositive, ← hof.load, ← hcolumn, hshelving]
      rfl
  simp only [measuresMatch, moduleDocument, dumpWorkspace, hdraftIntent, dumpIntent, hlayout,
    hlayoutRows, Bool.and_eq_true, Bool.or_eq_true, decide_eq_true_eq, hwidth, hheight, hdepth]
  refine ⟨⟨⟨⟨⟨⟨⟨?_, hof.width.symm⟩, hof.height.symm⟩, rfl⟩, hcount⟩, rfl⟩, hload⟩, ?_⟩
  · rw [hof.depth]
  · rw [hplaced.x, hof.y, hplaced.z]

end Accepted

section Response

variable {Report : Type} {env : PlanningEnv ManufacturingSelection Report}
  {document : WorkspaceDocument} {workspace : FurnitureWorkspace ManufacturingSelection}
  {grid : FurnitureModuleGrid} {intent : ShelvingIntent} {planHash : String}
  {plan : ModulePlan ManufacturingSelection Report}

/-- What the declared ranges of a grid leave. -/
structure GridRanges (grid : FurnitureModuleGrid) : Prop where
  columns : 0 < grid.columns ∧ grid.columns ≤ 8
  rows : 0 < grid.rows ∧ grid.rows ≤ 4
  gap : 0 ≤ grid.gapUm
  few : grid.columns * grid.rows ≤ 16
  counts : grid.shelfCountPerRow.length = grid.rows

theorem gridRanges_of_validate (h : grid.validate = .ok ()) : GridRanges grid := by
  simp only [FurnitureModuleGrid.validate, inRange, bind_eq_ok, require_eq_ok, exists_const,
    Bool.and_eq_true, decide_eq_true_eq, beq_iff_eq] at h
  obtain ⟨hcolumns, hrows, hgap, -, -, hfew, -, hcounts⟩ := h
  refine ⟨by omega, by omega, hgap.1, ?_, hcounts⟩
  rw [Nat.mul_comm]
  exact hfew

theorem module_of_product
    (h : Planned env workspace intent grid planHash plan) {m : PlannedModule _ Report}
    (hm : m ∈ plan.modules) : m.row < grid.rows ∧ m.column < grid.columns := by
  have hmem := List.mem_map_of_mem (f := fun m : PlannedModule _ Report => (m.row, m.column)) hm
  rw [h.cells] at hmem
  obtain ⟨hrow, hcolumn⟩ := List.mem_product.mp hmem
  exact ⟨List.mem_range.mp hrow, List.mem_range.mp hcolumn⟩

theorem id_of_planned (h : Planned env workspace intent grid planHash plan)
    {m : PlannedModule _ Report} (hm : m ∈ plan.modules) :
    m.moduleId = moduleIdText planHash m.row m.column ∧ m.workspace.design.revision = 1 := by
  obtain ⟨cell, hdraft, hof, -⟩ := h.modules m hm
  rw [hdraft.moduleId, hdraft.workspace, hof.row, hof.column]
  exact ⟨rfl, rfl⟩

theorem identities_of_planned (hashes : HashesAreDigests env)
    (h : Planned env workspace intent grid planHash plan) {current : Preview Report}
    (hhash : planHash = env.planHash workspace grid current) {m : PlannedModule _ Report}
    (hm : m ∈ plan.modules) (hdepth : intent.depthUm ≤ 6000000) :
    identitiesMatch (planResponse env workspace grid current (.ok plan)) current.design.designHash
      grid [] [] (moduleDocument (env.workspaceHash workspace) current.design.designHash planHash
        m) = true := by
  obtain ⟨hrow, hcolumn⟩ := module_of_product h hm
  obtain ⟨hid, hrevision⟩ := id_of_planned h hm
  obtain ⟨cell, hdraft, hof, -⟩ := h.modules m hm
  obtain ⟨⟨-, hwidth⟩, -, hheight⟩ := measures_of_drafted hdraft hof
  have hbuilt := hdraft.built
  have hdraftIntent : m.workspace.design.intent = .shelving (draftIntent intent grid cell) := by
    rw [hdraft.workspace, draftOf_intent]
  obtain ⟨hsafe, hnonneg⟩ := totalWeight_safe hdraftIntent
    (by rw [hof.width] at hwidth; exact hwidth) hdepth
    (by rw [hof.height] at hheight; exact hheight) hbuilt (h.parts m hm)
  have hdesign : isSha256 m.designHash = true := by
    rw [hdraft.designHash]
    exact isSha256_of_build hashes hbuilt
  have hworkspace : isSha256 m.workspaceHash = true := by
    rw [hdraft.workspaceHash]
    exact hashes.workspace _
  subst hhash
  simp only [identitiesMatch, moduleDocument, planResponse, Bool.and_eq_true, decide_eq_true_eq,
    List.contains_nil, Bool.not_false, and_true]
  rw [← hdraft.weight] at hsafe hnonneg
  exact ⟨⟨⟨⟨⟨⟨⟨⟨⟨⟨decide_eq_true hrow, decide_eq_true hcolumn⟩, decide_eq_true hid⟩, hworkspace⟩,
    hdesign⟩, decide_eq_true hdraft.moduleId⟩, decide_eq_true hrevision⟩,
    decide_eq_true hdraft.designHash⟩, hsafe⟩, decide_eq_true hnonneg⟩,
    decide_eq_true hdraft.weight⟩

theorem layoutMatches_of_planned (hread : readWorkspace document = .ok workspace)
    (hintent : workspace.design.intent = .shelving intent) (hgrid : GridRanges grid)
    {current : Preview Report}
    (h : Planned env workspace intent grid (env.planHash workspace grid current) plan)
    {layout : LayoutDocument}
    (hlayout : (planResponse env workspace grid current (.ok plan)).layout = some layout) :
    layoutMatches (planResponse env workspace grid current (.ok plan)) document grid layout =
      true := by
  obtain ⟨hfamily, hshelving⟩ := readShelving_of_readWorkspace hread hintent
  have hwidths := allocated_of_ok hgrid.columns.1 h.widths
  have hheights := allocated_of_ok hgrid.rows.1 h.heights
  have hsizes := sizes_of_planned ⟨hgrid.rows.1, hgrid.columns.1⟩ h
  have hwidthUm : document.intent.widthUm = intent.widthUm := by rw [hshelving]; rfl
  have hheightUm : document.intent.heightUm = intent.heightUm := by rw [hshelving]; rfl
  have hdepthUm : document.intent.depthUm = intent.depthUm := by rw [hshelving]; rfl
  have hlength : plan.modules.length = grid.columns * grid.rows := by
    have hcells := congrArg List.length h.cells
    have hproduct : (List.product (List.range grid.rows) (List.range grid.columns)).length =
        (List.range grid.rows).length * (List.range grid.columns).length := List.length_product _ _
    rwa [List.length_map, hproduct, List.length_range, List.length_range, Nat.mul_comm] at hcells
  have hsafe : ∀ size ∈ plan.columnWidthsUm ++ plan.rowHeightsUm,
      (isSafe size && decide (0 < size)) = true := by
    intro size hsize
    have := hsizes size hsize
    simp only [isSafe, inRange, Bool.and_eq_true, decide_eq_true_eq]
    omega
  have hall : (plan.columnWidthsUm ++ plan.rowHeightsUm).all
      (fun size => isSafe size && decide (0 < size)) = true := List.all_eq_true.mpr hsafe
  obtain rfl := Option.some.inj hlayout
  simp only [layoutMatches, planResponse, List.length_map, hlength, hall, hwidthUm, hheightUm,
    hdepthUm, h.gap, h.envelope, hwidths.length, hheights.length, hwidths.fills, hheights.fills,
    equalAllocation_of_allocate hgrid.columns.1 h.widths,
    equalAllocation_of_allocate hgrid.rows.1 h.heights, Option.all_some, Bool.and_true,
    Bool.true_and, decide_true, decide_eq_true_eq]
  exact hgrid.few

theorem checkDrafts_of_planned (hashes : HashesAreDigests env)
    (hread : readWorkspace document = .ok workspace)
    (hintent : workspace.design.intent = .shelving intent) (hgrid : GridRanges grid)
    (hdepth : intent.depthUm ≤ 6000000) {current : Preview Report}
    (h : Planned env workspace intent grid (env.planHash workspace grid current) plan)
    {layout : LayoutDocument}
    (hlayout : (planResponse env workspace grid current (.ok plan)).layout = some layout) :
    checkDrafts (planResponse env workspace grid current (.ok plan)) document
      current.design.designHash grid layout [] []
      (planResponse env workspace grid current (.ok plan)).modules = .ok () := by
  have hwidths := allocated_of_ok hgrid.columns.1 h.widths
  have hheights := allocated_of_ok hgrid.rows.1 h.heights
  have hsizes := sizes_of_planned ⟨hgrid.rows.1, hgrid.columns.1⟩ h
  have hpositive : 0 < plan.columnWidthsUm.sum := by
    refine List.sum_pos _ (fun size hsize => ?_) (List.ne_nil_of_length_pos ?_)
    · have := hsizes size (List.mem_append_left _ hsize)
      omega
    · rw [hwidths.length]
      exact hgrid.columns.1
  have hnodup : (plan.modules.map fun m => (m.row, m.column)).Nodup := by
    rw [h.cells]
    exact List.nodup_range.product List.nodup_range
  obtain rfl := Option.some.inj hlayout
  refine checkDrafts_eq_ok.mpr ⟨fun draft hdraft => ?_, fun draft hdraft => ?_, ?_, ?_⟩
  · obtain ⟨m, hm, rfl⟩ := List.mem_map.mp hdraft
    obtain ⟨cell, hdrafted, hof, hplaced⟩ := h.modules m hm
    exact ⟨identities_of_planned hashes h rfl hm hdepth,
      measures_of_planned hread hintent hgrid.counts hheights.length hpositive rfl rfl hdrafted hof
        hplaced _ _ _, restored_dump hread hintent hdrafted⟩
  · exact ⟨List.not_mem_nil, List.not_mem_nil⟩
  · show ((plan.modules.map _).map _).Nodup
    rw [List.map_map]
    exact hnodup
  · have hids : (plan.modules.map PlannedModule.moduleId) =
        (plan.modules.map fun m => (m.row, m.column)).map fun position =>
          moduleIdText (env.planHash workspace grid current) position.1 position.2 := by
      rw [List.map_map]
      exact List.map_congr_left fun m hm => (id_of_planned h hm).1
    show ((plan.modules.map _).map _).Nodup
    rw [List.map_map]
    show (plan.modules.map PlannedModule.moduleId).Nodup
    rw [hids]
    refine hnodup.map_on fun a ha b hb heq => ?_
    obtain ⟨m, hm, rfl⟩ := List.mem_map.mp ha
    obtain ⟨n, hn, rfl⟩ := List.mem_map.mp hb
    have hmIn := module_of_product h hm
    have hnIn := module_of_product h hn
    have hcolumns := hgrid.columns.2
    have hrows := hgrid.rows.2
    exact moduleIdText_injective (by omega) (by omega) (by omega) (by omega) heq

/-- The browser accepts every answer of the server. -/
theorem assertMatching_of_moduleResponse (hashes : HashesAreDigests env)
    (hread : readWorkspace document = .ok workspace) {answer : ModulePlanDocument}
    (h : moduleResponse env workspace grid = .ok answer) :
    assertMatchingFurnitureModulePlan answer document answer.sourceDesignHash grid = .ok () := by
  simp only [moduleResponse, planFurnitureModules, bind_eq_ok] at h
  obtain ⟨planned, ⟨⟨⟩, hvalid, ⟨⟩, hgrid, current, hcurrent, hplanned⟩, current', hcurrent', h⟩ := h
  obtain rfl : current = current' := Except.ok.inj (hcurrent.symm.trans hcurrent')
  obtain rfl := Except.ok.inj h
  replace hplanned := Except.ok.inj hplanned
  have hidentity := workspaceIdentity_dump hread
  have hdesign : isSha256 current.design.designHash = true := by
    simp only [previewFurniture, bind_eq_ok] at hcurrent
    obtain ⟨design, hdesign, report, -, hresult⟩ := hcurrent
    obtain rfl := Except.ok.inj hresult
    exact isSha256_of_build hashes hdesign
  have hinstallation : workspaceIdentity { dumpWorkspace workspace with
      installation := workspace.design.installation } = workspaceIdentity document := hidentity
  cases planned with
  | error refusal =>
    simp only [assertMatchingFurnitureModulePlan, planResponse, bind_eq_ok, require_eq_ok,
      exists_const, hidentity, hinstallation, hashes.plan, hashes.workspace, hdesign, decide_true,
      Bool.and_self, List.isEmpty_nil, Bool.not_false, Option.isNone_none, and_self]
  | ok plan =>
    cases hintent : workspace.design.intent with
    | table intent =>
      rw [hintent] at hplanned
      cases hplanned
    | chest intent =>
      rw [hintent] at hplanned
      cases hplanned
    | shelving intent =>
      rw [hintent] at hplanned
      have hranges := gridRanges_of_validate hgrid
      have hall := planned_of_planShelving hgrid hplanned
      have hdepth : intent.depthUm ≤ 6000000 := by
        have hshelving := intent_of_validate hintent hvalid
        simp only [ShelvingIntent.validate, checkLengths, inRange, bind_eq_ok, require_eq_ok,
          exists_const, Bool.and_eq_true, decide_eq_true_eq] at hshelving
        exact hshelving.1.2.2.2
      have hlayout := layoutMatches_of_planned hread hintent hranges hall rfl
      have hdrafts := checkDrafts_of_planned hashes hread hintent hranges hdepth hall rfl
      have hsource : isSha256 (env.planHash workspace grid current) = true := hashes.plan _ _ _
      simp only [assertMatchingFurnitureModulePlan, bind_eq_ok, require_eq_ok, exists_const,
        Bool.and_eq_true, decide_eq_true_eq]
      exact ⟨⟨trivial, rfl⟩, ⟨hidentity, hinstallation⟩, rfl,
        ⟨⟨hsource, hashes.workspace _⟩, hdesign⟩,
        bind_eq_ok.mpr ⟨(), require_eq_ok.mpr hlayout, hdrafts⟩⟩

end Response

end Custombuild.Web.Furniture
