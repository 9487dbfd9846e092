/-
  A plan of modules tiles its source: the boxes of the modules and the gaps fill the carcass
  exactly, every module carries the load listed for its column and together no less than the
  source, and the parts are as many as estimated before anything was compiled.
-/
import Custombuild.Manufacturing.ModulePlanning

namespace Custombuild.Manufacturing

open Custombuild.Lib Custombuild.Domain

/-! ## Offsets -/

/-- Where the box with index `i` begins, when boxes of these sizes stand `gap` apart. -/
def offset (gap : Int) (sizes : List Int) (i : Nat) : Int := (sizes.take i).sum + gap * i

section Offsets

variable {gap : Int} {sizes : List Int}

@[simp] theorem offset_zero : offset gap sizes 0 = 0 := by simp [offset]

theorem offset_cons (size : Int) (i : Nat) :
    offset gap (size :: sizes) (i + 1) = size + gap + offset gap sizes i := by
  simp only [offset, List.take_succ_cons, List.sum_cons, Nat.cast_add, Nat.cast_one]
  ring

theorem offset_succ {i : Nat} {size : Int} (h : sizes[i]? = some size) :
    offset gap sizes (i + 1) = offset gap sizes i + size + gap := by
  rw [offset, offset, List.take_add_one, h, List.sum_append]
  push_cast
  simp
  ring

theorem offset_mono (hgap : 0 ≤ gap) (hsizes : ∀ size ∈ sizes, 0 ≤ size) {i j : Nat} (hij : i ≤ j)
    (hj : j ≤ sizes.length) : offset gap sizes i ≤ offset gap sizes j := by
  induction j with
  | zero =>
    obtain rfl : i = 0 := by omega
    exact le_refl _
  | succ j ih =>
    rcases Nat.lt_or_ge j i with hlt | hge
    · obtain rfl : i = j + 1 := by omega
      exact le_refl _
    · have hget := List.getElem?_eq_getElem (l := sizes) (i := j) (by omega)
      have hprev := ih hge (by omega)
      have hsize := hsizes _ (List.getElem_mem (l := sizes) (n := j) (by omega))
      rw [offset_succ hget]
      omega

/-- A later box begins after an earlier one and the gap. -/
theorem offset_after (hgap : 0 ≤ gap) (hsizes : ∀ size ∈ sizes, 0 ≤ size) {i j : Nat} {size : Int}
    (hij : i < j) (hj : j ≤ sizes.length) (h : sizes[i]? = some size) :
    offset gap sizes i + size + gap ≤ offset gap sizes j := by
  rw [← offset_succ h]
  exact offset_mono hgap hsizes hij hj

/-- The last box ends where the sizes and the gaps between them add up to. -/
theorem offset_last {i : Nat} {size : Int} (h : sizes[i]? = some size)
    (hlast : i + 1 = sizes.length) :
    offset gap sizes i + size = sizes.sum + gap * (sizes.length - 1) := by
  have hsucc := @offset_succ gap sizes i size h
  rw [hlast] at hsucc
  have hall : offset gap sizes sizes.length = sizes.sum + gap * sizes.length := by
    rw [offset, List.take_length]
  have hexpand : gap * ((sizes.length : Int) - 1) = gap * sizes.length - gap := by ring
  omega

end Offsets

/-! ## Allocation -/

/-- What an allocation gives: sizes that fill the total with the gaps, nearly equal. -/
structure Allocated (total : Int) (count : Nat) (gap : Int) (sizes : List Int) : Prop where
  length : sizes.length = count
  fills : sizes.sum + gap * (count - 1) = total
  nonneg : ∀ size ∈ sizes, 0 ≤ size
  near : ∀ a ∈ sizes, ∀ b ∈ sizes, a ≤ b + 1

theorem allocated_of_ok {total gap : Int} {count : Nat} {sizes : List Int} (hcount : 0 < count)
    (h : allocate total count gap = .ok sizes) : Allocated total count gap sizes := by
  simp only [allocate, bind_eq_ok, require_eq_ok, decide_eq_true_eq] at h
  obtain ⟨-, husable, hsizes⟩ := h
  obtain rfl := Except.ok.inj hsizes
  have hpos : (0 : Int) < count := by omega
  have hlength := length_equalShares (total - gap * (count - 1)) count
  have hquotient : 0 ≤ (total - gap * (count - 1)) / count := Int.ediv_nonneg husable.le hpos.le
  have hsum : (equalShares (total - gap * (count - 1)) count).sum = total - gap * (count - 1) := by
    rw [← sum_entries hlength]
    exact (fair_equalShares _ hcount).sum
  -- every size is the quotient or one more
  have hsize : ∀ size ∈ equalShares (total - gap * (count - 1)) count,
      (total - gap * (count - 1)) / count ≤ size ∧
        size ≤ (total - gap * (count - 1)) / count + 1 := by
    intro size hsize
    obtain ⟨index, -, rfl⟩ := List.mem_map.mp hsize
    split
    · omega
    · omega
  refine ⟨hlength, by rw [hsum]; ring, fun size hmem => ?_, fun a ha b hb => ?_⟩
  · have := hsize size hmem
    omega
  · have := hsize a ha
    have := hsize b hb
    omega

/-! ## Cells -/

theorem mem_rowCells {gap z height x : Int} {row column : Nat} {columns : List (Int × Int)}
    {cell : Cell} (h : cell ∈ rowCells gap row z height column x columns) :
    ∃ i width load, columns[i]? = some (width, load) ∧
      cell = ⟨row, column + i, x + offset gap (columns.map Prod.fst) i, z, width, height, load⟩ := by
  induction columns generalizing column x with
  | nil => cases h
  | cons first columns ih =>
    obtain ⟨width, load⟩ := first
    rw [rowCells, List.mem_cons] at h
    rcases h with rfl | h
    · exact ⟨0, width, load, rfl, by simp⟩
    · obtain ⟨i, width', load', hget, rfl⟩ := ih h
      refine ⟨i + 1, width', load', hget, ?_⟩
      rw [List.map_cons, offset_cons]
      congr 1
      · omega
      · ring

theorem mem_gridCells {gap z : Int} {row : Nat} {columns : List (Int × Int)} {heights : List Int}
    {cell : Cell} (h : cell ∈ gridCells gap columns row z heights) :
    ∃ j i height width load, heights[j]? = some height ∧ columns[i]? = some (width, load) ∧
      cell = ⟨row + j, i, offset gap (columns.map Prod.fst) i, z + offset gap heights j, width,
        height, load⟩ := by
  induction heights generalizing row z with
  | nil => cases h
  | cons height heights ih =>
    rw [gridCells, List.mem_append] at h
    rcases h with h | h
    · obtain ⟨i, width, load, hget, rfl⟩ := mem_rowCells h
      refine ⟨0, i, height, width, load, rfl, hget, ?_⟩
      simp
    · obtain ⟨j, i, height', width, load, hheight, hget, rfl⟩ := ih h
      refine ⟨j + 1, i, height', width, load, hheight, hget, ?_⟩
      rw [offset_cons]
      congr 1
      · omega
      · ring

theorem rowCells_indices (gap z height x : Int) (row column : Nat) (columns : List (Int × Int)) :
    (rowCells gap row z height column x columns).map (fun cell => (cell.row, cell.column)) =
      (List.range' column columns.length).map fun c => (row, c) := by
  induction columns generalizing column x with
  | nil => rfl
  | cons first columns ih =>
    obtain ⟨width, load⟩ := first
    rw [rowCells, List.map_cons, ih, List.length_cons, List.range'_succ, List.map_cons]

theorem gridCells_indices (gap z : Int) (row : Nat) (columns : List (Int × Int))
    (heights : List Int) :
    (gridCells gap columns row z heights).map (fun cell => (cell.row, cell.column)) =
      List.product (List.range' row heights.length) (List.range columns.length) := by
  induction heights generalizing row z with
  | nil => rfl
  | cons height heights ih =>
    rw [gridCells, List.map_append, rowCells_indices, ih, List.length_cons, List.range'_succ,
      ← List.range_eq_range']
    rfl

/-! ## Parts -/

theorem length_partPlans {p : BookcaseParameters} {capture : Int} (hbase : p.baseCabinetCount = 0) :
    (partPlans p capture).length = 4 + p.verticalDividerCount +
      p.shelfCount * (p.verticalDividerCount + 1) +
      backCount p.backPanel p.verticalDividerCount + if p.plinthHeightUm ≠ 0 then 1 else 0 := by
  have hdividers : (dividerPlans p).length = p.verticalDividerCount := by
    rw [dividerPlans, List.length_map, List.length_take, length_bays]
    omega
  have hrows : (shelfRows p).length = p.shelfCount := by
    rw [shelfRows, List.length_map, List.length_zipIdx, BookcaseParameters.shelfPositions,
      length_allocateShelfPositionsUm]
  have hshelves : (shelfPlans p).length = p.shelfCount * (p.verticalDividerCount + 1) := by
    rw [shelfPlans, List.length_flatMap]
    simp only [List.length_map, length_bays, List.map_const', hrows, List.sum_replicate,
      smul_eq_mul]
  have hbacks : (backPlans p capture).length = backCount p.backPanel p.verticalDividerCount := by
    cases hpanel : p.backPanel with
    | none => simp [backPlans, backCount, hpanel]
    | surfaceMounted => simp [backPlans, backCount, hpanel]
    | insetGroove => simp [backPlans, backCount, hpanel, length_bays]
  have hplinth : (plinthPlans p).length = if p.plinthHeightUm ≠ 0 then 1 else 0 := by
    unfold plinthPlans
    split
    · rfl
    · rfl
  have hnone : basePlans p = [] := by
    rw [basePlans, if_neg (by simpa using hbase)]
  simp only [partPlans, List.length_append, hdividers, hshelves, hbacks, hplinth, hnone,
    List.length_cons, List.length_nil]
  omega

theorem length_parts_of_build {hashing : Hashing} {spec : BookcaseDesignSpec}
    {design : DesignResult} (h : build hashing spec = .ok design)
    (hbase : spec.parameters.baseCabinetCount = 0) :
    design.parts.length = 4 + spec.parameters.verticalDividerCount +
      spec.parameters.shelfCount * (spec.parameters.verticalDividerCount + 1) +
      backCount spec.parameters.backPanel spec.parameters.verticalDividerCount +
      if spec.parameters.plinthHeightUm ≠ 0 then 1 else 0 := by
  obtain ⟨c⟩ := compiled_of_build h
  rw [c.design_parts, List.length_map, collect_length c.parts_eq, length_partPlans hbase]

/-! ## Modules -/

section Modules

variable {Selection Report : Type} {env : PlanningEnv Selection Report}
  {workspace : FurnitureWorkspace Selection} {grid : FurnitureModuleGrid}
  {intent : ShelvingIntent} {planHash : String} {cell : Cell}
  {planned : PlannedModule Selection Report}

/-- The shelving of a draft. -/
def draftIntent (intent : ShelvingIntent) (grid : FurnitureModuleGrid) (cell : Cell) :
    ShelvingIntent :=
  { intent with
    widthUm := cell.widthUm
    heightUm := cell.heightUm
    shelfCount := grid.shelfCountPerRow.getD cell.row 0
    dividerCount := grid.dividerCountPerModule
    shelfLoadN := if intent.shelfLoadBasis = .perRow then cell.loadN else intent.shelfLoadN }

theorem draftOf_intent :
    (draftOf workspace intent grid planHash cell).design.intent =
      .shelving (draftIntent intent grid cell) := by
  cases hbasis : intent.shelfLoadBasis with
  | perRow => simp [draftOf, draftIntent, hbasis]
  | perMetre => simp [draftOf, draftIntent, hbasis]

/-- What the body of the loops makes of a cell. -/
structure MadeOf (intent : ShelvingIntent) (grid : FurnitureModuleGrid) (cell : Cell)
    (planned : PlannedModule Selection Report) : Prop where
  row : planned.row = cell.row
  column : planned.column = cell.column
  x : planned.xUm = cell.xUm
  y : planned.yUm = 0
  z : planned.zUm = cell.zUm
  width : planned.widthUm = cell.widthUm
  height : planned.heightUm = cell.heightUm
  depth : planned.depthUm = intent.depthUm
  load : planned.shelfRowPayloadN = cell.loadN
  draft : planned.workspace.design.intent = .shelving (draftIntent intent grid cell)
  parts : planned.preview.design.parts.length =
    moduleParts intent grid.dividerCountPerModule (grid.shelfCountPerRow.getD cell.row 0)

theorem madeOf_of_planModule (h : planModule env workspace intent grid planHash cell = .ok planned) :
    MadeOf intent grid cell planned := by
  simp only [planModule, bind_eq_ok, mapError_eq_ok] at h
  obtain ⟨preview, ⟨-, -, hpreview⟩, hplanned⟩ := h
  obtain rfl := Except.ok.inj hplanned
  simp only [previewFurniture, bind_eq_ok] at hpreview
  obtain ⟨design, hdesign, report, -, hresult⟩ := hpreview
  obtain rfl := Except.ok.inj hresult
  obtain ⟨shelving, hshelving, hparts, -⟩ := carcass_of_buildFurniture draftOf_intent hdesign
  obtain ⟨hspec, hbuild⟩ := carcassSpec_of_carcass hshelving
  refine ⟨rfl, rfl, rfl, rfl, rfl, rfl, rfl, rfl, rfl, draftOf_intent, ?_⟩
  show design.parts.length = _
  rw [hparts, length_parts_of_build hbuild (by rw [hspec.parameters]; rfl), hspec.parameters]
  rfl

/-- The draft of a cell resolves to the load of the cell. -/
theorem resolved_draftIntent (hload : intent.shelfLoadBasis = .perMetre →
      cell.loadN = (cell.widthUm * intent.shelfLoadPerMetreN + 999999) / 1000000) :
    (draftIntent intent grid cell).resolvedShelfLoadN = cell.loadN := by
  cases hbasis : intent.shelfLoadBasis with
  | perRow => simp [ShelvingIntent.resolvedShelfLoadN, draftIntent, hbasis]
  | perMetre =>
    rw [hload hbasis]
    simp [ShelvingIntent.resolvedShelfLoadN, draftIntent, hbasis]

end Modules

/-! ## Plans -/

section Plans

variable {Selection Report : Type}

/-- The boxes of the modules and the gaps between them fill the carcass of the source. -/
structure Tiles (intent : ShelvingIntent) (grid : FurnitureModuleGrid)
    (plan : ModulePlan Selection Report) : Prop where
  cells : plan.modules.map (fun m => (m.row, m.column)) =
    List.product (List.range grid.rows) (List.range grid.columns)
  apart : ∀ m ∈ plan.modules, ∀ n ∈ plan.modules, (m.row, m.column) ≠ (n.row, n.column) →
    m.xUm + m.widthUm ≤ n.xUm ∨ n.xUm + n.widthUm ≤ m.xUm ∨
      m.zUm + m.heightUm ≤ n.zUm ∨ n.zUm + n.heightUm ≤ m.zUm
  beside : ∀ m ∈ plan.modules, ∀ n ∈ plan.modules, m.row = n.row → n.column = m.column + 1 →
    n.xUm = m.xUm + m.widthUm + grid.gapUm ∧ n.zUm = m.zUm ∧ n.heightUm = m.heightUm
  above : ∀ m ∈ plan.modules, ∀ n ∈ plan.modules, m.column = n.column → n.row = m.row + 1 →
    n.zUm = m.zUm + m.heightUm + grid.gapUm ∧ n.xUm = m.xUm ∧ n.widthUm = m.widthUm
  left : ∀ m ∈ plan.modules, m.column = 0 → m.xUm = 0
  right : ∀ m ∈ plan.modules, m.column + 1 = grid.columns → m.xUm + m.widthUm = intent.widthUm
  bottom : ∀ m ∈ plan.modules, m.row = 0 → m.zUm = 0
  top : ∀ m ∈ plan.modules, m.row + 1 = grid.rows → m.zUm + m.heightUm = intent.heightUm
  depth : ∀ m ∈ plan.modules, m.yUm = 0 ∧ m.depthUm = intent.depthUm
  near : ∀ m ∈ plan.modules, ∀ n ∈ plan.modules,
    m.widthUm ≤ n.widthUm + 1 ∧ m.heightUm ≤ n.heightUm + 1

/-- Every draft resolves to the load of its column, and together they carry no less. -/
structure CarriesLoad (intent : ShelvingIntent) (grid : FurnitureModuleGrid)
    (plan : ModulePlan Selection Report) : Prop where
  drafts : ∀ m ∈ plan.modules, ∃ draft, m.workspace.design.intent = .shelving draft ∧
    draft.resolvedShelfLoadN = m.shelfRowPayloadN ∧
    plan.loadDistribution.moduleShelfRowPayloadNByColumn[m.column]? = some m.shelfRowPayloadN
  row : intent.resolvedShelfLoadN ≤ plan.loadDistribution.moduleShelfRowPayloadNByColumn.sum
  source : plan.loadDistribution.sourceTotalShelfPayloadN =
    intent.resolvedShelfLoadN * intent.shelfCount
  planned : plan.loadDistribution.plannedTotalShelfPayloadN =
    plan.loadDistribution.moduleShelfRowPayloadNByColumn.sum * grid.shelfCountPerRow.sum
  total : plan.loadDistribution.sourceTotalShelfPayloadN ≤
    plan.loadDistribution.plannedTotalShelfPayloadN

/-- Where a module stands: by the index of its row and of its column. -/
structure Placed (gap : Int) (widths heights loads : List Int)
    (m : PlannedModule Selection Report) : Prop where
  width : widths[m.column]? = some m.widthUm
  height : heights[m.row]? = some m.heightUm
  x : m.xUm = offset gap widths m.column
  z : m.zUm = offset gap heights m.row
  load : loads[m.column]? = some m.shelfRowPayloadN

theorem length_columnLoads (intent : ShelvingIntent) (widths : List Int) :
    (columnLoads intent widths).length = widths.length := by
  unfold columnLoads
  split
  · rw [List.length_map]
  · rw [List.length_map]

theorem placed_of_mem {intent : ShelvingIntent} {grid : FurnitureModuleGrid} {gap : Int}
    {widths heights loads : List Int} {cell : Cell} {m : PlannedModule Selection Report}
    (hloads : loads.length = widths.length)
    (hcell : cell ∈ gridCells gap (widths.zip loads) 0 0 heights) (h : MadeOf intent grid cell m) :
    Placed gap widths heights loads m := by
  obtain ⟨j, i, height, width, load, hheight, hcolumn, rfl⟩ := mem_gridCells hcell
  obtain ⟨hwidth, hload⟩ := List.getElem?_zip_eq_some.mp hcolumn
  have hrow : m.row = j := by rw [h.row, Nat.zero_add]
  have hfst : (widths.zip loads).map Prod.fst = widths := List.map_fst_zip hloads.ge
  refine ⟨?_, ?_, ?_, ?_, ?_⟩
  · rw [h.column, h.width, hwidth]
  · rw [hrow, h.height, hheight]
  · rw [h.column, h.x, hfst]
  · rw [hrow, h.z, Int.zero_add]
  · rw [h.column, h.load, hload]

theorem lt_length {sizes : List Int} {i : Nat} {size : Int} (h : sizes[i]? = some size) :
    i < sizes.length := (List.getElem?_eq_some_iff.mp h).1

/-- Two different cells of a grid lie apart. -/
theorem cells_apart {gap : Int} {widths heights : List Int} {i j k l : Nat} {w w' h h' : Int}
    (hgap : 0 ≤ gap) (hwidths : ∀ w ∈ widths, 0 ≤ w) (hheights : ∀ h ∈ heights, 0 ≤ h)
    (hw : widths[i]? = some w) (hh : heights[j]? = some h) (hw' : widths[k]? = some w')
    (hh' : heights[l]? = some h') (hne : (j, i) ≠ (l, k)) :
    offset gap widths i + w ≤ offset gap widths k ∨ offset gap widths k + w' ≤ offset gap widths i ∨
      offset gap heights j + h ≤ offset gap heights l ∨
      offset gap heights l + h' ≤ offset gap heights j := by
  rcases Nat.lt_trichotomy i k with hlt | heq | hgt
  · have := offset_after hgap hwidths hlt (lt_length hw').le hw
    omega
  · rcases Nat.lt_trichotomy j l with hlt | hrow | hgt
    · have := offset_after hgap hheights hlt (lt_length hh').le hh
      omega
    · exact absurd (by rw [hrow, heq]) hne
    · have := offset_after hgap hheights hgt (lt_length hh).le hh'
      omega
  · have := offset_after hgap hwidths hgt (lt_length hw).le hw'
    omega

/-- Placed modules of two different cells stand apart. -/
theorem apart_of_placed {gap : Int} {widths heights loads : List Int}
    {m n : PlannedModule Selection Report} (hgap : 0 ≤ gap) (hwidths : ∀ w ∈ widths, 0 ≤ w)
    (hheights : ∀ h ∈ heights, 0 ≤ h) (hm : Placed gap widths heights loads m)
    (hn : Placed gap widths heights loads n) (hne : (m.row, m.column) ≠ (n.row, n.column)) :
    m.xUm + m.widthUm ≤ n.xUm ∨ n.xUm + n.widthUm ≤ m.xUm ∨
      m.zUm + m.heightUm ≤ n.zUm ∨ n.zUm + n.heightUm ≤ m.zUm := by
  rw [hm.x, hn.x, hm.z, hn.z]
  exact cells_apart hgap hwidths hheights hm.width hm.height hn.width hn.height hne

theorem tiles_of_placed {intent : ShelvingIntent} {grid : FurnitureModuleGrid}
    {plan : ModulePlan Selection Report} {widths heights loads : List Int} (hgap : 0 ≤ grid.gapUm)
    (hwidths : Allocated intent.widthUm grid.columns grid.gapUm widths)
    (hheights : Allocated intent.heightUm grid.rows grid.gapUm heights)
    (hcells : plan.modules.map (fun m => (m.row, m.column)) =
      List.product (List.range grid.rows) (List.range grid.columns))
    (hplaced : ∀ m ∈ plan.modules, Placed grid.gapUm widths heights loads m)
    (hdepth : ∀ m ∈ plan.modules, m.yUm = 0 ∧ m.depthUm = intent.depthUm) :
    Tiles intent grid plan := by
  refine ⟨hcells, ?_, ?_, ?_, ?_, ?_, ?_, ?_, hdepth, ?_⟩
  · intro m hm n hn hne
    exact apart_of_placed hgap hwidths.nonneg hheights.nonneg (hplaced m hm) (hplaced n hn) hne
  · intro m hm n hn hrow hcolumn
    have hheight := (hplaced n hn).height
    rw [← hrow, (hplaced m hm).height] at hheight
    rw [(hplaced n hn).x, hcolumn, offset_succ (hplaced m hm).width, (hplaced m hm).x,
      (hplaced n hn).z, (hplaced m hm).z, hrow]
    exact ⟨rfl, rfl, (Option.some.inj hheight).symm⟩
  · intro m hm n hn hcolumn hrow
    have hwidth := (hplaced n hn).width
    rw [← hcolumn, (hplaced m hm).width] at hwidth
    rw [(hplaced n hn).z, hrow, offset_succ (hplaced m hm).height, (hplaced m hm).z,
      (hplaced n hn).x, (hplaced m hm).x, hcolumn]
    exact ⟨rfl, rfl, (Option.some.inj hwidth).symm⟩
  · intro m hm hcolumn
    rw [(hplaced m hm).x, hcolumn, offset_zero]
  · intro m hm hcolumn
    rw [(hplaced m hm).x, offset_last (hplaced m hm).width (by rw [hwidths.length, hcolumn]),
      hwidths.length, hwidths.fills]
  · intro m hm hrow
    rw [(hplaced m hm).z, hrow, offset_zero]
  · intro m hm hrow
    rw [(hplaced m hm).z, offset_last (hplaced m hm).height (by rw [hheights.length, hrow]),
      hheights.length, hheights.fills]
  · intro m hm n hn
    exact ⟨hwidths.near _ (List.mem_of_getElem? (hplaced m hm).width) _
        (List.mem_of_getElem? (hplaced n hn).width),
      hheights.near _ (List.mem_of_getElem? (hplaced m hm).height) _
        (List.mem_of_getElem? (hplaced n hn).height)⟩

theorem sum_product_fst (f : Nat → Nat) (rows columns : List Nat) :
    ((List.product rows columns).map fun index => f index.1).sum =
      columns.length * (rows.map f).sum := by
  induction rows with
  | nil => simp [List.product]
  | cons row rows ih =>
    have hcons : List.product (row :: rows) columns =
        columns.map (fun column => (row, column)) ++ List.product rows columns := rfl
    rw [hcons, List.map_append, List.sum_append, ih, List.map_map, List.map_cons, List.sum_cons,
      Nat.mul_add]
    congr 1
    rw [Function.comp_def]
    simp only [List.map_const', List.sum_replicate, smul_eq_mul]

theorem map_getD_range (counts : List Nat) :
    (List.range counts.length).map (fun row => counts.getD row 0) = counts := by
  refine List.ext_getElem (by simp) fun i hi hi' => ?_
  simp [List.getD_eq_getElem?_getD, hi']

/-- The load of a column, when loads are taken by the metre. -/
theorem load_perMetre {intent : ShelvingIntent} {widths : List Int} {i : Nat} {width load : Int}
    (hbasis : intent.shelfLoadBasis = .perMetre) (hwidth : widths[i]? = some width)
    (hload : (columnLoads intent widths)[i]? = some load) :
    load = (width * intent.shelfLoadPerMetreN + 999999) / 1000000 := by
  rw [columnLoads, hbasis] at hload
  simp only [List.getElem?_map, hwidth, Option.map_some, Option.some.injEq] at hload
  exact hload.symm

theorem resolved_nonneg {intent : ShelvingIntent} (h : intent.validate = .ok ()) :
    0 ≤ intent.resolvedShelfLoadN := by
  simp only [ShelvingIntent.validate, checkLengths, inRange, bind_eq_ok, require_eq_ok, exists_const,
    Bool.and_eq_true, decide_eq_true_eq] at h
  obtain ⟨⟨hwidth, -⟩, -, -, hload, hmetre, -⟩ := h
  unfold ShelvingIntent.resolvedShelfLoadN
  split
  · have := Int.mul_nonneg (by omega : 0 ≤ intent.widthUm) hmetre.1
    omega
  · exact hload.1

/-- What a complete plan of a shelving intent is. -/
theorem plan_of_planShelving {env : PlanningEnv Selection Report}
    {workspace : FurnitureWorkspace Selection} {grid : FurnitureModuleGrid}
    {current : Preview Report} {intent : ShelvingIntent} {plan : ModulePlan Selection Report}
    (hintent : intent.validate = .ok ()) (hgrid : grid.validate = .ok ())
    (h : planShelving env workspace grid current intent = .ok plan) :
    Tiles intent grid plan ∧ CarriesLoad intent grid plan ∧
      plan.partCount = (plan.modules.map fun m => m.preview.design.parts.length).sum ∧
      estimatedParts intent grid = plan.partCount := by
  simp only [FurnitureModuleGrid.validate, inRange, bind_eq_ok, require_eq_ok, exists_const,
    Bool.and_eq_true, decide_eq_true_eq, beq_iff_eq] at hgrid
  obtain ⟨hcolumns, hrows, hgap, -, -, -, -, hcounts⟩ := hgrid
  simp only [planShelving, bind_eq_ok, mapError_eq_ok, require_eq_ok, decide_eq_true_eq] at h
  obtain ⟨⟨⟩, hcheck, widths, hwidths, heights, hheights, -, hload, modules, hmodules, -, -,
    hplan⟩ := h
  obtain rfl := Except.ok.inj hplan
  simp only [checkSource, bind_eq_ok, require_eq_ok, exists_const, decide_eq_true_eq] at hcheck
  obtain ⟨-, -, -, hcapacity, -⟩ := hcheck
  have hcolumnSizes := allocated_of_ok (by omega) hwidths
  have hrowSizes := allocated_of_ok (by omega) hheights
  have hloads := length_columnLoads intent widths
  have hindices : (gridCells grid.gapUm (widths.zip (columnLoads intent widths)) 0 0 heights).map
      (fun cell => (cell.row, cell.column)) =
        List.product (List.range grid.rows) (List.range grid.columns) := by
    rw [gridCells_indices, hrowSizes.length, List.length_zip, hloads, Nat.min_self,
      hcolumnSizes.length, ← List.range_eq_range']
  -- every module is made of a cell of the grid
  have hmade : ∀ m ∈ modules, ∃ cell ∈ gridCells grid.gapUm
      (widths.zip (columnLoads intent widths)) 0 0 heights, MadeOf intent grid cell m := by
    intro m hm
    obtain ⟨cell, hcell, hok⟩ := mem_of_collect hmodules hm
    exact ⟨cell, hcell, madeOf_of_planModule hok⟩
  have hplaced : ∀ m ∈ modules,
      Placed grid.gapUm widths heights (columnLoads intent widths) m := by
    intro m hm
    obtain ⟨cell, hcell, hof⟩ := hmade m hm
    exact placed_of_mem hloads hcell hof
  have hcells : modules.map (fun m => (m.row, m.column)) =
      List.product (List.range grid.rows) (List.range grid.columns) := by
    rw [← hindices]
    refine map_of_collect hmodules fun cell _ m hok => ?_
    have hof := madeOf_of_planModule hok
    rw [hof.row, hof.column]
  have hparts : (modules.map fun m => m.preview.design.parts.length) =
      (List.product (List.range grid.rows) (List.range grid.columns)).map fun index =>
        moduleParts intent grid.dividerCountPerModule (grid.shelfCountPerRow.getD index.1 0) := by
    rw [← hindices, List.map_map]
    exact map_of_collect hmodules fun cell _ m hok => (madeOf_of_planModule hok).parts
  refine ⟨tiles_of_placed hgap.1 hcolumnSizes hrowSizes hcells hplaced ?_, ?_, rfl, ?_⟩
  · intro m hm
    obtain ⟨cell, -, hof⟩ := hmade m hm
    exact ⟨hof.y, hof.depth⟩
  · refine ⟨fun m hm => ?_, hload, rfl, rfl, ?_⟩
    · obtain ⟨cell, hcell, hof⟩ := hmade m hm
      have hm := hplaced m hm
      refine ⟨draftIntent intent grid cell, hof.draft, ?_, hm.load⟩
      rw [hof.load]
      refine resolved_draftIntent fun hbasis => ?_
      have hcolumn := load_perMetre hbasis hm.width hm.load
      rw [← hof.load, ← hof.width]
      exact hcolumn
    · have hcast : (intent.shelfCount : Int) ≤ (grid.shelfCountPerRow.sum : Nat) := by
        exact_mod_cast hcapacity
      have hsource := resolved_nonneg hintent
      show intent.resolvedShelfLoadN * intent.shelfCount ≤
        (columnLoads intent widths).sum * (grid.shelfCountPerRow.sum : Nat)
      exact mul_le_mul hload hcast (by omega) (by omega)
  · rw [hparts, estimatedParts]
    rw [sum_product_fst fun row =>
      moduleParts intent grid.dividerCountPerModule (grid.shelfCountPerRow.getD row 0)]
    rw [List.length_range, ← hcounts]
    congr 2
    conv_lhs => rw [← map_getD_range grid.shelfCountPerRow]
    rw [List.map_map]
    rfl

/-- A plan that is available tiles its source, carries no less than it, and has as many parts as
    were estimated. -/
theorem module_plan_tiles (env : PlanningEnv Selection Report)
    (workspace : FurnitureWorkspace Selection) (grid : FurnitureModuleGrid)
    (plan : ModulePlan Selection Report)
    (h : planFurnitureModules env workspace grid = .ok (.ok plan)) :
    ∃ intent, workspace.design.intent = .shelving intent ∧ Tiles intent grid plan ∧
      CarriesLoad intent grid plan ∧
      plan.partCount = (plan.modules.map fun m => m.preview.design.parts.length).sum ∧
      estimatedParts intent grid = plan.partCount := by
  simp only [planFurnitureModules, bind_eq_ok] at h
  obtain ⟨⟨⟩, hworkspace, ⟨⟩, hgrid, current, -, hplan⟩ := h
  cases hintent : workspace.design.intent with
  | shelving intent =>
    rw [hintent] at hplan
    have hvalid : intent.validate = .ok () := by
      simp only [FurnitureWorkspace.validate, FurnitureDesign.validate, bind_eq_ok] at hworkspace
      obtain ⟨-, -, ⟨⟩, hvalid, -⟩ := hworkspace
      rw [hintent] at hvalid
      exact hvalid
    exact ⟨intent, rfl, plan_of_planShelving hvalid hgrid (Except.ok.inj hplan)⟩
  | table intent =>
    rw [hintent] at hplan
    cases hplan
  | chest intent =>
    rw [hintent] at hplan
    cases hplan

end Plans

/-! Two low shelving modules side by side, 5 mm apart, in place of one. -/

namespace TwoModules

def env : PlanningEnv Unit Unit where
  furniture := {
    hashing := namedHashing
    furnitureHash := fun _ _ _ => ""
    otherFamily := fun _ => .error (.message "") }
  report _ _ := .ok ()
  workspaceHash _ := ""
  planHash _ _ _ := "0"

def intent : ShelvingIntent :=
  { widthUm := 900000, heightUm := 600000, depthUm := 300000, shelfCount := 1, dividerCount := 0
    backPanel := .none }

def workspace : FurnitureWorkspace Unit := { design := { intent := .shelving intent } }

def grid : FurnitureModuleGrid :=
  { columns := 2, rows := 1, gapUm := 5001, shelfCountPerRow := [1] }

theorem module_plan_tiles_two : ∃ plan,
    planFurnitureModules env workspace grid = .ok (.ok plan) ∧
      ∃ intent, workspace.design.intent = .shelving intent ∧ Tiles intent grid plan ∧
        CarriesLoad intent grid plan ∧
        plan.partCount = (plan.modules.map fun m => m.preview.design.parts.length).sum ∧
        estimatedParts intent grid = plan.partCount := by
  have hplanned : okAnd (planFurnitureModules env workspace grid) Except.isOk = true := by
    decide +kernel
  obtain ⟨answer, hanswer, hok⟩ := exists_of_okAnd hplanned
  obtain ⟨plan, rfl⟩ := exists_eq_ok hok
  exact ⟨plan, hanswer, module_plan_tiles env workspace grid plan hanswer⟩

end TwoModules

end Custombuild.Manufacturing
