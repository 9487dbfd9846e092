/-
  A module plan that the browser accepts fills the envelope of its source exactly, with drafts that
  differ from the source only in what a module changes (`module_plan_check_exact`).
-/
import Custombuild.Web.ModulePlanAgreement

namespace Custombuild.Web.Furniture

open Custombuild.Lib Custombuild.Domain Custombuild.Manufacturing
open Custombuild.Cam (isSha256)

/-! ## What an accepted plan is -/

section Exact

variable {gap : Int} {sizes : List Int}

/-- Between the first and the last box every place is in a box or in the gap after one. -/
theorem exists_box (hgap : 0 ≤ gap) {x : Int} (hx : 0 ≤ x)
    (h : x < sizes.sum + gap * (sizes.length - 1)) :
    ∃ i size, sizes[i]? = some size ∧ offset gap sizes i ≤ x ∧
      (x < offset gap sizes i + size ∨
        offset gap sizes i + size ≤ x ∧ x < offset gap sizes (i + 1) ∧ i + 1 < sizes.length) := by
  induction sizes generalizing x with
  | nil =>
    simp only [List.sum_nil, List.length_nil, Nat.cast_zero] at h
    omega
  | cons size sizes ih =>
    rw [List.sum_cons, List.length_cons, Nat.cast_add, Nat.cast_one] at h
    have hexpand : gap * ((sizes.length : Int) + 1 - 1) = gap * (sizes.length - 1) + gap := by ring
    have hfirst : offset gap (size :: sizes) 1 = size + gap := by
      rw [offset_cons, offset_zero, add_zero]
    rcases lt_or_ge x size with hin | hpast
    · exact ⟨0, size, rfl, by rw [offset_zero]; exact hx, .inl (by rw [offset_zero]; omega)⟩
    rcases lt_or_ge x (size + gap) with hbetween | hnext
    · refine ⟨0, size, rfl, by rw [offset_zero]; exact hx, .inr ⟨by rw [offset_zero]; omega, ?_, ?_⟩⟩
      · rw [hfirst]
        exact hbetween
      · cases sizes with
        | nil =>
          simp only [List.sum_nil, List.length_nil, Nat.cast_zero] at h
          omega
        | cons second sizes =>
          simp only [List.length_cons]
          omega
    · obtain ⟨i, found, hget, hlow, hhigh⟩ := ih (x := x - (size + gap)) (by omega) (by omega)
      refine ⟨i + 1, found, hget, ?_, ?_⟩
      · rw [offset_cons]
        omega
      · rw [offset_cons, offset_cons, List.length_cons]
        omega

/-- Where the box of a draft stands. -/
structure Stands (gap depth : Int) (widths heights : List Int) (m : ModuleDraftDocument) :
    Prop where
  width : widths[m.column]? = some m.dimensionsUm.widthUm
  height : heights[m.row]? = some m.dimensionsUm.heightUm
  depth : m.dimensionsUm.depthUm = depth
  x : m.placement.xUm = offset gap widths m.column
  y : m.placement.yUm = 0
  z : m.placement.zUm = offset gap heights m.row

/-- The boxes of the drafts, one for each position of the grid, and the gaps between them fill the
    envelope of the source. -/
structure TilesEnvelope (intent : IntentDocument) (grid : FurnitureModuleGrid)
    (modules : List ModuleDraftDocument) : Prop where
  cells : (modules.map fun m => (m.row, m.column)).Perm
    (List.product (List.range grid.rows) (List.range grid.columns))
  distinct : (modules.map ModuleDraftDocument.moduleId).Nodup
  apart : ∀ m ∈ modules, ∀ n ∈ modules, (m.row, m.column) ≠ (n.row, n.column) →
    m.placement.xUm + m.dimensionsUm.widthUm ≤ n.placement.xUm ∨
      n.placement.xUm + n.dimensionsUm.widthUm ≤ m.placement.xUm ∨
      m.placement.zUm + m.dimensionsUm.heightUm ≤ n.placement.zUm ∨
      n.placement.zUm + n.dimensionsUm.heightUm ≤ m.placement.zUm
  inside : ∀ m ∈ modules,
    (0 < m.dimensionsUm.widthUm ∧ 0 < m.dimensionsUm.heightUm) ∧
      (0 ≤ m.placement.xUm ∧ m.placement.xUm + m.dimensionsUm.widthUm ≤ intent.widthUm) ∧
      (0 ≤ m.placement.zUm ∧ m.placement.zUm + m.dimensionsUm.heightUm ≤ intent.heightUm) ∧
      m.placement.yUm = 0 ∧ m.dimensionsUm.depthUm = intent.depthUm
  beside : ∀ m ∈ modules, ∀ n ∈ modules, m.row = n.row → n.column = m.column + 1 →
    n.placement.xUm = m.placement.xUm + m.dimensionsUm.widthUm + grid.gapUm ∧
      n.placement.zUm = m.placement.zUm ∧ n.dimensionsUm.heightUm = m.dimensionsUm.heightUm
  above : ∀ m ∈ modules, ∀ n ∈ modules, m.column = n.column → n.row = m.row + 1 →
    n.placement.zUm = m.placement.zUm + m.dimensionsUm.heightUm + grid.gapUm ∧
      n.placement.xUm = m.placement.xUm ∧ n.dimensionsUm.widthUm = m.dimensionsUm.widthUm
  filled : ∀ x z, 0 ≤ x → x < intent.widthUm → 0 ≤ z → z < intent.heightUm →
    (∃ m ∈ modules,
      (m.placement.xUm ≤ x ∧ x < m.placement.xUm + m.dimensionsUm.widthUm) ∧
        m.placement.zUm ≤ z ∧ z < m.placement.zUm + m.dimensionsUm.heightUm) ∨
      (∃ m ∈ modules, ∃ n ∈ modules, m.row = n.row ∧ n.column = m.column + 1 ∧
        m.placement.xUm + m.dimensionsUm.widthUm ≤ x ∧ x < n.placement.xUm) ∨
      ∃ m ∈ modules, ∃ n ∈ modules, m.column = n.column ∧ n.row = m.row + 1 ∧
        m.placement.zUm + m.dimensionsUm.heightUm ≤ z ∧ z < n.placement.zUm

/-- What the checks of the layout leave. -/
structure Divides (intent : IntentDocument) (grid : FurnitureModuleGrid) (widths heights : List Int) :
    Prop where
  columns : widths.length = grid.columns
  rows : heights.length = grid.rows
  positive : ∀ size ∈ widths ++ heights, 0 < size
  width : widths.sum + grid.gapUm * (grid.columns - 1) = intent.widthUm
  height : heights.sum + grid.gapUm * (grid.rows - 1) = intent.heightUm

theorem Stands.apart {depth : Int} {widths heights : List Int} {m n : ModuleDraftDocument}
    (hgap : 0 ≤ gap) (hwidths : ∀ w ∈ widths, 0 ≤ w) (hheights : ∀ h ∈ heights, 0 ≤ h)
    (hm : Stands gap depth widths heights m) (hn : Stands gap depth widths heights n)
    (hne : (m.row, m.column) ≠ (n.row, n.column)) :
    m.placement.xUm + m.dimensionsUm.widthUm ≤ n.placement.xUm ∨
      n.placement.xUm + n.dimensionsUm.widthUm ≤ m.placement.xUm ∨
      m.placement.zUm + m.dimensionsUm.heightUm ≤ n.placement.zUm ∨
      n.placement.zUm + n.dimensionsUm.heightUm ≤ m.placement.zUm := by
  rw [hm.x, hn.x, hm.z, hn.z]
  exact cells_apart hgap hwidths hheights hm.width hm.height hn.width hn.height hne

/-- A box begins after the start and ends before the end. -/
theorem offset_inside (hgap : 0 ≤ gap) (hsizes : ∀ size ∈ sizes, 0 ≤ size) {i : Nat} {size : Int}
    (h : sizes[i]? = some size) :
    0 ≤ offset gap sizes i ∧
      offset gap sizes i + size ≤ sizes.sum + gap * (sizes.length - 1) := by
  have hi := lt_length h
  have hlow := offset_mono hgap hsizes (Nat.zero_le i) hi.le
  have hhigh := offset_mono hgap hsizes hi (le_refl _)
  have hall : offset gap sizes sizes.length = sizes.sum + gap * sizes.length := by
    rw [offset, List.take_length]
  have hexpand : gap * ((sizes.length : Int) - 1) = gap * sizes.length - gap := by ring
  rw [offset_zero] at hlow
  rw [offset_succ h, hall] at hhigh
  exact ⟨hlow, by omega⟩

theorem tilesEnvelope_of_stands {intent : IntentDocument} {grid : FurnitureModuleGrid}
    {widths heights : List Int} {modules : List ModuleDraftDocument} (hgap : 0 ≤ grid.gapUm)
    (hdivides : Divides intent grid widths heights)
    (hcells : (modules.map fun m => (m.row, m.column)).Perm
      (List.product (List.range grid.rows) (List.range grid.columns)))
    (hdistinct : (modules.map ModuleDraftDocument.moduleId).Nodup)
    (hstands : ∀ m ∈ modules, Stands grid.gapUm intent.depthUm widths heights m) :
    TilesEnvelope intent grid modules := by
  have hwidths : ∀ w ∈ widths, 0 ≤ w := fun w hw =>
    (hdivides.positive w (List.mem_append_left _ hw)).le
  have hheights : ∀ h ∈ heights, 0 ≤ h := fun h hh =>
    (hdivides.positive h (List.mem_append_right _ hh)).le
  have hfind : ∀ {row column : Nat}, row < heights.length → column < widths.length →
      ∃ m ∈ modules, m.row = row ∧ m.column = column := by
    intro row column hrow hcolumn
    have hmem : (row, column) ∈ List.product (List.range grid.rows) (List.range grid.columns) :=
      List.mem_product.mpr ⟨List.mem_range.mpr (by rwa [← hdivides.rows]),
        List.mem_range.mpr (by rwa [← hdivides.columns])⟩
    obtain ⟨m, hm, heq⟩ := List.mem_map.mp (hcells.mem_iff.mpr hmem)
    rw [Prod.mk.injEq] at heq
    exact ⟨m, hm, heq.1, heq.2⟩
  refine ⟨hcells, hdistinct, fun m hm n hn hne =>
    (hstands m hm).apart hgap hwidths hheights (hstands n hn) hne, ?_, ?_, ?_, ?_⟩
  · intro m hm
    obtain ⟨hwidth, hheight, hdepth, hx, hy, hz⟩ := hstands m hm
    have hxs := offset_inside hgap hwidths hwidth
    have hzs := offset_inside hgap hheights hheight
    rw [hdivides.columns, hdivides.width] at hxs
    rw [hdivides.rows, hdivides.height] at hzs
    rw [hx, hz]
    exact ⟨⟨hdivides.positive _ (List.mem_append_left _ (List.mem_of_getElem? hwidth)),
      hdivides.positive _ (List.mem_append_right _ (List.mem_of_getElem? hheight))⟩, hxs, hzs, hy,
      hdepth⟩
  · intro m hm n hn hrow hcolumn
    have hheight := (hstands n hn).height
    rw [← hrow, (hstands m hm).height] at hheight
    rw [(hstands n hn).x, hcolumn, offset_succ (hstands m hm).width, (hstands m hm).x,
      (hstands n hn).z, (hstands m hm).z, hrow]
    exact ⟨rfl, rfl, (Option.some.inj hheight).symm⟩
  · intro m hm n hn hcolumn hrow
    have hwidth := (hstands n hn).width
    rw [← hcolumn, (hstands m hm).width] at hwidth
    rw [(hstands n hn).z, hrow, offset_succ (hstands m hm).height, (hstands m hm).z,
      (hstands n hn).x, (hstands m hm).x, hcolumn]
    exact ⟨rfl, rfl, (Option.some.inj hwidth).symm⟩
  · intro x z hx hxEnd hz hzEnd
    rw [← hdivides.width, ← hdivides.columns] at hxEnd
    rw [← hdivides.height, ← hdivides.rows] at hzEnd
    obtain ⟨column, width, hwidth, hxLow, hxHigh⟩ := exists_box hgap hx hxEnd
    obtain ⟨row, height, hheight, hzLow, hzHigh⟩ := exists_box hgap hz hzEnd
    obtain ⟨m, hm, rfl, rfl⟩ := hfind (lt_length hheight) (lt_length hwidth)
    have hmStands := hstands m hm
    rw [hmStands.width, Option.some.injEq] at hwidth
    rw [hmStands.height, Option.some.injEq] at hheight
    subst hwidth hheight
    rcases hxHigh with hxIn | ⟨hxPast, hxNext, hcolumn⟩
    · rcases hzHigh with hzIn | ⟨hzPast, hzNext, hrow⟩
      · left
        refine ⟨m, hm, ?_⟩
        rw [hmStands.x, hmStands.z]
        exact ⟨⟨hxLow, hxIn⟩, hzLow, hzIn⟩
      · obtain ⟨n, hn, hnRow, hnColumn⟩ := hfind hrow (lt_length hmStands.width)
        refine .inr (.inr ⟨m, hm, n, hn, hnColumn.symm, hnRow, ?_⟩)
        rw [hmStands.z, (hstands n hn).z, hnRow]
        exact ⟨hzPast, hzNext⟩
    · obtain ⟨n, hn, hnRow, hnColumn⟩ := hfind (lt_length hmStands.height) hcolumn
      refine .inr (.inl ⟨m, hm, n, hn, hnRow.symm, hnColumn, ?_⟩)
      rw [hmStands.x, (hstands n hn).x, hnColumn]
      exact ⟨hxPast, hxNext⟩

end Exact

/-! ## What an accepted draft is -/

/-- A draft differs from its source in its identity, its measures, its counts and its row load. -/
structure ChangesOnly {Selection : Type} (source draft : FurnitureWorkspace Selection) : Prop where
  intent : ∃ p q, source.design.intent = .shelving p ∧ draft.design.intent = .shelving q ∧
    q = { p with
      widthUm := q.widthUm
      heightUm := q.heightUm
      shelfCount := q.shelfCount
      dividerCount := q.dividerCount
      shelfLoadN := if p.shelfLoadBasis = .perRow then q.shelfLoadN else p.shelfLoadN }
  rest : draft = { source with design := { source.design with
    designId := draft.design.designId
    revision := draft.design.revision
    intent := draft.design.intent } }

section Drafts

variable {document : WorkspaceDocument} {workspace : FurnitureWorkspace ManufacturingSelection}
  {grid : FurnitureModuleGrid} {layout : LayoutDocument} {m : ModuleDraftDocument}

theorem family_of_identity {a b : IntentDocument} (h : identityIntent a = identityIntent b) :
    a.family = b.family := by
  have hfamily : ∀ intent : IntentDocument, (identityIntent intent).family = intent.family := by
    intro intent
    unfold identityIntent
    split
    · rfl
    · rfl
    · rfl
  rw [← hfamily a, h, hfamily b]

/-- A draft with a count of shelves belongs to a shelving workspace. -/
theorem shelving_of_restored (hread : readWorkspace document = .ok workspace)
    (hidentity : workspaceIdentity (restored document m.workspace) = workspaceIdentity document) :
    document.intent.family = .shelving := by
  obtain ⟨intent, manufacturing, hintent, -, -, -⟩ := readWorkspace_eq_ok.mp hread
  have hsame := congrArg WorkspaceDocument.intent hidentity
  simp only [workspaceIdentity] at hsame
  have hfamily := family_of_identity hsame
  have hcount := congrArg IntentDocument.shelfCount hsame
  cases hgiven : document.intent.family with
  | shelving => rfl
  | table | chestOfDrawers =>
    simp only [readIntent, hgiven, bind_eq_ok, require_eq_ok, IntentDocument.noShelving,
      Bool.and_eq_true, Option.isNone_iff_eq_none] at hintent
    obtain ⟨-, ⟨⟨⟨⟨⟨⟨⟨⟨⟨⟨hnone, -⟩, -⟩, -⟩, -⟩, -⟩, -⟩, -⟩, -⟩, -⟩, -⟩, -⟩ := hintent
    rw [hgiven] at hfamily
    simp only [identityIntent, hgiven, hfamily, hnone] at hcount
    simp [restored] at hcount

/-- A draft whose changed members are put back is read as a draft of shelving. -/
theorem readIntent_of_restored (hread : readWorkspace document = .ok workspace)
    (hidentity : workspaceIdentity (restored document m.workspace) = workspaceIdentity document) :
    readIntent m.workspace.intent = .ok (.shelving (readShelving m.workspace.intent)) ∧
      workspace.design.intent = .shelving (readShelving (restored document m.workspace).intent) := by
  have hfamily := shelving_of_restored hread hidentity
  obtain ⟨intent, manufacturing, hintent, -, rfl, -⟩ := readWorkspace_eq_ok.mp hread
  have hsame := congrArg WorkspaceDocument.intent hidentity
  simp only [workspaceIdentity] at hsame
  have hdraftFamily : m.workspace.intent.family = .shelving :=
    (family_of_identity hsame).trans hfamily
  have hrestoredFamily : (restored document m.workspace).intent.family = .shelving := hdraftFamily
  rw [← readIntent_eq hsame, readIntent, hrestoredFamily] at hintent
  simp only [bind_eq_ok, require_eq_ok] at hintent
  obtain ⟨-, hnone, hintent⟩ := hintent
  refine ⟨?_, (Except.ok.inj hintent).symm⟩
  rw [readIntent, hdraftFamily]
  exact bind_eq_ok.mpr ⟨(), require_eq_ok.mpr hnone, rfl⟩

/-- The row load is taken by the row unless the document says otherwise. -/
theorem perRow_iff (intent : IntentDocument) :
    (readShelving intent).shelfLoadBasis = .perRow ↔ intent.shelfLoadBasis ≠ some .perMetre := by
  cases hbasis : intent.shelfLoadBasis with
  | none => simp [readShelving, hbasis]
  | some basis =>
    cases basis with
    | perRow => simp [readShelving, hbasis]
    | perMetre => simp [readShelving, hbasis]

/-- What is read of a draft is what is read of its source, but for the members put back. -/
theorem readShelving_of_restored {draft : WorkspaceDocument}
    (h : readShelving (restored document draft).intent = readShelving document.intent) :
    readShelving draft.intent = { readShelving document.intent with
      widthUm := (readShelving draft.intent).widthUm
      heightUm := (readShelving draft.intent).heightUm
      shelfCount := (readShelving draft.intent).shelfCount
      dividerCount := (readShelving draft.intent).dividerCount
      shelfLoadN := if (readShelving document.intent).shelfLoadBasis = .perRow then
          (readShelving draft.intent).shelfLoadN
        else (readShelving document.intent).shelfLoadN } := by
  have hbasis := perRow_iff document.intent
  by_cases hmetre : document.intent.shelfLoadBasis = some .perMetre
  · rw [if_neg fun hrow => hbasis.mp hrow hmetre, ← h]
    simp [readShelving, restored, hmetre]
  · rw [if_pos (hbasis.mpr hmetre), ← h]
    simp [readShelving, restored]

/-- A draft is within the declared ranges when its source is. -/
theorem validate_of_changes {p q : ShelvingIntent} (hp : p.validate = .ok ())
    (hq : q = { p with
      widthUm := q.widthUm
      heightUm := q.heightUm
      shelfCount := q.shelfCount
      dividerCount := q.dividerCount
      shelfLoadN := if p.shelfLoadBasis = .perRow then q.shelfLoadN else p.shelfLoadN })
    (hwidth : 1 ≤ q.widthUm ∧ q.widthUm ≤ p.widthUm)
    (hheight : 1 ≤ q.heightUm ∧ q.heightUm ≤ p.heightUm) (hcount : q.shelfCount ≤ 40)
    (hdividers : q.dividerCount ≤ 16)
    (hload : p.shelfLoadBasis = .perRow → 0 ≤ q.shelfLoadN ∧ q.shelfLoadN ≤ 5000) :
    q.validate = .ok () := by
  obtain ⟨widthUm, heightUm, depthUm, shelfCount, dividerCount, shelfLoadN, shelfLoadBasis,
    shelfLoadPerMetreN, shelfHeightRatiosPpm, bayWidthRatiosPpm, backPanel, shelfMount,
    plinthHeightUm⟩ := q
  simp only [ShelvingIntent.mk.injEq, true_and] at hq
  obtain ⟨rfl, hshelfLoad, rfl, rfl, rfl, rfl, rfl, rfl, rfl⟩ := hq
  simp only [ShelvingIntent.validate, checkLengths, inRange, bind_eq_ok, require_eq_ok, exists_const,
    Bool.and_eq_true, decide_eq_true_eq] at hp hwidth hheight hcount hdividers hload ⊢
  obtain ⟨⟨hpWidth, hpHeight, hpDepth⟩, -, -, hpLoad, hpMetre, hpHeights, hpBays, hpPlinth, hpSum,
    hpResolved⟩ := hp
  have hrange : 0 ≤ shelfLoadN ∧ shelfLoadN ≤ 5000 := by
    rw [hshelfLoad]
    split
    · rename_i hbasis
      exact hload hbasis
    · exact hpLoad
  refine ⟨⟨by omega, by omega, hpDepth⟩, hcount, hdividers, hrange, hpMetre, hpHeights, hpBays,
    hpPlinth, hpSum, ?_⟩
  unfold ShelvingIntent.resolvedShelfLoadN at hpResolved ⊢
  cases hbasis : p.shelfLoadBasis with
  | perRow =>
    simp only
    exact hrange.2
  | perMetre =>
    simp only [hbasis] at hpResolved ⊢
    have hproduct : widthUm * p.shelfLoadPerMetreN ≤ p.widthUm * p.shelfLoadPerMetreN :=
      mul_le_mul_of_nonneg_right hwidth.2 hpMetre.1
    omega

/-- A share of a load, rounded up, is no more than the load. -/
theorem ceilDiv_share {load width total : Int} (hload : 0 ≤ load) (hwidth : 0 < width)
    (hle : width ≤ total) : 0 ≤ ceilDiv (load * width) total ∧ ceilDiv (load * width) total ≤ load := by
  have htotal : 0 < total := by omega
  have hproduct : load * width ≤ load * total := mul_le_mul_of_nonneg_left hle hload
  have hnonneg : 0 ≤ load * width := mul_nonneg hload hwidth.le
  rw [ceilDiv_eq htotal]
  refine ⟨Int.ediv_nonneg (by omega) htotal.le, ?_⟩
  rw [← Int.lt_add_one_iff, Int.ediv_lt_iff_lt_mul htotal]
  have hexpand : (load + 1) * total = load * total + total := by ring
  omega

/-- What the comparison of a draft leaves. -/
theorem stands_of_measures (h : measuresMatch document grid layout m = true)
    (hrow : m.row < layout.rowHeightsUm.length) (hcolumn : m.column < layout.columnWidthsUm.length) :
    Stands grid.gapUm document.intent.depthUm layout.columnWidthsUm layout.rowHeightsUm m ∧
      m.workspace.intent.widthUm = m.dimensionsUm.widthUm ∧
      m.workspace.intent.heightUm = m.dimensionsUm.heightUm ∧
      m.workspace.intent.shelfCount = grid.shelfCountPerRow[m.row]? ∧
      m.workspace.intent.dividerCount = some grid.dividerCountPerModule ∧
      (document.intent.shelfLoadBasis = some .perMetre ∨ m.workspace.intent.shelfLoadN =
        some (ceilDiv (document.intent.shelfLoadN.getD 200 * m.dimensionsUm.widthUm)
          layout.columnWidthsUm.sum)) := by
  simp only [measuresMatch, Bool.and_eq_true, Bool.or_eq_true, decide_eq_true_eq] at h
  obtain ⟨⟨⟨⟨⟨⟨⟨hdimensions, hwidth⟩, hheight⟩, -⟩, hcount⟩, hdividers⟩, hload⟩, hplacement⟩ := h
  have hboxWidth := congrArg DimensionsDocument.widthUm hdimensions
  have hboxHeight := congrArg DimensionsDocument.heightUm hdimensions
  have hboxDepth := congrArg DimensionsDocument.depthUm hdimensions
  simp only [List.getD_eq_getElem?_getD, List.getElem?_eq_getElem hcolumn,
    List.getElem?_eq_getElem hrow, Option.getD_some] at hboxWidth hboxHeight hwidth hheight hload
  refine ⟨⟨?_, ?_, hboxDepth, ?_, ?_, ?_⟩, ?_, ?_, hcount, hdividers, ?_⟩
  · rw [hboxWidth, List.getElem?_eq_getElem hcolumn]
  · rw [hboxHeight, List.getElem?_eq_getElem hrow]
  · rw [hplacement]
  · rw [hplacement]
  · rw [hplacement]
  · rw [hwidth, hboxWidth]
  · rw [hheight, hboxHeight]
  · rw [hboxWidth]
    exact hload

/-- The server reads an accepted draft, and finds it changed only where a module may be. -/
theorem readWorkspace_of_restored (hread : readWorkspace document = .ok workspace)
    (hgrid : grid.validate = .ok ())
    (hdivides : Divides document.intent grid layout.columnWidthsUm layout.rowHeightsUm)
    (hrow : m.row < grid.rows) (hcolumn : m.column < grid.columns)
    (hrevision : m.workspace.revision = 1)
    (hmeasures : measuresMatch document grid layout m = true)
    (hidentity : workspaceIdentity (restored document m.workspace) = workspaceIdentity document) :
    ∃ draft, readWorkspace m.workspace = .ok draft ∧ ChangesOnly workspace draft := by
  obtain ⟨hreadDraft, hsource⟩ := readIntent_of_restored hread hidentity
  obtain ⟨hstands, hwidth, hheight, hcount, hdividers, hload⟩ :=
    stands_of_measures hmeasures (by rwa [hdivides.rows]) (by rwa [hdivides.columns])
  have hfamily := shelving_of_restored hread hidentity
  obtain ⟨-, hshelving⟩ := readShelving_of_readWorkspace hread hsource
  obtain ⟨intent, manufacturing, hintent, hmanufacturing, rfl, hvalid⟩ := readWorkspace_eq_ok.mp hread
  simp only at hsource
  subst hsource
  have hsame := hidentity
  simp only [workspaceIdentity, restored, WorkspaceDocument.mk.injEq, true_and] at hsame
  obtain ⟨-, hmaterial, hback, hhardware, hinstallation, hselection⟩ := hsame
  have hreadSelection := readManufacturing_of_identity hselection.symm hmanufacturing
  have hkeeps := readShelving_of_restored hshelving
  rw [hshelving] at hvalid ⊢
  have hsourceValid := intent_of_validate rfl hvalid
  have hranges := gridRanges_of_validate hgrid
  have hpositive := hdivides.positive
  have hwidths : ∀ w ∈ layout.columnWidthsUm, 0 ≤ w := fun w hw =>
    (hpositive w (List.mem_append_left _ hw)).le
  have hheights : ∀ h ∈ layout.rowHeightsUm, 0 ≤ h := fun h hh =>
    (hpositive h (List.mem_append_right _ hh)).le
  have hboxWidth := hpositive _ (List.mem_append_left _ (List.mem_of_getElem? hstands.width))
  have hboxHeight := hpositive _ (List.mem_append_right _ (List.mem_of_getElem? hstands.height))
  have hxs := offset_inside hranges.gap hwidths hstands.width
  have hzs := offset_inside hranges.gap hheights hstands.height
  rw [hdivides.columns, hdivides.width] at hxs
  rw [hdivides.rows, hdivides.height] at hzs
  simp only [FurnitureModuleGrid.validate, bind_eq_ok, require_eq_ok, exists_const,
    Bool.and_eq_true, decide_eq_true_eq, List.all_eq_true] at hgrid
  obtain ⟨-, -, -, ⟨-, hcounts⟩, hdividerCount, -⟩ := hgrid
  have hrowIn : m.row < grid.shelfCountPerRow.length := by rwa [hranges.counts]
  rw [List.getElem?_eq_getElem hrowIn] at hcount
  have hdraftValid : (readShelving m.workspace.intent).validate = .ok () := by
    refine validate_of_changes hsourceValid hkeeps ?_ ?_ ?_ ?_ ?_
    · simp only [readShelving, hwidth]
      omega
    · simp only [readShelving, hheight]
      omega
    · simp only [readShelving, hcount, Option.getD_some]
      exact hcounts _ (List.getElem_mem hrowIn)
    · simp only [readShelving, hdividers, Option.getD_some]
      exact hdividerCount
    · intro hbasis
      have hsourceLoad : 0 ≤ document.intent.shelfLoadN.getD 200 ∧
          document.intent.shelfLoadN.getD 200 ≤ 5000 := by
        simp only [ShelvingIntent.validate, inRange, bind_eq_ok, require_eq_ok, Bool.and_eq_true,
          decide_eq_true_eq] at hsourceValid
        obtain ⟨-, -, -, -, -, -, -, hsourceLoad, -⟩ := hsourceValid
        exact hsourceLoad
      have hshare := ceilDiv_share hsourceLoad.1 hboxWidth
        (List.single_le_sum hwidths _ (List.mem_of_getElem? hstands.width))
      have hgiven := hload.resolve_left ((perRow_iff _).mp hbasis)
      simp only [readShelving, hgiven, Option.getD_some]
      omega
  refine ⟨_, readWorkspace_eq_ok.mpr ⟨_, _, hreadDraft, hreadSelection, rfl, ?_⟩,
    ⟨⟨_, _, rfl, rfl, hkeeps⟩, ?_⟩⟩
  · simp only [FurnitureWorkspace.validate, FurnitureDesign.validate, bind_eq_ok, require_eq_ok,
      exists_const, hmaterial, hback, hhardware, hinstallation, hrevision] at hvalid ⊢
    obtain ⟨-, -, -, hrest⟩ := hvalid
    exact ⟨rfl, (), hdraftValid, hrest⟩
  · simp only [hmaterial, hback, hhardware, hinstallation]

/-- The modules of an accepted plan fill the envelope of the source, and the drafts keep what a
    module may not change. -/
theorem exact_of_assertMatching (hread : readWorkspace document = .ok workspace)
    (hgrid : grid.validate = .ok ()) {plan : ModulePlanDocument} {designHash : String}
    (havailable : plan.state = .available)
    (h : assertMatchingFurnitureModulePlan plan document designHash grid = .ok ()) :
    TilesEnvelope document.intent grid plan.modules ∧ ∀ m ∈ plan.modules,
      ∃ draft, readWorkspace m.workspace = .ok draft ∧ ChangesOnly workspace draft := by
  have hranges := gridRanges_of_validate hgrid
  rw [assertMatchingFurnitureModulePlan, havailable] at h
  cases hlayout : plan.layout with
  | none =>
    rw [hlayout] at h
    simp only [bind_eq_ok] at h
    obtain ⟨-, -, -, -, -, -, -, -, h⟩ := h
    cases h
  | some layout =>
    rw [hlayout] at h
    simp only [bind_eq_ok, require_eq_ok, exists_const] at h
    obtain ⟨-, -, -, -, hmatches, hdrafts⟩ := h
    obtain ⟨hall, -, hpositions, hids⟩ := checkDrafts_eq_ok.mp hdrafts
    simp only [layoutMatches, Bool.and_eq_true, decide_eq_true_eq, List.all_eq_true] at hmatches
    obtain ⟨⟨⟨⟨⟨⟨⟨⟨⟨⟨hlength, -⟩, hcolumns⟩, hrows⟩, hpositive⟩, -⟩, -⟩, -⟩, hwidth⟩, hheight⟩, -⟩ :=
      hmatches
    have hdivides : Divides document.intent grid layout.columnWidthsUm layout.rowHeightsUm :=
      ⟨hcolumns, hrows, fun size hsize => (hpositive size hsize).2, hwidth, hheight⟩
    have hin : ∀ m ∈ plan.modules,
        m.row < grid.rows ∧ m.column < grid.columns ∧ m.workspace.revision = 1 := by
      intro m hm
      have hidentities := (hall m hm).1
      simp only [identitiesMatch, Bool.and_eq_true, decide_eq_true_eq] at hidentities
      obtain ⟨⟨⟨⟨⟨⟨⟨⟨⟨⟨⟨⟨⟨⟨⟨⟨hrow, hcolumn⟩, -⟩, -⟩, -⟩, -⟩, -⟩, -⟩, -⟩, -⟩, -⟩, hrevision⟩, -⟩, -⟩, -⟩, -⟩, -⟩ :=
        hidentities
      exact ⟨hrow, hcolumn, hrevision⟩
    have hcells : (plan.modules.map fun m => (m.row, m.column)).Perm
        (List.product (List.range grid.rows) (List.range grid.columns)) := by
      have hsubset : (plan.modules.map fun m => (m.row, m.column)) ⊆
          List.product (List.range grid.rows) (List.range grid.columns) := by
        intro position hposition
        obtain ⟨m, hm, rfl⟩ := List.mem_map.mp hposition
        exact List.mem_product.mpr ⟨List.mem_range.mpr (hin m hm).1,
          List.mem_range.mpr (hin m hm).2.1⟩
      have hproduct : (List.product (List.range grid.rows) (List.range grid.columns)).length =
          (List.range grid.rows).length * (List.range grid.columns).length :=
        List.length_product _ _
      refine (hpositions.subperm hsubset).perm_of_length_le ?_
      rw [hproduct, List.length_map, hlength, List.length_range, List.length_range, Nat.mul_comm]
    refine ⟨tilesEnvelope_of_stands hranges.gap hdivides hcells hids fun m hm => ?_, fun m hm => ?_⟩
    · exact (stands_of_measures (hall m hm).2.1 (by rw [hrows]; exact (hin m hm).1)
        (by rw [hcolumns]; exact (hin m hm).2.1)).1
    · exact readWorkspace_of_restored hread hgrid hdivides (hin m hm).1 (hin m hm).2.1
        (hin m hm).2.2 (hall m hm).2.1 (hall m hm).2.2

end Drafts

/-- The browser accepts every module plan that the server makes of a workspace that it read, and an
    available plan that it accepts, whatever its hashes are, fills the envelope of that workspace
    exactly, with drafts that the server reads and that differ from the workspace in nothing else. -/
theorem module_plan_check_exact {Report : Type} (document : WorkspaceDocument)
    (workspace : FurnitureWorkspace ManufacturingSelection) (grid : FurnitureModuleGrid)
    (hread : readWorkspace document = .ok workspace) (hgrid : grid.validate = .ok ()) :
    (∀ env : PlanningEnv ManufacturingSelection Report, HashesAreDigests env →
      ∀ plan, moduleResponse env workspace grid = .ok plan →
        assertMatchingFurnitureModulePlan plan document plan.sourceDesignHash grid = .ok ()) ∧
    ∀ plan : ModulePlanDocument, plan.state = .available →
      assertMatchingFurnitureModulePlan plan document plan.sourceDesignHash grid = .ok () →
        TilesEnvelope document.intent grid plan.modules ∧ ∀ m ∈ plan.modules,
          ∃ draft, readWorkspace m.workspace = .ok draft ∧ ChangesOnly workspace draft :=
  ⟨fun _ hashes _ h => assertMatching_of_moduleResponse hashes hread h,
    fun _ havailable h => exact_of_assertMatching hread hgrid havailable h⟩

/-! Two low carcasses without shelves in place of one, whose document leaves its defaults out. -/

namespace TwoCarcasses

def digest : String := "0123456789abcdef0123456789abcdef0123456789abcdef0123456789abcdef"

def env : PlanningEnv ManufacturingSelection Unit where
  furniture := {
    hashing := namedHashing
    furnitureHash := fun _ _ _ => digest
    otherFamily := fun _ => .error (.message "") }
  report _ _ := .ok ()
  workspaceHash _ := digest
  planHash _ _ _ := digest

theorem hashesAreDigests : HashesAreDigests env := by
  have hdigest : isSha256 digest = true := by decide +kernel
  exact ⟨fun _ => hdigest, fun _ _ _ => hdigest, fun _ _ _ => hdigest, fun _ _ h => by cases h⟩

def document : WorkspaceDocument :=
  { designId := "furniture"
    revision := 3
    intent := {
      family := .shelving, widthUm := 900000, heightUm := 600000, depthUm := 300000
      shelfCount := some 0, dividerCount := some 0, backPanel := some .none }
    material := { materialId := "birch-plywood", measuredThicknessUm := 18000 }
    backMaterial := { materialId := "birch-plywood-6", measuredThicknessUm := 6000 }
    hardware := none
    manufacturing := none }

def workspace : FurnitureWorkspace ManufacturingSelection :=
  { design := {
      designId := "furniture"
      revision := 3
      intent := .shelving {
        widthUm := 900000, heightUm := 600000, depthUm := 300000, shelfCount := 0, dividerCount := 0
        backPanel := .none }
      material := { materialId := "birch-plywood", measuredThicknessUm := 18000 }
      backMaterial := { materialId := "birch-plywood-6", measuredThicknessUm := 6000 }
      hardware := none }
    manufacturing := none }

def grid : FurnitureModuleGrid :=
  { columns := 2, rows := 1, gapUm := 5001, shelfCountPerRow := [0] }

theorem module_plan_check_exact_two : ∃ plan, moduleResponse env workspace grid = .ok plan ∧
    plan.state = .available ∧
    assertMatchingFurnitureModulePlan plan document plan.sourceDesignHash grid = .ok () ∧
    TilesEnvelope document.intent grid plan.modules ∧ ∀ m ∈ plan.modules,
      ∃ draft, readWorkspace m.workspace = .ok draft ∧ ChangesOnly workspace draft := by
  have hread : readWorkspace document = .ok workspace := by rfl
  have hgrid : grid.validate = .ok () := by rfl
  have hplanned : okAnd (moduleResponse env workspace grid) (fun plan => plan.state = .available) =
      true := by decide +kernel
  obtain ⟨plan, hplan, havailable⟩ := exists_of_okAnd hplanned
  obtain ⟨haccepts, hexact⟩ := module_plan_check_exact document workspace grid hread hgrid
  have hok := haccepts env hashesAreDigests plan hplan
  have havailable := of_decide_eq_true havailable
  exact ⟨plan, hplan, havailable, hok, hexact plan havailable hok⟩

example : isSha256 digest = true := by decide +kernel

end TwoCarcasses

end Custombuild.Web.Furniture
