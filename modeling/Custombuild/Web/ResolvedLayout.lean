/-
  The parts of a resolved design by their kinds, and what its rules say when all bays are equal.
  Source: `apps/web/lib/design-engine.ts`.
-/
import Custombuild.Web.SupportSearch

namespace Custombuild.Web.Construction

open Custombuild.Lib Custombuild.Lib.Number

/-! ## What a design passes -/

/-- The rule is evaluated, and only to PASS. -/
def PassesRule (evaluations : List Evaluation) (ruleId : String) : Prop :=
  (∃ evaluation ∈ evaluations, evaluation.ruleId = ruleId) ∧
    ∀ evaluation ∈ evaluations, evaluation.ruleId = ruleId → evaluation.status = .pass

/-- Equal bays are wide enough, and the balanced shelf rows fit. -/
def EqualLayoutFits (spec : DesignSpec) (dividers : Nat) : Prop :=
  le (finite (minimumClearWidthMm spec)) (equalBayWidthMm spec dividers) = true ∧
    ∃ rows, balancedShelfRatios spec = some rows ∧
      shelfRowsFit { spec with shelfHeightRatios := rows } = true

/-! ## The parts -/

/-- Parts of one kind, asked for by kind. -/
theorem filter_kind {parts : List ResolvedPart} {own : PartKind} (kind : PartKind)
    (h : ∀ part ∈ parts, part.kind = own) :
    (parts.filter fun part => part.kind = kind) = if own = kind then parts else [] := by
  split
  · rename_i heq
    exact List.filter_eq_self.mpr fun part hmem => by simp [h part hmem, heq]
  · rename_i hne
    exact List.filter_eq_nil_iff.mpr fun part hmem => by simp [h part hmem, hne]

section Kinds

variable (thickness width : Number) (widths : List Number) (count other : Nat)

theorem dividerParts_kind : ∀ part ∈ dividerParts thickness widths count, part.kind = .divider := by
  simp [dividerParts]

theorem shelfParts_kind :
    ∀ part ∈ shelfParts thickness widths count other, part.kind = .shelf := by
  simp only [shelfParts, List.mem_flatMap, List.mem_map, List.mem_range]
  rintro part ⟨shelfIndex, -, bayIndex, -, rfl⟩
  rfl

theorem baseSideParts_kind :
    ∀ part ∈ baseSideParts thickness widths count, part.kind = .baseSide := by
  simp [baseSideParts]

theorem backParts_kind (spec : ConstructionSpec) :
    ∀ part ∈ backParts spec width thickness widths count, part.kind = .back := by
  unfold backParts
  split
  · simp
  · split <;> simp

/-- Base cabinets are neither dividers nor sides nor backs. -/
theorem baseCabinetParts_kind : ∀ part ∈ baseCabinetParts thickness widths count,
    part.kind = .baseBottom ∨ part.kind = .cabinetFront := by
  simp only [baseCabinetParts, List.mem_flatMap, List.mem_range, List.mem_cons, List.not_mem_nil,
    or_false]
  rintro part ⟨cabinetIndex, -, rfl | rfl⟩
  · exact .inl rfl
  · exact .inr rfl

end Kinds

/-- The parts of a kind that one list makes. -/
theorem allParts_filter (spec : ConstructionSpec) (divisions : Divisions) :
    ((allParts spec divisions).filter fun part => part.kind = .divider) =
        dividerParts (boardThickness spec.toDesignSpec) divisions.widths divisions.dividers ∧
      ((allParts spec divisions).filter fun part => part.kind = .baseSide) =
        baseSideParts (boardThickness spec.toDesignSpec) divisions.openingWidths divisions.bases ∧
      ((allParts spec divisions).filter fun part => part.kind = .back) =
        backParts spec (outerWidth spec.toDesignSpec) (boardThickness spec.toDesignSpec)
          divisions.widths divisions.bays := by
  have hcabinets : ∀ kind : PartKind, kind ≠ .baseBottom → kind ≠ .cabinetFront →
      ((baseCabinetParts (boardThickness spec.toDesignSpec) divisions.openingWidths
        divisions.bases).filter fun part => part.kind = kind) = [] := by
    intro kind hbottom hfront
    rw [List.filter_eq_nil_iff]
    intro part hmem
    rcases baseCabinetParts_kind _ _ _ part hmem with h | h <;> simp [h, hbottom.symm, hfront.symm]
  have hplinth : ∀ kind : PartKind, kind ≠ .plinth →
      ((plinthParts spec.toDesignSpec).filter fun part => part.kind = kind) = [] := by
    intro kind hkind
    rw [plinthParts]
    split
    · simp [hkind.symm]
    · rfl
  have hcarcass : ∀ kind : PartKind, kind ≠ .side → kind ≠ .bottom → kind ≠ .top →
      ((carcassParts spec.toDesignSpec).filter fun part => part.kind = kind) = [] := by
    intro kind hside hbottom htop
    simp [carcassParts, hside.symm, hbottom.symm, htop.symm]
  refine ⟨?_, ?_, ?_⟩ <;>
  · simp only [allParts, List.filter_append, filter_kind _ (dividerParts_kind _ _ _),
      filter_kind _ (shelfParts_kind _ _ _ _), filter_kind _ (baseSideParts_kind _ _ _),
      filter_kind _ (backParts_kind _ _ _ _ _)]
    rw [hcabinets _ (by decide) (by decide), hplinth _ (by decide),
      hcarcass _ (by decide) (by decide) (by decide)]
    simp

/-- Without declared changes the parts are all that are generated. -/
theorem generateParts_eq {spec : ConstructionSpec} (hoverrides : spec.partOverrides = [])
    (hremoved : spec.removedPartIds = []) : generateParts spec =
      if spec.materialId ∈ materialCatalog then
        (divisionsOf spec.toDesignSpec).map (allParts spec)
      else none := by
  have hkept : ∀ parts : List ResolvedPart,
      (parts.filter fun part => part.partId ∉ spec.removedPartIds).map (overridden spec) = parts := by
    intro parts
    have hall : (parts.filter fun part => part.partId ∉ spec.removedPartIds) = parts :=
      List.filter_eq_self.mpr fun part _ => by simp [hremoved]
    have hsame : overridden spec = id := by
      funext part
      simp [overridden, hoverrides]
    rw [hall, hsame, List.map_id]
  unfold generateParts
  by_cases hmaterial : spec.materialId ∈ materialCatalog
  · cases hdivisions : divisionsOf spec.toDesignSpec with
    | none => simp [hmaterial]
    | some divisions => simp only [hmaterial, not_true, if_false, if_true, hkept, Option.map_some]; rfl
  · simp [hmaterial]

/-! ## Equal bays over base cabinets -/

/-- The divisions of a specification with equal bays: the base cabinets take the bays' widths when
    there are as many. -/
theorem exists_divisions {spec : DesignSpec} {w depth t back load : ℚ} {d c : Nat}
    (hm : Measures spec w depth t back load d c) (hratios : spec.bayWidthRatios = [])
    {rows : List Number} (hrows : shelfHeightRatios spec = some rows) {shelves : Nat}
    (hshelves : arrayLength (maximum (finite 0) (trunc spec.shelfCount)) = some shelves) :
    ∃ q openingWidths bases, divisionsOf spec =
        some ⟨List.replicate (d + 1) (finite q), openingWidths, d, shelves, d + 1, bases⟩ ∧
      (spec.furnitureType = .wallLibrary → c = d + 1 →
        openingWidths = List.replicate (d + 1) (finite q) ∧ bases = d + 1) := by
  have hd := hm.dividers_le
  have hc := hm.bases_le
  obtain ⟨inner, hinner⟩ : ∃ inner, generatedInnerWidth spec = finite inner := by
    refine ⟨max (max w 1 - 2 * max t (1 / 10) - d * max t (1 / 10)) 1, ?_⟩
    simp only [generatedInnerWidth, outerWidth, boardThickness, hm.width, hm.thickness,
      hm.dividers, truncated_count, maximum_finite, finite_mul, finite_sub]
  have hwidths : bayWidths spec (generatedInnerWidth spec) =
      some (List.replicate (d + 1) (finite (inner * (1 / (d + 1))))) := by
    rw [bayWidths, hinner, hratios, hm.dividers, equalShares d (by omega), Option.map_some,
      List.map_replicate, finite_mul]
  have hbays : arrayLength (finite (d : ℚ) + finite 1) = some (d + 1) := by
    have := arrayLength_nat (n := d + 1) (by omega)
    simpa using this
  have hbases : ∃ bases : Nat, bases ≤ 17 ∧ generatedBaseCount spec = finite bases ∧
      (spec.furnitureType = .wallLibrary → c = d + 1 → bases = d + 1) := by
    unfold generatedBaseCount
    split
    · rename_i hbase
      simp only [hasBaseCabinets, hm.bases, Bool.and_eq_true, lt_finite, decide_eq_true_eq] at hbase
      have hone : (1 : ℚ) ≤ c := by exact_mod_cast Nat.one_le_iff_ne_zero.mpr fun h0 => by simp [h0] at hbase
      exact ⟨c, hc, by rw [hm.bases, trunc_nat, maximum_finite, max_eq_right hone], fun _ heq => heq⟩
    · rename_i hbase
      refine ⟨0, by omega, by simp, fun hwall heq => ?_⟩
      have hpos : (0 : ℚ) < c := by rw [heq]; positivity
      simp [hasBaseCabinets, hm.bases, hwall, hpos] at hbase
  obtain ⟨bases, hbases17, hbasesCount, hbasesEq⟩ := hbases
  have hopening : ∃ openingWidths, baseOpeningWidths spec (outerWidth spec) (boardThickness spec)
      (List.replicate (d + 1) (finite (inner * (1 / (d + 1))))) = some openingWidths ∧
      (bases = d + 1 → openingWidths = List.replicate (d + 1) (finite (inner * (1 / (d + 1))))) := by
    unfold baseOpeningWidths
    rw [hbasesCount, List.length_replicate]
    by_cases heq : bases = d + 1
    · exact ⟨_, by rw [heq]; simp, fun _ => rfl⟩
    · have hne : (bases : ℚ) ≠ ((d + 1 : ℕ) : ℚ) := by exact_mod_cast heq
      simp only [equal_finite, hne, decide_false, Bool.false_eq_true, if_false,
        arrayFrom_nat (show bases < 2 ^ 32 by omega)]
      exact ⟨_, rfl, fun h => absurd h heq⟩
  obtain ⟨openingWidths, hopeningWidths, hopeningEq⟩ := hopening
  refine ⟨inner * (1 / (d + 1)), openingWidths, bases, ?_, fun hwall heq =>
    ⟨hopeningEq (hbasesEq hwall heq), hbasesEq hwall heq⟩⟩
  simp only [divisionsOf, hwidths, hrows, hm.dividers, truncated_count, hshelves, hbays, hbasesCount,
    arrayLength_nat (show d < 2 ^ 32 by omega), arrayLength_nat (show bases < 2 ^ 32 by omega),
    Option.bind_eq_bind, Option.bind_some, hopeningWidths]
  rfl

theorem total_replicate (m : Nat) (q : ℚ) : total (List.replicate m (finite q)) = finite (m * q) := by
  have hfold : ∀ start : ℚ, (List.replicate m (finite q)).foldl (· + ·) (finite start) =
      finite (start + m * q) := by
    induction m with
    | zero => simp
    | succ m ih =>
      intro start
      rw [List.replicate_succ, List.foldl_cons, finite_add, ih]
      push_cast
      congr 1
      ring
  rw [total, hfold, zero_add]

/-- The left edge behind a number of equal openings. -/
theorem baseSideLeftEdges_replicate {m i : Nat} (hi : i ≤ m) (thickness q : ℚ) :
    (baseSideLeftEdges (finite thickness) (List.replicate m (finite q))).getD i nan =
      finite (i * (thickness + q)) := by
  have hscan : ∀ start : ℚ, ((List.replicate m (finite q)).scanl
      (fun cursor openingWidth => cursor + (finite thickness + openingWidth)) (finite start)).getD i
        nan = finite (start + i * (thickness + q)) := by
    induction m generalizing i with
    | zero =>
      intro start
      obtain rfl : i = 0 := by omega
      simp
    | succ m ih =>
      intro start
      rw [List.replicate_succ, List.scanl_cons]
      cases i with
      | zero => simp
      | succ i =>
        rw [List.getD_cons_succ, finite_add, finite_add, ih (by omega)]
        push_cast
        congr 1
        ring
  rw [baseSideLeftEdges, hscan, zero_add]

/-- Every divider of equal bays stands over a side of as many equal base cabinets. -/
theorem unsupportedDividers_equal {spec : DesignSpec} {parts : List ResolvedPart} {thickness q t : ℚ}
    {d : Nat} (hthickness : spec.measuredThicknessMm = finite t)
    (hdividers : (parts.filter fun part => part.kind = .divider) =
      dividerParts (finite thickness) (List.replicate (d + 1) (finite q)) d)
    (hsides : (parts.filter fun part => part.kind = .baseSide) =
      baseSideParts (finite thickness) (List.replicate (d + 1) (finite q)) (d + 1)) :
    unsupportedDividers spec parts = [] := by
  unfold unsupportedDividers
  rw [hdividers, hsides, List.filter_eq_nil_iff]
  intro divider hdivider
  obtain ⟨index, hindex, rfl⟩ := List.mem_map.mp hdivider
  have hlt := List.mem_range.mp hindex
  simp only [Bool.not_eq_true', Bool.not_eq_false, List.any_eq_true]
  -- The side between the openings on both sides of the divider.
  refine ⟨_, List.mem_map.mpr ⟨index, by simpa using hlt, rfl⟩, ?_⟩
  have htake : (List.replicate (d + 1) (finite q)).take (index + 1) =
      List.replicate (index + 1) (finite q) := by
    rw [List.take_replicate, Nat.min_eq_left (by omega)]
  rw [htake, total_replicate, baseSideLeftEdges_replicate (by omega), hthickness,
    finite_div _ (show (2 : ℚ) ≠ 0 by norm_num)]
  simp only [distance, finite_add, finite_mul, finite_sub, finite_neg, maximum_finite, le_finite,
    decide_eq_true_eq]
  have hsame : ((index + 1 : ℕ) : ℚ) * (thickness + q) + thickness / 2 -
      (thickness + ((index + 1 : ℕ) : ℚ) * q + thickness * (index + 1 / 2)) = 0 := by
    push_cast
    ring
  rw [hsame, neg_zero, max_self]
  exact le_max_of_le_left zero_le_one

/-! ## The resolved design -/

/-- What a resolved design is made of. -/
theorem resolveDesign_eq_some {spec : ConstructionSpec} {evaluations : List Evaluation} :
    resolveDesign spec = some evaluations ↔ ∃ resolvedSpec parts geometry shelves,
      balanceDesignSymmetry spec = some resolvedSpec ∧ generateParts resolvedSpec = some parts ∧
      invalidGeometryRule resolvedSpec.toDesignSpec = some geometry ∧
      shelfRule resolvedSpec = some shelves ∧
      evaluations = [{ ruleId := geometry.ruleId, status := geometry.status, suggestion := none },
        shelves, backRule resolvedSpec parts] ++
          (baseSupportAlignmentRule resolvedSpec.toDesignSpec parts).toList := by
  simp only [resolveDesign, Option.bind_eq_bind, Option.bind_eq_some_iff, Option.pure_def,
    Option.some.injEq]
  constructor
  · rintro ⟨resolvedSpec, hresolved, parts, hparts, geometry, hgeometry, shelves, hshelves, rfl⟩
    exact ⟨resolvedSpec, parts, geometry, shelves, hresolved, hparts, hgeometry, hshelves, rfl⟩
  · rintro ⟨resolvedSpec, parts, geometry, shelves, hresolved, hparts, hgeometry, hshelves, rfl⟩
    exact ⟨resolvedSpec, hresolved, parts, hparts, geometry, hgeometry, shelves, hshelves, rfl⟩

theorem invalidGeometryRule_id {spec : DesignSpec} {geometry : RuleEvaluation}
    (h : invalidGeometryRule spec = some geometry) : geometry.ruleId = "GEO-001" := by
  simp only [invalidGeometryRule, Option.bind_eq_bind, Option.bind_eq_some_iff, Option.pure_def,
    Option.some.injEq] at h
  obtain ⟨_, -, _, -, _, -, rfl⟩ := h
  rfl

theorem shelfRule_id {spec : ConstructionSpec} {shelves : Evaluation}
    (h : shelfRule spec = some shelves) : shelves.ruleId = "STR-DEF-001" := by
  unfold shelfRule at h
  split at h
  · exact (Option.some.inj h) ▸ rfl
  · simp only [Option.bind_eq_bind, Option.bind_eq_some_iff, Option.pure_def,
      Option.some.injEq] at h
    obtain ⟨_, -, _, -, rfl⟩ := h
    rfl

theorem backRule_id (spec : ConstructionSpec) (parts : List ResolvedPart) :
    (backRule spec parts).ruleId = "STAB-RACK-001" := by
  unfold backRule
  split <;> rfl

theorem baseSupportAlignmentRule_id {spec : DesignSpec} {parts : List ResolvedPart}
    {evaluation : Evaluation} (h : baseSupportAlignmentRule spec parts = some evaluation) :
    evaluation.ruleId = "BASE-SUPPORT-001" := by
  unfold baseSupportAlignmentRule at h
  split at h
  · cases h
  · split at h <;> exact (Option.some.inj h) ▸ rfl

/-- The evaluations of one design, each under its own rule. -/
theorem passesRule_iff {geometry shelves back : Evaluation} {alignment : Option Evaluation}
    (hgeometry : geometry.ruleId = "GEO-001") (hshelves : shelves.ruleId = "STR-DEF-001")
    (hback : back.ruleId = "STAB-RACK-001")
    (halignment : ∀ evaluation, alignment = some evaluation →
      evaluation.ruleId = "BASE-SUPPORT-001") :
    (PassesRule ([geometry, shelves, back] ++ alignment.toList) "GEO-001" ↔
        geometry.status = .pass) ∧
      (PassesRule ([geometry, shelves, back] ++ alignment.toList) "STR-DEF-001" ↔
        shelves.status = .pass) ∧
      (PassesRule ([geometry, shelves, back] ++ alignment.toList) "STAB-RACK-001" ↔
        back.status = .pass) ∧
      (PassesRule ([geometry, shelves, back] ++ alignment.toList) "BASE-SUPPORT-001" ↔
        ∃ evaluation, alignment = some evaluation ∧ evaluation.status = .pass) := by
  cases alignment with
  | none => simp [PassesRule, hgeometry, hshelves, hback]
  | some evaluation => simp [PassesRule, hgeometry, hshelves, hback, halignment evaluation rfl]

theorem passesGeometry_iff_status {spec : DesignSpec} {geometry : RuleEvaluation}
    (h : invalidGeometryRule spec = some geometry) :
    passesGeometry spec = true ↔ geometry.status = .pass := by
  simp [passesGeometry, h]

/-- What a resolved design says about its own rules. -/
theorem resolved_passes_iff {resolvedSpec : ConstructionSpec} (parts : List ResolvedPart)
    {geometry : RuleEvaluation} {shelves : Evaluation}
    (hgeometry : invalidGeometryRule resolvedSpec.toDesignSpec = some geometry)
    (hshelves : shelfRule resolvedSpec = some shelves) :
    let evaluations := [⟨geometry.ruleId, geometry.status, none⟩, shelves,
      backRule resolvedSpec parts] ++
        (baseSupportAlignmentRule resolvedSpec.toDesignSpec parts).toList
    (PassesRule evaluations "GEO-001" ↔ passesGeometry resolvedSpec.toDesignSpec = true) ∧
      (PassesRule evaluations "STR-DEF-001" ↔ shelves.status = .pass) ∧
      (PassesRule evaluations "STAB-RACK-001" ↔ (backRule resolvedSpec parts).status = .pass) ∧
      (PassesRule evaluations "BASE-SUPPORT-001" ↔ ∃ evaluation,
        baseSupportAlignmentRule resolvedSpec.toDesignSpec parts = some evaluation ∧
          evaluation.status = .pass) := by
  rw [passesGeometry_iff_status hgeometry]
  have hids : (⟨geometry.ruleId, geometry.status, none⟩ : Evaluation).ruleId = "GEO-001" :=
    invalidGeometryRule_id hgeometry
  exact passesRule_iff hids (shelfRule_id hshelves) (backRule_id resolvedSpec parts)
    fun evaluation h => baseSupportAlignmentRule_id h

/-- The shelf rule has a result for every specification with counts. -/
theorem exists_shelfRule {spec : ConstructionSpec} {w depth t back load : ℚ} {d c : Nat}
    (hm : Measures spec.toDesignSpec w depth t back load d c) :
    ∃ evaluation, shelfRule spec = some evaluation := by
  obtain ⟨b, hb⟩ := exists_withinLimit spec hm.dividers_le
  have hsame : ({ spec with dividerCount := finite (d : ℚ) } : ConstructionSpec) = spec := by
    rw [← hm.dividers]
  rw [hsame, shelvesAreWithinLimit, Option.map_eq_some_iff] at hb
  obtain ⟨result, hresult, -⟩ := hb
  obtain ⟨n, hn, -⟩ := suggestedDividerCount_cases hm
  unfold shelfRule
  split
  · exact ⟨_, rfl⟩
  · rw [hresult, hn]
    exact ⟨_, rfl⟩

/-! ## Equal layouts -/

/-- The specification both fixes of the bays lead to. -/
def equalLayout (spec : ConstructionSpec) (reinforcementMode : ReinforcementMode)
    (baySizingMode : BaySizingMode) (dividers : Nat) : ConstructionSpec :=
  { spec with
    reinforcementMode := reinforcementMode
    dividerCount := finite dividers
    baySizingMode := baySizingMode
    bayWidthRatios := []
    symmetryLocked := true
    baseCabinetCount :=
      if spec.furnitureType = .wallLibrary then finite dividers + finite 1
      else spec.baseCabinetCount }

/-- GEO-001 does not read how the bays were asked for. -/
theorem passesGeometry_modes (spec : DesignSpec) (reinforcementMode : ReinforcementMode)
    (baySizingMode : BaySizingMode) (symmetryLocked : Bool) :
    passesGeometry { spec with
      reinforcementMode := reinforcementMode
      baySizingMode := baySizingMode
      symmetryLocked := symmetryLocked } = passesGeometry spec := by
  unfold passesGeometry invalidGeometryRule
  rfl

/-- The shelf rows do not depend on the bays. -/
theorem shelfRowsFit_bays (spec : DesignSpec) (rows bays : List Number) :
    shelfRowsFit { spec with shelfHeightRatios := rows, bayWidthRatios := bays } =
      shelfRowsFit { spec with shelfHeightRatios := rows } := by
  unfold shelfRowsFit rawShelfOpeningHeights
  rfl

section EqualLayout

variable {spec resolvedSpec : ConstructionSpec} {parts : List ResolvedPart} {n : Nat}
  (reinforcementMode : ReinforcementMode) (baySizingMode : BaySizingMode)

theorem equalLayout_balanced : balanceDesignSymmetry
      (equalLayout spec reinforcementMode baySizingMode n) =
    (balancedShelfRatios spec.toDesignSpec).map fun rows =>
      { equalLayout spec reinforcementMode baySizingMode n with shelfHeightRatios := rows } :=
  balanceDesignSymmetry_of_no_bays rfl rfl

/-- GEO-001 of an equal layout, with its balanced rows. -/
theorem equalLayout_passes_iff (hresolved : balanceDesignSymmetry spec = some resolvedSpec)
    (hpasses : passesGeometry resolvedSpec.toDesignSpec = true) (hn : n ≤ 16) (rows : List Number) :
    passesGeometry { equalLayout spec reinforcementMode baySizingMode n with
        shelfHeightRatios := rows }.toDesignSpec = true ↔
      le (finite (minimumClearWidthMm spec.toDesignSpec)) (equalBayWidthMm spec.toDesignSpec n) = true ∧
        shelfRowsFit { spec.toDesignSpec with shelfHeightRatios := rows } = true := by
  have hdivided := withEqualBays_passes_iff rows hpasses hn
  obtain ⟨bays, oldRows, rfl⟩ := balanceDesignSymmetry_cases hresolved
  rw [shelfRowsFit_bays spec.toDesignSpec rows bays] at hdivided
  rw [← passesGeometry_modes _ reinforcementMode baySizingMode true] at hdivided
  exact hdivided

/-- A valid design with an equal layout has wide enough bays. -/
theorem equalLayout_fits (hresolved : balanceDesignSymmetry spec = some resolvedSpec)
    (hpasses : passesGeometry resolvedSpec.toDesignSpec = true) (hn : n ≤ 16)
    {fixedSpec : ConstructionSpec} (hfixed : balanceDesignSymmetry
      (equalLayout spec reinforcementMode baySizingMode n) = some fixedSpec)
    (hvalid : passesGeometry fixedSpec.toDesignSpec = true) :
    EqualLayoutFits spec.toDesignSpec n := by
  rw [equalLayout_balanced, Option.map_eq_some_iff] at hfixed
  obtain ⟨rows, hrows, rfl⟩ := hfixed
  obtain ⟨hwidth, hfit⟩ :=
    (equalLayout_passes_iff reinforcementMode baySizingMode hresolved hpasses hn rows).mp hvalid
  exact ⟨hwidth, rows, hrows, hfit⟩

/-- Wide enough bays make a valid design, with every divider over a side of a base cabinet. -/
theorem exists_equalLayout (hresolved : balanceDesignSymmetry spec = some resolvedSpec)
    (hpasses : passesGeometry resolvedSpec.toDesignSpec = true)
    (hparts : generateParts resolvedSpec = some parts) (hoverrides : spec.partOverrides = [])
    (hremoved : spec.removedPartIds = []) (hn : n ≤ 16)
    (hfits : EqualLayoutFits spec.toDesignSpec n) :
    ∃ fixedSpec fixedParts geometry shelves,
      balanceDesignSymmetry (equalLayout spec reinforcementMode baySizingMode n) = some fixedSpec ∧
      generateParts fixedSpec = some fixedParts ∧
      invalidGeometryRule fixedSpec.toDesignSpec = some geometry ∧ geometry.status = .pass ∧
      shelfRule fixedSpec = some shelves ∧
      (spec.furnitureType = .wallLibrary →
        unsupportedDividers fixedSpec.toDesignSpec fixedParts = []) := by
  obtain ⟨hwidth, rows, hrows, hfit⟩ := hfits
  have hvalid := (equalLayout_passes_iff reinforcementMode baySizingMode hresolved hpasses hn rows).mpr
    ⟨hwidth, hfit⟩
  set fixedSpec : ConstructionSpec :=
    { equalLayout spec reinforcementMode baySizingMode n with shelfHeightRatios := rows } with hfixed
  obtain ⟨w, depth, t, back, load, d, c, hm⟩ := exists_measures hvalid
  obtain rfl : n = d := by
    have hcount : finite (n : ℚ) = finite (d : ℚ) := hm.dividers
    rw [finite.injEq] at hcount
    exact_mod_cast hcount
  obtain ⟨hsameOverrides, hsameRemoved, hsameMaterial, hsameShelves, -, -⟩ :=
    balanceDesignSymmetry_keeps hresolved
  rw [generateParts_eq (hsameOverrides.trans hoverrides) (hsameRemoved.trans hremoved),
    hsameMaterial] at hparts
  have hmaterial : spec.materialId ∈ materialCatalog := by
    by_contra hnot
    rw [if_neg hnot] at hparts
    cases hparts
  rw [if_pos hmaterial, Option.map_eq_some_iff] at hparts
  obtain ⟨divisions, hdivisions, -⟩ := hparts
  simp only [divisionsOf, Option.bind_eq_bind, Option.bind_eq_some_iff] at hdivisions
  obtain ⟨_, -, _, -, _, -, shelvesCount, hshelvesCount, -⟩ := hdivisions
  rw [hsameShelves] at hshelvesCount
  obtain ⟨openings, _, _, hopenings, -, -, -⟩ := passesGeometry_iff.mp hvalid
  rw [rawShelfOpeningHeights, Option.map_eq_some_iff] at hopenings
  obtain ⟨ratios, hratios, -⟩ := hopenings
  obtain ⟨q, openingWidths, bases, hnewDivisions, haligned⟩ :=
    exists_divisions hm rfl hratios hshelvesCount
  have hfixedParts : generateParts fixedSpec = some (allParts fixedSpec
      ⟨List.replicate (n + 1) (finite q), openingWidths, n, shelvesCount, n + 1, bases⟩) := by
    rw [@generateParts_eq fixedSpec hoverrides hremoved,
      if_pos (show fixedSpec.materialId ∈ materialCatalog from hmaterial), hnewDivisions,
      Option.map_some]
  obtain ⟨geometry, hgeometry⟩ : ∃ geometry, invalidGeometryRule fixedSpec.toDesignSpec =
      some geometry := by
    simp only [passesGeometry, Option.any_eq_true] at hvalid
    exact ⟨_, hvalid.choose_spec.1⟩
  obtain ⟨shelves, hshelves⟩ := exists_shelfRule hm
  refine ⟨fixedSpec, _, geometry, shelves, ?_, hfixedParts, hgeometry,
    (passesGeometry_iff_status hgeometry).mp hvalid, hshelves, fun hwall => ?_⟩
  · rw [equalLayout_balanced, hrows, Option.map_some]
  · have hbases : fixedSpec.baseCabinetCount = finite ((n : ℚ) + 1) := by
      simp [hfixed, equalLayout, hwall]
    have hcount : c = n + 1 := by
      rw [hm.bases, finite.injEq] at hbases
      exact_mod_cast hbases
    obtain ⟨rfl, rfl⟩ := haligned hwall hcount
    obtain ⟨hdividers, hsides, -⟩ := allParts_filter fixedSpec
      ⟨List.replicate (n + 1) (finite q), List.replicate (n + 1) (finite q), n, shelvesCount, n + 1,
        n + 1⟩
    rw [boardThickness_finite hm] at hdividers hsides
    exact unsupportedDividers_equal hm.thickness hdividers hsides

/-- The shelf rule of an equal layout with another number of bays passes exactly when the search
    found it within the limit. -/
theorem equalLayout_shelves_iff (hresolved : balanceDesignSymmetry spec = some resolvedSpec)
    (hpasses : passesGeometry resolvedSpec.toDesignSpec = true) {w depth t back load : ℚ} {d c : Nat}
    (hm : Measures resolvedSpec.toDesignSpec w depth t back load d c) (hn : n ≤ 16) (hne : n ≠ d)
    (hshelfCount : equal resolvedSpec.shelfCount (finite 0) = false)
    {fixedSpec : ConstructionSpec} (hfixed : balanceDesignSymmetry
      (equalLayout spec reinforcementMode baySizingMode n) = some fixedSpec)
    {shelves : Evaluation} (hshelves : shelfRule fixedSpec = some shelves) :
    shelves.status = .pass ↔
      shelvesAreWithinLimit { resolvedSpec with dividerCount := finite n } = some true := by
  have hlength : resolvedSpec.bayWidthRatios.length ≠ n + 1 := by
    rcases bayRatios_length hpasses hm with hnil | hlength
    · simp [hnil]
    · omega
  obtain ⟨result, hresult, hiff⟩ := equalBays_pass_iff hm hn hlength
  have hsame := @calculateShelfDeflection_no_ratios resolvedSpec n hn hlength
  rw [equalLayout_balanced, Option.map_eq_some_iff] at hfixed
  obtain ⟨rows, -, rfl⟩ := hfixed
  obtain ⟨bays, oldRows, rfl⟩ := balanceDesignSymmetry_cases hresolved
  have hcalculate : calculateShelfDeflection
      { equalLayout spec reinforcementMode baySizingMode n with shelfHeightRatios := rows } =
        some result := by
    rw [← hresult, ← hsame]
    rfl
  have hshelfCount' : equal { equalLayout spec reinforcementMode baySizingMode n with
      shelfHeightRatios := rows }.shelfCount (finite 0) = false := hshelfCount
  unfold shelfRule at hshelves
  rw [hshelfCount', if_neg Bool.false_ne_true, hcalculate] at hshelves
  simp only [Option.bind_eq_bind, Option.bind_some, Option.bind_eq_some_iff, Option.pure_def,
    Option.some.injEq] at hshelves
  obtain ⟨_, -, rfl⟩ := hshelves
  exact hiff

end EqualLayout

end Custombuild.Web.Construction
