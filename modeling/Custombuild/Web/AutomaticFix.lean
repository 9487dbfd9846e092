/-
  The automatic fixes of the validation panel.
  Source: `apps/web/lib/validation-guidance.ts`, `automaticValidationFix`.

  A fix is taken from what a rule suggests.  The search for a number of dividers ends at the largest
  one even when its shelves bend too much, and neither it nor the alignment of the base cabinets
  looks at the clear width that is left, nor at what balancing does to the shelf rows.  A fix
  resolves its finding and keeps the geometry valid exactly when none of these goes wrong
  (`automaticFix_resolves_iff`); adding a back always does.
-/
import Custombuild.Web.ResolvedLayout

namespace Custombuild.Web.Construction

open Custombuild.Lib Custombuild.Lib.Number

/-! ## The fix and its purpose -/

/-- `{...spec, ...automaticValidationFix(evaluation, spec).patch}` for an evaluation with a
    suggestion. -/
def automaticValidationFix (suggestion : RuleSuggestion) (spec : ConstructionSpec) :
    ConstructionSpec :=
  match suggestion with
  | .setDividerCount value =>
    let dividerCount := maximum (finite 0) (minimum (finite 16) (wholeNumber value))
    { spec with
      reinforcementMode := .manual
      dividerCount := dividerCount
      baySizingMode := .count
      bayWidthRatios := []
      symmetryLocked := true
      baseCabinetCount :=
        if spec.furnitureType = .wallLibrary then dividerCount + finite 1
        else spec.baseCabinetCount }
  | .alignBaseCabinets value =>
    { spec with
      baseCabinetCount := maximum (finite 1) (minimum (finite 17) (wholeNumber value))
      bayWidthRatios := []
      symmetryLocked := true }
  | .enableBack => { spec with backPanel := true }

/-- The fixed design passes the rule that suggested the fix, and GEO-001. -/
def FixResolves (spec : ConstructionSpec) (ruleId : String) (suggestion : RuleSuggestion) : Prop :=
  ∃ evaluations, resolveDesign (automaticValidationFix suggestion spec) = some evaluations ∧
    PassesRule evaluations ruleId ∧ PassesRule evaluations "GEO-001"

/-- When a suggestion leads to a valid design. -/
def FixSuffices (spec : ConstructionSpec) : RuleSuggestion → Prop
  | .setDividerCount _ => ∃ resolvedSpec dividers, balanceDesignSymmetry spec = some resolvedSpec ∧
      IsLeastWithinLimit resolvedSpec dividers ∧ EqualLayoutFits spec.toDesignSpec dividers
  | .alignBaseCabinets _ => ∃ dividers : Nat, spec.dividerCount = finite dividers ∧
      EqualLayoutFits spec.toDesignSpec dividers
  | .enableBack => True

/-! ## The layouts of the fixes -/

theorem setDividerCount_eq (spec : ConstructionSpec) {n : Nat} (hn : n ≤ 16) :
    automaticValidationFix (.setDividerCount (finite n)) spec = equalLayout spec .manual .count n := by
  have hcast : (n : ℚ) ≤ 16 := by exact_mod_cast hn
  simp only [automaticValidationFix, equalLayout, wholeNumber_nat, minimum_finite, maximum_finite,
    min_eq_right hcast, max_eq_right (Nat.cast_nonneg n : (0 : ℚ) ≤ n)]

theorem alignBaseCabinets_eq (spec : ConstructionSpec) {d : Nat} (hd : d ≤ 16)
    (hdividers : spec.dividerCount = finite d) (hwall : spec.furnitureType = .wallLibrary) :
    automaticValidationFix (.alignBaseCabinets (finite d + finite 1)) spec =
      equalLayout spec spec.reinforcementMode spec.baySizingMode d := by
  have hsum : finite (d : ℚ) + finite 1 = finite ((d + 1 : ℕ) : ℚ) := by push_cast; rfl
  have hlow : (1 : ℚ) ≤ ((d + 1 : ℕ) : ℚ) := by exact_mod_cast Nat.succ_le_succ (Nat.zero_le d)
  have hhigh : ((d + 1 : ℕ) : ℚ) ≤ 17 := by exact_mod_cast Nat.succ_le_succ hd
  have hbases : maximum (finite 1) (minimum (finite 17) (wholeNumber (finite (d : ℚ) + finite 1))) =
      finite (d : ℚ) + finite 1 := by
    rw [hsum, wholeNumber_nat, minimum_finite, maximum_finite, min_eq_right hhigh, max_eq_right hlow]
  simp only [automaticValidationFix, equalLayout, hwall, if_true, hbases]
  rw [← hdividers]

/-! ## Adding a back -/

theorem balanceDesignSymmetry_back (spec : ConstructionSpec) :
    balanceDesignSymmetry { spec with backPanel := true } =
      (balanceDesignSymmetry spec).map fun resolvedSpec => { resolvedSpec with backPanel := true } := by
  unfold balanceDesignSymmetry
  cases spec.symmetryLocked with
  | false => simp
  | true =>
    cases balancedBayRatios spec.toDesignSpec with
    | none => simp
    | some bays =>
      cases balancedShelfRatios spec.toDesignSpec with
      | none => simp
      | some rows => simp

/-- A back resolves its finding and keeps the geometry as it is. -/
theorem enableBack_resolves {spec resolvedSpec : ConstructionSpec} {parts : List ResolvedPart}
    (hresolved : balanceDesignSymmetry spec = some resolvedSpec)
    (hpasses : passesGeometry resolvedSpec.toDesignSpec = true)
    (hparts : generateParts resolvedSpec = some parts) (hoverrides : spec.partOverrides = [])
    (hremoved : spec.removedPartIds = []) : FixResolves spec "STAB-RACK-001" .enableBack := by
  obtain ⟨w, depth, t, back, load, d, c, hm⟩ := exists_measures hpasses
  obtain ⟨hsameOverrides, hsameRemoved, -⟩ := balanceDesignSymmetry_keeps hresolved
  have hnoOverrides := hsameOverrides.trans hoverrides
  have hnoRemoved := hsameRemoved.trans hremoved
  rw [generateParts_eq hnoOverrides hnoRemoved] at hparts
  split at hparts
  case isFalse => cases hparts
  rename_i hmaterial
  rw [Option.map_eq_some_iff] at hparts
  obtain ⟨divisions, hdivisions, -⟩ := hparts
  have hbays : divisions.bays = d + 1 := by
    have hcount := hdivisions
    simp only [divisionsOf, Option.bind_eq_bind, Option.bind_eq_some_iff, hm.dividers,
      truncated_count] at hcount
    obtain ⟨_, -, _, -, _, -, _, -, bays, hbays, _, -, _, -, hdivided⟩ := hcount
    have hlength : arrayLength (finite (d : ℚ) + finite 1) = some (d + 1) := by
      have hd := hm.dividers_le
      have := arrayLength_nat (n := d + 1) (by omega)
      simpa using this
    rw [hlength, Option.some.injEq] at hbays
    rw [← Option.some.inj hdivided, ← hbays]
  set fixedSpec : ConstructionSpec := { resolvedSpec with backPanel := true } with hfixed
  have hfixedParts : generateParts fixedSpec = some (allParts fixedSpec divisions) := by
    rw [@generateParts_eq fixedSpec hnoOverrides hnoRemoved,
      if_pos (show fixedSpec.materialId ∈ materialCatalog from hmaterial)]
    exact congrArg (Option.map (allParts fixedSpec)) hdivisions
  obtain ⟨geometry, hgeometry, hstatus⟩ : ∃ geometry,
      invalidGeometryRule fixedSpec.toDesignSpec = some geometry ∧ geometry.status = .pass := by
    simp only [passesGeometry, Option.any_eq_true, decide_eq_true_eq] at hpasses
    exact hpasses
  have hm' : Measures fixedSpec.toDesignSpec w depth t back load d c := hm
  obtain ⟨shelves, hshelves⟩ := exists_shelfRule hm'
  have hbackPart : ((allParts fixedSpec divisions).any fun part => part.kind = .back) = true := by
    have hfilter := (allParts_filter fixedSpec divisions).2.2
    have hnonempty : backParts fixedSpec (outerWidth fixedSpec.toDesignSpec)
        (boardThickness fixedSpec.toDesignSpec) divisions.widths divisions.bays ≠ [] := by
      unfold backParts
      rw [if_neg (by simp [hfixed])]
      split
      · simp
      · rw [hbays, ne_eq, List.map_eq_nil_iff, List.range_eq_nil]
        omega
    rw [← hfilter] at hnonempty
    obtain ⟨part, hpart⟩ := List.exists_mem_of_ne_nil _ hnonempty
    obtain ⟨hmem, hkind⟩ := List.mem_filter.mp hpart
    exact List.any_eq_true.mpr ⟨part, hmem, hkind⟩
  have hback : (backRule fixedSpec (allParts fixedSpec divisions)).status = .pass := by
    unfold backRule
    rw [if_pos]
    rw [hbackPart, Bool.and_true]
  refine ⟨_, resolveDesign_eq_some.mpr ⟨fixedSpec, _, geometry, shelves, ?_, hfixedParts, hgeometry,
    hshelves, rfl⟩, ?_⟩
  · show balanceDesignSymmetry { spec with backPanel := true } = _
    rw [balanceDesignSymmetry_back, hresolved, Option.map_some]
  · obtain ⟨hgeo, -, hrack, -⟩ := resolved_passes_iff (allParts fixedSpec divisions) hgeometry
      hshelves
    exact ⟨hrack.mpr hback, hgeo.mpr hpasses⟩

/-! ## Exactly when a fix resolves its finding -/

/-- The least number of dividers within the limit is unique. -/
theorem IsLeastWithinLimit.unique {spec : ConstructionSpec} {m n : Nat}
    (hm : IsLeastWithinLimit spec m) (hn : IsLeastWithinLimit spec n) : m = n := by
  obtain ⟨-, hlem, hwithinm, hleastm⟩ := hm
  obtain ⟨-, hlen, hwithinn, hleastn⟩ := hn
  rcases Nat.lt_trichotomy m n with hlt | heq | hgt
  · exact absurd hwithinm (hleastn m hlem hlt)
  · exact heq
  · exact absurd hwithinn (hleastm n hlen hgt)

section Fixes

variable {spec resolvedSpec : ConstructionSpec} {parts : List ResolvedPart} {suggestion : RuleSuggestion}

/-- What the shelf rule suggests: a count greater than the current one, where shelves are carried. -/
theorem shelfRule_suggestion {shelves : Evaluation} (h : shelfRule resolvedSpec = some shelves)
    (hsuggestion : shelves.suggestion = some suggestion) :
    equal resolvedSpec.shelfCount (finite 0) = false ∧ ∃ value, suggestion = .setDividerCount value ∧
      suggestedDividerCount resolvedSpec = some value ∧ le value resolvedSpec.dividerCount = false := by
  unfold shelfRule at h
  split at h
  · rw [← Option.some.inj h] at hsuggestion
    cases hsuggestion
  · rename_i hcount
    simp only [Option.bind_eq_bind, Option.bind_eq_some_iff, Option.pure_def,
      Option.some.injEq] at h
    obtain ⟨result, -, value, hvalue, rfl⟩ := h
    simp only at hsuggestion
    split at hsuggestion
    · cases hsuggestion
    · rename_i hmore
      exact ⟨by simpa using hcount, value, (Option.some.inj hsuggestion).symm, hvalue,
        by simpa using fun hle => hmore (.inr hle)⟩

/-- The dividers that the shelf rule suggests. -/
theorem setDividerCount_resolves_iff (hresolved : balanceDesignSymmetry spec = some resolvedSpec)
    (hpasses : passesGeometry resolvedSpec.toDesignSpec = true)
    (hparts : generateParts resolvedSpec = some parts) (hoverrides : spec.partOverrides = [])
    (hremoved : spec.removedPartIds = []) {shelves : Evaluation}
    (hshelves : shelfRule resolvedSpec = some shelves)
    (hsuggestion : shelves.suggestion = some suggestion) :
    FixResolves spec "STR-DEF-001" suggestion ↔ FixSuffices spec suggestion := by
  obtain ⟨w, depth, t, back, load, d, c, hm⟩ := exists_measures hpasses
  obtain ⟨hshelfCount, value, rfl, hvalue, hmore⟩ := shelfRule_suggestion hshelves hsuggestion
  obtain ⟨n, hn, hn16, hfound⟩ := suggestedDividerCount_cases hm
  obtain rfl : finite (n : ℚ) = value := Option.some.inj (hn.symm.trans hvalue)
  have hdn : d < n := by
    rw [hm.dividers, le_finite, decide_eq_false_iff_not, not_le] at hmore
    exact_mod_cast hmore
  replace hfound := hfound.resolve_left (by omega)
  rw [FixResolves, setDividerCount_eq spec hn16]
  constructor
  · rintro ⟨evaluations, hdesign, hshelfPass, hgeometryPass⟩
    obtain ⟨fixedSpec, fixedParts, geometry, fixedShelves, hfixed, -, hgeometry, hfixedShelves, rfl⟩ :=
      resolveDesign_eq_some.mp hdesign
    obtain ⟨hgeo, hdef, -⟩ := resolved_passes_iff fixedParts hgeometry hfixedShelves
    have hfits := equalLayout_fits .manual .count hresolved hpasses hn16 hfixed (hgeo.mp hgeometryPass)
    have hwithin := (equalLayout_shelves_iff .manual .count hresolved hpasses hm hn16 (by omega)
      hshelfCount hfixed hfixedShelves).mp (hdef.mp hshelfPass)
    rcases hfound with hleast | ⟨rfl, hnone⟩
    · exact ⟨resolvedSpec, n, hresolved, hleast, hfits⟩
    · exact absurd hwithin (hnone 16 (by omega) (le_refl 16))
  · rintro ⟨other, m, hother, hleast, hfits⟩
    obtain rfl : resolvedSpec = other := Option.some.inj (hresolved.symm.trans hother)
    obtain ⟨hm16, hlow, hwithin, -⟩ := id hleast
    have hdm : d ≤ m := by
      rw [hm.dividers, le_finite, decide_eq_true_eq] at hlow
      exact_mod_cast hlow
    have hmn : m = n := by
      rcases hfound with hleast' | ⟨-, hnone⟩
      · exact hleast.unique hleast'
      · exact absurd hwithin (hnone m hdm hm16)
    subst hmn
    obtain ⟨fixedSpec, fixedParts, geometry, fixedShelves, hfixed, hfixedParts, hgeometry, hstatus,
      hfixedShelves, -⟩ :=
        exists_equalLayout .manual .count hresolved hpasses hparts hoverrides hremoved hn16 hfits
    obtain ⟨hgeo, hdef, -⟩ := resolved_passes_iff fixedParts hgeometry hfixedShelves
    refine ⟨_, resolveDesign_eq_some.mpr ⟨fixedSpec, fixedParts, geometry, fixedShelves, hfixed,
      hfixedParts, hgeometry, hfixedShelves, rfl⟩, hdef.mpr ?_, hgeo.mpr ?_⟩
    · exact (equalLayout_shelves_iff .manual .count hresolved hpasses hm hn16 (by omega) hshelfCount
        hfixed hfixedShelves).mpr hwithin
    · exact (passesGeometry_iff_status hgeometry).mpr hstatus

/-- The base cabinets that the alignment rule suggests. -/
theorem alignBaseCabinets_resolves_iff (hresolved : balanceDesignSymmetry spec = some resolvedSpec)
    (hpasses : passesGeometry resolvedSpec.toDesignSpec = true)
    (hparts : generateParts resolvedSpec = some parts) (hoverrides : spec.partOverrides = [])
    (hremoved : spec.removedPartIds = []) {evaluation : Evaluation}
    (halignment : baseSupportAlignmentRule resolvedSpec.toDesignSpec parts = some evaluation)
    (hsuggestion : evaluation.suggestion = some suggestion) :
    FixResolves spec "BASE-SUPPORT-001" suggestion ↔ FixSuffices spec suggestion := by
  obtain ⟨w, depth, t, back, load, d, c, hm⟩ := exists_measures hpasses
  obtain ⟨-, -, -, -, hsameDividers, hsameType⟩ := balanceDesignSymmetry_keeps hresolved
  have hdividers : spec.dividerCount = finite d := hsameDividers.symm.trans hm.dividers
  have hd := hm.dividers_le
  unfold baseSupportAlignmentRule at halignment
  split at halignment
  · cases halignment
  rename_i hwall
  have hwall : spec.furnitureType = .wallLibrary := by
    rw [← hsameType]
    by_contra hnot
    exact hwall (.inl hnot)
  split at halignment
  · rw [← Option.some.inj halignment] at hsuggestion
    cases hsuggestion
  rw [← Option.some.inj halignment, Option.some.injEq] at hsuggestion
  subst hsuggestion
  rw [FixResolves, hm.dividers, alignBaseCabinets_eq spec hd hdividers hwall]
  constructor
  · rintro ⟨evaluations, hdesign, -, hgeometryPass⟩
    obtain ⟨fixedSpec, fixedParts, geometry, fixedShelves, hfixed, -, hgeometry, hfixedShelves, rfl⟩ :=
      resolveDesign_eq_some.mp hdesign
    obtain ⟨hgeo, -⟩ := resolved_passes_iff fixedParts hgeometry hfixedShelves
    exact ⟨d, hdividers, equalLayout_fits _ _ hresolved hpasses hd hfixed (hgeo.mp hgeometryPass)⟩
  · rintro ⟨other, hother, hfits⟩
    obtain rfl : d = other := by
      rw [hdividers, finite.injEq] at hother
      exact_mod_cast hother
    obtain ⟨fixedSpec, fixedParts, geometry, fixedShelves, hfixed, hfixedParts, hgeometry, hstatus,
      hfixedShelves, haligned⟩ := exists_equalLayout spec.reinforcementMode spec.baySizingMode
        hresolved hpasses hparts hoverrides hremoved hd hfits
    obtain ⟨hgeo, -, -, hbase⟩ := resolved_passes_iff fixedParts hgeometry hfixedShelves
    refine ⟨_, resolveDesign_eq_some.mpr ⟨fixedSpec, fixedParts, geometry, fixedShelves, hfixed,
      hfixedParts, hgeometry, hfixedShelves, rfl⟩, hbase.mpr ?_,
      hgeo.mpr ((passesGeometry_iff_status hgeometry).mpr hstatus)⟩
    -- Every divider is over a side, so the rule has its other branch.
    rw [equalLayout_balanced, Option.map_eq_some_iff] at hfixed
    obtain ⟨rows, -, rfl⟩ := hfixed
    have hmany : ¬((equalLayout spec spec.reinforcementMode spec.baySizingMode d).furnitureType ≠
        .wallLibrary ∨ lt (equalLayout spec spec.reinforcementMode spec.baySizingMode
          d).baseCabinetCount (finite 1) = true) := by
      have hnonneg : (0 : ℚ) ≤ d := Nat.cast_nonneg d
      simp [equalLayout, hwall, hnonneg]
    refine ⟨{ ruleId := "BASE-SUPPORT-001", status := .pass, suggestion := none }, ?_, rfl⟩
    unfold baseSupportAlignmentRule
    rw [if_neg hmany, haligned hwall, List.isEmpty_nil, if_pos rfl]

/-- A suggested fix resolves the finding it was made for and keeps GEO-001 passed exactly when the
    search was successful and the equal bays and the balanced shelf rows fit. -/
theorem automaticFix_resolves_iff {evaluations : List Evaluation} {evaluation : Evaluation}
    (hoverrides : spec.partOverrides = []) (hremoved : spec.removedPartIds = [])
    (hdesign : resolveDesign spec = some evaluations) (hpasses : PassesRule evaluations "GEO-001")
    (hmem : evaluation ∈ evaluations) (hsuggestion : evaluation.suggestion = some suggestion) :
    FixResolves spec evaluation.ruleId suggestion ↔ FixSuffices spec suggestion := by
  obtain ⟨resolvedSpec, parts, geometry, shelves, hresolved, hparts, hgeometry, hshelves, rfl⟩ :=
    resolveDesign_eq_some.mp hdesign
  have hvalid := (resolved_passes_iff parts hgeometry hshelves).1.mp hpasses
  simp only [List.cons_append, List.nil_append, List.mem_cons, Option.mem_toList] at hmem
  rcases hmem with rfl | rfl | rfl | halignment
  · cases hsuggestion
  · rw [shelfRule_id hshelves]
    exact setDividerCount_resolves_iff hresolved hvalid hparts hoverrides hremoved hshelves hsuggestion
  · rw [backRule_id]
    unfold backRule at hsuggestion
    split at hsuggestion
    · cases hsuggestion
    · obtain rfl : .enableBack = suggestion := Option.some.inj hsuggestion
      exact iff_of_true (enableBack_resolves hresolved hvalid hparts hoverrides hremoved) trivial
  · rw [baseSupportAlignmentRule_id halignment]
    exact alignBaseCabinets_resolves_iff hresolved hvalid hparts hoverrides hremoved halignment
      hsuggestion

end Fixes

/-! ## A wall library with two base cabinets under five bays -/

namespace TwoUnderFive

/-- A wall library of a width, with four dividers over two base cabinets. -/
def library (widthMm : ℚ) : ConstructionSpec where
  furnitureType := .wallLibrary
  widthMm := finite widthMm
  heightMm := finite 2000
  depthMm := finite 400
  materialId := "birch-plywood"
  nominalThicknessMm := finite 18
  measuredThicknessMm := finite 18
  measuredBackThicknessMm := finite 6
  shelfCount := finite 0
  loadPerShelfKg := finite 20
  plinth := true
  plinthHeightMm := finite 80
  dividerCount := finite 4
  baySizingMode := .count
  bayWidthRatios := []
  shelfHeightRatios := []
  symmetryLocked := false
  baseCabinetHeightMm := finite 700
  baseCabinetDepthMm := finite 400
  baseCabinetCount := finite 2
  reinforcementMode := .manual
  backPanel := true
  backPanelType := .insetGroove
  partOverrides := []
  removedPartIds := []

def finding : Evaluation :=
  ⟨"BASE-SUPPORT-001", .block, some (.alignBaseCabinets (finite 5))⟩

def evaluations : List Evaluation :=
  [⟨"GEO-001", .pass, none⟩, ⟨"STR-DEF-001", .pass, none⟩, ⟨"STAB-RACK-001", .pass, none⟩, finding]

theorem finding_mem : finding ∈ evaluations := by
  simp [evaluations]

theorem library_design : resolveDesign (library 1000) = some evaluations ∧
    resolveDesign (library 1600) = some evaluations :=
  ⟨by decide +kernel, by decide +kernel⟩

theorem evaluations_geometry : PassesRule evaluations "GEO-001" := by
  simp [PassesRule, evaluations, finding]

/-- Five cabinets under bays of 178.4 mm are narrower than 200 mm. -/
theorem fix_breaks_geometry : ¬∀ (spec : ConstructionSpec) (evaluations : List Evaluation)
    (evaluation : Evaluation) (suggestion : RuleSuggestion), spec.partOverrides = [] →
    spec.removedPartIds = [] → resolveDesign spec = some evaluations →
    PassesRule evaluations "GEO-001" → evaluation ∈ evaluations →
    evaluation.suggestion = some suggestion → FixResolves spec evaluation.ruleId suggestion := by
  intro h
  obtain ⟨fixedEvaluations, hfixed, -, -, hpass⟩ := h (library 1000) evaluations _ _ rfl rfl
    library_design.1 evaluations_geometry finding_mem rfl
  have hblocked : (resolveDesign (automaticValidationFix (.alignBaseCabinets (finite 5))
      (library 1000))).any (fun evaluations => evaluations.all fun evaluation =>
        evaluation.ruleId = "GEO-001" → evaluation.status = .pass) = false := by decide +kernel
  rw [hfixed, Option.any_some, List.all_eq_false] at hblocked
  obtain ⟨blocked, hmem, hnot⟩ := hblocked
  exact hnot (decide_eq_true (hpass blocked hmem))

example : evaluations.length = 4 := by decide +kernel

theorem automaticFix_resolves_iff_wide :
    FixResolves (library 1600) "BASE-SUPPORT-001" (.alignBaseCabinets (finite 5)) :=
  (automaticFix_resolves_iff rfl rfl library_design.2 evaluations_geometry finding_mem rfl).mpr
    ⟨4, rfl, by decide +kernel, [], by decide +kernel, by decide +kernel⟩

end TwoUnderFive

end Custombuild.Web.Construction
