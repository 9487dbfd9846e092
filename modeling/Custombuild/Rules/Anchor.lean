/-
  What the registration of a wall anchor changes.

  The anchor is no part of the compiled furniture: the same parts and joints come out, and the
  tip rule computes the same factor.  Only the status differs, and it falls exactly where the
  furniture was blocked for tipping over.
-/
import Mathlib.Tactic.Positivity
import Custombuild.Rules.AutoCorrect
import Custombuild.Domain.Solids

namespace Custombuild.Rules

open Custombuild.Lib Custombuild.Domain

/-! ## Evaluations -/

theorem validate_eq_ok {evaluation result : RuleEvaluation} :
    evaluation.validate = .ok result ↔
      (∀ number ∈ evaluation.trace, (toString number).length ≤ 100) ∧ result = evaluation := by
  simp only [RuleEvaluation.validate, bind_eq_ok, require_eq_ok, List.all_eq_true,
    decide_eq_true_eq]
  constructor
  · rintro ⟨-, htrace, hresult⟩
    exact ⟨htrace, (Except.ok.inj hresult).symm⟩
  · rintro ⟨htrace, rfl⟩
    exact ⟨(), htrace, rfl⟩

section Ids

variable {design : DesignResult} {evaluation : RuleEvaluation}

theorem shelfDeflection_ruleId (h : shelfDeflection design = .ok evaluation) :
    evaluation.ruleId = .deflection := by
  rw [shelfDeflection, validate_eq_ok] at h
  rw [h.2]

theorem shelfBending_ruleId (h : shelfBending design = .ok evaluation) :
    evaluation.ruleId = .bending := by
  rw [shelfBending, validate_eq_ok] at h
  rw [h.2]

theorem jointCapacity_ruleId (h : jointCapacity design = .ok evaluation) :
    evaluation.ruleId = .joint := by
  unfold jointCapacity at h
  simp only at h
  split at h
  · rw [(validate_eq_ok.mp h).2]
    rfl
  · obtain ⟨cases, -, h⟩ := bind_eq_ok.mp h
    split at h
    · rw [(validate_eq_ok.mp h).2]
      rfl
    · split at h
      · rw [(validate_eq_ok.mp h).2]
        rfl
      · rw [(validate_eq_ok.mp h).2]
        rfl

theorem lateralStability_ruleId (h : lateralStability design = .ok evaluation) :
    evaluation.ruleId = .stability := by
  rw [lateralStability, validate_eq_ok] at h
  rw [h.2]

/-- The tip rule reports the status of its factor. -/
theorem tipRisk_ok (h : tipRisk design = .ok evaluation) :
    evaluation.ruleId = .tip ∧
      evaluation.status = tipStatus design.spec.parameters (tipFactorPermille design) := by
  simp only [tipRisk, bind_eq_ok, require_eq_ok, validate_eq_ok] at h
  obtain ⟨-, -, -, rfl⟩ := h
  exact ⟨rfl, rfl⟩

end Ids

/-- The rules of a report. -/
structure Evaluated (design : DesignResult) (report : RuleReport) where
  deflection : RuleEvaluation
  bending : RuleEvaluation
  joint : RuleEvaluation
  stability : RuleEvaluation
  tip : RuleEvaluation
  cabinets : List RuleEvaluation
  deflection_eq : shelfDeflection design = .ok deflection
  bending_eq : shelfBending design = .ok bending
  joint_eq : jointCapacity design = .ok joint
  stability_eq : lateralStability design = .ok stability
  tip_eq : tipRisk design = .ok tip
  cabinets_eq : cabinetRules design = .ok cabinets
  evaluations_eq : report.evaluations = [deflection, bending, joint, stability, tip] ++ cabinets
  overall_eq : report.overallStatus = aggregateStatus (report.evaluations.map RuleEvaluation.status)

theorem evaluated_of_ok {design : DesignResult} {report : RuleReport}
    (h : evaluate design = .ok report) : Nonempty (Evaluated design report) := by
  simp only [evaluate, bind_eq_ok] at h
  obtain ⟨deflection, h₁, bending, h₂, joint, h₃, stability, h₄, tip, h₅, cabinets, h₆, h⟩ := h
  cases h
  exact ⟨⟨deflection, bending, joint, stability, tip, cabinets, h₁, h₂, h₃, h₄, h₅, h₆, rfl, rfl⟩⟩

theorem statusOf_tip {design : DesignResult} {report : RuleReport}
    (e : Evaluated design report) : report.statusOf .tip = some e.tip.status := by
  have h₁ := shelfDeflection_ruleId e.deflection_eq
  have h₂ := shelfBending_ruleId e.bending_eq
  have h₃ := jointCapacity_ruleId e.joint_eq
  have h₄ := lateralStability_ruleId e.stability_eq
  have h₅ := (tipRisk_ok e.tip_eq).1
  rw [RuleReport.statusOf, RuleReport.find?, e.evaluations_eq]
  simp only [List.cons_append, List.find?_cons, h₁, h₂, h₃, h₄, h₅]
  rfl

/-! ## Registered anchors -/

/-- The specification with a registered anchor. -/
def registerIn (spec : BookcaseDesignSpec) : BookcaseDesignSpec :=
  { spec with parameters := registerAnchor spec.parameters }

theorem registerAnchor_validate {p : BookcaseParameters} (h : p.validate = .ok ()) :
    (registerAnchor p).validate = .ok () := by
  simp only [BookcaseParameters.validate, BookcaseParameters.checkFields, bind_eq_ok] at h ⊢
  obtain ⟨⟨⟩, ⟨⟨⟩, hranges, -⟩, hgeometry⟩ := h
  exact ⟨(), ⟨(), hranges, rfl⟩, hgeometry⟩

theorem registerIn_validate {spec : BookcaseDesignSpec} (h : spec.validate = .ok ()) :
    (registerIn spec).validate = .ok () := by
  simp only [BookcaseDesignSpec.validate, bind_eq_ok] at h ⊢
  obtain ⟨⟨⟩, hrevision, ⟨⟩, hparameters, hrest⟩ := h
  exact ⟨(), hrevision, (), registerAnchor_validate hparameters, hrest⟩

/-- The anchor is no part of the furniture. -/
theorem build_registerIn {hashing : Hashing} {spec : BookcaseDesignSpec} {design : DesignResult}
    (h : build hashing spec = .ok design) :
    ∃ hash, build hashing (registerIn spec) =
      .ok { design with designHash := hash, spec := registerIn spec } := by
  simp only [build, bind_eq_ok] at h
  obtain ⟨parts, hparts, ⟨updated, joints⟩, hjoints, graph, hgraph, ⟨⟩, hvalid, hdesign⟩ := h
  cases hdesign
  refine ⟨hashing.contentHash (.design { registerIn spec with revision := 0 }
    (updated.map fun part => { part with revision := 0 }) joints graph), ?_⟩
  simp only [build, bind_eq_ok]
  exact ⟨parts, hparts, (updated, joints), hjoints, graph, hgraph, (), hvalid, rfl⟩

/-! ## The tip rule -/

/-- The furniture stands with a margin of one half. -/
def StandsFree (design : DesignResult) : Prop := 3 * overturning design ≤ 2 * resisting design

theorem surfaces_pos {design : DesignResult} {height : Int} (h : height ∈ shelfSurfacesZ design) :
    0 < height := by
  rw [shelfSurfacesZ, mem_sortedSet] at h
  obtain ⟨part, -, rfl⟩ := List.mem_map.mp h
  have hz := part.placement.nonneg.2.2
  have hheight := part.finishedSize.positive.2.2
  omega

theorem loadCgZ_nonneg (design : DesignResult) : 0 ≤ loadCgZ design := by
  unfold loadCgZ
  split
  · have hsum : (0 : Int) ≤ (shelfSurfacesZ design).sum :=
      List.sum_nonneg fun height h => (surfaces_pos h).le
    have hcast : (0 : Rat) ≤ ((shelfSurfacesZ design).sum : Int) := by exact_mod_cast hsum
    positivity
  · exact le_refl _

section Moments

variable {hashing : Hashing} {spec : BookcaseDesignSpec} {design : DesignResult}

theorem weight_pos (c : Compiled hashing spec design) {part : PartInstance}
    (h : part ∈ design.parts) : 0 < part.weightG := by
  obtain ⟨original, horiginal, rfl⟩ := mem_design_parts c h
  obtain ⟨plan, -, hmake⟩ := mem_of_collect c.parts_eq horiginal
  simp only [makePart, bind_eq_ok] at hmake
  obtain ⟨size, -, placement, -, raw, -, hpart⟩ := hmake
  cases hpart
  simp only [weightG]
  omega

theorem totalWeight_pos (c : Compiled hashing spec design) : 0 < design.totalWeightG := by
  have hvalid := c.valid
  simp only [DesignResult.validate, bind_eq_ok, require_eq_ok, decide_eq_true_eq] at hvalid
  exact hvalid.choose_spec.1

theorem productCgZ_nonneg (c : Compiled hashing spec design) : 0 ≤ productCgZ design := by
  have hweight := totalWeight_pos c
  have hsum : (0 : Int) ≤ (design.parts.map fun part =>
      part.weightG * (2 * part.placement.zUm + part.finishedSize.heightUm)).sum := by
    refine List.sum_nonneg fun moment h => ?_
    obtain ⟨part, hpart, rfl⟩ := List.mem_map.mp h
    have hw := weight_pos c hpart
    have hz := part.placement.nonneg.2.2
    have hheight := part.finishedSize.positive.2.2
    positivity
  have hcast : (0 : Rat) ≤ (((design.parts.map fun part =>
      part.weightG * (2 * part.placement.zUm + part.finishedSize.heightUm)).sum : Int) : Rat) := by
    exact_mod_cast hsum
  have hmass : (0 : Rat) < design.totalWeightG := by exact_mod_cast hweight
  rw [productCgZ]
  simp only [ne_eq, hweight.ne', not_false_eq_true, if_true]
  positivity

/-- The loads of accepted parameters are not negative, and they are pushed by some force. -/
theorem loads_of_validate {p : BookcaseParameters} (h : p.validate = .ok ()) :
    0 ≤ p.shelfLoadN ∧ 0 < p.assumedHorizontalForceN ∧ 0 < p.depthUm := by
  simp only [BookcaseParameters.validate, BookcaseParameters.checkFields,
    BookcaseParameters.checkRanges, bind_eq_ok, require_eq_ok, exists_const, decide_eq_true_eq,
    Bool.and_eq_true] at h
  obtain ⟨-, ⟨⟨-, -, hdepth, -, -, -, hload, -, -, -, -, -, -, -, -, -, -, -, -, -, hforce⟩, -⟩,
    -⟩ := h
  exact ⟨hload.1, hforce, by omega⟩

variable (hbuild : build hashing spec = .ok design) (hvalid : spec.validate = .ok ())

include hbuild hvalid

theorem totalVerticalN_pos : 0 < totalVerticalN design := by
  obtain ⟨c⟩ := compiled_of_build hbuild
  have hweight : (0 : Rat) < design.totalWeightG := by exact_mod_cast totalWeight_pos c
  have hload : 0 ≤ loadForceN design := by
    have := (loads_of_validate (parameters_valid hvalid)).1
    rw [loadForceN, spec_of_build hbuild]
    positivity
  have hforce : (0 : Rat) ≤ loadForceN design := by exact_mod_cast hload
  unfold totalVerticalN productWeightN
  positivity

theorem resisting_nonneg : 0 ≤ resisting design := by
  have hpos := totalVerticalN_pos hbuild hvalid
  have hdepth : (0 : Rat) < design.spec.parameters.depthUm := by
    rw [spec_of_build hbuild]
    exact_mod_cast (loads_of_validate (parameters_valid hvalid)).2.2
  unfold resisting
  positivity

theorem overturning_nonneg : 0 ≤ overturning design := by
  obtain ⟨c⟩ := compiled_of_build hbuild
  have hpos := totalVerticalN_pos hbuild hvalid
  have hproduct := productCgZ_nonneg c
  have hcg := loadCgZ_nonneg design
  have hweight : (0 : Rat) < design.totalWeightG := by exact_mod_cast totalWeight_pos c
  have hloads := loads_of_validate (parameters_valid hvalid)
  have hload : (0 : Rat) ≤ loadForceN design := by
    have : 0 ≤ loadForceN design := by
      rw [loadForceN, spec_of_build hbuild]
      have := hloads.1
      positivity
    exact_mod_cast this
  have hforce : (0 : Rat) < design.spec.parameters.assumedHorizontalForceN := by
    rw [spec_of_build hbuild]
    exact_mod_cast hloads.2.1
  have hproductWeight : 0 ≤ productWeightN design := by
    unfold productWeightN
    positivity
  have hcombined : 0 ≤ combinedCgZ design := by
    rw [combinedCgZ, if_pos hpos.ne']
    positivity
  unfold overturning
  positivity

/-- The factor is below one and a half exactly where the furniture does not stand free. -/
theorem tipFactor_lt_iff : tipFactorPermille design < 1500 ↔ ¬StandsFree design := by
  have hresisting := resisting_nonneg hbuild hvalid
  have hoverturning := overturning_nonneg hbuild hvalid
  unfold tipFactorPermille StandsFree
  by_cases hzero : overturning design = 0
  · simp only [hzero, ne_eq, not_true_eq_false, if_false]
    constructor
    · intro h
      omega
    · intro h
      exact absurd (by linarith) h
  · have hpos : 0 < overturning design := lt_of_le_of_ne hoverturning (Ne.symm hzero)
    have hquotient : 0 ≤ resisting design * 1000 / overturning design := by positivity
    simp only [ne_eq, hzero, not_false_eq_true, if_true, hquotient]
    rw [Int.floor_lt, not_le, div_lt_iff₀ hpos]
    push_cast
    constructor
    · intro h
      linarith
    · intro h
      linarith

end Moments

/-! ## What registration does to the status -/

/-- The tip rule blocks exactly furniture that needs no anchor and does not stand free. -/
theorem tipStatus_block_iff {p : BookcaseParameters} {factor : Int} :
    tipStatus p factor = .block ↔ anchorRequired p = false ∧ factor < 1500 := by
  unfold tipStatus
  cases hrequired : anchorRequired p with
  | true => cases hverified : p.wallAnchor.verified <;> simp
  | false =>
    simp only [Bool.false_and, Bool.false_eq_true, if_false, true_and]
    constructor
    · intro h
      by_contra hle
      rw [if_neg hle] at h
      split at h <;> cases h
    · intro h
      rw [if_pos h]

theorem tipStatus_registered (p : BookcaseParameters) (factor : Int) :
    tipStatus (registerAnchor p) factor = .warning := by
  simp [tipStatus, anchorRequired, registerAnchor]

/-- The status falls exactly from a block. -/
theorem registered_lowers_iff {p : BookcaseParameters} {factor : Int} :
    (tipStatus p factor).rank ≤ (tipStatus (registerAnchor p) factor).rank ↔
      ¬tipStatus p factor = .block := by
  rw [tipStatus_registered]
  cases tipStatus p factor <;> simp [RuleStatus.rank]

/-- Registering an anchor without evidence does not clear the finding of the tip rule: not in the
    report of the specification, and not in a correction that changes nothing else. -/
structure AnchorKeepsFinding (hashing : Hashing) (spec : BookcaseDesignSpec) : Prop where
  severity : ∀ before after tip tip', build hashing spec = .ok before →
    build hashing (registerIn spec) = .ok after → tipRisk before = .ok tip →
    tipRisk after = .ok tip' → tip.status.rank ≤ tip'.status.rank
  unresolved : ∀ maxIterations result, autoCorrect hashing spec maxIterations = .ok result →
    result.initialReport.statusOf .tip = some .block → result.correctedSpec = registerIn spec →
    result.resolved = false

/-- The tip rule reports on the registered specification too, and with the same factor. -/
theorem tipRisk_registered {design : DesignResult} {tip : RuleEvaluation}
    (h : tipRisk design = .ok tip) (hash : String) :
    ∃ tip', tipRisk { design with designHash := hash, spec := registerIn design.spec } = .ok tip' ∧
      tip'.status = tipStatus (registerAnchor design.spec.parameters) (tipFactorPermille design) := by
  simp only [tipRisk, bind_eq_ok, require_eq_ok, validate_eq_ok] at h
  obtain ⟨⟨⟩, hrows, htrace, -⟩ := h
  simp only [tipRisk, bind_eq_ok, require_eq_ok, validate_eq_ok]
  exact ⟨_, ⟨(), hrows, htrace, rfl⟩, rfl⟩

/-- The report that a correction starts from. -/
theorem autoCorrect_initial {hashing : Hashing} {spec : BookcaseDesignSpec} {maxIterations : Nat}
    {result : AutoCorrectionResult} (h : autoCorrect hashing spec maxIterations = .ok result) :
    build hashing spec = .ok result.originalDesign ∧
      evaluate result.originalDesign = .ok result.initialReport := by
  simp only [autoCorrect, compile, bind_eq_ok, require_eq_ok] at h
  obtain ⟨-, -, original, ⟨design, hdesign, report, hreport, horiginal⟩, h⟩ := h
  cases horiginal
  split at h
  · cases h
    exact ⟨hdesign, hreport⟩
  · obtain ⟨final, -, h⟩ := bind_eq_ok.mp h
    cases h
    exact ⟨hdesign, hreport⟩

/-- The finding of the tip rule is kept exactly where it is no block: the furniture needs an
    anchor anyway, or it stands free. -/
theorem anchorKeepsFinding_iff {hashing : Hashing} {spec : BookcaseDesignSpec}
    {design : DesignResult} {tip : RuleEvaluation} (hvalid : spec.validate = .ok ())
    (hbuild : build hashing spec = .ok design) (htip : tipRisk design = .ok tip) :
    AnchorKeepsFinding hashing spec ↔
      anchorRequired spec.parameters = true ∨ StandsFree design := by
  have hspec := spec_of_build hbuild
  have hfactor := tipFactor_lt_iff hbuild hvalid
  have hblock : tipStatus spec.parameters (tipFactorPermille design) = .block ↔
      ¬(anchorRequired spec.parameters = true ∨ StandsFree design) := by
    rw [tipStatus_block_iff, hfactor, not_or, Bool.not_eq_true]
  constructor
  · intro hkeeps
    by_contra hnot
    obtain ⟨hash, hafter⟩ := build_registerIn hbuild
    obtain ⟨tip', htip', hstatus'⟩ := tipRisk_registered htip hash
    rw [hspec] at htip' hstatus'
    have hrank := hkeeps.severity design _ tip tip' hbuild hafter htip htip'
    rw [(tipRisk_ok htip).2, hstatus', hspec] at hrank
    exact registered_lowers_iff.mp hrank (hblock.mpr hnot)
  · intro hfree
    have hnotBlock : tipStatus spec.parameters (tipFactorPermille design) ≠ .block :=
      fun h => hblock.mp h hfree
    constructor
    · intro before after first second hbefore hafter hfirst hsecond
      have heq : before = design := Except.ok.inj (hbefore.symm.trans hbuild)
      subst heq
      obtain ⟨hash, hafter'⟩ := build_registerIn hbefore
      have heq' := Except.ok.inj (hafter.symm.trans hafter')
      obtain ⟨tip', htip', hstatus'⟩ := tipRisk_registered hfirst hash
      rw [hspec] at htip' hstatus'
      rw [heq', htip'] at hsecond
      cases hsecond
      rw [(tipRisk_ok hfirst).2, hstatus', hspec]
      exact registered_lowers_iff.mpr hnotBlock
    · intro maxIterations result hresult hinitial _
      obtain ⟨horiginal, hreport⟩ := autoCorrect_initial hresult
      have heq : result.originalDesign = design := Except.ok.inj (horiginal.symm.trans hbuild)
      rw [heq] at hreport
      obtain ⟨e⟩ := evaluated_of_ok hreport
      rw [statusOf_tip e, Option.some.injEq, (tipRisk_ok e.tip_eq).2, hspec] at hinitial
      exact absurd hinitial hnotBlock

/-- The carcass of `bareCarcass` needs an anchor for its height. -/
theorem anchorKeepsFinding_bareCarcass :
    ∃ design tip, (plywoodBookcase bareCarcass).validate = .ok () ∧
      build namedHashing (plywoodBookcase bareCarcass) = .ok design ∧ tipRisk design = .ok tip ∧
      (AnchorKeepsFinding namedHashing (plywoodBookcase bareCarcass) ↔
        anchorRequired bareCarcass = true ∨ StandsFree design) := by
  have hvalid : (plywoodBookcase bareCarcass).validate = .ok () := by decide +kernel
  have hcompiled : (compile namedHashing (plywoodBookcase bareCarcass)).isOk = true := by
    decide +kernel
  obtain ⟨candidate, hcandidate⟩ := exists_eq_ok hcompiled
  simp only [compile, bind_eq_ok] at hcandidate
  obtain ⟨design, hdesign, report, hreport, -⟩ := hcandidate
  obtain ⟨e⟩ := evaluated_of_ok hreport
  exact ⟨design, e.tip, hvalid, hdesign, e.tip_eq, anchorKeepsFinding_iff hvalid hdesign e.tip_eq⟩

/-- A carcass of one metre that is pushed with 200 N. -/
def pushedCarcass : BookcaseParameters :=
  { bareCarcass with
    heightUm := 1000000, shelfLoadN := 0, assumedHorizontalForceN := 200
    reinforcementMode := .auto }

/-- The correction registers an anchor, evaluates the tip rule to a warning and is done. -/
theorem pushedCarcass_corrected :
    okAnd (autoCorrect namedHashing (plywoodBookcase pushedCarcass) 8) (fun result =>
      result.initialReport.statusOf .tip == some .block &&
        result.correctedSpec == registerIn (plywoodBookcase pushedCarcass) && result.resolved) =
      true := by
  decide +kernel

theorem pushedCarcass_resolved :
    (plywoodBookcase pushedCarcass).validate = .ok () ∧
      ¬AnchorKeepsFinding namedHashing (plywoodBookcase pushedCarcass) := by
  obtain ⟨result, hresult, hchecks⟩ := exists_of_okAnd pushedCarcass_corrected
  simp only [Bool.and_eq_true, beq_iff_eq] at hchecks
  refine ⟨by decide +kernel, fun hkeeps => ?_⟩
  have hunresolved := hkeeps.unresolved 8 result hresult hchecks.1.1 hchecks.1.2
  rw [hchecks.2] at hunresolved
  cases hunresolved

end Custombuild.Rules
