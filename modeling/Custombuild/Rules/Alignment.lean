/-
  The advice of the support rule: as many cabinets as there are bays.  The bays and the cabinets
  then share one grid, so a side of a cabinet stands below every divider.
-/
import Custombuild.Domain.SnapTargets
import Custombuild.Rules.Anchor

namespace Custombuild.Rules

open Custombuild.Lib Custombuild.Domain BookcaseParameters

/-- The specification that the advice of the support rule asks for. -/
def alignBaseCabinets (spec : BookcaseDesignSpec) : BookcaseDesignSpec :=
  { spec with parameters :=
      { spec.parameters with baseCabinetCount := spec.parameters.verticalDividerCount + 1 } }

/-! ## Counting parts by their plans -/

theorem length_filter_role {ident : Identity} {spec : BookcaseDesignSpec} {plans : List PartPlan}
    {parts : List PartInstance} (h : List.Forall₂ (Fits ident spec) plans parts) (role : PartRole) :
    (parts.filter fun part => part.role == role).length =
      (plans.filter fun plan => plan.role == role).length := by
  induction h with
  | nil => rfl
  | cons hfits _ ih =>
    rw [List.filter_cons, List.filter_cons, hfits.role]
    split
    · rw [List.length_cons, List.length_cons, ih]
    · exact ih

theorem filter_role_eq_nil {plans : List PartPlan} {role : PartRole}
    (h : ∀ plan ∈ plans, plan.role ≠ role) : (plans.filter fun plan => plan.role == role) = [] := by
  rw [List.filter_eq_nil_iff]
  intro plan hplan
  simpa using h plan hplan

/-- The dividers among the plans. -/
theorem filter_divider_partPlans (p : BookcaseParameters) (capture : Int) :
    ((partPlans p capture).filter fun plan => plan.role == .divider).length =
      p.verticalDividerCount := by
  have hdividers : ((dividerPlans p).filter fun plan => plan.role == .divider) = dividerPlans p := by
    rw [List.filter_eq_self]
    intro plan hplan
    obtain ⟨bay, -, rfl⟩ := List.mem_map.mp hplan
    rfl
  have hshelves : ((shelfPlans p).filter fun plan => plan.role == .divider) = [] := by
    refine filter_role_eq_nil fun plan hplan => ?_
    obtain ⟨row, -, hplan⟩ := List.mem_flatMap.mp hplan
    obtain ⟨bay, -, rfl⟩ := List.mem_map.mp hplan
    exact PartRole.noConfusion
  have hbase : ((basePlans p).filter fun plan => plan.role == .divider) = [] := by
    refine filter_role_eq_nil fun plan hplan => ?_
    unfold basePlans at hplan
    split at hplan
    · rcases List.mem_append.mp hplan with hplan | hplan
      · obtain ⟨cabinet, -, rfl⟩ := List.mem_map.mp hplan
        exact PartRole.noConfusion
      · obtain ⟨cabinet, -, hplan⟩ := List.mem_flatMap.mp hplan
        rcases List.mem_pair.mp hplan with rfl | rfl
        · exact PartRole.noConfusion
        · exact PartRole.noConfusion
    · exact absurd hplan List.not_mem_nil
  have hback : ((backPlans p capture).filter fun plan => plan.role == .divider) = [] := by
    refine filter_role_eq_nil fun plan hplan => ?_
    unfold backPlans at hplan
    split at hplan
    · rw [List.mem_singleton.mp hplan]
      exact PartRole.noConfusion
    · obtain ⟨bay, -, rfl⟩ := List.mem_map.mp hplan
      exact PartRole.noConfusion
    · exact absurd hplan List.not_mem_nil
  have hplinth : ((plinthPlans p).filter fun plan => plan.role == .divider) = [] := by
    refine filter_role_eq_nil fun plan hplan => ?_
    unfold plinthPlans at hplan
    split at hplan
    · rw [List.mem_singleton.mp hplan]
      exact PartRole.noConfusion
    · exact absurd hplan List.not_mem_nil
  rw [partPlans, List.filter_append, List.filter_append, List.filter_append, List.filter_append,
    List.filter_append, hdividers, hshelves, hbase, hback, hplinth]
  simp only [List.append_nil]
  show (dividerPlans p).length = p.verticalDividerCount
  rw [dividerPlans, List.length_map, List.length_take, bays, length_baysOf, length_bayWidths]
  omega

section Built

variable {hashing : Hashing} {spec : BookcaseDesignSpec} {design : DesignResult}

theorem filter_role_design (c : Compiled hashing spec design) (role : PartRole) :
    (partsWithRole design role).length = (c.parts.filter fun part => part.role == role).length := by
  rw [partsWithRole, c.design_parts, List.filter_map, List.length_map]
  rfl

theorem length_dividers (c : Compiled hashing spec design) :
    (partsWithRole design .divider).length = spec.parameters.verticalDividerCount := by
  rw [filter_role_design c, length_filter_role c.fits, filter_divider_partPlans]

/-- A part of a design fits the plan of some panel. -/
theorem mem_partsWithRole (c : Compiled hashing spec design) {role : PartRole} {part : PartInstance}
    (h : part ∈ partsWithRole design role) : ∃ panel : Panel, panel.Present spec.parameters ∧
      (panel.plan spec.parameters c.capture).role = role ∧
      part.placement.xUm = (panel.plan spec.parameters c.capture).xUm := by
  rw [partsWithRole, c.design_parts, List.mem_filter, List.mem_map] at h
  obtain ⟨⟨made, hmade, rfl⟩, hrole⟩ := h
  obtain ⟨panel, hpresent, hfits⟩ := c.exists_panel hmade
  refine ⟨panel, hpresent, ?_, hfits.xUm⟩
  rw [← hfits.role]
  exact eq_of_beq hrole

theorem exists_partWithRole (c : Compiled hashing spec design) (panel : Panel)
    (h : panel.Present spec.parameters) :
    ∃ part ∈ partsWithRole design (panel.plan spec.parameters c.capture).role,
      part.placement.xUm = (panel.plan spec.parameters c.capture).xUm := by
  obtain ⟨made, hmade, hfits⟩ := c.exists_part panel h
  refine ⟨{ made with features := featuresOf c.made made.partId }, ?_, hfits.xUm⟩
  rw [partsWithRole, c.design_parts, List.mem_filter, List.mem_map]
  exact ⟨⟨made, hmade, rfl⟩, beq_iff_eq.mpr hfits.role⟩

/-- Where the counts agree, a divider stands at the left side of the cabinet with the next
    number. -/
theorem exists_cabinet_below {p : BookcaseParameters}
    (hcount : p.baseCabinetCount = p.verticalDividerCount + 1) {bay : Bay} (hbay : bay ∈ p.bays)
    (hlt : bay.index < p.verticalDividerCount) :
    ∃ cabinet ∈ p.cabinets, 0 < cabinet.index ∧
      cabinet.startUm - p.actualThicknessUm = bay.endUm := by
  have hopenings : p.baseOpenings = p.bayWidths := if_pos hcount
  have hlength := length_bayWidths p
  have hget := baysOf_getElem? hbay
  rw [baysOf_eq, baysFrom_getElem? _ _ _ _ (by omega), Option.some.injEq] at hget
  have hnext := baysFrom_getElem? p.actualThicknessUm 0 p.actualThicknessUm p.bayWidths
    (k := bay.index + 1) (by omega)
  refine ⟨⟨0 + (bay.index + 1), p.actualThicknessUm + (p.bayWidths.take (bay.index + 1)).sum +
    ((bay.index + 1 : Nat) : Int) * p.actualThicknessUm, p.bayWidths[bay.index + 1]⟩, ?_, ?_, ?_⟩
  · rw [cabinets, hopenings, baysOf_eq]
    exact List.mem_of_getElem? hnext
  · exact Nat.lt_of_lt_of_eq (Nat.succ_pos bay.index) (Nat.zero_add _).symm
  · have hend := congrArg Bay.endUm hget
    rw [← hend]
    show p.actualThicknessUm + (p.bayWidths.take (bay.index + 1)).sum + _ - _ =
      p.actualThicknessUm + (p.bayWidths.take bay.index).sum + _ + p.bayWidths[bay.index]
    rw [List.sum_take_succ _ _ (by omega)]
    push_cast
    ring

/-- A side of a cabinet stands below every divider. -/
theorem exists_side_below (c : Compiled hashing spec design)
    (hcount : spec.parameters.baseCabinetCount = spec.parameters.verticalDividerCount + 1)
    {divider : PartInstance} (h : divider ∈ partsWithRole design .divider) :
    ∃ side ∈ partsWithRole design .baseSide, side.placement.xUm = divider.placement.xUm := by
  obtain ⟨panel, hpresent, hrole, hx⟩ := mem_partsWithRole c h
  cases panel with
  | divider bay =>
    obtain ⟨cabinet, hcabinet, hpos, hstart⟩ := exists_cabinet_below hcount hpresent.1 hpresent.2
    obtain ⟨side, hside, hsideX⟩ := exists_partWithRole c (.baseSide cabinet)
      ⟨by omega, hcabinet, hpos⟩
    refine ⟨side, hside, ?_⟩
    rw [hsideX, hx]
    exact hstart
  | _ => exact absurd hrole PartRole.noConfusion

/-! ## The rule -/

/-- The dividers that no side of a cabinet carries. -/
def unsupportedDividers (design : DesignResult) : List PartInstance :=
  (sortBy (fun part => part.placement.xUm) (partsWithRole design .divider)).filter fun divider =>
    !(sortBy (fun part => part.placement.xUm) (partsWithRole design .baseSide)).any fun support =>
      |support.placement.xUm - divider.placement.xUm| ≤ 1000

theorem baseSupportAlignment_ok {evaluation : RuleEvaluation}
    (h : baseSupportAlignment design = .ok evaluation) : evaluation.ruleId = .support ∧
      evaluation.status = (if unsupportedDividers design = [] then .pass else .block) ∧
      evaluation.suggestedActions = (if unsupportedDividers design = [] then []
        else [{ actionType := .alignBaseCabinets
                changes := [⟨"parameters.base_cabinet_count",
                  .int design.spec.parameters.baseCabinetCount,
                  .int ((partsWithRole design .divider).length + 1)⟩] }]) := by
  simp only [baseSupportAlignment, RuleEvaluation.validate, bind_eq_ok] at h
  obtain ⟨⟨⟩, -, h⟩ := h
  cases h
  refine ⟨rfl, rfl, ?_⟩
  rw [length_sortBy]
  rfl

theorem unsupportedDividers_eq_nil
    (h : ∀ divider ∈ partsWithRole design .divider, ∃ side ∈ partsWithRole design .baseSide,
      side.placement.xUm = divider.placement.xUm) : unsupportedDividers design = [] := by
  rw [unsupportedDividers, List.filter_eq_nil_iff]
  intro divider hdivider
  obtain ⟨side, hside, hx⟩ := h divider (mem_sortBy.mp hdivider)
  rw [Bool.not_eq_true, Bool.not_eq_false', List.any_eq_true]
  refine ⟨side, mem_sortBy.mpr hside, ?_⟩
  rw [hx, sub_self]
  decide

/-- The number of unsupported dividers is short enough to be written down. -/
theorem baseSupportAlignment_of_supported (h : unsupportedDividers design = []) :
    ∃ evaluation, baseSupportAlignment design = .ok evaluation ∧ evaluation.status = .pass ∧
      evaluation.suggestedActions = [] := by
  have hrun : ∀ bottomIds, ∃ evaluation, RuleEvaluation.validate {
      ruleId := .support
      status := if unsupportedDividers design = [] then .pass else .block
      appliesToPartIds := bottomIds
      trace := [(unsupportedDividers design).length]
      calculatedValue := (unsupportedDividers design).length
      allowedValue := 0
      safetyMarginPermille := if unsupportedDividers design = [] then 1000 else -1000000
      suggestedActions := if unsupportedDividers design = [] then []
        else [{ actionType := .alignBaseCabinets
                changes := [⟨"parameters.base_cabinet_count",
                  .int design.spec.parameters.baseCabinetCount,
                  .int ((sortBy (fun part => part.placement.xUm)
                    (partsWithRole design .divider)).length + 1)⟩] }] } = .ok evaluation ∧
      evaluation.status = .pass ∧ evaluation.suggestedActions = [] := by
    intro bottomIds
    rw [h]
    exact ⟨_, rfl, rfl, rfl⟩
  exact hrun _

theorem find_cabinetRules {cabinets : List RuleEvaluation} (h : cabinetRules design = .ok cabinets) :
    (cabinets.find? fun evaluation => evaluation.ruleId == .support) = cabinets.head? := by
  simp only [cabinetRules] at h
  split at h
  · cases h
    rfl
  · simp only [bind_eq_ok] at h
    obtain ⟨support, hsupport, h⟩ := h
    cases h
    simp only [List.find?_cons, (baseSupportAlignment_ok hsupport).1]
    rfl

/-- The support rule is the sixth of a report, where there are cabinets. -/
theorem find_support {report : RuleReport} (e : Evaluated design report) :
    report.find? .support = e.cabinets.head? := by
  have h₁ := shelfDeflection_ruleId e.deflection_eq
  have h₂ := shelfBending_ruleId e.bending_eq
  have h₃ := jointCapacity_ruleId e.joint_eq
  have h₄ := lateralStability_ruleId e.stability_eq
  have h₅ := (tipRisk_ok e.tip_eq).1
  rw [RuleReport.find?, e.evaluations_eq]
  simp only [List.cons_append, List.nil_append, List.find?_cons, h₁, h₂, h₃, h₄, h₅]
  exact find_cabinetRules e.cabinets_eq

/-- The cabinets of a report are evaluated where there are any. -/
theorem head_cabinetRules {cabinets : List RuleEvaluation} {evaluation : RuleEvaluation}
    (h : cabinetRules design = .ok cabinets) :
    cabinets.head? = some evaluation ↔ baseSupportAlignment design = .ok evaluation ∧
      (design.parts.filter fun part => isCabinetRole part.role) ≠ [] := by
  simp only [cabinetRules] at h
  split at h
  · next hnone =>
    cases h
    simp [hnone]
  · next hsome =>
    simp only [bind_eq_ok] at h
    obtain ⟨support, hsupport, h⟩ := h
    cases h
    rw [hsupport, List.head?_cons, Option.some.injEq, Except.ok.injEq]
    exact (and_iff_left hsome).symm

/-- The furniture has a bottom for every cabinet. -/
theorem exists_cabinet_part (c : Compiled hashing spec design)
    (hcount : spec.parameters.baseCabinetCount = spec.parameters.verticalDividerCount + 1) :
    (design.parts.filter fun part => isCabinetRole part.role) ≠ [] := by
  have hne : spec.parameters.cabinets ≠ [] := by
    rw [cabinets, ← List.length_pos_iff, length_baysOf, baseOpenings, if_pos hcount,
      length_bayWidths]
    exact Nat.succ_pos _
  obtain ⟨cabinet, hcabinet⟩ := List.exists_mem_of_ne_nil _ hne
  obtain ⟨bottom, hbottom, -⟩ := exists_partWithRole c (.baseBottom cabinet)
    ⟨by omega, hcabinet⟩
  rw [partsWithRole, List.mem_filter] at hbottom
  refine List.ne_nil_of_mem (List.mem_filter.mpr ⟨hbottom.1, ?_⟩)
  rw [eq_of_beq hbottom.2]
  rfl

/-- Where the support rule proposes to align the cabinets, it proposes one for every bay; in the
    design that is built with so many, a side of a cabinet stands at the very place of every
    divider, and the rule passes. -/
theorem align_base_cabinets_resolves {report : RuleReport} {evaluation : RuleEvaluation}
    {action : SuggestedAction} (hbuild : build hashing spec = .ok design)
    (hreport : evaluate design = .ok report) (hfind : report.find? .support = some evaluation)
    (haction : action ∈ evaluation.suggestedActions) :
    action.actionType = .alignBaseCabinets ∧ action.changes = [
      ⟨"parameters.base_cabinet_count", .int spec.parameters.baseCabinetCount,
        .int (alignBaseCabinets spec).parameters.baseCabinetCount⟩] ∧
    ∀ aligned, (alignBaseCabinets spec).validate = .ok () →
      build hashing (alignBaseCabinets spec) = .ok aligned →
      (partsWithRole aligned .divider).length = spec.parameters.verticalDividerCount ∧
      (∀ divider ∈ partsWithRole aligned .divider, ∃ side ∈ partsWithRole aligned .baseSide,
        side.placement.xUm = divider.placement.xUm) ∧
      (∃ alignment, baseSupportAlignment aligned = .ok alignment ∧ alignment.status = .pass) ∧
      ∀ alignedReport, evaluate aligned = .ok alignedReport →
        alignedReport.statusOf .support = some .pass := by
  obtain ⟨c⟩ := compiled_of_build hbuild
  obtain ⟨e⟩ := evaluated_of_ok hreport
  rw [find_support e] at hfind
  obtain ⟨-, -, hactions⟩ := baseSupportAlignment_ok ((head_cabinetRules e.cabinets_eq).mp hfind).1
  rw [hactions, length_dividers c, spec_of_build hbuild] at haction
  have hproposed : unsupportedDividers design ≠ [] := by
    intro hnone
    rw [if_pos hnone] at haction
    exact List.not_mem_nil haction
  rw [if_neg hproposed, List.mem_singleton] at haction
  refine ⟨?_, ?_, ?_⟩
  · rw [haction]
  · rw [haction]
    rfl
  · intro aligned _ haligned
    obtain ⟨c'⟩ := compiled_of_build haligned
    have hsides := fun divider (hdivider : divider ∈ partsWithRole aligned .divider) =>
      exists_side_below c' rfl hdivider
    obtain ⟨alignment, hok, hpass, -⟩ :=
      baseSupportAlignment_of_supported (unsupportedDividers_eq_nil hsides)
    have hlength : (partsWithRole aligned .divider).length = spec.parameters.verticalDividerCount :=
      @length_dividers _ (alignBaseCabinets spec) _ c'
    refine ⟨hlength, hsides, ⟨alignment, hok, hpass⟩, ?_⟩
    intro alignedReport halignedReport
    obtain ⟨e'⟩ := evaluated_of_ok halignedReport
    rw [RuleReport.statusOf, find_support e',
      (head_cabinetRules e'.cabinets_eq).mpr ⟨hok, exists_cabinet_part c' rfl⟩, Option.map_some,
      hpass]

end Built

/-- A carcass with two bays above a single cabinet. -/
def dividedCarcass : BookcaseParameters :=
  { bareCarcass with
    heightUm := 1000000, verticalDividerCount := 1, baseCabinetCount := 1
    baseCabinetHeightUm := 400000, baseCabinetDepthUm := bareCarcass.depthUm }

theorem align_dividedCarcass :
    ∃ design report evaluation action,
      build namedHashing (plywoodBookcase dividedCarcass) = .ok design ∧
      evaluate design = .ok report ∧ report.find? .support = some evaluation ∧
      action ∈ evaluation.suggestedActions ∧ action.actionType = .alignBaseCabinets ∧
      (alignBaseCabinets (plywoodBookcase dividedCarcass)).validate = .ok () ∧
      ∃ aligned, build namedHashing (alignBaseCabinets (plywoodBookcase dividedCarcass)) =
          .ok aligned ∧
        ∃ alignment, baseSupportAlignment aligned = .ok alignment ∧ alignment.status = .pass := by
  have hadvised : okAnd (build namedHashing (plywoodBookcase dividedCarcass)) (fun design =>
      okAnd (evaluate design) fun report => (report.find? .support).any fun evaluation =>
        evaluation.suggestedActions != []) = true := by decide +kernel
  have hbuilt : (build namedHashing (alignBaseCabinets (plywoodBookcase dividedCarcass))).isOk =
      true := by decide +kernel
  have hvalid : (alignBaseCabinets (plywoodBookcase dividedCarcass)).validate = .ok () := by
    decide +kernel
  obtain ⟨design, hdesign, hadvised⟩ := exists_of_okAnd hadvised
  obtain ⟨report, hreport, hadvised⟩ := exists_of_okAnd hadvised
  obtain ⟨evaluation, hfind, hactions⟩ := (Option.any_eq_true _ _).mp hadvised
  obtain ⟨action, haction⟩ := List.exists_mem_of_ne_nil _ (bne_iff_ne.mp hactions)
  obtain ⟨htype, -, hresolves⟩ := align_base_cabinets_resolves hdesign hreport hfind haction
  obtain ⟨aligned, haligned⟩ := exists_eq_ok hbuilt
  exact ⟨design, report, evaluation, action, hdesign, hreport, hfind, haction, htype, hvalid,
    aligned, haligned, (hresolves aligned hvalid haligned).2.2.1⟩

end Custombuild.Rules
