/-
  What `validate_layout` checks: a layout has no issue exactly when it meets the conditions of
  `LayoutChecks` and leaves nothing unplaced.
-/
import Custombuild.Manufacturing.BottomLeft

namespace Custombuild.Manufacturing

open Custombuild.Lib

/-! ## Issues -/

theorem issueIf_eq_nil {condition : Bool} {issue : DFMIssue} :
    issueIf condition issue = [] ↔ condition = false := by
  cases condition <;> simp [issueIf]

theorem mem_issueIf {condition : Bool} {issue found : DFMIssue} :
    found ∈ issueIf condition issue ↔ condition = true ∧ found = issue := by
  cases condition <;> simp [issueIf]

/-- A blocking issue other than an unplaced part. -/
def IsUnexpected (issue : DFMIssue) : Prop :=
  issue.severity = .block ∧ issue.code ≠ "NESTING_UNPLACED"

/-! ## One placement -/

/-- What the validator checks of a placement whose instance is known. -/
structure PlacementChecks (stock : StockSheet) (placement : Placement) (inst : PartInstance) :
    Prop where
  part : placement.partId = inst.part.partId
  size : (placement.widthUm, placement.heightUm) = expectedSize inst.part placement.rotated90
  grain : grainAllows inst.part stock placement.rotated90 = true
  sheet : 0 ≤ placement.sheetIndex ∧ placement.sheetIndex < stock.quantity
  inside : stock.usableRect.contains placement.rect = true
  defects : ∀ zone ∈ stock.defectZones, placement.rect.intersects zone stock.kerfUm = false
  clamps : ∀ zone ∈ stock.clampZones, placement.rect.intersects zone stock.kerfUm = false

section Placement

variable {stock : StockSheet} {instances : List PartInstance} {seen : List String}
  {placement : Placement} {inst : PartInstance} {issue : DFMIssue}

theorem placementIssues_eq_nil : placementIssues stock seen placement inst = [] ↔
    PlacementChecks stock placement inst ∧ placement.instanceId ∉ seen := by
  simp only [placementIssues, zoneIssues, List.append_eq_nil_iff, issueIf_eq_nil, bne_eq_false_iff_eq,
    Bool.not_eq_false', Bool.or_eq_false_iff, decide_eq_false_iff_not, List.any_eq_false,
    Bool.not_eq_true, not_lt, not_le]
  constructor
  · rintro ⟨⟨⟨⟨⟨⟨⟨hpart, hseen⟩, hsize⟩, hgrain⟩, hsheet⟩, hinside⟩, hdefects⟩, hclamps⟩
    exact ⟨⟨hpart, hsize, hgrain, hsheet, hinside, hdefects, hclamps⟩, by simpa using hseen⟩
  · rintro ⟨h, hseen⟩
    exact ⟨⟨⟨⟨⟨⟨⟨h.part, by simpa using hseen⟩, h.size⟩, h.grain⟩, h.sheet⟩, h.inside⟩, h.defects⟩,
      h.clamps⟩

theorem unexpected_of_placementIssues (h : issue ∈ placementIssues stock seen placement inst) :
    IsUnexpected issue := by
  simp only [placementIssues, zoneIssues, List.mem_append, mem_issueIf, or_assoc] at h
  rcases h with ⟨-, rfl⟩ | ⟨-, rfl⟩ | ⟨-, rfl⟩ | ⟨-, rfl⟩ | ⟨-, rfl⟩ | ⟨-, rfl⟩ | ⟨-, rfl⟩ | ⟨-, rfl⟩
  all_goals exact ⟨rfl, by simp⟩

theorem unexpected_of_stockBindingIssues {found : Option PartInstance}
    (h : issue ∈ stockBindingIssues stock found placement) : IsUnexpected issue := by
  obtain ⟨-, rfl⟩ := mem_issueIf.mp h
  exact ⟨rfl, by simp⟩

/-! ## The loop over the placements -/

/-- The placement is bound to the stock and to a known instance, whose checks it passes. -/
def IsChecked (stock : StockSheet) (instances : List PartInstance) (placement : Placement) : Prop :=
  placement.stockId = stock.stockId ∧ ∃ inst,
    instanceById instances placement.instanceId = some inst ∧ PlacementChecks stock placement inst

theorem placementLoop_eq_nil {placements : List Placement} :
    (placementLoop stock instances seen placements).1 = [] ↔
      (∀ placement ∈ placements, IsChecked stock instances placement) ∧
        (placements.map Placement.instanceId).Nodup ∧
        ∀ placement ∈ placements, placement.instanceId ∉ seen := by
  induction placements generalizing seen with
  | nil => simp [placementLoop]
  | cons placement placements ih =>
    unfold placementLoop
    simp only
    cases hfound : instanceById instances placement.instanceId with
    | none =>
      simp only [List.append_eq_nil_iff, reduceCtorEq, and_false, false_iff]
      rintro ⟨hchecked, -⟩
      obtain ⟨-, inst, hinst, -⟩ := hchecked placement List.mem_cons_self
      rw [hfound] at hinst
      cases hinst
    | some inst =>
      rw [List.forall_mem_cons, List.forall_mem_cons]
      simp only [List.append_eq_nil_iff, ih, placementIssues_eq_nil, stockBindingIssues,
        issueIf_eq_nil, bne_eq_false_iff_eq, List.map_cons, List.nodup_cons, List.mem_cons, not_or]
      have hchecked : IsChecked stock instances placement ↔
          placement.stockId = stock.stockId ∧ PlacementChecks stock placement inst := by
        unfold IsChecked
        rw [hfound]
        simp
      rw [hchecked]
      constructor
      · rintro ⟨⟨hstock, hchecks, hseen⟩, hrest, hnodup, hlater⟩
        refine ⟨⟨⟨hstock, hchecks⟩, hrest⟩, ⟨?_, hnodup⟩, hseen, fun p hp => (hlater p hp).2⟩
        intro hmem
        obtain ⟨p, hp, hid⟩ := List.mem_map.mp hmem
        exact (hlater p hp).1 hid
      · rintro ⟨⟨⟨hstock, hchecks⟩, hrest⟩, ⟨hnew, hnodup⟩, hseen, hlater⟩
        refine ⟨⟨hstock, hchecks, hseen⟩, hrest, hnodup, fun p hp => ⟨fun hid => hnew ?_, hlater p hp⟩⟩
        rw [← hid]
        exact List.mem_map_of_mem hp

theorem unexpected_of_placementLoop {placements : List Placement}
    (h : issue ∈ (placementLoop stock instances seen placements).1) : IsUnexpected issue := by
  induction placements generalizing seen with
  | nil => cases h
  | cons placement placements ih =>
    unfold placementLoop at h
    simp only at h
    split at h
    · rcases List.mem_append.mp h with hbound | hrest
      · exact unexpected_of_stockBindingIssues hbound
      · rcases List.mem_cons.mp hrest with rfl | hlater
        · exact ⟨rfl, by simp [unknownInstanceIssue]⟩
        · exact ih hlater
    · rcases List.mem_append.mp h with hown | hlater
      · rcases List.mem_append.mp hown with hbound | hissue
        · exact unexpected_of_stockBindingIssues hbound
        · exact unexpected_of_placementIssues hissue
      · exact ih hlater

/-- Where every instance is known, the loop has seen every placement. -/
theorem mem_seen {placements : List Placement}
    (hknown : ∀ placement ∈ placements,
      ∃ inst, instanceById instances placement.instanceId = some inst) {id : String} :
    id ∈ (placementLoop stock instances seen placements).2 ↔
      id ∈ seen ∨ id ∈ placements.map Placement.instanceId := by
  induction placements generalizing seen with
  | nil => simp [placementLoop]
  | cons placement placements ih =>
    obtain ⟨⟨inst, hinst⟩, hrest⟩ := List.forall_mem_cons.mp hknown
    unfold placementLoop
    simp only [hinst]
    rw [ih hrest, List.mem_cons, List.map_cons, List.mem_cons]
    constructor
    · rintro ((rfl | hseen) | hlater)
      · exact .inr (.inl rfl)
      · exact .inl hseen
      · exact .inr (.inr hlater)
    · rintro (hseen | rfl | hlater)
      · exact .inl (.inr hseen)
      · exact .inl (.inl rfl)
      · exact .inr hlater

end Placement

/-! ## Overlaps -/

/-- Two placements of one sheet keep the kerf between them. -/
def Separated (stock : StockSheet) (first second : Placement) : Prop :=
  first.sheetIndex = second.sheetIndex → first.rect.intersects second.rect stock.kerfUm = false

theorem Separated.symm {stock : StockSheet} {first second : Placement}
    (h : Separated stock first second) : Separated stock second first := by
  intro hsheet
  rw [Rect.intersects_comm]
  exact h hsheet.symm

section Overlaps

variable {stock : StockSheet} {layout : NestingLayout} {placements : List Placement}
  {issue : DFMIssue}

theorem sheetOverlaps_eq_nil : sheetOverlaps stock placements = [] ↔
    placements.Pairwise fun first second => first.rect.intersects second.rect stock.kerfUm = false := by
  induction placements with
  | nil => simp [sheetOverlaps]
  | cons first rest ih =>
    simp only [sheetOverlaps, List.append_eq_nil_iff, ih, List.flatMap_eq_nil_iff, issueIf_eq_nil,
      List.pairwise_cons]

theorem unexpected_of_sheetOverlaps (h : issue ∈ sheetOverlaps stock placements) :
    IsUnexpected issue := by
  induction placements with
  | nil => cases h
  | cons first rest ih =>
    rcases List.mem_append.mp h with hfirst | hrest
    · obtain ⟨second, -, hsecond⟩ := List.mem_flatMap.mp hfirst
      obtain ⟨-, rfl⟩ := mem_issueIf.mp hsecond
      exact ⟨rfl, by simp [overlapIssue]⟩
    · exact ih hrest

theorem mem_layoutSheets {sheet : Int} :
    sheet ∈ layoutSheets placements ↔ ∃ placement ∈ placements, placement.sheetIndex = sheet := by
  simp [layoutSheets]

/-- The validator compares the placements of each sheet in the order of their identities: the
    order does not matter, and placements of different sheets are not compared. -/
theorem overlapIssues_eq_nil :
    overlapIssues layout = [] ↔ layout.placements.Pairwise (Separated layout.stock) := by
  have hsorted (sheet : Int) :
      (sortBy Placement.instanceId
          (layout.placements.filter fun placement => placement.sheetIndex == sheet)).Pairwise
          (fun first second => first.rect.intersects second.rect layout.stock.kerfUm = false) ↔
        layout.placements.Pairwise fun first second => first.sheetIndex = sheet →
          second.sheetIndex = sheet →
            first.rect.intersects second.rect layout.stock.kerfUm = false := by
    rw [(sortBy_perm _ _).pairwise_iff (fun h => by rwa [Rect.intersects_comm] at h),
      List.pairwise_filter]
    simp only [beq_iff_eq]
  simp only [overlapIssues, List.flatMap_eq_nil_iff, sheetOverlaps_eq_nil, hsorted]
  constructor
  · intro h
    refine List.pairwise_iff_getElem.mpr fun i j hi hj hij hsheet => ?_
    have hmem : layout.placements[i].sheetIndex ∈ layoutSheets layout.placements :=
      mem_layoutSheets.mpr ⟨_, List.getElem_mem hi, rfl⟩
    exact List.pairwise_iff_getElem.mp (h _ hmem) i j hi hj hij rfl hsheet.symm
  · intro h sheet _
    exact h.imp fun hsep hfirst hsecond => hsep (hfirst.trans hsecond.symm)

theorem unexpected_of_overlapIssues (h : issue ∈ overlapIssues layout) : IsUnexpected issue := by
  obtain ⟨sheet, -, hsheet⟩ := List.mem_flatMap.mp h
  exact unexpected_of_sheetOverlaps hsheet

end Overlaps

/-! ## The whole layout -/

theorem sameSet_iff {a b : List String} : sameSet a b = true ↔ ∀ id, id ∈ a ↔ id ∈ b := by
  simp only [sameSet, Bool.and_eq_true, List.all_eq_true, List.contains_iff_mem]
  exact ⟨fun h id => ⟨h.1 id, h.2 id⟩, fun h => ⟨fun id => (h id).mp, fun id => (h id).mpr⟩⟩

/-- What the validator checks of a layout, unplaced parts apart. -/
structure LayoutChecks (layout : NestingLayout) (instances : List PartInstance) : Prop where
  sheets : layout.usedSheetCount ≤ layout.stock.quantity
  checked : ∀ placement ∈ layout.placements, IsChecked layout.stock instances placement
  once : (layout.placements.map Placement.instanceId).Nodup
  separated : layout.placements.Pairwise (Separated layout.stock)
  accounted : ∀ id, id ∈ layout.unplacedInstanceIds ↔
    id ∈ instances.map PartInstance.instanceId ∧ id ∉ layout.placements.map Placement.instanceId

section Layout

variable {layout : NestingLayout} {instances : List PartInstance}

/-- All the issues but those of unplaced parts. -/
def checkIssues (layout : NestingLayout) (instances : List PartInstance) : List DFMIssue :=
  sheetCountIssues layout ++ (placementLoop layout.stock instances [] layout.placements).1 ++
    overlapIssues layout ++ accountingIssues layout instances
      (placementLoop layout.stock instances [] layout.placements).2

theorem validateLayout_perm : (validateLayout layout instances).Perm
    (checkIssues layout instances ++ unplacedIssues layout instances) :=
  sortBy_perm _ _

theorem accountingIssues_eq_nil
    (hknown : ∀ placement ∈ layout.placements,
      ∃ inst, instanceById instances placement.instanceId = some inst) :
    accountingIssues layout instances
        (placementLoop layout.stock instances [] layout.placements).2 = [] ↔
      ∀ id, id ∈ layout.unplacedInstanceIds ↔ id ∈ instances.map PartInstance.instanceId ∧
        id ∉ layout.placements.map Placement.instanceId := by
  simp only [accountingIssues, issueIf_eq_nil, Bool.not_eq_false', sameSet_iff, List.mem_filter,
    Bool.not_eq_true', List.contains_eq_mem, decide_eq_false_iff_not, mem_seen hknown,
    List.not_mem_nil, false_or]
  exact forall_congr' fun id => Iff.comm

theorem checkIssues_eq_nil : checkIssues layout instances = [] ↔ LayoutChecks layout instances := by
  simp only [checkIssues, List.append_eq_nil_iff, placementLoop_eq_nil, overlapIssues_eq_nil,
    sheetCountIssues, issueIf_eq_nil, decide_eq_false_iff_not, not_lt]
  constructor
  · rintro ⟨⟨⟨hsheets, hchecked, honce, -⟩, hseparated⟩, haccounted⟩
    have hknown := fun placement hplacement => (hchecked placement hplacement).2.imp fun _ h => h.1
    exact ⟨hsheets, hchecked, honce, hseparated, (accountingIssues_eq_nil hknown).mp haccounted⟩
  · intro h
    have hknown := fun placement hplacement => (h.checked placement hplacement).2.imp fun _ h => h.1
    exact ⟨⟨⟨h.sheets, h.checked, h.once, fun _ _ => List.not_mem_nil⟩, h.separated⟩,
      (accountingIssues_eq_nil hknown).mpr h.accounted⟩

theorem unexpected_of_checkIssues {issue : DFMIssue} (h : issue ∈ checkIssues layout instances) :
    IsUnexpected issue := by
  simp only [checkIssues, List.mem_append, or_assoc] at h
  rcases h with hsheets | hplaced | hoverlap | haccounting
  · obtain ⟨-, rfl⟩ := mem_issueIf.mp hsheets
    exact ⟨rfl, by simp⟩
  · exact unexpected_of_placementLoop hplaced
  · exact unexpected_of_overlapIssues hoverlap
  · obtain ⟨-, rfl⟩ := mem_issueIf.mp haccounting
    exact ⟨rfl, by simp⟩

theorem unplacedIssues_code {issue : DFMIssue} (h : issue ∈ unplacedIssues layout instances) :
    issue.severity = .block ∧ issue.code = "NESTING_UNPLACED" := by
  obtain ⟨id, -, rfl⟩ := List.mem_map.mp h
  exact ⟨rfl, rfl⟩

theorem unplacedIssues_eq_nil (layout : NestingLayout) (instances : List PartInstance) :
    unplacedIssues layout instances = [] ↔ layout.unplacedInstanceIds = [] := by
  rw [unplacedIssues, List.map_eq_nil_iff, List.eq_nil_iff_forall_not_mem,
    List.eq_nil_iff_forall_not_mem]
  simp only [mem_sortedSet]

/-- The nester accepts its layout exactly when the checks hold, whatever is unplaced. -/
theorem unexpectedIssues_eq_nil :
    unexpectedIssues layout instances = [] ↔ LayoutChecks layout instances := by
  rw [← checkIssues_eq_nil, unexpectedIssues, List.filter_eq_nil_iff,
    List.eq_nil_iff_forall_not_mem]
  simp only [validateLayout_perm.mem_iff, List.mem_append, Bool.and_eq_true, decide_eq_true_eq,
    bne_iff_ne]
  constructor
  · intro h issue hissue
    exact h issue (.inl hissue) (unexpected_of_checkIssues hissue)
  · rintro h issue (hissue | hissue)
    · exact absurd hissue (h issue)
    · exact fun hne => hne.2 (unplacedIssues_code hissue).2

/-- `validate_layout` reports no blocking issue exactly when the checks hold and nothing is
    unplaced. -/
theorem validateLayout_clear :
    (∀ issue ∈ validateLayout layout instances, issue.severity ≠ .block) ↔
      LayoutChecks layout instances ∧ layout.unplacedInstanceIds = [] := by
  rw [← checkIssues_eq_nil, ← unplacedIssues_eq_nil layout instances,
    ← List.append_eq_nil_iff, List.eq_nil_iff_forall_not_mem]
  simp only [validateLayout_perm.mem_iff]
  refine forall_congr' fun issue => ⟨fun h hissue => h hissue ?_, fun h hissue => absurd hissue h⟩
  rcases List.mem_append.mp hissue with hcheck | hunplaced
  · exact (unexpected_of_checkIssues hcheck).1
  · exact (unplacedIssues_code hunplaced).1

end Layout

end Custombuild.Manufacturing
