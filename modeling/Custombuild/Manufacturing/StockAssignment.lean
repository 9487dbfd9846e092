/-
  The choice of a stock for each part: the smallest sheet of its material on which one exemplar of
  the part fits, its grain left out of account.  Grain is a gate of its own, after the choice.
  Source: `_assign_parts_to_stock` of `custombuild_manufacturing.pipeline` and
  `stock_profile_missing_issue` of `custombuild_manufacturing.dfm`.
-/
import Custombuild.Lib.Partition
import Custombuild.Manufacturing.Nested

namespace Custombuild.Manufacturing

open Custombuild.Lib

/-! ## Parts that no stock matches -/

/-- The issue that reports a part missing. -/
def missingIssue (part : PartSpec) : DFMIssue where
  code := "STOCK_PROFILE_MISSING"
  severity := .block
  message := "No selected stock profile matches the part material, thickness and size."
  partId := some part.partId
  inputs := [("material_id", .text part.materialId), ("material_version", .text part.materialVersion),
    ("thickness_um", .int part.thicknessUm), ("blank_um", .pair part.blankWidthUm part.blankHeightUm)]
  suggestion := some
    "Select matching stock whose usable area fits one part exemplar; total quantity is checked by nesting."

/-- `stock_profile_missing_issue`: the issue is validated before it is returned. -/
def stockProfileMissingIssue (part : PartSpec) : Except String DFMIssue := do
  require (isCanonicalText part.partId) "canonical missing-stock issue identity is invalid"
  require (isCanonicalText part.materialId) "canonical missing-stock issue material_id is invalid"
  require (isCanonicalText part.materialVersion)
    "canonical missing-stock issue material_version is invalid"
  require (0 < part.thicknessUm) "canonical missing-stock issue thickness is invalid"
  require (0 < part.blankWidthUm && 0 < part.blankHeightUm)
    "canonical missing-stock issue blank dimensions are invalid"
  return missingIssue part

/-- A part that can be reported missing. -/
structure Reportable (part : PartSpec) : Prop where
  texts : isCanonicalText part.partId = true ∧ isCanonicalText part.materialId = true ∧
    isCanonicalText part.materialVersion = true
  blank : 0 < part.blankWidthUm ∧ 0 < part.blankHeightUm

theorem Reportable.issue_eq {part : PartSpec} (h : Reportable part) :
    stockProfileMissingIssue part = .ok (missingIssue part) := by
  simp [stockProfileMissingIssue, h.texts.1, h.texts.2.1, h.texts.2.2, h.blank.1, h.blank.2,
    part.dims_pos.2.2, require]
  rfl

/-! ## The assignment -/

inductive AssignError
  | nesting (error : NestingError)
  | value (message : String)

/-- `replace(part, quantity=1, grain_direction="NONE")`. -/
def exemplar (part : PartSpec) : PartSpec :=
  { part with quantity := 1, grainDirection := "NONE", quantity_pos := le_rfl }

/-- The condition of the comprehension: nothing is nested on a stock of another material. -/
def stockMatches (part : PartSpec) (stock : StockSheet) : Except AssignError Bool :=
  if compatible part stock then do
    let layout ← (nest (.specs [exemplar part]) stock).mapError .nesting
    return layout.unplacedInstanceIds.isEmpty
  else .ok false

/-- A comprehension over a condition that may raise. -/
def keep {α ε : Type} (condition : α → Except ε Bool) : List α → Except ε (List α)
  | [] => .ok []
  | a :: l => do
    let kept ← condition a
    let rest ← keep condition l
    return if kept then a :: rest else rest

/-- The key of the choice: area, then identity. -/
def stockOrder (stock : StockSheet) : Int ×ₗ String :=
  toLex (stock.widthUm * stock.heightUm, stock.stockId)

inductive StockOutcome
  | assigned (stock : StockSheet)
  | missing (issue : DFMIssue)

/-- The body of the loop. -/
def assignPart (stocks : List StockSheet) (part : PartSpec) :
    Except AssignError (PartSpec × StockOutcome) := do
  let compatible ← keep (stockMatches part) stocks
  match minBy stockOrder compatible with
  | some selected => return (part, .assigned selected)
  | none => do
    let issue ← (stockProfileMissingIssue part).mapError .value
    return (part, .missing issue)

/-- The identity of the stock of an outcome. -/
def StockOutcome.stockId : StockOutcome → Option String
  | .assigned stock => some stock.stockId
  | .missing _ => none

def StockOutcome.issue : StockOutcome → Option DFMIssue
  | .assigned _ => none
  | .missing issue => some issue

/-- `stock_by_id`: a dictionary keeps the last stock of an identity. -/
def stockById (stocks : List StockSheet) (stockId : String) : Option StockSheet :=
  stocks.reverse.find? fun stock => stock.stockId = stockId

/-- `grouped[stock_id]`. -/
def partsOn (outcomes : List (PartSpec × StockOutcome)) (stockId : String) : List PartSpec :=
  (outcomes.filter fun outcome => outcome.2.stockId = some stockId).map Prod.fst

/-- The stocks that were chosen, in the order of their identities, with their parts. -/
def groupsOf (stocks : List StockSheet) (outcomes : List (PartSpec × StockOutcome)) :
    List (StockSheet × List PartSpec) :=
  (sortedSet (outcomes.filterMap fun outcome => outcome.2.stockId)).filterMap fun stockId =>
    (stockById stocks stockId).map fun stock => (stock, partsOn outcomes stockId)

/-- `_assign_parts_to_stock`. -/
def assignPartsToStock (parts : List PartSpec) (stocks : List StockSheet) :
    Except AssignError (List (StockSheet × List PartSpec) × List DFMIssue) := do
  let outcomes ← collect (assignPart stocks) (sortBy PartSpec.partId parts)
  return (groupsOf stocks outcomes, outcomes.filterMap fun outcome => outcome.2.issue)

/-! ## Placements of one part -/

/-- One exemplar of the part fits somewhere on an empty sheet of the stock, which is of its
    material, in an orientation that the grain and both rotation flags allow. -/
def Admits (part : PartSpec) (stock : StockSheet) : Prop :=
  compatible part stock = true ∧ ∃ orientation ∈ orientations part stock, ∃ x y : Int,
    stock.usableRect.contains ⟨x, y, orientation.widthUm, orientation.heightUm⟩ = true ∧
      ∀ zone ∈ stock.defectZones ++ stock.clampZones,
        Rect.intersects ⟨x, y, orientation.widthUm, orientation.heightUm⟩ zone stock.kerfUm = false

/-- The same with the grain of the part left out of account. -/
def AdmitsWithoutGrain (part : PartSpec) (stock : StockSheet) : Prop := Admits (exemplar part) stock

section Part

variable {part : PartSpec} {stock : StockSheet} {stocks : List StockSheet}

theorem normaliseGrain_none : normaliseGrain "NONE" = "NONE" := by decide +kernel

theorem orientations_subset : orientations part stock ⊆ orientations (exemplar part) stock := by
  intro orientation h
  obtain ⟨hcandidate, -⟩ := List.mem_filter.mp h
  refine List.mem_filter.mpr ⟨hcandidate, ?_⟩
  simp only [grainAllows, exemplar, normaliseGrain_none, beq_self_eq_true, if_true]

theorem Admits.without_grain (h : Admits part stock) : AdmitsWithoutGrain part stock := by
  obtain ⟨hcompatible, orientation, horientation, hfits⟩ := h
  exact ⟨hcompatible, orientation, orientations_subset horientation, hfits⟩

/-- The one instance of an exemplar. -/
theorem coerce_exemplar (part : PartSpec) : coercePartInstances (.specs [exemplar part]) =
    [⟨part.partId ++ ":" ++ pad3 (((0 : Nat) : Int) + 1), exemplar part⟩] := rfl

theorem fitsAt_empty {inst : PartInstance} :
    (∃ sheet orientation point, FitsAt stock {} inst sheet orientation point) ↔
      ∃ orientation ∈ orientations inst.part stock, ∃ x y : Int,
        stock.usableRect.contains ⟨x, y, orientation.widthUm, orientation.heightUm⟩ = true ∧
          ∀ zone ∈ stock.defectZones ++ stock.clampZones, Rect.intersects
            ⟨x, y, orientation.widthUm, orientation.heightUm⟩ zone stock.kerfUm = false := by
  have hfits (sheet : Nat) (orientation : Orientation) (point : Point2D) :
      fits (placementAt stock inst sheet orientation point) (NestState.occupied {} sheet) stock =
        true ↔ stock.usableRect.contains
          ⟨point.xUm, point.yUm, orientation.widthUm, orientation.heightUm⟩ = true ∧
        ∀ zone ∈ stock.defectZones ++ stock.clampZones, Rect.intersects
          ⟨point.xUm, point.yUm, orientation.widthUm, orientation.heightUm⟩ zone stock.kerfUm =
            false := fits_iff
  constructor
  · intro h
    obtain ⟨sheet, orientation, point, hsheet, hallowed, hfitting⟩ := h
    exact ⟨orientation, hallowed, point.xUm, point.yUm, (hfits sheet orientation point).mp hfitting⟩
  · intro h
    obtain ⟨orientation, hallowed, x, y, hfitting⟩ := h
    exact ⟨0, orientation, ⟨x, y⟩, stock.dims_pos.2.2.2, hallowed,
      (hfits 0 orientation ⟨x, y⟩).mpr hfitting⟩

/-- Alone on the sheets an instance is placed where one of them takes it. -/
theorem unplaced_isEmpty_iff {inst : PartInstance}
    (hblank : 0 < inst.part.blankWidthUm ∧ 0 < inst.part.blankHeightUm)
    (hcompatible : compatible inst.part stock = true) :
    (layoutOf stock (nestAll [inst] stock)).unplacedInstanceIds.isEmpty = true ↔
      ∃ sheet orientation point, FitsAt stock {} inst sheet orientation point := by
  have hrun : nestAll [inst] stock = nestStep stock {} inst := rfl
  have houtcome : outcomeOf stock {} inst = choosePlacement stock {} inst := if_pos hcompatible
  have hchoice := @choosePlacement_eq_none stock {} inst hblank
  rw [hrun]
  cases h : choosePlacement stock {} inst with
  | none =>
    rw [nestStep_of_none (houtcome.trans h)]
    have hnone := hchoice.mp h
    constructor
    · intro hempty
      cases hempty
    · intro hfits
      obtain ⟨sheet, orientation, point, hfits⟩ := hfits
      exact absurd hfits (hnone sheet orientation point)
  | some placement =>
    rw [(nestStep_of_some (houtcome.trans h)).2.2]
    refine ⟨fun _ => ?_, fun _ => rfl⟩
    by_contra hfits
    have hnone : choosePlacement stock {} inst = none := by
      rw [hchoice]
      intro sheet orientation point hat
      exact hfits ⟨sheet, orientation, point, hat⟩
    rw [hnone] at h
    cases h

/-- The condition of the comprehension never raises: it says whether the stock admits the part
    without its grain. -/
theorem stockMatches_eq (hblank : 0 < part.blankWidthUm ∧ 0 < part.blankHeightUm) :
    ∃ b, stockMatches part stock = .ok b ∧ (b = true ↔ AdmitsWithoutGrain part stock) := by
  unfold stockMatches
  split
  · rename_i hcompatible
    have hnest := @nest_eq_ok (.specs [exemplar part]) stock (by
      rw [coerce_exemplar]
      exact List.nodup_singleton _)
    rw [hnest, coerce_exemplar]
    refine ⟨_, rfl, ?_⟩
    rw [unplaced_isEmpty_iff hblank hcompatible, fitsAt_empty]
    exact ⟨fun h => ⟨hcompatible, h⟩, fun h => h.2⟩
  · rename_i hcompatible
    refine ⟨false, rfl, ?_⟩
    constructor
    · intro h
      cases h
    · intro h
      exact absurd h.1 hcompatible

/-- The comprehension lists the stocks that admit the part without its grain. -/
theorem keep_stockMatches (hblank : 0 < part.blankWidthUm ∧ 0 < part.blankHeightUm)
    (stocks : List StockSheet) : ∃ kept, keep (stockMatches part) stocks = .ok kept ∧
      ∀ stock, stock ∈ kept ↔ stock ∈ stocks ∧ AdmitsWithoutGrain part stock := by
  induction stocks with
  | nil => exact ⟨[], rfl, fun stock => by simp⟩
  | cons first rest ih =>
    obtain ⟨kept, hkept, hmem⟩ := ih
    obtain ⟨b, hb, hadmits⟩ := @stockMatches_eq part first hblank
    refine ⟨if b then first :: kept else kept, ?_, ?_⟩
    · rw [keep, hb, hkept]
      rfl
    · intro stock
      cases b with
      | true =>
        rw [if_pos rfl, List.mem_cons, List.mem_cons, hmem]
        constructor
        · rintro (rfl | h)
          · exact ⟨.inl rfl, hadmits.mp rfl⟩
          · exact ⟨.inr h.1, h.2⟩
        · rintro ⟨rfl | h, hstock⟩
          · exact .inl rfl
          · exact .inr ⟨h, hstock⟩
      | false =>
        rw [if_neg Bool.false_ne_true, List.mem_cons, hmem]
        constructor
        · intro h
          exact ⟨.inr h.1, h.2⟩
        · rintro ⟨rfl | h, hstock⟩
          · exact absurd (hadmits.mpr hstock) Bool.false_ne_true
          · exact ⟨h, hstock⟩

/-- The stock is the least one, by area and identity, of those that admit the part without its
    grain. -/
structure IsLeast (part : PartSpec) (stocks : List StockSheet) (stock : StockSheet) : Prop where
  listed : stock ∈ stocks
  admits : AdmitsWithoutGrain part stock
  least : ∀ other ∈ stocks, AdmitsWithoutGrain part other → stockOrder stock ≤ stockOrder other

/-- What an iteration of the loop does with a part. -/
inductive Outcome (stocks : List StockSheet) (part : PartSpec) : StockOutcome → Prop
  | assigned {stock : StockSheet} (h : IsLeast part stocks stock) :
    Outcome stocks part (.assigned stock)
  | missing (h : ∀ stock ∈ stocks, ¬AdmitsWithoutGrain part stock) :
    Outcome stocks part (.missing (missingIssue part))

theorem assignPart_eq_ok (hpart : Reportable part) (stocks : List StockSheet) :
    ∃ outcome, assignPart stocks part = .ok (part, outcome) ∧ Outcome stocks part outcome := by
  obtain ⟨kept, hkept, hmem⟩ := keep_stockMatches hpart.blank stocks
  have hstep : assignPart stocks part = (match minBy stockOrder kept with
      | some selected => .ok (part, .assigned selected)
      | none => .ok (part, .missing (missingIssue part))) := by
    rw [assignPart, hkept, hpart.issue_eq]
    rfl
  rw [hstep]
  cases hselected : minBy stockOrder kept with
  | some selected =>
    obtain ⟨hlisted, hadmits⟩ := (hmem selected).mp (minBy_mem hselected)
    refine ⟨_, rfl, .assigned ⟨hlisted, hadmits, ?_⟩⟩
    intro other hother hotherAdmits
    exact minBy_le hselected ((hmem other).mpr ⟨hother, hotherAdmits⟩)
  | none =>
    rw [minBy_eq_none] at hselected
    refine ⟨_, rfl, .missing ?_⟩
    intro stock hstock hadmits
    have hkeeps := (hmem stock).mpr ⟨hstock, hadmits⟩
    rw [hselected] at hkeeps
    cases hkeeps

end Part

/-! ## All parts -/

section Run

variable {parts : List PartSpec} {stocks : List StockSheet}

/-- The outcomes of the loop, one for each part in the order of the identities. -/
theorem exists_outcomes (hparts : ∀ part ∈ parts, Reportable part) :
    ∃ outcomes, collect (assignPart stocks) (sortBy PartSpec.partId parts) = .ok outcomes ∧
      outcomes.map Prod.fst = sortBy PartSpec.partId parts ∧
      ∀ outcome ∈ outcomes, Outcome stocks outcome.1 outcome.2 := by
  have hstep : ∀ part ∈ sortBy PartSpec.partId parts, ∃ outcome,
      assignPart stocks part = .ok (part, outcome) ∧ Outcome stocks part outcome := by
    intro part hpart
    exact assignPart_eq_ok (hparts part (mem_sortBy.mp hpart)) stocks
  obtain ⟨outcomes, houtcomes⟩ := @exists_collect _ _ _ (assignPart stocks)
    (sortBy PartSpec.partId parts) (fun part hpart => (hstep part hpart).imp' _ fun _ h => h.1)
  refine ⟨outcomes, houtcomes, ?_, ?_⟩
  · have hfirst := map_of_collect (g := Prod.fst) (h := id) houtcomes
    rw [List.map_id] at hfirst
    apply hfirst
    intro part hpart result hresult
    obtain ⟨outcome, hok, -⟩ := hstep part hpart
    rw [hok] at hresult
    cases hresult
    rfl
  · intro result hresult
    obtain ⟨part, hpart, hok⟩ := mem_of_collect houtcomes hresult
    obtain ⟨outcome, hok', houtcome⟩ := hstep part hpart
    rw [hok] at hok'
    cases hok'
    exact houtcome

theorem stockById_eq (hids : (stocks.map StockSheet.stockId).Nodup) {stock : StockSheet}
    (hstock : stock ∈ stocks) : stockById stocks stock.stockId = some stock := by
  have hsome : (stockById stocks stock.stockId).isSome = true := by
    rw [stockById, List.find?_isSome]
    exact ⟨stock, List.mem_reverse.mpr hstock, decide_eq_true rfl⟩
  obtain ⟨found, hfound⟩ := Option.isSome_iff_exists.mp hsome
  rw [stockById] at hfound ⊢
  have hid := List.find?_some hfound
  rw [decide_eq_true_eq] at hid
  have hmem := List.mem_reverse.mp (List.mem_of_find?_eq_some hfound)
  rw [hfound, List.inj_on_of_nodup_map hids hmem hstock hid]

/-- The parts that are reported missing. -/
def missingParts (outcomes : List (PartSpec × StockOutcome)) : List PartSpec :=
  (outcomes.filter fun outcome => outcome.2.stockId = none).map Prod.fst

theorem issues_eq {outcomes : List (PartSpec × StockOutcome)}
    (h : ∀ outcome ∈ outcomes, Outcome stocks outcome.1 outcome.2) :
    (outcomes.filterMap fun outcome => outcome.2.issue) = (missingParts outcomes).map missingIssue := by
  induction outcomes with
  | nil => rfl
  | cons first rest ih =>
    rw [List.forall_mem_cons] at h
    obtain ⟨part, outcome⟩ := first
    have hrest := ih h.2
    have hfirst : Outcome stocks part outcome := h.1
    cases hfirst with
    | assigned hleast =>
      rw [List.filterMap_cons_none rfl, hrest]
      rfl
    | missing hnone =>
      have hissue : (StockOutcome.missing (missingIssue part)).issue = some (missingIssue part) := rfl
      rw [List.filterMap_cons, hissue, hrest]
      rfl

/-- The groups of all stocks and the missing parts are the parts. -/
theorem partsOn_perm (outcomes : List (PartSpec × StockOutcome)) :
    ((sortedSet (outcomes.filterMap fun outcome => outcome.2.stockId)).flatMap (partsOn outcomes) ++
      missingParts outcomes).Perm (outcomes.map Prod.fst) := by
  have hnodup : (none :: (sortedSet (outcomes.filterMap fun outcome => outcome.2.stockId)).map
      some).Nodup := by
    rw [List.nodup_cons]
    refine ⟨by simp, (sortedSet_nodup _).map (Option.some_injective _)⟩
  have hmem : ∀ outcome ∈ outcomes, outcome.2.stockId ∈
      none :: (sortedSet (outcomes.filterMap fun outcome => outcome.2.stockId)).map some := by
    intro outcome houtcome
    cases hid : outcome.2.stockId with
    | none => exact List.mem_cons_self
    | some id =>
      refine List.mem_cons_of_mem _ (List.mem_map_of_mem (mem_sortedSet.mpr ?_))
      exact List.mem_filterMap.mpr ⟨outcome, houtcome, hid⟩
  have hperm := (flatMap_filter_perm (fun outcome : PartSpec × StockOutcome => outcome.2.stockId)
    hnodup hmem).map Prod.fst
  rw [List.flatMap_cons, List.map_append, List.flatMap_map, List.map_flatMap] at hperm
  exact List.perm_append_comm.trans hperm

/-- What the assignment returns. -/
structure Assignment (parts : List PartSpec) (stocks : List StockSheet)
    (groups : List (StockSheet × List PartSpec)) (missing : List PartSpec) : Prop where
  one_group : (groups.map fun group => group.1.stockId).Nodup
  once : (groups.flatMap Prod.snd ++ missing).Perm parts
  least : ∀ group ∈ groups, ∀ part ∈ group.2, IsLeast part stocks group.1
  unmatched : ∀ part ∈ missing, ∀ stock ∈ stocks, ¬AdmitsWithoutGrain part stock

theorem filterMap_found {κ α β : Type} {found : κ → Option α} {key : α → κ} {g : κ → β}
    {ks : List κ} (h : ∀ k ∈ ks, ∃ a, found k = some a ∧ key a = k) :
    ((ks.filterMap fun k => (found k).map fun a => (a, g k)).map fun entry => key entry.1) = ks ∧
      ((ks.filterMap fun k => (found k).map fun a => (a, g k)).map Prod.snd) = ks.map g := by
  induction ks with
  | nil => exact ⟨rfl, rfl⟩
  | cons k ks ih =>
    rw [List.forall_mem_cons] at h
    obtain ⟨⟨a, ha, hkey⟩, hrest⟩ := h
    obtain ⟨hkeys, hvalues⟩ := ih hrest
    rw [List.filterMap_cons_some (b := (a, g k)) (by rw [ha]; rfl), List.map_cons, List.map_cons,
      List.map_cons, hkeys, hvalues, hkey]
    exact ⟨rfl, rfl⟩

/-- The stock of an assigned part is found again by its identity. -/
theorem found_of_outcome (hids : (stocks.map StockSheet.stockId).Nodup) {part : PartSpec}
    {outcome : StockOutcome} (h : Outcome stocks part outcome) {id : String}
    (hid : outcome.stockId = some id) :
    ∃ stock, stockById stocks id = some stock ∧ stock.stockId = id ∧ IsLeast part stocks stock := by
  cases h with
  | assigned hleast =>
    obtain rfl := Option.some.inj hid
    exact ⟨_, stockById_eq hids hleast.listed, rfl, hleast⟩
  | missing _ => cases hid

theorem exists_assignment (hids : (stocks.map StockSheet.stockId).Nodup)
    (hparts : ∀ part ∈ parts, Reportable part) :
    ∃ groups missing, assignPartsToStock parts stocks = .ok (groups, missing.map missingIssue) ∧
      Assignment parts stocks groups missing := by
  obtain ⟨outcomes, hcollect, hfirst, houtcomes⟩ := @exists_outcomes parts stocks hparts
  have hfound : ∀ id ∈ sortedSet (outcomes.filterMap fun outcome => outcome.2.stockId),
      ∃ stock, stockById stocks id = some stock ∧ stock.stockId = id := by
    intro id hid
    obtain ⟨outcome, houtcome, hid⟩ := List.mem_filterMap.mp (mem_sortedSet.mp hid)
    obtain ⟨stock, hstock, hsame, -⟩ := found_of_outcome hids (houtcomes outcome houtcome) hid
    exact ⟨stock, hstock, hsame⟩
  obtain ⟨hgroupIds, hgroupParts⟩ := filterMap_found (g := partsOn outcomes) hfound
  refine ⟨groupsOf stocks outcomes, missingParts outcomes, ?_, ?_, ?_, ?_, ?_⟩
  · rw [assignPartsToStock, hcollect, ← issues_eq houtcomes]
    rfl
  · rw [groupsOf, hgroupIds]
    exact sortedSet_nodup _
  · have hperm := partsOn_perm outcomes
    rw [List.flatMap_def, ← hgroupParts, hfirst] at hperm
    rw [List.flatMap_def]
    exact hperm.trans (sortBy_perm _ _)
  · intro group hgroup part hpart
    obtain ⟨id, hid, hmap⟩ := List.mem_filterMap.mp hgroup
    obtain ⟨stock, hstock, rfl⟩ := Option.map_eq_some_iff.mp hmap
    obtain ⟨outcome, houtcome, rfl⟩ := List.mem_map.mp hpart
    obtain ⟨hmem, hon⟩ := List.mem_filter.mp houtcome
    rw [decide_eq_true_eq] at hon
    obtain ⟨stock', hstock', -, hleast⟩ := found_of_outcome hids (houtcomes outcome hmem) hon
    rw [hstock] at hstock'
    rw [Option.some.inj hstock']
    exact hleast
  · intro part hpart stock hstock
    obtain ⟨⟨part, outcome⟩, houtcome, rfl⟩ := List.mem_map.mp hpart
    obtain ⟨hmem, hnone⟩ := List.mem_filter.mp houtcome
    have hcase : Outcome stocks part outcome := houtcomes _ hmem
    cases hcase with
    | assigned _ => simp [StockOutcome.stockId] at hnone
    | missing hmissing => exact hmissing stock hstock

end Run

/-- For parts that can be reported and stocks with identities of their own the assignment gives
    each part to one stock or reports it once, and reports it exactly where no stock of its
    material admits it; where some stock admits it, grain respected or not, the part goes to the
    least stock that admits it with its grain left out of account. -/
theorem stock_assignment (parts : List PartSpec) (stocks : List StockSheet)
    (hids : (stocks.map StockSheet.stockId).Nodup) (hparts : ∀ part ∈ parts, Reportable part) :
    ∃ groups missing, assignPartsToStock parts stocks = .ok (groups, missing.map missingIssue) ∧
      (groups.map fun group => group.1.stockId).Nodup ∧
      (groups.flatMap Prod.snd ++ missing).Perm parts ∧
      (∀ part ∈ parts, part ∈ missing ↔ ∀ stock ∈ stocks, ¬AdmitsWithoutGrain part stock) ∧
      ∀ part ∈ parts, (∃ stock ∈ stocks, Admits part stock) →
        ∃ group ∈ groups, part ∈ group.2 ∧ IsLeast part stocks group.1 := by
  obtain ⟨groups, missing, hassign, h⟩ := exists_assignment hids hparts
  have hsplit : ∀ part ∈ parts, (∃ group ∈ groups, part ∈ group.2) ∨ part ∈ missing := by
    intro part hpart
    rcases List.mem_append.mp (h.once.mem_iff.mpr hpart) with hgroup | hmissing
    · exact .inl (List.mem_flatMap.mp hgroup)
    · exact .inr hmissing
  refine ⟨groups, missing, hassign, h.one_group, h.once, ?_, ?_⟩
  · intro part hpart
    refine ⟨h.unmatched part, fun hnone => ?_⟩
    rcases hsplit part hpart with ⟨group, hgroup, hmem⟩ | hmissing
    · have hleast := h.least group hgroup part hmem
      exact absurd hleast.admits (hnone group.1 hleast.listed)
    · exact hmissing
  · intro part hpart hadmits
    obtain ⟨stock, hstock, hadmits⟩ := hadmits
    rcases hsplit part hpart with ⟨group, hgroup, hmem⟩ | hmissing
    · exact ⟨group, hgroup, hmem, h.least group hgroup part hmem⟩
    · exact absurd hadmits.without_grain (h.unmatched part hmissing stock hstock)

namespace CrossGrain

theorem panel_named : "panel" ≠ "" := by decide

/-- A panel whose grain runs along its width. -/
def panel : PartSpec where
  partId := "panel"
  widthUm := 400000
  heightUm := 300000
  thicknessUm := 18000
  materialId := "birch-plywood"
  materialVersion := "1"
  grainDirection := "X"
  id_required := panel_named

/-- A sheet that may not be turned. -/
def sheet (stockId : String) (widthUm : Int) (grain : String)
    (hwidth : 600000 ≤ widthUm := by decide) : StockSheet where
  stockId := stockId
  materialId := "birch-plywood"
  materialVersion := "1"
  widthUm := widthUm
  heightUm := 600000
  thicknessUm := 18000
  grainDirection := grain
  allowRotation := false
  dims_pos := ⟨by omega, by decide⟩
  margin_lt := by omega

/-- The grain of the small sheet runs across, that of the large one along the panel. -/
def stocks : List StockSheet := [sheet "small" 600000 "Y", sheet "large" 900000 "X"]

theorem panel_reportable : ∀ part ∈ [panel], Reportable part := by
  intro part hpart
  rw [List.mem_singleton.mp hpart]
  exact ⟨by decide +kernel, by decide⟩

theorem stocks_nodup : (stocks.map StockSheet.stockId).Nodup := by decide

example : stocks.length = 2 := by decide +kernel

theorem large_admits : Admits panel (sheet "large" 900000 "X") := by
  refine ⟨by decide, ⟨false, 400000, 300000⟩, by decide +kernel, 10000, 10000, by decide, ?_⟩
  intro zone hzone
  cases hzone

theorem small_admits_without_grain : AdmitsWithoutGrain panel (sheet "small" 600000 "Y") := by
  refine ⟨by decide, ⟨false, 400000, 300000⟩, by decide +kernel, 10000, 10000, by decide, ?_⟩
  intro zone hzone
  cases hzone

theorem small_not_admits : ¬Admits panel (sheet "small" 600000 "Y") := by
  rintro ⟨-, orientation, horientation, -⟩
  have hnone : orientations panel (sheet "small" 600000 "Y") = [] := by decide +kernel
  rw [hnone] at horientation
  cases horientation

theorem stock_assignment_panel :
    ∃ groups issues, assignPartsToStock [panel] stocks = .ok (groups, issues) ∧
      ∃ group ∈ groups, panel ∈ group.2 ∧ IsLeast panel stocks group.1 := by
  obtain ⟨groups, missing, hassign, -, -, -, hleast⟩ :=
    stock_assignment [panel] stocks stocks_nodup panel_reportable
  refine ⟨groups, _, hassign, hleast panel (List.mem_singleton_self _) ?_⟩
  exact ⟨_, List.mem_cons_of_mem _ (List.mem_singleton_self _), large_admits⟩

/-- The panel goes to the small sheet, which does not take it with its grain, although the large
    one does. -/
theorem grain_blocks_panel : ∃ groups issues, assignPartsToStock [panel] stocks = .ok (groups, issues) ∧
    (∃ stock ∈ stocks, Admits panel stock) ∧
    ∃ group ∈ groups, panel ∈ group.2 ∧ ¬Admits panel group.1 := by
  obtain ⟨groups, missing, hassign, h⟩ := exists_assignment stocks_nodup panel_reportable
  have hlarge : ∃ stock ∈ stocks, Admits panel stock :=
    ⟨_, List.mem_cons_of_mem _ (List.mem_singleton_self _), large_admits⟩
  refine ⟨groups, _, hassign, hlarge, ?_⟩
  rcases List.mem_append.mp (h.once.mem_iff.mpr (List.mem_singleton_self panel)) with hin | hout
  · obtain ⟨group, hgroup, hmem⟩ := List.mem_flatMap.mp hin
    refine ⟨group, hgroup, hmem, ?_⟩
    have hleast := h.least group hgroup panel hmem
    have hle := hleast.least _ List.mem_cons_self small_admits_without_grain
    rcases List.mem_cons.mp hleast.listed with heq | hrest
    · rw [heq]
      exact small_not_admits
    · rw [List.mem_singleton.mp hrest] at hle
      exact absurd hle (by decide +kernel)
  · obtain ⟨stock, hstock, hadmits⟩ := hlarge
    exact absurd hadmits.without_grain (h.unmatched panel hout stock hstock)

end CrossGrain

end Custombuild.Manufacturing
