/-
  What a returned operations document contains.  `generate_inv` reads a successful run of
  `generate_operations_document` back as total functions of its inputs: the placed
  instances, the emitted operations, the setups and the sorted operations per sheet.  Every
  result about generated documents starts from it.
-/
import Custombuild.Manufacturing.Operations

namespace Custombuild.Manufacturing

open Custombuild.Lib

/-- The placements with the instances they refer to. -/
def placedInstances (instances : List PartInstance) (layout : NestingLayout) :
    List (Placement × PartInstance) :=
  layout.placements.filterMap fun p => (instanceById instances p.instanceId).map fun i => (p, i)

variable (layout : NestingLayout) (machine : MachineProfile)

/-- The operations of a feature for its selected tool. -/
def featureEmitted (placement : Placement) (inst : PartInstance)
    (feature : ManufacturingFeature) : List Emitted :=
  match selectTool feature machine with
  | some tool => operationsWithTool layout placement inst feature tool
  | none => []

/-- The operations of one placed instance, feature by feature. -/
def placementEmitted (pi : Placement × PartInstance) : List Emitted :=
  (sortBy ManufacturingFeature.featureId pi.2.part.features).flatMap
    (featureEmitted layout machine pi.1 pi.2)

/-- The operations in the order in which the two loops emit them. -/
def emittedOf (placed : List (Placement × PartInstance)) : List Emitted :=
  (sortBy (fun pi : Placement × PartInstance => placementKey pi.1) placed).flatMap
    (placementEmitted layout machine)

/-- Sheets of the setup list in ascending order. -/
def sheetsOf (emitted : List Emitted) : List Int :=
  sortedSet ((setupKeys emitted).map Prod.fst)

/-- The final sort of one sheet. -/
def sortedSheet (emitted : List Emitted) (sheet : Int) : List CAMOperation :=
  sortBy (globalKey (releaseOperationIds emitted)) (sheetOperations emitted sheet)

theorem featureOperations_eq_ok {placement : Placement} {inst : PartInstance}
    {f : ManufacturingFeature} {es : List Emitted}
    (h : featureOperations layout machine placement inst f = .ok es) :
    f.side ≠ .edge ∧ (∃ tool, selectTool f machine = some tool) ∧
      es = featureEmitted layout machine placement inst f := by
  simp only [featureOperations, bind_eq_ok, require_eq_ok, demand_eq_ok, decide_eq_true_eq] at h
  obtain ⟨-, hside, tool, htool, hes⟩ := h
  refine ⟨hside, ⟨tool, htool⟩, ?_⟩
  simp only [featureEmitted, htool]
  exact (Except.ok.inj hes).symm

theorem emitOperations_eq_ok {placed : List (Placement × PartInstance)} {es : List Emitted}
    (h : emitOperations layout machine placed = .ok es) :
    es = emittedOf layout machine placed ∧
      ∀ pi ∈ placed, ∀ f ∈ pi.2.part.features,
        f.side ≠ .edge ∧ ∃ tool, selectTool f machine = some tool := by
  obtain ⟨perPlacement, hp, hes⟩ := bind_eq_ok.mp h
  constructor
  · rw [← Except.ok.inj hes, emittedOf, List.flatMap_def]
    refine congrArg _ (collect_eq_map (fun pi b hb => ?_) hp)
    obtain ⟨perFeature, hf, hb⟩ := bind_eq_ok.mp hb
    rw [← Except.ok.inj hb, placementEmitted, List.flatMap_def]
    exact congrArg _ (collect_eq_map
      (fun f b hb => (featureOperations_eq_ok layout machine hb).2.2) hf)
  · intro pi hpi f hf
    obtain ⟨b, -, hb⟩ := collect_mem hp (mem_sortBy.mpr hpi)
    obtain ⟨perFeature, hfs, -⟩ := bind_eq_ok.mp hb
    obtain ⟨b', -, hb'⟩ := collect_mem hfs (mem_sortBy.mpr hf)
    obtain ⟨hside, htool, -⟩ := featureOperations_eq_ok layout machine hb'
    exact ⟨hside, htool⟩

theorem collect_placed {instances : List PartInstance} {placements : List Placement}
    {placed : List (Placement × PartInstance)} {err : Placement → GenerateError}
    (h : collect (fun p : Placement => do
        let inst ← demand (instanceById instances p.instanceId) (err p)
        return (p, inst)) placements = .ok placed) :
    placed = (placements.filterMap fun p =>
        (instanceById instances p.instanceId).map fun i => (p, i)) ∧
      placed.map Prod.fst = placements := by
  induction placements generalizing placed with
  | nil => simp_all [collect]
  | cons p l ih =>
    simp only [collect, bind_eq_ok, demand_eq_ok] at h
    obtain ⟨pi, ⟨inst, hinst, hpi⟩, rest, hrest, hplaced⟩ := h
    obtain ⟨ih1, ih2⟩ := ih hrest
    rw [← Except.ok.inj hplaced, ← Except.ok.inj hpi]
    constructor
    · rw [List.filterMap_cons_some (b := (p, inst)) (by simp [hinst]), ← ih1]
    · simp [ih2]

theorem checkOperationsDocument_eq_ok {fingerprint : List ToolSpec → String}
    {doc doc' : OperationsDocument} (h : checkOperationsDocument fingerprint doc = .ok doc') :
    doc = doc' := by
  simp only [checkOperationsDocument, bind_eq_ok] at h
  obtain ⟨-, -, -, -, -, -, -, -, -, -, h⟩ := h
  exact Except.ok.inj h

/-- A successful run, read back.  `regs` is the dictionary of checked registrations. -/
theorem generate_inv {dfm : List PartInstance → NestingLayout → MachineProfile → List String}
    {fingerprint : List ToolSpec → String} {designHash : String} {parts : PartsInput}
    {validate : Bool} {registrationBySheet : Int → Option TwoSidedRegistration}
    {doc : OperationsDocument}
    (h : generateOperationsDocument layout machine dfm fingerprint designHash parts validate
      registrationBySheet = .ok doc) :
    ∃ (placed : List (Placement × PartInstance)) (emitted : List Emitted)
        (regs : List (Int × TwoSidedRegistration)),
      placed = placedInstances (coercePartInstances parts) layout ∧
      placed.map Prod.fst = layout.placements ∧
      emitted = emittedOf layout machine placed ∧
      (∀ pi ∈ placed, ∀ f ∈ pi.2.part.features,
        f.side ≠ .edge ∧ ∃ tool, selectTool f machine = some tool) ∧
      (∀ sheet ∈ twoSidedSheets placed, ∃ plan, (sheet, plan) ∈ regs ∧
        requireTwoSidedRegistration layout (registrationBySheet sheet) = .ok plan) ∧
      doc.setups = (setupKeys emitted).map (fun key => makeSetup layout machine key.1 key.2
        (sortedSet ((setupOperations emitted key).map CAMOperation.toolId))
        (regs.lookup key.1)) ∧
      doc.operations = (sheetsOf emitted).flatMap (sortedSheet emitted) ∧
      ∀ sheet ∈ sheetsOf emitted, requireCompatibleGlobalOrder (sheetOperations emitted sheet)
        (releaseOperationIds emitted) = .ok () := by
  simp only [generateOperationsDocument, bind_eq_ok] at h
  obtain ⟨-, -, placed, hplaced, regs, hregs, emitted, hemitted, perSheet, hsheets, hdoc⟩ := h
  obtain ⟨hplaced1, hplaced2⟩ := collect_placed hplaced
  obtain ⟨hemitted1, hemitted2⟩ := emitOperations_eq_ok layout machine hemitted
  have hinv : ∀ sheet ops, orderedSheetOperations emitted sheet = .ok ops →
      ops = sortedSheet emitted sheet ∧ requireCompatibleGlobalOrder
        (sheetOperations emitted sheet) (releaseOperationIds emitted) = .ok () := by
    intro sheet ops hops
    simp only [orderedSheetOperations, bind_eq_ok] at hops
    obtain ⟨_, hcompat, hops⟩ := hops
    exact ⟨(Except.ok.inj hops).symm, hcompat⟩
  have hdoc' := checkOperationsDocument_eq_ok hdoc
  refine ⟨placed, emitted, regs, hplaced1, hplaced2, hemitted1, hemitted2, ?_, ?_, ?_, ?_⟩
  · intro sheet hsheet
    obtain ⟨sp, hsp, hplan⟩ := collect_mem hregs hsheet
    obtain ⟨plan, hplan, hsp'⟩ := bind_eq_ok.mp hplan
    exact ⟨plan, Except.ok.inj hsp' ▸ hsp, hplan⟩
  · rw [← hdoc']
  · rw [← hdoc', List.flatMap_def]
    exact congrArg _ (collect_eq_map (fun sheet ops hops => (hinv sheet ops hops).1) hsheets)
  · intro sheet hsheet
    obtain ⟨ops, -, hops⟩ := collect_mem hsheets hsheet
    exact (hinv sheet ops hops).2

/-! ## Where emitted operations come from -/

section Emitted

variable {layout machine}

theorem mem_emittedOf {placed : List (Placement × PartInstance)} {e : Emitted} :
    e ∈ emittedOf layout machine placed ↔ ∃ pi ∈ placed, ∃ f ∈ pi.2.part.features,
      e ∈ featureEmitted layout machine pi.1 pi.2 f := by
  simp only [emittedOf, placementEmitted, List.mem_flatMap, mem_sortBy]

theorem mem_operationsWithTool {p : Placement} {i : PartInstance} {f : ManufacturingFeature}
    {tool : ToolSpec} {e : Emitted} (h : e ∈ operationsWithTool layout p i f tool) :
    e.sheetIndex = p.sheetIndex ∧ e.operation.side = f.side := by
  unfold operationsWithTool at h
  split at h
  · obtain ⟨-, -, rfl⟩ := List.mem_map.mp h
    exact ⟨rfl, rfl⟩
  · rw [List.mem_singleton.mp h]
    exact ⟨rfl, rfl⟩

theorem mem_featureEmitted {p : Placement} {i : PartInstance} {f : ManufacturingFeature}
    {e : Emitted} (h : e ∈ featureEmitted layout machine p i f) :
    e.sheetIndex = p.sheetIndex ∧ e.operation.side = f.side := by
  unfold featureEmitted at h
  split at h
  · exact mem_operationsWithTool h
  · simp at h

theorem mem_setupKeys {emitted : List Emitted} {k : Int × Side} :
    k ∈ setupKeys emitted ↔ ∃ e ∈ emitted, (e.sheetIndex, e.operation.side) = k := by
  simp only [setupKeys, mem_sortBy, List.mem_dedup, List.mem_map]

end Emitted

end Custombuild.Manufacturing
