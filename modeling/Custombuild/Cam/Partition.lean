/-
  The partition of the operations of a document into programs, from the parts list to the
  programs: the generator gives every site one operation in sheet order, the planner puts
  every operation into exactly one program, keeps release contours apart and lets no program
  follow a release on a physical sheet.
-/
import Custombuild.Manufacturing.Ordering
import Custombuild.Cam.Planned

namespace Custombuild.Cam

open Custombuild.Lib Custombuild.Manufacturing

variable {env : PlannerEnv} {doc : OperationsDocument} {ctx : ProductionExecutionContext}
  {tdoc : ProductionToolpathDocument} {outlines : List PartOutline}
  {bindings : List OperationBinding}

/-! ## Identities -/

/-- What the source binding has checked about identities. -/
theorem validateSourceBinding_ids (h : validateSourceBinding env doc ctx = .ok ()) :
    (doc.setups.map Setup.setupId).Nodup ∧ (doc.operations.map CAMOperation.operationId).Nodup := by
  simp only [validateSourceBinding, bind_eq_ok, require_eq_ok, demand_eq_ok,
    decide_eq_true_eq] at h
  obtain ⟨_, -, _, -, _, -, _, -, _, -, _, -, _, -, _, -, _, hsetups, _, -, _, -, _, -, _, -, _,
    -, _, -, _, hoperations, -⟩ := h
  exact ⟨hsetups, hoperations⟩

theorem zip_fst (h : collect (bindOperation doc ctx outlines) doc.operations = .ok bindings) :
    (doc.operations.zip bindings).map Prod.fst = doc.operations := by
  rw [List.map_fst_zip]
  exact le_of_eq (collect_eq_ok.mp h).length_eq

/-! ## Every operation in exactly one program -/

theorem groupKeys_nodup (bound : List BoundOperation) : (groupKeys doc bound).Nodup :=
  (sortBy_perm _ _).nodup_iff.mpr (List.nodup_dedup _)

theorem mem_groupKeys {bound : List BoundOperation} {bo : BoundOperation} (h : bo ∈ bound) :
    groupKey bo ∈ groupKeys doc bound := by
  rw [groupKeys, mem_sortBy, List.mem_dedup]
  exact List.mem_map_of_mem h

theorem groups_perm (bound : List BoundOperation) :
    ((groupKeys doc bound).flatMap (groupOperations bound)).Perm bound := by
  refine (List.Perm.flatMap_left _ fun key _ => sortBy_perm programKey _).trans ?_
  exact flatMap_filter_perm groupKey (groupKeys_nodup bound) fun bo hbo => mem_groupKeys hbo

theorem operationIds_of_programs {bound : List BoundOperation} {keys : List GroupKey} {n : Nat}
    {programs : List ProductionProgram}
    (h : List.Forall₂ (fun k p => PlannedProgram ctx outlines bound k.1 (k.2 + 1) p)
      (keys.zipIdx n) programs) :
    programs.flatMap ProductionProgram.operationIds =
      (keys.flatMap (groupOperations bound)).map fun bo => bo.1.operationId := by
  induction keys generalizing n programs with
  | nil =>
    cases h
    rfl
  | cons k keys ih =>
    rw [List.zipIdx_cons] at h
    cases h with
    | cons hk hrest =>
      rw [List.flatMap_cons, List.flatMap_cons, List.map_append, ih hrest, hk.operations_eq]

/-- The programs partition the operations. -/
theorem PlannedDocument.partition (h : PlannedDocument env doc ctx tdoc outlines bindings) :
    (tdoc.programs.flatMap ProductionProgram.operationIds).Perm
      (doc.operations.map CAMOperation.operationId) := by
  have hmap : doc.operations.map CAMOperation.operationId =
      (doc.operations.zip bindings).map fun bo => bo.1.operationId := by
    conv_lhs => rw [← zip_fst h.bindings_eq, List.map_map]
    rfl
  rw [operationIds_of_programs h.programs_eq, hmap]
  exact (groups_perm _).map _

/-! ## Release contours are isolated -/

theorem PlannedProgram.release_isolated {bound : List BoundOperation} {key : GroupKey} {n : Nat}
    {p : ProductionProgram} (h : PlannedProgram ctx outlines bound key n p) :
    p.releaseOperationIds = if key.releasePhase then p.operationIds else [] := by
  have hphase : ∀ bo ∈ groupOperations bound key, isReleaseContour bo.1 = key.releasePhase :=
    fun bo hbo => congrArg GroupKey.releasePhase (mem_groupOperations.mp hbo).2
  rw [h.releases_eq, h.operations_eq]
  split
  · rename_i hrelease
    rw [List.filter_eq_self.mpr fun bo hbo => (hphase bo hbo).trans hrelease]
  · rename_i hrelease
    rw [List.filter_eq_nil_iff.mpr fun bo hbo => by rw [hphase bo hbo]; exact hrelease]
    rfl

/-! ## Document order inside a program -/

/-- The part of the document's sort key that a program keeps. -/
theorem programKey_le {releaseIds : List String} {p q : BoundOperation}
    (h : globalKey releaseIds p.1 ≤ globalKey releaseIds q.1)
    (hrelease : p.1.operationId ∈ releaseIds ↔ q.1.operationId ∈ releaseIds)
    (hside : p.1.side = q.1.side) (htool : p.1.toolId = q.1.toolId) :
    programKey p ≤ programKey q := by
  simp only [globalKey, programKey, Prod.Lex.toLex_le_toLex, hrelease, hside, htool,
    lt_self_iff_false, false_or, true_and] at h ⊢
  exact h

theorem setupId_of_emitted {layout : NestingLayout} {machine : MachineProfile}
    {placed : List (Placement × PartInstance)} {e : Emitted}
    (h : e ∈ emittedOf layout machine placed) :
    e.operation.setupId = setupIdOf layout.stock.stockId e.sheetIndex e.operation.side := by
  obtain ⟨pi, -, f, -, he⟩ := mem_emittedOf.mp h
  unfold featureEmitted at he
  split at he
  · unfold operationsWithTool at he
    split at he
    · obtain ⟨p, -, rfl⟩ := List.mem_map.mp he
      rfl
    · rw [List.mem_singleton.mp he]
      rfl
  · cases he

section Generated

variable {layout : NestingLayout} {machine : MachineProfile}
  {placed : List (Placement × PartInstance)}

/-- Two emitted operations of one setup lie on one sheet and one side, because the source
    binding requires distinct setup identities. -/
theorem same_key_of_setupId {emitted : List Emitted}
    (hemitted : emitted = emittedOf layout machine placed)
    (hsetups : ((setupKeys emitted).map fun k => setupIdOf layout.stock.stockId k.1 k.2).Nodup)
    {e e' : Emitted} (he : e ∈ emitted) (he' : e' ∈ emitted)
    (hid : e.operation.setupId = e'.operation.setupId) :
    e.sheetIndex = e'.sheetIndex ∧ e.operation.side = e'.operation.side := by
  subst hemitted
  rw [setupId_of_emitted he, setupId_of_emitted he'] at hid
  have hkeys := List.inj_on_of_nodup_map hsetups (mem_setupKeys.mpr ⟨e, he, rfl⟩)
    (mem_setupKeys.mpr ⟨e', he', rfl⟩) hid
  exact ⟨congrArg Prod.fst hkeys, congrArg Prod.snd hkeys⟩

/-- In document order the operations of one setup ascend by the document's sort key. -/
theorem document_pairwise {emitted : List Emitted}
    (hemitted : emitted = emittedOf layout machine placed)
    (hops : doc.operations = (sheetsOf emitted).flatMap (sortedSheet emitted))
    (hsetups : ((setupKeys emitted).map fun k => setupIdOf layout.stock.stockId k.1 k.2).Nodup) :
    doc.operations.Pairwise fun p q => p.setupId = q.setupId → p.side = q.side ∧
      globalKey (releaseOperationIds emitted) p ≤ globalKey (releaseOperationIds emitted) q := by
  have hsheet : ∀ sheet, ∀ op ∈ sortedSheet emitted sheet,
      ∃ e ∈ emitted, e.sheetIndex = sheet ∧ e.operation = op := by
    intro sheet op hop
    rw [(sortedSheet_perm _ _).mem_iff] at hop
    obtain ⟨e, he, rfl⟩ := List.mem_map.mp hop
    obtain ⟨he, hs⟩ := List.mem_filter.mp he
    exact ⟨e, he, of_decide_eq_true hs, rfl⟩
  rw [hops, List.pairwise_flatMap]
  refine ⟨fun sheet _ => ?_, ?_⟩
  · have hpair := List.Pairwise.and_mem.mp
      (sortBy_pairwise (globalKey (releaseOperationIds emitted)) (sheetOperations emitted sheet))
    refine hpair.imp fun {p q} hpq hid => ⟨?_, hpq.2.2⟩
    obtain ⟨e, he, -, rfl⟩ := hsheet sheet p hpq.1
    obtain ⟨e', he', -, rfl⟩ := hsheet sheet q hpq.2.1
    exact (same_key_of_setupId hemitted hsetups he he' hid).2
  · refine (sortedSet_pairwise _).imp fun {s t} hlt p hp q hq hid => ?_
    obtain ⟨e, he, rfl, rfl⟩ := hsheet s p hp
    obtain ⟨e', he', rfl, rfl⟩ := hsheet t q hq
    have := (same_key_of_setupId hemitted hsetups he he' hid).1
    omega

/-- A group whose operations agree on the release identity keeps document order. -/
theorem groupOperations_sublist {releaseIds : List String}
    (hpair : doc.operations.Pairwise fun p q => p.setupId = q.setupId → p.side = q.side ∧
      globalKey releaseIds p ≤ globalKey releaseIds q)
    (hbindings : collect (bindOperation doc ctx outlines) doc.operations = .ok bindings)
    {key : GroupKey} (hflag : ∀ bo ∈ doc.operations.zip bindings, ∀ bo' ∈ doc.operations.zip bindings,
      groupKey bo = key → groupKey bo' = key →
      (bo.1.operationId ∈ releaseIds ↔ bo'.1.operationId ∈ releaseIds)) :
    ((groupOperations (doc.operations.zip bindings) key).map fun bo => bo.1.operationId).Sublist
      (doc.operations.map CAMOperation.operationId) := by
  rw [← zip_fst hbindings, List.pairwise_map] at hpair
  have hsorted : ((doc.operations.zip bindings).filter fun bo => groupKey bo = key).Pairwise
      fun p q => programKey p ≤ programKey q := by
    rw [List.pairwise_filter]
    refine (List.Pairwise.and_mem.mp hpair).imp fun {p q} hpq hp hq => ?_
    obtain ⟨hpmem, hqmem, hpq⟩ := hpq
    rw [decide_eq_true_eq] at hp hq
    have heq : groupKey p = groupKey q := hp.trans hq.symm
    obtain ⟨hside, hle⟩ := hpq (congrArg GroupKey.setupId heq)
    exact programKey_le hle (hflag p hpmem q hqmem hp hq) hside
      (congrArg GroupKey.sourceToolId heq)
  have hgroup : groupOperations (doc.operations.zip bindings) key =
      (doc.operations.zip bindings).filter fun bo => groupKey bo = key := sortBy_eq_self hsorted
  have hmap : doc.operations.map CAMOperation.operationId =
      (doc.operations.zip bindings).map fun bo => bo.1.operationId := by
    conv_lhs => rw [← zip_fst hbindings, List.map_map]
    rfl
  rw [hgroup, hmap]
  exact List.filter_sublist.map _

/-- A release of the generator is a release contour of the planner: the contour contract
    accepts a through contour only with outside compensation. -/
theorem isReleaseContour_of_releaseAmong {op : CAMOperation} {setup : BoundSetup}
    {spec : ToolSpec} {tool : ProductionToolBinding} {recipe : CuttingRecipe}
    (hrelease : ReleaseAmong layout machine placed op)
    (hcontract : OperationContract op setup spec tool recipe) : isReleaseContour op = true := by
  obtain ⟨s, hs, hrel, t, -, rfl⟩ := hrelease
  obtain ⟨hkind, hthrough⟩ : s.feature.kind = .outerContour ∧ s.feature.through = true := by
    simpa [JobSite.isRelease] using hrel
  have hsite : s.site = none := by
    simp only [jobSites, List.mem_flatMap, List.mem_map] at hs
    obtain ⟨pi, -, f, -, site, hsite, rfl⟩ := hs
    rw [featureSites, hkind] at hsite
    exact List.mem_singleton.mp hsite
  have hopkind : (s.operation layout t).kind = .contour := by
    rw [JobSite.operation, hsite]
    show featureToOperation s.feature.kind = _
    rw [hkind]
    rfl
  have hopthrough : (s.operation layout t).through = true := by
    rw [JobSite.operation, hsite]
    exact hthrough
  have hc := hcontract.kind_contract
  rw [hopkind, if_neg (by decide), if_neg (by decide)] at hc
  simp only [validateContourContract, bind_eq_ok, require_eq_ok, hopthrough, Bool.not_true,
    Bool.false_or] at hc
  obtain ⟨_, -, _, -, _, -, _, -, _, -, _, hcomp, -⟩ := hc
  simp only [isReleaseContour, hopkind, hopthrough, hcomp, decide_true, Bool.and_self]

end Generated

/-! ## From parts to programs -/

/-- The programs of a document: every operation in exactly one program, once; release
    contours alone in their programs; no program after a release on a physical sheet; inside
    a program the document's order, where the release programs need the release contours of
    the document to be the through outlines that the generator sorted last. -/
structure PartitionedDocument (layout : NestingLayout) (machine : MachineProfile)
    (placed : List (Placement × PartInstance)) (doc : OperationsDocument)
    (ctx : ProductionExecutionContext) (tdoc : ProductionToolpathDocument) : Prop where
  partition : (tdoc.programs.flatMap ProductionProgram.operationIds).Perm
    (doc.operations.map CAMOperation.operationId)
  once : (tdoc.programs.flatMap ProductionProgram.operationIds).Nodup
  isolated : ∀ p ∈ tdoc.programs,
    (p.releaseOperationIds = [] ∨ p.releaseOperationIds = p.operationIds) ∧
    ∀ op ∈ doc.operations, op.operationId ∈ p.operationIds →
      (op.operationId ∈ p.releaseOperationIds ↔ isReleaseContour op = true)
  release_last : ReleaseLast ctx tdoc.programs
  in_order : ∀ p ∈ tdoc.programs, (p.releaseOperationIds = [] ∨
      ∀ op ∈ doc.operations, isReleaseContour op = true → ReleaseAmong layout machine placed op) →
    p.operationIds.Sublist (doc.operations.map CAMOperation.operationId)

theorem PlannedProgram.mem_operation {bound : List BoundOperation} {key : GroupKey} {n : Nat}
    {p : ProductionProgram} (h : PlannedProgram ctx outlines bound key n p)
    (hbound : bound.map Prod.fst = doc.operations)
    (hnodup : (doc.operations.map CAMOperation.operationId).Nodup) {op : CAMOperation}
    (hop : op ∈ doc.operations) (hid : op.operationId ∈ p.operationIds) :
    isReleaseContour op = key.releasePhase := by
  rw [h.operations_eq] at hid
  obtain ⟨bo, hbo, hboid⟩ := List.mem_map.mp hid
  obtain ⟨hmem, hkey⟩ := mem_groupOperations.mp hbo
  have hboop : bo.1 ∈ doc.operations := by
    rw [← hbound]
    exact List.mem_map_of_mem hmem
  rw [← List.inj_on_of_nodup_map hnodup hboop hop hboid]
  exact congrArg GroupKey.releasePhase hkey

theorem PlannedDocument.isolated (h : PlannedDocument env doc ctx tdoc outlines bindings)
    {p : ProductionProgram} (hp : p ∈ tdoc.programs) :
    (p.releaseOperationIds = [] ∨ p.releaseOperationIds = p.operationIds) ∧
    ∀ op ∈ doc.operations, op.operationId ∈ p.operationIds →
      (op.operationId ∈ p.releaseOperationIds ↔ isReleaseContour op = true) := by
  obtain ⟨key, -, n, hplanned⟩ := h.program hp
  have hnodup := (validateSourceBinding_ids h.source).2
  rw [hplanned.release_isolated]
  refine ⟨?_, fun op hop hid => ?_⟩
  · split
    · exact .inr rfl
    · exact .inl rfl
  · rw [hplanned.mem_operation (zip_fst h.bindings_eq) hnodup hop hid]
    split
    · rename_i hphase
      exact ⟨fun _ => hphase, fun _ => hid⟩
    · rename_i hphase
      exact ⟨fun hin => absurd hin List.not_mem_nil, fun htrue => absurd htrue hphase⟩

section EndToEnd

variable {layout : NestingLayout} {machine : MachineProfile}
  {dfm : List PartInstance → NestingLayout → MachineProfile → List String}
  {fingerprint : List ToolSpec → String} {designHash : String} {parts : PartsInput}
  {validate : Bool} {registrationBySheet : Int → Option TwoSidedRegistration}

theorem generated_in_order
    (hdoc : generateOperationsDocument layout machine dfm fingerprint designHash parts validate
      registrationBySheet = .ok doc)
    (h : PlannedDocument env doc ctx tdoc outlines bindings) {p : ProductionProgram}
    (hp : p ∈ tdoc.programs)
    (hrel : p.releaseOperationIds = [] ∨ ∀ op ∈ doc.operations, isReleaseContour op = true →
      ReleaseAmong layout machine (placedInstances (coercePartInstances parts) layout) op) :
    p.operationIds.Sublist (doc.operations.map CAMOperation.operationId) := by
  obtain ⟨placed, emitted, regs, hplaced, -, hemitted, hfeatures, -, hsetups, hops, -⟩ :=
    generate_inv layout machine hdoc
  rw [← hplaced] at hrel
  obtain ⟨hsetupIds, hnodup⟩ := validateSourceBinding_ids h.source
  rw [hsetups, List.map_map] at hsetupIds
  have hpair := document_pairwise hemitted hops hsetupIds
  obtain ⟨key, -, n, hplanned⟩ := h.program hp
  rw [hplanned.operations_eq]
  have htools : ∀ pi ∈ placed, ∀ f ∈ pi.2.part.features,
      ∃ tool, selectTool f machine = some tool := fun pi hpi f hf => (hfeatures pi hpi f hf).2
  have hmem : ∀ e ∈ emittedOf layout machine placed, e.operation ∈ doc.operations :=
    fun e he => mem_document_of_emitted hops (hemitted ▸ he)
  -- an operation of the group has a release identity exactly when the group is a release
  have hflag : ∀ bo ∈ doc.operations.zip bindings, groupKey bo = key →
      (bo.1.operationId ∈ releaseOperationIds emitted ↔ key.releasePhase = true) := by
    intro bo hbo hkey
    have hbound := isBound_of_mem_zip h.bindings_eq hbo
    have hphase : isReleaseContour bo.1 = key.releasePhase := congrArg GroupKey.releasePhase hkey
    obtain ⟨spec, -, hcontract⟩ := hbound.bound.contract
    rw [hemitted, releaseAmong_iff htools hmem hnodup hbound.1, ← hphase]
    refine ⟨fun hr => isReleaseContour_of_releaseAmong hr hcontract, fun hr => ?_⟩
    rcases hrel with hnil | hall
    · have hin : bo ∈ groupOperations (doc.operations.zip bindings) key :=
        mem_groupOperations.mpr ⟨hbo, hkey⟩
      rw [hplanned.release_isolated, ← hphase, if_pos hr, hplanned.operations_eq,
        List.map_eq_nil_iff] at hnil
      rw [hnil] at hin
      exact absurd hin List.not_mem_nil
    · exact hall bo.1 hbound.1 hr
  refine groupOperations_sublist hpair h.bindings_eq fun bo hbo bo' hbo' hkey hkey' => ?_
  rw [hflag bo hbo hkey, hflag bo' hbo' hkey']

/-- From a parts list to programs: the document has exactly one operation for every site, in
    sheet order, and whatever the planner makes of it partitions these operations. -/
theorem operations_partitioned_end_to_end
    (hdoc : generateOperationsDocument layout machine dfm fingerprint designHash parts validate
      registrationBySheet = .ok doc) :
    ∃ placed, OrderedDocument layout machine (coercePartInstances parts) doc placed ∧
      ∀ env ctx tdoc, generateProductionToolpaths env doc ctx = .ok tdoc →
        PartitionedDocument layout machine placed doc ctx tdoc := by
  refine ⟨_, generated_ordered hdoc, fun env ctx tdoc htdoc => ?_⟩
  obtain ⟨outlines, bindings, h⟩ := generateProductionToolpaths_eq_ok htdoc
  have hctx := h.context_eq
  exact ⟨h.partition, tdoc.operations_nodup, fun p hp => h.isolated hp,
    hctx ▸ tdoc.release_last, fun p hp hrel => generated_in_order hdoc h hp hrel⟩

end EndToEnd

theorem operations_partitioned_end_to_end_panel :
    ∃ doc tdoc placed, PanelJob.panelAlone = .ok doc ∧
      generateProductionToolpaths PanelJob.env doc PanelJob.context = .ok tdoc ∧
      PartitionedDocument (PanelJob.layout [PanelJob.panelPlacement]) linuxcncReferenceRouter1325
        placed doc PanelJob.context tdoc := by
  obtain ⟨doc, tdoc, hdoc, htdoc⟩ := PanelJob.exists_plan_panelAlone
  have hgenerate : generateOperationsDocument (PanelJob.layout [PanelJob.panelPlacement])
      linuxcncReferenceRouter1325 (fun _ _ _ => []) (fun _ => PanelJob.digest) PanelJob.digest
      (.specs [PanelJob.panel]) false (fun _ => none) = .ok doc := hdoc
  obtain ⟨placed, -, hpart⟩ := operations_partitioned_end_to_end hgenerate
  exact ⟨doc, tdoc, placed, hdoc, htdoc, hpart _ _ _ htdoc⟩

namespace PanelJob

/-- A panel with a hole and no outline. -/
def bare : PartSpec := { panel with features := [hole], features_owned := by simp [hole, panel] }

/-- A contour inside the panel that does not go through, with the identity of the outline. -/
def score : ManufacturingFeature :=
  { outline "panel" .innerContour panel_named with
    xUm := 20000, yUm := 20000, depthUm := 3000
    widthUm := some 40000, lengthUm := some 40000, through := false
    depth_pos := by decide, dims_pos := by decide }

theorem scored_owned : ∀ f ∈ [outline "panel" .outerContour panel_named, score],
    f.partId = "panel" := by
  simp [score, outline]

/-- A panel whose outline shares its identity with the score. -/
def scored : PartSpec :=
  { panel with
    features := [outline "panel" .outerContour panel_named, score]
    features_owned := scored_owned }

theorem shelf_named : "shelf" ≠ "" := by decide

/-- A shelf that is cut out along an inner contour with outside compensation. -/
def shelf : PartSpec :=
  { panel with
    partId := "shelf"
    features := [outline "shelf" .innerContour shelf_named]
    id_required := shelf_named
    features_owned := by simp [outline] }

/-- The panel and the shelf side by side. -/
def panelAndShelf : Except GenerateError OperationsDocument :=
  source [panel, shelf] [panelPlacement,
    ⟨"shelf:001", "shelf", "sheet", 0, 200000, 40000, 120000, 90000, false⟩]

theorem bare_no_contour :
    okAnd (source [bare] [panelPlacement]) (fun doc =>
      decide (∀ op ∈ doc.operations, op.kind ≠ .contour)) = true := by decide +kernel

theorem scored_order :
    okAnd (source [scored] [panelPlacement]) (fun doc =>
      doc.operations.map isReleaseContour == [true, false]) = true := by decide +kernel

theorem panelAndShelf_order :
    okAnd panelAndShelf (fun doc =>
      okAnd (generateProductionToolpaths PanelJob.env doc context) fun tdoc =>
      tdoc.programs.any fun p => !decide
        (p.operationIds.Sublist (doc.operations.map CAMOperation.operationId))) = true := by
  decide +kernel

end PanelJob

/-- A placement without an outline has no release; with a shared identity a contour that does
    not release the part follows its release; and a release program can list its contours
    against the order of the document. -/
theorem not_one_release_last_in_order :
    (∃ doc, PanelJob.source [PanelJob.bare] [PanelJob.panelPlacement] = .ok doc ∧
      ¬∃ op ∈ doc.operations, op.instanceId = PanelJob.panelPlacement.instanceId ∧
        op.kind = .contour ∧ op.through = true) ∧
    (∃ doc p q, PanelJob.source [PanelJob.scored] [PanelJob.panelPlacement] = .ok doc ∧
      doc.operations = [p, q] ∧ isReleaseContour p = true ∧ isReleaseContour q = false) ∧
    ∃ doc tdoc, PanelJob.panelAndShelf = .ok doc ∧
      generateProductionToolpaths PanelJob.env doc PanelJob.context = .ok tdoc ∧
      ∃ p ∈ tdoc.programs,
        ¬p.operationIds.Sublist (doc.operations.map CAMOperation.operationId) := by
  refine ⟨?_, ?_, ?_⟩
  · obtain ⟨doc, hdoc, hnone⟩ := exists_of_okAnd PanelJob.bare_no_contour
    refine ⟨doc, hdoc, ?_⟩
    rintro ⟨op, hop, -, hkind, -⟩
    exact of_decide_eq_true hnone op hop hkind
  · obtain ⟨doc, hdoc, horder⟩ := exists_of_okAnd PanelJob.scored_order
    have hmap : doc.operations.map isReleaseContour = [true, false] := by simpa using horder
    obtain ⟨p, rest, hops, hp, hrest⟩ := List.map_eq_cons_iff.mp hmap
    obtain ⟨q, rest', rfl, hq, hnil⟩ := List.map_eq_cons_iff.mp hrest
    rw [List.map_eq_nil_iff.mp hnil] at hops
    exact ⟨doc, p, q, hdoc, hops, hp, hq⟩
  · obtain ⟨doc, hdoc, hplan⟩ := exists_of_okAnd PanelJob.panelAndShelf_order
    obtain ⟨tdoc, htdoc, horder⟩ := exists_of_okAnd hplan
    obtain ⟨p, hp, hnot⟩ := List.any_eq_true.mp horder
    exact ⟨doc, tdoc, hdoc, htdoc, p, hp, by simpa using hnot⟩

example : PanelJob.shelf.quantity = 1 := by decide +kernel

end Custombuild.Cam
