/-
  Registration pins and the keep-out zones of the two setups of a sheet.

  The pins of a `TwoSidedRegistration` are declared in the stock frame.  On side A the
  stock frame is the machine frame; on side B the sheet is flipped about the X axis, and a
  stock point `(x, y)` is machined at `(x, stock height - y)`.  The setup of either side
  carries the same zones, so after the flip a pin is kept out only where its mirrored
  footprint happens to be reserved.  Proved here: exactly when it is.
-/
import Custombuild.Manufacturing.Generated
import Mathlib.Data.Real.Basic
import Mathlib.Tactic.Linarith

namespace Custombuild.Manufacturing

open Custombuild.Lib

/-! ## Regions of the plane -/

/-- The closed region of the plane that a rectangle describes. -/
def Rect.region (r : Rect) : Set (ℝ × ℝ) :=
  {p | (r.xUm : ℝ) ≤ p.1 ∧ p.1 ≤ r.rightUm ∧ (r.yUm : ℝ) ≤ p.2 ∧ p.2 ≤ r.topUm}

/-- Every point of the set lies in one of the zones. -/
def Covers (zones : List Rect) (s : Set (ℝ × ℝ)) : Prop :=
  ∀ p ∈ s, ∃ z ∈ zones, p ∈ z.region

/-- The flip of a sheet of the given height about the machine X axis. -/
def flipAboutX (stockHeightUm : Int) (p : ℝ × ℝ) : ℝ × ℝ := (p.1, stockHeightUm - p.2)

theorem covers_of_mem {zones : List Rect} {r : Rect} (h : r ∈ zones) : Covers zones r.region :=
  fun _ hp => ⟨r, h, hp⟩

/-! ## Sheets with features on both sides -/

section Pins

variable {layout : NestingLayout} {machine : MachineProfile}

theorem points_ne_nil (f : ManufacturingFeature) : f.points ≠ [] := by
  have := f.count_pos
  unfold ManufacturingFeature.points
  split
  · simp
  · simp only [ne_eq, List.map_eq_nil_iff, List.range_eq_nil]
    omega

theorem featureEmitted_ne_nil (layout : NestingLayout) (p : Placement) (i : PartInstance)
    {f : ManufacturingFeature} (h : ∃ tool, selectTool f machine = some tool) :
    ∃ e, e ∈ featureEmitted layout machine p i f := by
  obtain ⟨tool, htool⟩ := h
  simp only [featureEmitted, htool, operationsWithTool]
  split
  · exact List.exists_mem_of_ne_nil _ (by simp [points_ne_nil])
  · exact ⟨_, List.mem_singleton_self _⟩

/-- A sheet has a setup for a side (other than an edge) exactly when a feature of that side
    is placed on it. -/
theorem mem_setupKeys_emittedOf (layout : NestingLayout)
    {placed : List (Placement × PartInstance)} {sheet : Int} {side : Side} (hside : side ≠ .edge)
    (htools : ∀ pi ∈ placed, ∀ f ∈ pi.2.part.features, ∃ tool, selectTool f machine = some tool) :
    (sheet, side) ∈ setupKeys (emittedOf layout machine placed) ↔
      side ∈ sidesOnSheet placed sheet := by
  simp only [mem_setupKeys, mem_emittedOf, sidesOnSheet, List.mem_flatMap, List.mem_filter,
    List.mem_map, Prod.mk.injEq, decide_eq_true_eq]
  constructor
  · rintro ⟨e, ⟨pi, hpi, f, hf, he⟩, rfl, rfl⟩
    obtain ⟨h1, h2⟩ := mem_featureEmitted he
    exact ⟨pi, ⟨hpi, h1.symm⟩, ⟨f, hf, h2.symm⟩, hside⟩
  · rintro ⟨pi, ⟨hpi, hsheet⟩, ⟨f, hf, hfside⟩, -⟩
    obtain ⟨e, he⟩ := featureEmitted_ne_nil layout pi.1 pi.2 (htools pi hpi f hf)
    obtain ⟨h1, h2⟩ := mem_featureEmitted he
    exact ⟨e, ⟨pi, hpi, f, hf, he⟩, h1.trans hsheet, h2.trans hfside⟩

theorem mem_twoSidedSheets {placed : List (Placement × PartInstance)} {sheet : Int} :
    sheet ∈ twoSidedSheets placed ↔
      .a ∈ sidesOnSheet placed sheet ∧ .b ∈ sidesOnSheet placed sheet := by
  simp only [twoSidedSheets, List.mem_filter, mem_sortedSet, List.mem_map, Bool.and_eq_true,
    decide_eq_true_eq]
  refine and_iff_right_of_imp fun h => ?_
  obtain ⟨pi, hpi, -⟩ := List.mem_flatMap.mp h.1
  exact ⟨pi, List.mem_of_mem_filter hpi, by simpa using (List.mem_filter.mp hpi).2⟩

/-! ## Pins after the flip -/

/-- Every sheet with setups on both sides keeps the declared pins out of both: the side-A
    zones cover each pin's footprint, the side-B zones its image under the flip. -/
def PinsStayKeepOuts (doc : OperationsDocument)
    (registrationBySheet : Int → Option TwoSidedRegistration) : Prop :=
  ∀ sa ∈ doc.setups, ∀ sb ∈ doc.setups, sa.side = .a → sb.side = .b →
    sa.sheetIndex = sb.sheetIndex → ∃ plan, registrationBySheet sa.sheetIndex = some plan ∧
      ∀ pin ∈ plan.points,
        Covers sa.keepOutZones (pinFootprint plan pin).region ∧
        Covers sb.keepOutZones (flipAboutX sb.stockHeightUm '' (pinFootprint plan pin).region)

/-- On every sheet with features of both sides, the mirror image of each pin footprint is
    covered by the clamp zones of the stock and the keep-out zones of the machine. -/
def MirroredPinsReserved (layout : NestingLayout) (machine : MachineProfile)
    (parts : PartsInput) (registrationBySheet : Int → Option TwoSidedRegistration) : Prop :=
  ∀ sheet ∈ twoSidedSheets (placedInstances (coercePartInstances parts) layout),
    ∀ plan, registrationBySheet sheet = some plan → ∀ pin ∈ plan.points,
      Covers (layout.stock.clampZones ++ machine.keepOutZones)
        (flipAboutX layout.stock.heightUm '' (pinFootprint plan pin).region)

theorem requireTwoSidedRegistration_eq_ok {plan : Option TwoSidedRegistration}
    {plan' : TwoSidedRegistration} (h : requireTwoSidedRegistration layout plan = .ok plan') :
    plan = some plan' ∧ ∀ pin ∈ plan'.points, pinFootprint plan' pin ∈ layout.stock.clampZones := by
  unfold requireTwoSidedRegistration at h
  split at h
  · simp [blockSetupPlan] at h
  · simp only at h
    split at h
    · simp [blockSetupPlan] at h
    · rename_i hcond
      obtain rfl := Except.ok.inj h
      refine ⟨rfl, fun pin hpin => ?_⟩
      simp only [Bool.or_eq_true, List.any_eq_true, not_or, not_exists, not_and,
        Bool.not_eq_true', decide_eq_false_iff_not, not_not] at hcond
      exact hcond.2 _ (List.mem_map_of_mem hpin)

section Flip

variable {dfm : List PartInstance → NestingLayout → MachineProfile → List String}
  {fingerprint : List ToolSpec → String} {designHash : String} {parts : PartsInput}
  {validate : Bool} {registrationBySheet : Int → Option TwoSidedRegistration}
  {doc : OperationsDocument}

theorem mirroredPinsReserved_of_keepOuts
    (h : generateOperationsDocument layout machine dfm fingerprint designHash parts validate
      registrationBySheet = .ok doc)
    (hpins : PinsStayKeepOuts doc registrationBySheet) :
    MirroredPinsReserved layout machine parts registrationBySheet := by
  obtain ⟨placed, emitted, regs, hplaced, -, rfl, hfeatures, -, hsetups, -, -⟩ :=
    generate_inv layout machine h
  intro sheet hsheet plan hplan pin hpin
  rw [← hplaced] at hsheet
  obtain ⟨ha, hb⟩ := mem_twoSidedSheets.mp hsheet
  have htools : ∀ pi ∈ placed, ∀ f ∈ pi.2.part.features, ∃ tool, selectTool f machine = some tool :=
    fun pi hpi f hf => (hfeatures pi hpi f hf).2
  have hmem (side : Side) (hside : side ≠ .edge) (hs : side ∈ sidesOnSheet placed sheet) :=
    hsetups ▸ List.mem_map_of_mem ((mem_setupKeys_emittedOf layout hside htools).mpr hs)
  obtain ⟨plan', hplan', hcover⟩ :=
    hpins _ (hmem .a (by decide) ha) _ (hmem .b (by decide) hb) rfl rfl rfl
  obtain rfl : plan = plan' := Option.some.inj (hplan.symm.trans hplan')
  exact (hcover pin hpin).2

theorem keepOuts_of_mirroredPinsReserved
    (h : generateOperationsDocument layout machine dfm fingerprint designHash parts validate
      registrationBySheet = .ok doc)
    (hpins : MirroredPinsReserved layout machine parts registrationBySheet) :
    PinsStayKeepOuts doc registrationBySheet := by
  obtain ⟨placed, emitted, regs, hplaced, -, rfl, hfeatures, hregs, hsetups, -, -⟩ :=
    generate_inv layout machine h
  have htools : ∀ pi ∈ placed, ∀ f ∈ pi.2.part.features, ∃ tool, selectTool f machine = some tool :=
    fun pi hpi f hf => (hfeatures pi hpi f hf).2
  intro sa hsa sb hsb hsidea hsideb hsheet
  rw [hsetups] at hsa hsb
  obtain ⟨⟨sheet, s⟩, hka, rfl⟩ := List.mem_map.mp hsa
  obtain ⟨⟨sheet', s'⟩, hkb, rfl⟩ := List.mem_map.mp hsb
  obtain rfl : s = .a := hsidea
  obtain rfl : s' = .b := hsideb
  obtain rfl : sheet = sheet' := hsheet
  have htwo : sheet ∈ twoSidedSheets placed := mem_twoSidedSheets.mpr
    ⟨(mem_setupKeys_emittedOf layout (by decide) htools).mp hka,
      (mem_setupKeys_emittedOf layout (by decide) htools).mp hkb⟩
  obtain ⟨plan, -, hplan⟩ := hregs sheet htwo
  obtain ⟨hsome, hclamps⟩ := requireTwoSidedRegistration_eq_ok hplan
  refine ⟨plan, hsome, fun pin hpin => ⟨covers_of_mem ?_, ?_⟩⟩
  · exact List.mem_append_left _ (hclamps pin hpin)
  · exact hpins sheet (hplaced ▸ htwo) plan hsome pin hpin

/-- The registration pins stay keep-outs after the flip exactly when their mirrored
    footprints are reserved as well: the setups of both sides carry the same zones. -/
theorem pins_stay_keep_outs_iff
    (h : generateOperationsDocument layout machine dfm fingerprint designHash parts validate
      registrationBySheet = .ok doc) :
    PinsStayKeepOuts doc registrationBySheet ↔
      MirroredPinsReserved layout machine parts registrationBySheet :=
  ⟨mirroredPinsReserved_of_keepOuts h, keepOuts_of_mirroredPinsReserved h⟩

end Flip

end Pins

/-! ## A sheet with grooves on both sides -/

namespace FlipJob

theorem tool_feeds_pos : (0 : Int) < 3000000 ∧ (0 : Int) < 800000 := by decide

theorem tool_texts_canonical : ∀ t ∈ ["t6", "6 mm", "1"], isCanonicalText t = true := by
  decide +kernel

theorem tool_runout_lt : 2 * 0 < orElse none 6000 := by decide

def tool : ToolSpec where
  toolId := "t6"
  name := "6 mm"
  diameterUm := 6000
  cuttingLengthUm := 25000
  supportedOperations := [.groove, .contour]
  spindleRpm := 18000
  feedUmMin := 3000000
  plungeUmMin := 800000
  feeds_pos := tool_feeds_pos
  texts_canonical := tool_texts_canonical
  runout_lt := tool_runout_lt

theorem groove_depth_pos : (0 : Int) < 6000 := by decide

theorem side_named : "side" ≠ "" := by decide

def machine : MachineProfile where
  profileId := "router"
  name := "router"
  version := "1"
  controller := "linuxcnc"
  workWidthUm := 2500000
  workHeightUm := 1300000
  workZUm := 200000
  safeZUm := 10000
  maxSpindleRpm := 24000
  supportedOperations := [.groove, .contour]
  tools := [tool]
  toolLibraryVersion := "1"
  supportedSides := [.a, .b]
  canFlipStock := true

def groove (id : String) (side : Side) (h : id ≠ "") : ManufacturingFeature where
  featureId := id
  partId := "side"
  kind := .groove
  side := side
  xUm := 100000
  yUm := 40000
  depthUm := 6000
  widthUm := some 200000
  lengthUm := some 18000
  ids_required := ⟨h, side_named⟩
  depth_pos := groove_depth_pos

def part : PartSpec where
  partId := "side"
  widthUm := 300000
  heightUm := 600000
  thicknessUm := 18000
  materialId := "birch"
  materialVersion := "1"
  features := [groove "ga" .a (by decide), groove "gb" .b (by decide)]
  id_required := side_named
  features_owned := by simp [groove]

/-- Two pins at the height `y` of the sheet. -/
def registration (y : Int) : TwoSidedRegistration where
  declarationAuthority := "CLIENT_DECLARED"
  methodId := "pins"
  fixtureMethodVersion := "1"
  pinDiameterUm := 8000
  positionToleranceUm := 100
  points := [⟨50000, y⟩, ⟨2000000, y⟩]
  points_count := by simp
  points_nodup := by simp
  baseline := by simp [Point2D.distSq, pinKeepOutRadiusUm]

/-- One part on the sheet, with the pin footprints reserved as clamp zones. -/
def layout (y : Int) : NestingLayout where
  stock := {
    stockId := "sheet"
    materialId := "birch"
    materialVersion := "1"
    widthUm := 2440000
    heightUm := 1220000
    thicknessUm := 18000
    clampZones := registrationPinKeepOutRectangles (registration y) }
  placements := [⟨"side:001", "side", "sheet", 0, 400000, 300000, 300000, 600000, false⟩]

/-- The generator on this job, without the optional DFM validation and with a constant in
    place of the fingerprint. -/
def run (y : Int) : Except GenerateError OperationsDocument :=
  generateOperationsDocument (layout y) machine (fun _ _ _ => [])
    (fun _ => String.ofList (List.replicate 64 'a')) "design" (.specs [part]) false
    (fun _ => some (registration y))

end FlipJob

/-- With pins at 50 mm from one long edge the job is accepted, but the zones of the side-B
    setup do not cover the mirrored pins. -/
theorem not_pins_stay_keep_outs_asymmetric :
    ∃ doc, FlipJob.run 50000 = .ok doc ∧
      ¬PinsStayKeepOuts doc fun _ => some (FlipJob.registration 50000) := by
  have hrun : (FlipJob.run 50000).isOk = true := by decide +kernel
  obtain ⟨doc, hdoc⟩ := exists_eq_ok hrun
  refine ⟨doc, hdoc, fun hpins => ?_⟩
  have hreserved := mirroredPinsReserved_of_keepOuts hdoc hpins
  -- the pin at (50000, 50000) is machined at (50000, 1170000) on side B
  obtain ⟨z, hz, hp⟩ := hreserved 0 (by decide +kernel) _ rfl ⟨50000, 50000⟩
    (by simp [FlipJob.registration]) (50000, 1170000) ⟨(50000, 50000), by
      simp [Rect.region, pinFootprint, registrationPinKeepOutRadiusUm, pinKeepOutRadiusUm,
        FlipJob.registration, Rect.rightUm, Rect.topUm]; norm_num, by
      simp [flipAboutX, FlipJob.layout]; norm_num⟩
  simp [FlipJob.layout, FlipJob.machine, registrationPinKeepOutRectangles, pinFootprint,
    registrationPinKeepOutRadiusUm, pinKeepOutRadiusUm, FlipJob.registration] at hz
  rcases hz with rfl | rfl <;> simp [Rect.region, Rect.topUm] at hp <;> norm_num at hp

/-- With pins on the centre line of the sheet the mirrored footprints are the footprints. -/
theorem pins_stay_keep_outs_centre_line :
    ∃ doc, FlipJob.run 610000 = .ok doc ∧
      PinsStayKeepOuts doc fun _ => some (FlipJob.registration 610000) := by
  have hrun : (FlipJob.run 610000).isOk = true := by decide +kernel
  obtain ⟨doc, hdoc⟩ := exists_eq_ok hrun
  refine ⟨doc, hdoc, (pins_stay_keep_outs_iff hdoc).mpr ?_⟩
  intro sheet _ plan hplan pin hpin p hp
  obtain rfl := Option.some.inj hplan
  obtain ⟨q, hq, rfl⟩ := hp
  refine ⟨pinFootprint _ pin, List.mem_append_left _ (List.mem_map_of_mem hpin), ?_⟩
  have hy : pin.yUm = 610000 := by
    simp only [FlipJob.registration, List.mem_cons, List.not_mem_nil, or_false] at hpin
    rcases hpin with rfl | rfl <;> rfl
  simp only [Rect.region, pinFootprint, Rect.rightUm, Rect.topUm, hy, flipAboutX,
    FlipJob.layout, Set.mem_ofPred_eq] at hq ⊢
  push_cast at hq ⊢
  exact ⟨hq.1, hq.2.1, by linarith [hq.2.2.2], by linarith [hq.2.2.1]⟩

end Custombuild.Manufacturing
