/-
  Every program of the planner obeys the motion rules of the G-code validator.  The argument
  follows the tool state: a builder call that is made in its state and stays within its
  recipe yields moves that obey the rules and leaves the tool in the next state.
-/
import Custombuild.Postprocessors.Motion
import Custombuild.Cam.Planned

namespace Custombuild.Postprocessors

open Custombuild.Lib Custombuild.Manufacturing Custombuild.Cam

/-- The limits that `validate_production_program` passes for a setup and a tool. -/
def motionLimits (ctx : ProductionExecutionContext) (setup : BoundSetup)
    (tool : ProductionToolBinding) : MotionLimits where
  setupWidthUm := setup.stockWidthUm
  setupHeightUm := setup.stockHeightUm
  stockThicknessUm := setup.stockThicknessUm
  throughCutAllowanceUm := setup.throughCutAllowanceUm
  safeZUm := setup.safeZUm
  workZUm := ctx.workZUm
  machineXMinUm := ctx.machineXMinUm
  machineXMaxUm := ctx.machineXMaxUm
  machineYMinUm := ctx.machineYMinUm
  machineYMaxUm := ctx.machineYMaxUm
  machineZMinUm := ctx.machineZMinUm
  machineZMaxUm := ctx.machineZMaxUm
  machineWcsX0Um := setup.machineWcsOrigin.xUm
  machineWcsY0Um := setup.machineWcsOrigin.yUm
  machineWcsZ0Um := setup.machineWcsZ0Um
  expectedLengthOffsetXUm := tool.expectedLengthOffsetXUm
  expectedLengthOffsetYUm := tool.expectedLengthOffsetYUm
  expectedLengthOffsetZUm := tool.expectedLengthOffsetZUm

variable {ctx : ProductionExecutionContext} {setup : BoundSetup} {tool : ProductionToolBinding}

/-! ## Stock and machine bounds -/

/-- A point of the stock rectangle. -/
def InStock (setup : BoundSetup) (x y : Int) : Prop :=
  0 ≤ x ∧ x ≤ setup.stockWidthUm ∧ 0 ≤ y ∧ y ≤ setup.stockHeightUm

theorem inStock_of_require {x y : Int} {id : String}
    (h : requirePointInStock setup x y id = .ok ()) : InStock setup x y := by
  simp only [requirePointInStock, require_eq_ok, Bool.and_eq_true, decide_eq_true_eq] at h
  unfold InStock
  omega

/-- A clear cutting segment ends inside the stock. -/
theorem inStock_of_clear {start stop : Int × Int} {recipe : CuttingRecipe} {op : CAMOperation}
    {outlines : List PartOutline}
    (h : requireCutSegmentClear setup tool start stop recipe.processAccuracyUm op outlines = .ok ()) :
    InStock setup stop.1 stop.2 := by
  unfold requireCutSegmentClear at h
  obtain ⟨_, hclear, -⟩ := bind_eq_ok.mp h
  simp only [requireFootprintClear, bind_eq_ok, require_eq_ok, Bool.and_eq_true] at hclear
  obtain ⟨_, ⟨-, hcontains⟩, -⟩ := hclear
  rw [Rect.contains_iff] at hcontains
  simp only [sweptRect, Rect.rightUm, Rect.topUm] at hcontains
  have hr := tool.dims_pos.1
  have ha := recipe.values_pos
  unfold InStock
  omega

/-- The machine bounds and the travel of one move. -/
structure InMachine (lim : MotionLimits) (m : ProductionMove) : Prop where
  travel : lim.safeZUm + max 0 (-m.zUm) ≤ lim.workZUm
  x : lim.machineXMinUm ≤ lim.machineWcsX0Um + m.xUm + lim.expectedLengthOffsetXUm ∧
    lim.machineWcsX0Um + m.xUm + lim.expectedLengthOffsetXUm ≤ lim.machineXMaxUm
  y : lim.machineYMinUm ≤ lim.machineWcsY0Um + m.yUm + lim.expectedLengthOffsetYUm ∧
    lim.machineWcsY0Um + m.yUm + lim.expectedLengthOffsetYUm ≤ lim.machineYMaxUm
  z : lim.machineZMinUm ≤ lim.machineWcsZ0Um + m.zUm + lim.expectedLengthOffsetZUm ∧
    lim.machineWcsZ0Um + m.zUm + lim.expectedLengthOffsetZUm ≤ lim.machineZMaxUm

/-- The builder checks the endpoint of every move; together with a move at safe Z and a move
    below the stock top this also bounds the Z travel. -/
theorem inMachine_of_within {moves : List ProductionMove}
    (hmachine : ∀ m ∈ moves, withinMachine ctx (machineEndpoint setup tool m) = true)
    (hsafe : ∃ m ∈ moves, m.zUm = setup.safeZUm) (hcut : ∃ m ∈ moves, m.zUm < 0) :
    ∀ m ∈ moves, InMachine (motionLimits ctx setup tool) m := by
  obtain ⟨top, htop, htopz⟩ := hsafe
  obtain ⟨low, hlow, hlowz⟩ := hcut
  simp only [withinMachine_iff, machineEndpoint] at hmachine
  have htravel := ctx.travel_z
  intro m hm
  have hm' := hmachine m hm
  have htop' := hmachine top htop
  have hlow' := hmachine low hlow
  refine ⟨?_, ?_, ?_, ?_⟩ <;> dsimp only [motionLimits]
  · rcases le_total 0 m.zUm with hz | hz <;> omega
  · omega
  · omega
  · omega

/-! ## One builder call -/

/-- The tool state that belongs to a position. -/
def AtState (setup : BoundSetup) : ToolState → Int × Int × Int → Prop
  | .up, p => p.2.2 = setup.safeZUm
  | .down x y, p => (p.1 = x ∧ p.2.1 = y) ∧ InStock setup x y

variable {b : ProgramBuilder} {op : CAMOperation} {recipe : CuttingRecipe}

/-- A retract, peck retract or approach: a rapid straight up or down. -/
theorem motionRule_vertical {lim : MotionLimits} {previous : Int × Int × Int} {m : ProductionMove}
    (hmachine : InMachine lim m)
    (hstock : 0 ≤ m.xUm ∧ m.xUm ≤ lim.setupWidthUm ∧ 0 ≤ m.yUm ∧ m.yUm ≤ lim.setupHeightUm)
    (hdepth : -(lim.stockThicknessUm + lim.throughCutAllowanceUm) ≤ 0)
    (hkind : m.kind = .rapid) (hx : m.xUm = previous.1) (hy : m.yUm = previous.2.1)
    (hz : 0 ≤ m.zUm ∧ m.zUm ≤ lim.safeZUm)
    (hrole : m.zUm < lim.safeZUm → m.role = .approach ∨ m.role = .peckRetract)
    (hretract : m.role = .retract → m.zUm = lim.safeZUm) :
    MotionRule lim previous m := by
  refine ⟨hstock, by omega, hmachine.travel, hmachine.x, hmachine.y, hmachine.z, ?_, ?_⟩
  · intro _
    refine ⟨hz.1, ?_, hrole, hretract⟩
    rintro (h | h)
    · exact absurd hx h
    · exact absurd hy h
  · intro hlinear
    rw [hkind] at hlinear
    cases hlinear

theorem command_motion {s s' : ToolState} {c : Command} {n : Nat} {p : Int × Int × Int}
    {previous : Option ProductionMove} (hstep : enter s c = some s')
    (hstate : AtState b.setup s p)
    (hwithin : c.Within recipe (b.setup.stockThicknessUm + b.setup.throughCutAllowanceUm))
    (happroach : recipe.approachClearanceUm < b.setup.safeZUm)
    (hchecked : Checked b op recipe previous (c.moves op b.setup.safeZUm n))
    (hmachine : ∀ m ∈ c.moves op b.setup.safeZUm n,
      InMachine (motionLimits b.context b.setup b.tool) m) :
    MotionRules (motionLimits b.context b.setup b.tool) p (c.moves op b.setup.safeZUm n) ∧
      AtState b.setup s' (endPosition p (c.moves op b.setup.safeZUm n)) := by
  have hfloor := b.setup.dims_pos
  have hallow := b.setup.allowance_range
  have hrecipe := recipe.values_pos
  cases c with
  | position pass x y a =>
    cases s with
    | down => cases hstep
    | up =>
      cases hstep
      rw [show a = recipe.approachClearanceUm from hwithin] at hchecked hmachine ⊢
      have hstock := inStock_of_require (hchecked.1.stock rfl)
      have hm := hmachine _ List.mem_cons_self
      refine ⟨⟨⟨hstock, ?_, hm.travel, hm.x, hm.y, hm.z, ?_, ?_⟩, ?_, trivial⟩, ⟨rfl, rfl⟩, hstock⟩
      · dsimp only [motionLimits]; omega
      · intro _
        refine ⟨by dsimp only; omega, fun _ => ⟨le_of_eq hstate.symm, rfl⟩, fun h => ?_, fun _ => rfl⟩
        exact absurd h (lt_irrefl _)
      · intro hk
        cases hk
      · have hm' := hmachine _ (List.mem_cons_of_mem _ List.mem_cons_self)
        refine motionRule_vertical hm' hstock ?_ rfl rfl rfl ?_ (fun _ => .inl rfl) ?_
        · dsimp only [motionLimits]; omega
        · dsimp only [motionLimits]; omega
        · intro hk
          cases hk
  | cut pass x y z feed role =>
    cases s with
    | up => cases hstep
    | down x₀ y₀ =>
      cases hstep
      obtain ⟨hz, hfeed, -⟩ := hwithin
      obtain ⟨prev, -, hclear⟩ := hchecked.1.clear rfl
      have hstock := inStock_of_clear hclear
      have hm := hmachine _ List.mem_cons_self
      refine ⟨⟨⟨hstock, ?_, hm.travel, hm.x, hm.y, hm.z, ?_, ?_⟩, trivial⟩, ⟨rfl, rfl⟩, hstock⟩
      · dsimp only [motionLimits]; omega
      · intro hk
        cases hk
      · intro _
        refine ⟨feed, rfl, ?_⟩
        rcases hfeed with rfl | rfl <;> omega
  | peckRetract pass x y z =>
    cases s with
    | up => cases hstep
    | down x₀ y₀ =>
      simp only [enter, Option.ite_none_right_eq_some] at hstep
      obtain ⟨⟨rfl, rfl⟩, hs⟩ := hstep
      cases hs
      rw [show z = recipe.approachClearanceUm from hwithin] at hmachine ⊢
      obtain ⟨⟨hx, hy⟩, hstock⟩ := hstate
      have hm := hmachine _ List.mem_cons_self
      refine ⟨⟨motionRule_vertical hm hstock ?_ rfl hx.symm hy.symm ?_ (fun _ => .inr rfl) ?_,
        trivial⟩, ⟨rfl, rfl⟩, hstock⟩
      · dsimp only [motionLimits]; omega
      · dsimp only [motionLimits]; omega
      · intro hk
        cases hk
  | retract pass x y =>
    cases s with
    | up => cases hstep
    | down x₀ y₀ =>
      simp only [enter, Option.ite_none_right_eq_some] at hstep
      obtain ⟨⟨rfl, rfl⟩, hs⟩ := hstep
      cases hs
      obtain ⟨⟨hx, hy⟩, hstock⟩ := hstate
      have hm := hmachine _ List.mem_cons_self
      refine ⟨⟨motionRule_vertical hm hstock ?_ rfl hx.symm hy.symm ?_ (fun h => ?_) (fun _ => rfl),
        trivial⟩, rfl⟩
      · dsimp only [motionLimits]; omega
      · dsimp only [motionLimits]; omega
      · exact absurd h (lt_irrefl _)

/-! ## Runs of builder calls -/

theorem expand_motion {s s' : ToolState} {cs : List Command} {n : Nat} {p : Int × Int × Int}
    {previous : Option ProductionMove} (hrun : follow enter s cs = some s')
    (hstate : AtState b.setup s p)
    (hwithin : ∀ c ∈ cs,
      c.Within recipe (b.setup.stockThicknessUm + b.setup.throughCutAllowanceUm))
    (happroach : recipe.approachClearanceUm < b.setup.safeZUm)
    (hchecked : Checked b op recipe previous (expand op b.setup.safeZUm n cs))
    (hmachine : ∀ m ∈ expand op b.setup.safeZUm n cs,
      InMachine (motionLimits b.context b.setup b.tool) m) :
    MotionRules (motionLimits b.context b.setup b.tool) p (expand op b.setup.safeZUm n cs) ∧
      AtState b.setup s' (endPosition p (expand op b.setup.safeZUm n cs)) := by
  induction cs generalizing s n p previous with
  | nil =>
    cases hrun
    exact ⟨trivial, hstate⟩
  | cons c cs ih =>
    obtain ⟨mid, hstep, hrun⟩ := Option.bind_eq_some_iff.mp hrun
    rw [expand] at hchecked hmachine ⊢
    rw [checked_append] at hchecked
    obtain ⟨hrules, hmid⟩ := command_motion hstep hstate (hwithin c List.mem_cons_self) happroach
      hchecked.1 fun m hm => hmachine m (List.mem_append.mpr (.inl hm))
    obtain ⟨hrest, hend⟩ := ih hrun hmid (fun c hc => hwithin c (List.mem_cons_of_mem _ hc))
      hchecked.2 fun m hm => hmachine m (List.mem_append.mpr (.inr hm))
    exact ⟨motionRules_append hrules hrest, by rwa [endPosition_append]⟩

/-! ## Programs -/

variable {doc : OperationsDocument} {outlines : List PartOutline}

/-- The operations of a program are bound to its setup and tool. -/
def BoundTo (doc : OperationsDocument) (b : ProgramBuilder) (ops : List BoundOperation) : Prop :=
  ∀ bo ∈ ops, IsBound doc b.context b.partOutlines bo ∧ bo.2.setup = b.setup ∧
    bo.2.binding = b.tool

theorem segment_contract {bo : BoundOperation} (h : BoundTo doc b [bo]) :
    ∃ spec, OperationContract bo.1 b.setup spec b.tool bo.2.recipe := by
  obtain ⟨hbound, hsetup, htool⟩ := h bo List.mem_cons_self
  obtain ⟨spec, -, hcontract⟩ := hbound.bound.contract
  rw [hsetup, htool] at hcontract
  exact ⟨spec, hcontract⟩

theorem boundTo_cons {bo : BoundOperation} {rest : List BoundOperation}
    (h : BoundTo doc b (bo :: rest)) : BoundTo doc b [bo] ∧ BoundTo doc b rest :=
  ⟨fun x hx => h x (List.mem_singleton.mp hx ▸ List.mem_cons_self),
    fun x hx => h x (List.mem_cons_of_mem _ hx)⟩

theorem segments_motion {ops : List BoundOperation} {n : Nat} {moves : List ProductionMove}
    {p : Int × Int × Int} (h : Segments b ops n moves) (hbound : BoundTo doc b ops)
    (hp : AtState b.setup .up p)
    (hmachine : ∀ m ∈ moves, InMachine (motionLimits b.context b.setup b.tool) m) :
    MotionRules (motionLimits b.context b.setup b.tool) p moves := by
  induction h generalizing p with
  | nil => trivial
  | cons hfirst hrest ih =>
    obtain ⟨hbo, hbound⟩ := boundTo_cons hbound
    obtain ⟨spec, hcontract⟩ := segment_contract hbo
    obtain ⟨cs, hcs, rfl⟩ := hfirst.commands
    obtain ⟨hrules, hup⟩ := expand_motion (operationCommands_cycle hcs) hp
      (operationCommands_within hcontract hcs) hcontract.approach_lt hfirst.checked
      fun m hm => hmachine m (List.mem_append.mpr (.inl hm))
    exact motionRules_append hrules
      (ih hbound hup fun m hm => hmachine m (List.mem_append.mpr (.inr hm)))

/-- A move of a program belongs to one of its operations. -/
theorem segments_mem {ops : List BoundOperation} {n : Nat} {moves : List ProductionMove}
    (h : Segments b ops n moves) {m : ProductionMove} (hm : m ∈ moves) :
    ∃ bo ∈ ops, ∃ k seg, Segment b bo k seg ∧ m ∈ seg := by
  induction h with
  | nil => cases hm
  | cons hfirst hrest ih =>
    rcases List.mem_append.mp hm with hm | hm
    · exact ⟨_, List.mem_cons_self, _, _, hfirst, hm⟩
    · obtain ⟨bo, hbo, hseg⟩ := ih hm
      exact ⟨bo, List.mem_cons_of_mem _ hbo, hseg⟩

/-- The first moves of a program: it starts with an operation, which starts with a
    positioning and has a cut. -/
theorem segments_start {ops : List BoundOperation} {n : Nat} {moves : List ProductionMove}
    (h : Segments b ops n moves) (hbound : BoundTo doc b ops) (hne : moves ≠ []) :
    (∃ m rest, moves = m :: rest ∧ m.kind = .rapid ∧ m.role = .position ∧
      m.zUm = b.setup.safeZUm) ∧ ∃ m ∈ moves, m.zUm < 0 := by
  cases h with
  | nil => exact absurd rfl hne
  | cons hfirst hrest =>
    obtain ⟨hbo, -⟩ := boundTo_cons hbound
    obtain ⟨spec, hcontract⟩ := segment_contract hbo
    obtain ⟨cs, hcs, rfl⟩ := hfirst.commands
    have hcycle := operationCommands_cycle hcs
    obtain ⟨c, hc, hcut⟩ := operationCommands_exists_cut hcs
    refine ⟨?_, ?_⟩
    · cases cs with
      | nil => cases hc
      | cons c' cs =>
        cases c' with
        | position pass x y a => exact ⟨_, _, rfl, rfl, rfl, rfl⟩
        | cut | peckRetract | retract => cases hcycle
    · have hz := operationCommands_within hcontract hcs c hc
      obtain ⟨k, hk⟩ : ∃ k, ∀ m ∈ c.moves _ b.setup.safeZUm k, m ∈ expand _ b.setup.safeZUm n cs :=
        moves_mem_expand hc
      cases c with
      | cut pass x y z feed role =>
        exact ⟨_, List.mem_append.mpr (.inl (hk _ List.mem_cons_self)), hz.1.2⟩
      | position | peckRetract | retract => cases hcut

/-- Role and feed of the moves of one operation. -/
structure RoleFits (recipe : CuttingRecipe) (m : ProductionMove) : Prop where
  rapid : m.kind = .rapid → m.feedUmMin = none ∧
    (m.role = .position ∨ m.role = .approach ∨ m.role = .peckRetract ∨ m.role = .retract)
  linear : m.kind = .linear → isCutRole m.role ∧
    (m.feedUmMin = some recipe.feedUmMin ∨ m.feedUmMin = some recipe.plungeUmMin)

theorem roleFits_of_within {floorUm safeZUm : Int} {c : Command} {k : Nat} {m : ProductionMove}
    (h : c.Within recipe floorUm) (hm : m ∈ c.moves op safeZUm k) : RoleFits recipe m := by
  cases c with
  | position pass x y a =>
    rcases List.mem_cons.mp hm with rfl | hm
    · exact ⟨fun _ => ⟨rfl, .inl rfl⟩, fun hk => nomatch hk⟩
    · rw [List.mem_singleton.mp hm]
      exact ⟨fun _ => ⟨rfl, .inr (.inl rfl)⟩, fun hk => nomatch hk⟩
  | cut pass x y z feed role =>
    rw [List.mem_singleton.mp hm]
    refine ⟨(fun hk => nomatch hk), fun _ => ⟨h.2.2, ?_⟩⟩
    rcases h.2.1 with rfl | rfl
    · exact .inl rfl
    · exact .inr rfl
  | peckRetract pass x y z =>
    rw [List.mem_singleton.mp hm]
    exact ⟨fun _ => ⟨rfl, .inr (.inr (.inl rfl))⟩, fun hk => nomatch hk⟩
  | retract pass x y =>
    rw [List.mem_singleton.mp hm]
    exact ⟨fun _ => ⟨rfl, .inr (.inr (.inr rfl))⟩, fun hk => nomatch hk⟩

theorem segment_roleFits {bo : BoundOperation} (hbo : BoundTo doc b [bo]) {k : Nat}
    {seg : List ProductionMove} (hseg : Segment b bo k seg) {m : ProductionMove} (hm : m ∈ seg) :
    m.operationId = bo.1.operationId ∧ RoleFits bo.2.recipe m := by
  obtain ⟨spec, hcontract⟩ := segment_contract hbo
  obtain ⟨cs, hcs, rfl⟩ := hseg.commands
  obtain ⟨c, hc, j, hj⟩ := mem_expand hm
  exact ⟨expand_operationId hm, roleFits_of_within (operationCommands_within hcontract hcs c hc) hj⟩

/-! ## Planned documents -/

theorem groupOperations_boundTo {env : PlannerEnv} {tdoc : ProductionToolpathDocument}
    {bindings : List OperationBinding}
    (h : PlannedDocument env doc ctx tdoc outlines bindings) {key : GroupKey}
    (hsetup : ctx.setupById key.setupId = some setup)
    (htool : bindingBySourceId ctx key.sourceToolId = some tool) :
    BoundTo doc ⟨ctx, setup, tool, outlines⟩
      (groupOperations (doc.operations.zip bindings) key) := by
  intro bo hbo
  obtain ⟨hmem, hkey⟩ := mem_groupOperations.mp hbo
  have hisBound := isBound_of_mem_zip h.bindings_eq hmem
  have hbound := hisBound.bound
  refine ⟨hisBound, ?_, ?_⟩
  · have hid : bo.1.setupId = key.setupId := congrArg GroupKey.setupId hkey
    have hs := hbound.setup_eq
    rw [hid, hsetup] at hs
    exact (Option.some.inj hs).symm
  · have hid : bo.1.toolId = key.sourceToolId := congrArg GroupKey.sourceToolId hkey
    have ht := hbound.tool_eq
    rw [hid, htool] at ht
    exact (Option.some.inj ht).symm

theorem toolById_of_source {id : String} (h : bindingBySourceId ctx id = some tool) :
    ctx.toolById tool.toolId = some tool := by
  have hmem : tool ∈ ctx.toolBindings := List.mem_of_find?_eq_some h
  exact find_of_nodup ctx.tools_nodup hmem fun b => by simp

theorem checkFirstMove_eq_ok {lim : MotionLimits} {m : ProductionMove}
    {rest : List ProductionMove} (hk : m.kind = .rapid) (hr : m.role = .position)
    (hz : m.zUm = lim.safeZUm) : checkFirstMove lim (m :: rest) = .ok () := by
  simp [checkFirstMove, hk, hr, hz]

/-- A program whose moves pass the motion checks of the validator from the safe Z that the
    preamble establishes, with a role and a feed that fit the recipe of their operation. -/
def ObeysMotionRules (doc : OperationsDocument) (ctx : ProductionExecutionContext)
    (p : ProductionProgram) : Prop :=
  ∃ setup tool, ctx.setupById p.setupId = some setup ∧ ctx.toolById p.toolId = some tool ∧
    checkFirstMove (motionLimits ctx setup tool) p.moves = .ok () ∧
    (∀ line, checkMoves (motionLimits ctx setup tool) line (0, 0, setup.safeZUm) p.moves =
      .ok ()) ∧
    MotionRules (motionLimits ctx setup tool) (0, 0, setup.safeZUm) p.moves ∧
    ∀ m ∈ p.moves, ∃ op ∈ doc.operations, op.operationId = m.operationId ∧
      ∃ recipe, recipeFor ctx setup tool op.kind = some recipe ∧
        recipe.recipeId ∈ p.recipeIds ∧ RoleFits recipe m

/-- Every program of the planner obeys the motion rules of the G-code validator. -/
theorem planned_programs_obey_motion_rules {env : PlannerEnv}
    {tdoc : ProductionToolpathDocument} (h : generateProductionToolpaths env doc ctx = .ok tdoc) :
    ∀ p ∈ tdoc.programs, ObeysMotionRules doc ctx p := by
  obtain ⟨outlines, bindings, hdoc⟩ := generateProductionToolpaths_eq_ok h
  intro p hp
  obtain ⟨key, -, n, hplanned⟩ := hdoc.program hp
  obtain ⟨setup, tool, hsetup, htool, hid, -, hsegments⟩ := hplanned.binding
  have hbound := groupOperations_boundTo hdoc hsetup htool
  obtain ⟨⟨m, rest, hmoves, hk, hr, hz⟩, hcut⟩ :=
    segments_start hsegments hbound hplanned.wf.2.2.2.2.2.1
  have hwithin : ∀ m ∈ p.moves, withinMachine ctx (machineEndpoint setup tool m) = true := by
    intro m hm
    obtain ⟨bo, -, k, seg, hseg, hmseg⟩ := segments_mem hsegments hm
    exact (hseg.checked.mem hmseg).2
  have hmachine := inMachine_of_within hwithin
    ⟨m, by rw [hmoves]; exact List.mem_cons_self, hz⟩ hcut
  have hrules := segments_motion (p := (0, 0, setup.safeZUm)) hsegments hbound rfl hmachine
  refine ⟨setup, tool, ?_, ?_, ?_, fun line => (checkMoves_eq_ok _).mpr hrules, hrules, ?_⟩
  · rw [hplanned.setup_eq]; exact hsetup
  · rw [hid]; exact toolById_of_source htool
  · rw [hmoves]; exact checkFirstMove_eq_ok hk hr hz
  · intro m hm
    obtain ⟨bo, hbo, k, seg, hseg, hmseg⟩ := segments_mem hsegments hm
    obtain ⟨hisBound, hboSetup, hboTool⟩ := hbound bo hbo
    have hsingle : BoundTo doc ⟨ctx, setup, tool, outlines⟩ [bo] := fun x hx =>
      List.mem_singleton.mp hx ▸ ⟨hisBound, hboSetup, hboTool⟩
    obtain ⟨hopid, hfits⟩ := segment_roleFits hsingle hseg hmseg
    have hrecipe := hisBound.bound.recipe_eq
    rw [hboSetup, hboTool] at hrecipe
    refine ⟨bo.1, hisBound.1, hopid.symm, bo.2.recipe, hrecipe, ?_, hfits⟩
    rw [hplanned.recipes_eq, mem_sortedSet]
    exact List.mem_map.mpr ⟨bo, hbo, rfl⟩

theorem planned_programs_obey_motion_rules_panel :
    ∃ doc tdoc, PanelJob.panelAlone = .ok doc ∧
      generateProductionToolpaths PanelJob.env doc PanelJob.context = .ok tdoc ∧
      ∀ p ∈ tdoc.programs, ObeysMotionRules doc PanelJob.context p := by
  obtain ⟨doc, tdoc, hdoc, htdoc⟩ := PanelJob.exists_plan_panelAlone
  exact ⟨doc, tdoc, hdoc, htdoc, planned_programs_obey_motion_rules htdoc⟩

end Custombuild.Postprocessors
