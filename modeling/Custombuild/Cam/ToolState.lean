/-
  The discipline of the move generators: between two builder calls the tool is retracted or
  down at an XY position, every generator starts and ends retracted, and every cut stays
  between the floor of the setup and the stock top at a feed of the recipe.
-/
import Custombuild.Cam.Moves

namespace Custombuild.Cam

open Custombuild.Lib Custombuild.Manufacturing

/-! ## Tool states -/

inductive ToolState
  | up
  | down (x y : Int)
deriving DecidableEq

/-- The state after a builder call, when the call may be made in the state before it. -/
def enter : ToolState → Command → Option ToolState
  | .up, .position _ x y _ => some (.down x y)
  | .down _ _, .cut _ x y _ _ _ => some (.down x y)
  | .down x₀ y₀, .peckRetract _ x y _ => if x = x₀ ∧ y = y₀ then some (.down x y) else none
  | .down x₀ y₀, .retract _ x y => if x = x₀ ∧ y = y₀ then some .up else none
  | _, _ => none

/-- The XY point of a builder call. -/
def Command.point : Command → Int × Int
  | .position _ x y _ | .cut _ x y _ _ _ | .peckRetract _ x y _ | .retract _ x y => (x, y)

def Command.IsCut : Command → Prop
  | .cut .. => True
  | _ => False

/-- The point reached by a list of calls from `p`. -/
def endPoint (p : Int × Int) (cs : List Command) : Int × Int := cs.foldl (fun _ c => c.point) p

@[simp] theorem endPoint_nil (p : Int × Int) : endPoint p [] = p := rfl

@[simp] theorem endPoint_cons (p : Int × Int) (c : Command) (cs : List Command) :
    endPoint p (c :: cs) = endPoint c.point cs := rfl

@[simp] theorem endPoint_append (p : Int × Int) (cs ds : List Command) :
    endPoint p (cs ++ ds) = endPoint (endPoint p cs) ds := List.foldl_append

/-- Cuts leave the tool down at the point of the last one. -/
theorem follow_cuts {cs : List Command} (h : ∀ c ∈ cs, c.IsCut) (p : Int × Int) :
    follow enter (.down p.1 p.2) cs = some (.down (endPoint p cs).1 (endPoint p cs).2) := by
  induction cs generalizing p with
  | nil => rfl
  | cons c cs ih =>
    have hc := h c List.mem_cons_self
    cases c with
    | cut pass x y z feed role =>
      rw [follow, enter, Option.bind_some, endPoint_cons]
      exact ih (fun c hc => h c (List.mem_cons_of_mem _ hc)) (x, y)
    | position | peckRetract | retract => cases hc

/-- A positioning, cuts and a retract at the last point bring the tool back up. -/
theorem follow_cycle (pass : Nat) (p q : Int × Int) (a : Int) (cs : List Command)
    (h : ∀ c ∈ cs, c.IsCut) (hq : endPoint p cs = q) :
    follow enter .up ([.position pass p.1 p.2 a] ++ cs ++ [.retract pass q.1 q.2]) =
      some .up := by
  refine follow_append enter (t := .down q.1 q.2) ?_ ?_
  · rw [List.singleton_append, follow, enter, Option.bind_some, follow_cuts h p, hq]
  · simp [follow, enter]

/-! ## Cycles of the generators -/

variable {op : CAMOperation} {setup : BoundSetup} {tool : ProductionToolBinding}
  {recipe : CuttingRecipe}

theorem peckCommands_cycle {cs : List Command} (h : peckCommands op setup recipe = .ok cs) :
    follow enter .up cs = some .up := by
  simp only [peckCommands, bind_eq_ok] at h
  obtain ⟨target, -, levels, -, hret⟩ := h
  cases hret
  refine follow_append enter (t := .down op.xUm op.yUm) ?_ (by simp [follow, enter])
  rw [follow, enter, Option.bind_some]
  refine follow_flatMap enter fun l _ => ?_
  split <;> simp [follow, enter]

theorem laneCuts_isCut {pass : Nat} {z feed : Int} {lanes : List ((Int × Int) × (Int × Int))}
    {c : Command} (h : c ∈ laneCuts pass z feed lanes) : c.IsCut := by
  obtain ⟨l, -, hc⟩ := List.mem_flatMap.mp h
  rcases List.mem_append.mp hc with hc | hc
  · split at hc
    · rw [List.mem_singleton.mp hc]; trivial
    · cases hc
  · rw [List.mem_singleton.mp hc]; trivial

theorem endPoint_laneCuts {pass : Nat} {z feed : Int} {p : Int × Int}
    {lanes : List ((Int × Int) × (Int × Int))} (h : lanes ≠ []) :
    endPoint p (laneCuts pass z feed lanes) = (lanes.getLast?.map Prod.snd).getD (0, 0) := by
  rcases List.eq_nil_or_concat lanes with rfl | ⟨init, last, rfl⟩
  · exact absurd rfl h
  · rw [List.concat_eq_append, laneCuts, List.zipIdx_append, List.flatMap_append]
    simp [Command.point]

theorem endPoint_visits {pass : Nat} {z feed : Int} (p : Int × Int) (l : List (Int × Int)) :
    endPoint p (l.map fun q => .cut pass q.1 q.2 z feed .cut) = l.getLastD p := by
  induction l generalizing p with
  | nil => rfl
  | cons q l ih =>
    rw [List.map_cons, endPoint_cons, List.getLastD_cons]
    exact ih q

theorem rasterPass_cycle {bounds : RasterBounds} {raster : List ((Int × Int) × (Int × Int))}
    {centres : List (Int × Int)} {pass : Nat} {z : Int} (hraster : raster ≠ []) :
    follow enter .up (rasterPass recipe bounds raster centres pass z) = some .up := by
  unfold rasterPass reliefCommands
  refine follow_append enter (t := .up) ?_ ?_
  · generalize (raster.head?.map Prod.fst).getD (0, 0) = first
    generalize hend : (raster.getLast?.map Prod.snd).getD (0, 0) = lastEnd
    generalize boundaryVisits lastEnd _ = visits
    -- the cuts of the pass: the plunge, the lanes and the boundary
    have hcycle := follow_cycle pass first (visits.getLastD lastEnd) recipe.approachClearanceUm
      ([.cut pass first.1 first.2 z recipe.plungeUmMin .cut] ++
        laneCuts pass z recipe.feedUmMin raster ++
          visits.map fun p => .cut pass p.1 p.2 z recipe.feedUmMin .cut) ?_ ?_
    · simpa only [List.cons_append, List.append_assoc, List.nil_append] using hcycle
    · intro c hc
      rcases List.mem_append.mp hc with hc | hc
      · rcases List.mem_append.mp hc with hc | hc
        · rw [List.mem_singleton.mp hc]; trivial
        · exact laneCuts_isCut hc
      · obtain ⟨q, -, rfl⟩ := List.mem_map.mp hc
        trivial
    · rw [endPoint_append, endPoint_append, endPoint_laneCuts hraster, hend, endPoint_visits]
  · refine follow_flatMap enter fun c _ => ?_
    simp [follow, enter]

theorem alternating_ne_nil {lanes : List ((Int × Int) × (Int × Int))} (h : lanes ≠ []) :
    alternating lanes ≠ [] := by
  intro hnil
  have hlen := congrArg List.length hnil
  simp only [alternating, List.length_map, List.length_zipIdx, List.length_nil] at hlen
  exact h (List.length_eq_zero_iff.mp hlen)

theorem inclusiveLanes_ne_nil {lo hi step : Int} : inclusiveLanes lo hi step ≠ [] := by
  intro h
  simp only [inclusiveLanes] at h
  split at h
  · rename_i hlast
    rw [h] at hlast
    cases hlast
  · simp at h

theorem rasterLines_ne_nil {left right bottom top stepover : Int}
    {raster : List ((Int × Int) × (Int × Int))}
    (h : rasterLines left right bottom top stepover = .ok raster) : raster ≠ [] := by
  unfold rasterLines at h
  obtain ⟨_, -, h⟩ := bind_eq_ok.mp h
  split at h
  · cases h
    exact alternating_ne_nil (by simp [inclusiveLanes_ne_nil])
  · cases h
    exact alternating_ne_nil (by simp [inclusiveLanes_ne_nil])

theorem rasterCommands_cycle {cs : List Command}
    (h : rasterCommands op setup tool recipe = .ok cs) : follow enter .up cs = some .up := by
  simp only [rasterCommands, bind_eq_ok] at h
  obtain ⟨bounds, -, _, -, raster, hraster, target, -, levels, -, hret⟩ := h
  cases hret
  exact follow_flatMap enter fun l _ => rasterPass_cycle (rasterLines_ne_nil hraster)

theorem pathCuts_isCut {pass : Nat} {path : List PathPoint} {c : Command}
    (h : c ∈ pathCuts pass recipe path) : c.IsCut := by
  obtain ⟨p, -, rfl⟩ := List.mem_map.mp h
  trivial

theorem endPoint_pathCuts {pass : Nat} (p : PathPoint) (path : List PathPoint) :
    endPoint (p.xUm, p.yUm) (pathCuts pass recipe (p :: path)) =
      ((p :: path).getLast?.map fun p => (p.xUm, p.yUm)).getD (0, 0) := by
  induction path generalizing p with
  | nil => rfl
  | cons q path ih =>
    rw [List.getLast?_cons_cons, ← ih q]
    rfl

theorem contourPass_cycle {path : List PathPoint} {pass : Nat} {z : Int} :
    follow enter .up (contourPass recipe path pass z) = some .up := by
  cases path with
  | nil => simp [contourPass, pathCuts, follow, enter]
  | cons p path =>
    have hcycle := follow_cycle pass (p.xUm, p.yUm) _ recipe.approachClearanceUm
      (.cut pass p.xUm p.yUm z recipe.plungeUmMin .cut :: pathCuts pass recipe (p :: path)) ?_
      (endPoint_pathCuts p path)
    · exact hcycle
    · intro c hc
      rcases List.mem_cons.mp hc with rfl | hc
      · trivial
      · exact pathCuts_isCut hc

theorem contourCommands_cycle {cs : List Command}
    (h : contourCommands op setup tool recipe = .ok cs) : follow enter .up cs = some .up := by
  simp only [contourCommands, bind_eq_ok] at h
  obtain ⟨target, -, levels, -, hret⟩ := h
  cases hret
  exact follow_flatMap enter fun l _ => contourPass_cycle

/-- Every generator starts and ends with a retracted tool. -/
theorem operationCommands_cycle {cs : List Command}
    (h : operationCommands op setup tool recipe = .ok cs) : follow enter .up cs = some .up := by
  unfold operationCommands at h
  split at h
  · exact peckCommands_cycle h
  split at h
  · exact rasterCommands_cycle h
  · exact contourCommands_cycle h

/-! ## Depths, feeds and roles -/

/-- Roles of a linear move. -/
def isCutRole (role : ProductionMoveRole) : Prop :=
  role = .cut ∨ role = .tabRamp ∨ role = .tabBridge

/-- A call that approaches to the clearance of the recipe and cuts between the floor and the
    stock top at a feed of the recipe. -/
def Command.Within (recipe : CuttingRecipe) (floorUm : Int) : Command → Prop
  | .position _ _ _ approachZ => approachZ = recipe.approachClearanceUm
  | .cut _ _ _ z feed role => (-floorUm ≤ z ∧ z < 0) ∧
      (feed = recipe.feedUmMin ∨ feed = recipe.plungeUmMin) ∧ isCutRole role
  | .peckRetract _ _ _ z => z = recipe.approachClearanceUm
  | .retract .. => True

theorem depthLevels_range {depth stepdown z : Int} {levels : List Int}
    (h : depthLevelsUm depth stepdown = .ok levels) (hz : z ∈ levels) : -depth ≤ z ∧ z < 0 := by
  simp only [depthLevelsUm, bind_eq_ok, require_eq_ok, decide_eq_true_eq] at h
  obtain ⟨-, hdepth, -, hstep, hret⟩ := h
  cases hret
  obtain ⟨level, hlevel, rfl⟩ := List.mem_map.mp hz
  have := mem_pyRange hstep hlevel
  omega

theorem depthLevels_ne_nil {depth stepdown : Int} {levels : List Int}
    (h : depthLevelsUm depth stepdown = .ok levels) : levels ≠ [] := by
  simp only [depthLevelsUm, bind_eq_ok, require_eq_ok, decide_eq_true_eq] at h
  obtain ⟨-, hdepth, -, hstep, hret⟩ := h
  cases hret
  have hne : pyRange stepdown (depth + stepdown) stepdown ≠ [] :=
    pyRange_ne_nil hstep (by omega)
  simpa using hne

theorem exists_mem_zipIdx {α : Type} {l : List α} (h : l ≠ []) : ∃ p, p ∈ l.zipIdx := by
  cases l with
  | nil => exact absurd rfl h
  | cons a l => exact ⟨_, List.mem_cons_self⟩

theorem rasterPass_exists_cut {bounds : RasterBounds}
    {raster : List ((Int × Int) × (Int × Int))} {centres : List (Int × Int)} {pass : Nat}
    {z : Int} : ∃ c ∈ rasterPass recipe bounds raster centres pass z, c.IsCut :=
  ⟨.cut pass ((raster.head?.map Prod.fst).getD (0, 0)).1
    ((raster.head?.map Prod.fst).getD (0, 0)).2 z recipe.plungeUmMin .cut,
    by simp [rasterPass], trivial⟩

theorem contourPass_exists_cut {path : List PathPoint} {pass : Nat} {z : Int} :
    ∃ c ∈ contourPass recipe path pass z, c.IsCut :=
  ⟨.cut pass ((path.head?.map fun p => (p.xUm, p.yUm)).getD (0, 0)).1
    ((path.head?.map fun p => (p.xUm, p.yUm)).getD (0, 0)).2 z recipe.plungeUmMin .cut,
    by simp [contourPass], trivial⟩

theorem exists_cut_flatMap {levels : List Int} {f : Int × Nat → List Command}
    (hlevels : levels ≠ []) (h : ∀ l, ∃ c ∈ f l, c.IsCut) :
    ∃ c ∈ levels.zipIdx.flatMap f, c.IsCut := by
  obtain ⟨l, hl⟩ := exists_mem_zipIdx hlevels
  obtain ⟨c, hc, hcut⟩ := h l
  exact ⟨c, List.mem_flatMap.mpr ⟨l, hl, hc⟩, hcut⟩

/-- Every generator cuts. -/
theorem operationCommands_exists_cut {cs : List Command}
    (h : operationCommands op setup tool recipe = .ok cs) : ∃ c ∈ cs, c.IsCut := by
  unfold operationCommands at h
  split at h
  · simp only [peckCommands, bind_eq_ok] at h
    obtain ⟨target, -, levels, hlevels, hret⟩ := h
    cases hret
    obtain ⟨l, hl⟩ := exists_mem_zipIdx (depthLevels_ne_nil hlevels)
    refine ⟨.cut (l.2 + 1) op.xUm op.yUm l.1 recipe.plungeUmMin .cut, ?_, trivial⟩
    refine List.mem_append.mpr (.inl (List.mem_cons_of_mem _ (List.mem_flatMap.mpr ⟨l, hl, ?_⟩)))
    exact List.mem_cons_self
  split at h
  · simp only [rasterCommands, bind_eq_ok] at h
    obtain ⟨bounds, -, _, -, raster, -, target, -, levels, hlevels, hret⟩ := h
    cases hret
    exact exists_cut_flatMap (depthLevels_ne_nil hlevels) fun l => rasterPass_exists_cut
  · simp only [contourCommands, bind_eq_ok] at h
    obtain ⟨target, -, levels, hlevels, hret⟩ := h
    cases hret
    exact exists_cut_flatMap (depthLevels_ne_nil hlevels) fun l => contourPass_exists_cut

variable {floorUm : Int}

theorem peckCommands_within {cs : List Command} (h : peckCommands op setup recipe = .ok cs)
    (hfloor : ∀ target, targetDepthUm op setup recipe = .ok target → target ≤ floorUm) :
    ∀ c ∈ cs, c.Within recipe floorUm := by
  simp only [peckCommands, bind_eq_ok] at h
  obtain ⟨target, htarget, levels, hlevels, hret⟩ := h
  cases hret
  have hle := hfloor target htarget
  intro c hc
  rcases List.mem_append.mp hc with hc | hc
  · rcases List.mem_cons.mp hc with rfl | hc
    · rfl
    obtain ⟨l, hl, hc⟩ := List.mem_flatMap.mp hc
    have hz := depthLevels_range hlevels (List.fst_mem_of_mem_zipIdx hl)
    rcases List.mem_cons.mp hc with rfl | hc
    · exact ⟨by omega, .inr rfl, .inl rfl⟩
    · split at hc
      · rw [List.mem_singleton.mp hc]; rfl
      · cases hc
  · rw [List.mem_singleton.mp hc]; trivial

theorem rasterPass_within {bounds : RasterBounds} {raster : List ((Int × Int) × (Int × Int))}
    {centres : List (Int × Int)} {pass : Nat} {z : Int} (hz : -floorUm ≤ z ∧ z < 0) :
    ∀ c ∈ rasterPass recipe bounds raster centres pass z, c.Within recipe floorUm := by
  intro c hc
  simp only [rasterPass, reliefCommands, laneCuts, List.mem_append, List.mem_cons,
    List.mem_map, List.mem_flatMap, List.not_mem_nil, or_false] at hc
  obtain ((((rfl | rfl) | ⟨l, -, hl⟩) | ⟨q, -, rfl⟩) | rfl) | ⟨q, -, rfl | rfl | rfl⟩ := hc
  · rfl
  · exact ⟨hz, .inr rfl, .inl rfl⟩
  · rcases hl with hl | rfl
    · split at hl
      · rw [List.mem_singleton.mp hl]
        exact ⟨hz, .inl rfl, .inl rfl⟩
      · cases hl
    · exact ⟨hz, .inl rfl, .inl rfl⟩
  · exact ⟨hz, .inl rfl, .inl rfl⟩
  · trivial
  · rfl
  · exact ⟨hz, .inr rfl, .inl rfl⟩
  · trivial

theorem rasterCommands_within {cs : List Command}
    (h : rasterCommands op setup tool recipe = .ok cs)
    (hfloor : ∀ target, targetDepthUm op setup recipe = .ok target → target ≤ floorUm) :
    ∀ c ∈ cs, c.Within recipe floorUm := by
  simp only [rasterCommands, bind_eq_ok] at h
  obtain ⟨bounds, -, _, -, raster, -, target, htarget, levels, hlevels, hret⟩ := h
  cases hret
  have hle := hfloor target htarget
  intro c hc
  obtain ⟨l, hl, hc⟩ := List.mem_flatMap.mp hc
  have hz := depthLevels_range hlevels (List.fst_mem_of_mem_zipIdx hl)
  exact rasterPass_within (by omega) c hc

/-! Points of the contour paths: at the pass depth or on the tab floor. -/

/-- A point of a pass at depth `z` with an optional tab floor. -/
def PathPoint.OnPass (z : Int) (tabZ : Option Int) (p : PathPoint) : Prop :=
  (p.zUm = z ∨ tabZ = some p.zUm) ∧ isCutRole p.role

variable {z : Int} {tabZ : Option Int}

theorem appendArc_onPass {path : List PathPoint} {cx cy r : Int} {quadrant : Nat}
    (h : ∀ p ∈ path, p.OnPass z tabZ) : ∀ p ∈ appendArc path cx cy r quadrant z, p.OnPass z tabZ := by
  unfold appendArc
  generalize quarterCirclePpm.tail = table
  induction table generalizing path with
  | nil => exact h
  | cons cs table ih =>
    rw [List.foldl_cons]
    apply ih
    dsimp only
    split
    · exact h
    · intro p hp
      rcases List.mem_append.mp hp with hp | hp
      · exact h p hp
      · rw [List.mem_singleton.mp hp]
        exact ⟨.inl rfl, .inl rfl⟩

theorem edgeWithOptionalTab_onPass {start stop : Int × Int} {width : Int} :
    ∀ p ∈ edgeWithOptionalTab start stop z tabZ width, p.OnPass z tabZ := by
  intro p hp
  cases tabZ with
  | none =>
    rw [List.mem_singleton.mp hp]
    exact ⟨.inl rfl, .inl rfl⟩
  | some t =>
    simp only [edgeWithOptionalTab, List.mem_cons, List.not_mem_nil, or_false] at hp
    rcases hp with rfl | rfl | rfl | rfl | rfl
    · exact ⟨.inl rfl, .inl rfl⟩
    · exact ⟨.inr rfl, .inr (.inl rfl)⟩
    · exact ⟨.inr rfl, .inr (.inr rfl)⟩
    · exact ⟨.inl rfl, .inr (.inl rfl)⟩
    · exact ⟨.inl rfl, .inl rfl⟩

theorem append_onPass {path edge : List PathPoint} (h : ∀ p ∈ path, p.OnPass z tabZ)
    (he : ∀ p ∈ edge, p.OnPass z tabZ) : ∀ p ∈ path ++ edge, p.OnPass z tabZ :=
  fun p hp => (List.mem_append.mp hp).elim (h p) (he p)

theorem outsideContourPath_onPass {nominal : Rect} {r width : Int} :
    ∀ p ∈ outsideContourPath nominal r z tabZ width, p.OnPass z tabZ := by
  unfold outsideContourPath
  -- the start point, then alternately an edge and a corner
  refine appendArc_onPass (append_onPass (appendArc_onPass (append_onPass (appendArc_onPass
    (append_onPass (appendArc_onPass (append_onPass ?_ edgeWithOptionalTab_onPass))
      edgeWithOptionalTab_onPass)) edgeWithOptionalTab_onPass)) edgeWithOptionalTab_onPass)
  intro p hp
  rw [List.mem_singleton.mp hp]
  exact ⟨.inl rfl, .inl rfl⟩

theorem insideContourPath_onPass {nominal : Rect} {r : Int} :
    ∀ p ∈ insideContourPath nominal r z, p.OnPass z none := by
  intro p hp
  simp only [insideContourPath, List.mem_cons, List.not_mem_nil, or_false] at hp
  rcases hp with rfl | rfl | rfl | rfl | rfl <;> exact ⟨.inl rfl, .inl rfl⟩

/-- The active tab floor of a contour pass. -/
theorem contourPath_range {p : PathPoint} (hz : -floorUm ≤ z ∧ z < 0)
    (htab : isReleaseContour op = true →
      0 ≤ recipe.tabHeightUm ∧ recipe.tabHeightUm < setup.stockThicknessUm)
    (hp : p ∈ contourPath op setup tool recipe z) :
    (-floorUm ≤ p.zUm ∧ p.zUm < 0) ∧ isCutRole p.role := by
  simp only [contourPath] at hp
  split at hp
  · obtain ⟨hpz, hrole⟩ := outsideContourPath_onPass p hp
    refine ⟨?_, hrole⟩
    rcases hpz with hpz | hpz
    · rw [hpz]; exact hz
    · split at hpz
      · rename_i hactive
        rw [Bool.and_eq_true, decide_eq_true_eq] at hactive
        have := htab hactive.1
        have := Option.some.inj hpz
        omega
      · cases hpz
  · obtain ⟨hpz, hrole⟩ := insideContourPath_onPass p hp
    refine ⟨?_, hrole⟩
    rcases hpz with hpz | hpz
    · rw [hpz]; exact hz
    · cases hpz

theorem contourPass_within {path : List PathPoint} {pass : Nat} (hz : -floorUm ≤ z ∧ z < 0)
    (hpath : ∀ p ∈ path, (-floorUm ≤ p.zUm ∧ p.zUm < 0) ∧ isCutRole p.role) :
    ∀ c ∈ contourPass recipe path pass z, c.Within recipe floorUm := by
  intro c hc
  simp only [contourPass, List.mem_append, List.mem_cons, List.not_mem_nil, or_false] at hc
  rcases hc with ((rfl | rfl) | hc) | rfl
  · rfl
  · exact ⟨hz, .inr rfl, .inl rfl⟩
  · obtain ⟨q, hq, rfl⟩ := List.mem_map.mp hc
    have hmem := List.mem_of_mem_tail (List.of_mem_zip hq).2
    refine ⟨(hpath _ hmem).1, ?_, (hpath _ hmem).2⟩
    split
    · exact .inr rfl
    · exact .inl rfl
  · trivial

theorem contourCommands_within {cs : List Command}
    (h : contourCommands op setup tool recipe = .ok cs)
    (hfloor : ∀ target, targetDepthUm op setup recipe = .ok target → target ≤ floorUm)
    (htab : isReleaseContour op = true →
      0 ≤ recipe.tabHeightUm ∧ recipe.tabHeightUm < setup.stockThicknessUm) :
    ∀ c ∈ cs, c.Within recipe floorUm := by
  simp only [contourCommands, bind_eq_ok] at h
  obtain ⟨target, htarget, levels, hlevels, hret⟩ := h
  cases hret
  have hle := hfloor target htarget
  intro c hc
  obtain ⟨l, hl, hc⟩ := List.mem_flatMap.mp hc
  have hz := depthLevels_range hlevels (List.fst_mem_of_mem_zipIdx hl)
  have hz' : -floorUm ≤ l.1 ∧ l.1 < 0 := by omega
  exact contourPass_within hz' (fun p hp => contourPath_range hz' htab hp) c hc

/-! ## The operation contract -/

/-- What a contract check that returned has established about depth and clearance. -/
structure OperationContract (op : CAMOperation) (setup : BoundSetup) (tool : ToolSpec)
    (binding : ProductionToolBinding) (recipe : CuttingRecipe) : Prop where
  supported : isSupportedKind op.kind = true
  setup_eq : op.setupId = setup.setupId ∧ op.side = setup.side
  tool_eq : op.toolId = tool.toolId ∧ op.toolId = binding.sourceToolId
  recipe_kind : recipe.operationKind = op.kind
  recipe_tool : recipe.toolId = binding.toolId ∧ recipe.toolVersion = binding.toolVersion
  approach_lt : recipe.approachClearanceUm < setup.safeZUm
  accuracy_lt : recipe.processAccuracyUm < setup.minimumRapidClearanceUm
  target : ∃ t, targetDepthUm op setup recipe = .ok t ∧
    t + recipe.processAccuracyUm ≤ binding.cuttingLengthUm ∧
    (op.through = true → recipe.processAccuracyUm < recipe.throughOvertravelUm ∧
      recipe.throughOvertravelUm + recipe.processAccuracyUm ≤ setup.throughCutAllowanceUm) ∧
    (op.through = false → t + recipe.processAccuracyUm < setup.stockThicknessUm)
  kind_contract : (if op.kind = .drill then validateDrillContract op setup binding recipe
    else if isAreaKind op.kind then validateAreaContract op setup binding recipe
    else validateContourContract op setup binding recipe) = .ok ()

variable {toolSpec : ToolSpec}

theorem validateOperationContract_inv
    (h : validateOperationContract op setup toolSpec tool recipe = .ok ()) :
    OperationContract op setup toolSpec tool recipe := by
  unfold validateOperationContract at h
  simp only [bind_eq_ok, require_eq_ok, Bool.and_eq_true, decide_eq_true_eq,
    Bool.not_eq_true', decide_eq_false_iff_not, Bool.or_eq_true, Bool.and_eq_false_iff] at h
  obtain ⟨_, hkind, _, hsetup, _, htool, _, -, _, hrecipe, _, hrecipeTool, _, happroach, _,
    haccuracy, _, -, _, -, _, -, t, htarget, _, hlength, _, -, _, hover, _, hallow, _, hnot,
    hrest⟩ := h
  refine ⟨hkind, hsetup, htool, hrecipe, hrecipeTool, by omega, by omega,
    ⟨t, htarget, hlength, ?_, ?_⟩, hrest⟩
  · intro hthrough
    rw [hthrough] at hover hallow
    constructor
    · rcases hover with hover | hover
      · cases hover
      · omega
    · rcases hallow with hallow | hallow
      · cases hallow
      · omega
  · intro hthrough
    rw [hthrough] at hnot
    rcases hnot with hnot | hnot
    · cases hnot
    · omega

/-- The target depth stays above the floor of the setup. -/
theorem OperationContract.target_le (h : OperationContract op setup toolSpec tool recipe)
    {t : Int} (ht : targetDepthUm op setup recipe = .ok t) :
    t ≤ setup.stockThicknessUm + setup.throughCutAllowanceUm := by
  obtain ⟨t', ht', -, hthrough, hnot⟩ := h.target
  obtain rfl : t' = t := Except.ok.inj (ht'.symm.trans ht)
  have haccuracy := recipe.values_pos
  have hallow := setup.allowance_range
  cases hop : op.through with
  | true =>
    have := hthrough hop
    simp only [targetDepthUm, hop, if_true, bind_eq_ok] at ht
    obtain ⟨_, -, _, -, _, -, hret⟩ := ht
    cases hret
    omega
  | false =>
    have := hnot hop
    omega

/-- The tab height of a release contour is below the stock top. -/
theorem OperationContract.tab_lt (h : OperationContract op setup toolSpec tool recipe)
    (hrel : isReleaseContour op = true) :
    0 ≤ recipe.tabHeightUm ∧ recipe.tabHeightUm < setup.stockThicknessUm := by
  have hrelease := hrel
  simp only [isReleaseContour, Bool.and_eq_true, decide_eq_true_eq] at hrelease
  obtain ⟨⟨hkind, -⟩, houtside⟩ := hrelease
  have hc := h.kind_contract
  rw [hkind, if_neg (by decide), if_neg (by decide)] at hc
  simp only [validateContourContract, hrel, houtside, bind_eq_ok, require_eq_ok,
    Bool.not_eq_true', decide_eq_false_iff_not, if_true] at hc
  obtain ⟨_, -, w, -, l, -, _, -, _, -, _, -, _, -, _, -, _, -, _, -, _, -, _, htab, -⟩ := hc
  exact ⟨recipe.tabs_nonneg.2, by omega⟩

/-- Every call of an accepted operation stays within the floor and the feeds of its recipe. -/
theorem operationCommands_within {cs : List Command}
    (hc : OperationContract op setup toolSpec tool recipe)
    (h : operationCommands op setup tool recipe = .ok cs) :
    ∀ c ∈ cs, c.Within recipe (setup.stockThicknessUm + setup.throughCutAllowanceUm) := by
  unfold operationCommands at h
  split at h
  · exact peckCommands_within h fun t ht => hc.target_le ht
  split at h
  · exact rasterCommands_within h fun t ht => hc.target_le ht
  · exact contourCommands_within h (fun t ht => hc.target_le ht) hc.tab_lt

end Custombuild.Cam
