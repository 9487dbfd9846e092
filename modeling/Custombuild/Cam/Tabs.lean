/-
  The holding tabs of a release contour.  On every pass below the tab floor the lap lifts the
  cutter to the floor over one interval of each edge; no move of the operation, the plunges, the
  corners and the links between passes included, is below the floor over such an interval.
  Source: `custombuild_cam.toolpaths`.
-/
import Custombuild.Cam.ArcError
import Custombuild.Cam.Planned

namespace Custombuild.Cam

open Custombuild.Lib Custombuild.Manufacturing

/-! ## Edges of a lap and their tabs -/

/-- The place of the tool centre at the end of a move. -/
def ProductionMove.place (m : ProductionMove) : Int × Int × Int := (m.xUm, m.yUm, m.zUm)

def PathPoint.place (p : PathPoint) : Int × Int × Int := (p.xUm, p.yUm, p.zUm)

/-- The length of an edge, in the order of the lap. -/
def edgeLength (nominal : Rect) : Nat → Int
  | 0 | 2 => nominal.widthUm
  | _ => nominal.heightUm

/-- The point of the lap at a distance from the first end of an edge. -/
def edgePoint (nominal : Rect) (r : Int) (edge : Nat) (s : ℝ) : ℝ × ℝ :=
  match edge with
  | 0 => (nominal.xUm + s, nominal.yUm - r)
  | 1 => (nominal.rightUm + r, nominal.yUm + s)
  | 2 => (nominal.rightUm - s, nominal.topUm + r)
  | _ => (nominal.xUm - r, nominal.topUm - s)

/-- Where the tab of an edge begins: half of what is left of the edge, rounded down. -/
def tabBegin (lengthUm widthUm : Int) : Int := (lengthUm - widthUm) / 2

/-- The tool centre is over the tab of an edge, its ends excluded. -/
def InTab (nominal : Rect) (r widthUm : Int) (p : ℝ × ℝ) : Prop :=
  ∃ edge < 4, ∃ s : ℝ, (tabBegin (edgeLength nominal edge) widthUm : ℝ) < s ∧
    s < (tabBegin (edgeLength nominal edge) widthUm + widthUm : Int) ∧ p = edgePoint nominal r edge s

/-- The tool centre is nearer to the middle of an edge than half of the width. -/
def InCentredTab (nominal : Rect) (r widthUm : Int) (p : ℝ × ℝ) : Prop :=
  ∃ edge < 4, ∃ s : ℝ, |s - edgeLength nominal edge / 2| < (widthUm : ℝ) / 2 ∧
    p = edgePoint nominal r edge s

/-- A straight move is nowhere below the floor over a region. -/
def KeepsAbove (region : ℝ × ℝ → Prop) (floorUm : Int) (a b : Int × Int × Int) : Prop :=
  ∀ t : ℝ, 0 ≤ t → t ≤ 1 → region (walk (real (a.1, a.2.1)) (real (b.1, b.2.1)) t) →
    (floorUm : ℝ) ≤ lerp a.2.2 b.2.2 t

section Region

variable {region : ℝ × ℝ → Prop} {floorUm : Int} {a b : Int × Int × Int}

theorem keepsAbove_of_high (ha : floorUm ≤ a.2.2) (hb : floorUm ≤ b.2.2) :
    KeepsAbove region floorUm a b := by
  intro t h₀ h₁ _
  exact lerp_ge (Int.cast_le.mpr ha) (Int.cast_le.mpr hb) h₀ h₁

theorem keepsAbove_of_outside
    (h : ∀ t : ℝ, 0 ≤ t → t ≤ 1 → ¬region (walk (real (a.1, a.2.1)) (real (b.1, b.2.1)) t)) :
    KeepsAbove region floorUm a b :=
  fun t h₀ h₁ hregion => absurd hregion (h t h₀ h₁)

/-- A vertical move over a point outside of the region. -/
theorem keepsAbove_of_vertical {x y z z' : Int} (h : ¬region (real (x, y))) :
    KeepsAbove region floorUm (x, y, z) (x, y, z') := by
  apply keepsAbove_of_outside
  intro t _ _
  simp only [walk, lerp_self]
  exact h

end Region

section Rectangle

variable {nominal : Rect} {r widthUm : Int}

/-- The rectangle is larger than its tabs. -/
structure FitsTabs (nominal : Rect) (r widthUm : Int) : Prop where
  radius : 0 ≤ r
  width_pos : 0 < widthUm
  width_lt : widthUm < nominal.widthUm
  height_lt : widthUm < nominal.heightUm

theorem FitsTabs.begin_nonneg (h : FitsTabs nominal r widthUm) (edge : Nat) :
    0 ≤ tabBegin (edgeLength nominal edge) widthUm ∧
      tabBegin (edgeLength nominal edge) widthUm + widthUm ≤ edgeLength nominal edge := by
  have hwidth := h.width_lt
  have hheight := h.height_lt
  unfold tabBegin edgeLength
  split <;> omega

/-- The tab of an edge ends inside of the edge. -/
theorem FitsTabs.inside (h : FitsTabs nominal r widthUm) {edge : Nat} {u : ℝ}
    (hlo : (tabBegin (edgeLength nominal edge) widthUm : ℝ) < u)
    (hhi : u < (tabBegin (edgeLength nominal edge) widthUm + widthUm : Int)) :
    (0 : ℝ) ≤ r ∧ (0 : ℝ) < nominal.widthUm ∧ (0 : ℝ) < nominal.heightUm ∧ 0 < u ∧
      u < edgeLength nominal edge := by
  obtain ⟨hbegin, hend⟩ := h.begin_nonneg edge
  exact ⟨Int.cast_nonneg h.radius, Int.cast_pos.mpr (h.width_pos.trans h.width_lt),
    Int.cast_pos.mpr (h.width_pos.trans h.height_lt), (Int.cast_nonneg hbegin).trans_lt hlo,
    hhi.trans_le (Int.cast_le.mpr hend)⟩

/-- The tabs are inside of the edges, and the tool is over one only on its own edge. -/
theorem tab_of_edgePoint (h : FitsTabs nominal r widthUm) {edge : Nat} (hedge : edge < 4) {s : ℝ}
    (htab : InTab nominal r widthUm (edgePoint nominal r edge s)) :
    (tabBegin (edgeLength nominal edge) widthUm : ℝ) < s ∧
      s < (tabBegin (edgeLength nominal edge) widthUm + widthUm : Int) := by
  obtain ⟨other, hother, u, hlo, hhi, heq⟩ := htab
  obtain ⟨hr, hw, hh, hu₀, hu₁⟩ := h.inside hlo hhi
  -- on another edge, one of the two coordinates is beyond the corner
  by_cases hsame : edge = other
  · subst hsame
    have hsu : s = u := by
      interval_cases edge <;> simpa [edgePoint] using heq
    rw [hsu]
    exact ⟨hlo, hhi⟩
  · exfalso
    interval_cases edge <;> interval_cases other <;>
      simp only [edgePoint, edgeLength, Prod.mk.injEq, Rect.rightUm, Rect.topUm, Int.cast_add,
        not_true_eq_false] at heq hu₁ hsame <;>
      linarith [heq.1, heq.2]

/-! ## Corners -/

/-- The quadrant beyond a corner of the rectangle. -/
def Beyond (nominal : Rect) (quadrant : Nat) (p : ℝ × ℝ) : Prop :=
  match quadrant with
  | 0 => (nominal.rightUm : ℝ) ≤ p.1 ∧ p.2 ≤ nominal.yUm
  | 1 => (nominal.rightUm : ℝ) ≤ p.1 ∧ (nominal.topUm : ℝ) ≤ p.2
  | 2 => p.1 ≤ nominal.xUm ∧ (nominal.topUm : ℝ) ≤ p.2
  | _ => p.1 ≤ nominal.xUm ∧ p.2 ≤ nominal.yUm

theorem beyond_walk {quadrant : Nat} {a b : ℝ × ℝ} (ha : Beyond nominal quadrant a)
    (hb : Beyond nominal quadrant b) {t : ℝ} (h₀ : 0 ≤ t) (h₁ : t ≤ 1) :
    Beyond nominal quadrant (walk a b t) := by
  rcases quadrant with _ | _ | _ | quadrant
  · exact ⟨lerp_ge ha.1 hb.1 h₀ h₁, lerp_le ha.2 hb.2 h₀ h₁⟩
  · exact ⟨lerp_ge ha.1 hb.1 h₀ h₁, lerp_ge ha.2 hb.2 h₀ h₁⟩
  · exact ⟨lerp_le ha.1 hb.1 h₀ h₁, lerp_ge ha.2 hb.2 h₀ h₁⟩
  · exact ⟨lerp_le ha.1 hb.1 h₀ h₁, lerp_le ha.2 hb.2 h₀ h₁⟩

/-- No tab is beyond a corner. -/
theorem not_tab_of_beyond (h : FitsTabs nominal r widthUm) {quadrant : Nat} {p : ℝ × ℝ}
    (hp : Beyond nominal quadrant p) : ¬InTab nominal r widthUm p := by
  rintro ⟨edge, hedge, u, hlo, hhi, rfl⟩
  obtain ⟨hr, hw, hh, hu₀, hu₁⟩ := h.inside hlo hhi
  unfold Beyond at hp
  split at hp <;> interval_cases edge <;>
    simp only [edgePoint, edgeLength, Rect.rightUm, Rect.topUm, Int.cast_add] at hp hu₁ <;>
    linarith [hp.1, hp.2]

/-! The points of a corner are beyond it. -/

/-- The sides of the origin on which a corner is rounded. -/
def SignedBy (quadrant : Nat) (q : Int × Int) : Prop :=
  match quadrant with
  | 0 => 0 ≤ q.1 ∧ q.2 ≤ 0
  | 1 => 0 ≤ q.1 ∧ 0 ≤ q.2
  | 2 => q.1 ≤ 0 ∧ 0 ≤ q.2
  | _ => q.1 ≤ 0 ∧ q.2 ≤ 0

theorem arcPoint_signed (hr : 0 ≤ r) {cs : Int × Int} (hcs : 0 ≤ cs.1 ∧ 0 ≤ cs.2) (quadrant : Nat) :
    SignedBy quadrant (arcPoint 0 0 r quadrant cs) := by
  have hcosine := mul_nonneg hr hcs.1
  have hsine := mul_nonneg hr hcs.2
  rcases quadrant with _ | _ | _ | quadrant <;>
    simp only [SignedBy, arcPoint, arcOffsetPpm, mul_neg] <;> omega

theorem arcStart_signed (hr : 0 ≤ r) (quadrant : Nat) : SignedBy quadrant (arcStart r quadrant) := by
  rcases quadrant with _ | _ | _ | quadrant <;> simp only [SignedBy, arcStart] <;> omega

/-- A point added to a polyline, unless it repeats the last one. -/
def pushNew (points : List (Int × Int)) (p : Int × Int) : List (Int × Int) :=
  if points.getLast? = some p then points else points ++ [p]

theorem getLast_pushNew (points : List (Int × Int)) (p : Int × Int) :
    (pushNew points p).getLast? = some p := by
  unfold pushNew
  split
  · assumption
  · exact List.getLast?_concat

theorem prefix_pushNew (points : List (Int × Int)) (p : Int × Int) : points <+: pushNew points p := by
  unfold pushNew
  split
  · exact List.prefix_rfl
  · exact List.prefix_append _ _

theorem mem_pushNew {points : List (Int × Int)} {p q : Int × Int} (h : q ∈ pushNew points p) :
    q ∈ points ∨ q = p := by
  unfold pushNew at h
  split at h
  · exact Or.inl h
  · rcases List.mem_append.mp h with h | h
    · exact Or.inl h
    · exact Or.inr (List.mem_singleton.mp h)

theorem arcPolyline_eq (r : Int) (quadrant : Nat) : arcPolyline r quadrant =
    quarterCirclePpm.tail.foldl (fun points cs => pushNew points (arcPoint 0 0 r quadrant cs))
      [arcStart r quadrant] := rfl

theorem arcPolyline_signed (hr : 0 ≤ r) {quadrant : Nat} {q : Int × Int}
    (h : q ∈ arcPolyline r quadrant) : SignedBy quadrant q := by
  have htable : ∀ cs ∈ quarterCirclePpm.tail, 0 ≤ cs.1 ∧ 0 ≤ cs.2 := by decide
  rw [arcPolyline_eq] at h
  have hstart : ∀ q ∈ [arcStart r quadrant], SignedBy quadrant q := by
    intro q hq
    rw [List.mem_singleton.mp hq]
    exact arcStart_signed hr quadrant
  -- every point of the polyline is its start or a point of the table
  revert hstart h
  generalize [arcStart r quadrant] = points
  generalize quarterCirclePpm.tail = table at htable
  induction table generalizing points with
  | nil =>
    intro h hpoints
    exact hpoints q h
  | cons cs table ih =>
    intro h hpoints
    refine ih _ (fun cs' hcs' => htable cs' (List.mem_cons_of_mem _ hcs')) h ?_
    intro q' hq'
    rcases mem_pushNew hq' with hq' | rfl
    · exact hpoints q' hq'
    · exact arcPoint_signed hr (htable cs List.mem_cons_self) quadrant

theorem head_arcPolyline (r : Int) (quadrant : Nat) :
    (arcPolyline r quadrant).head? = some (arcStart r quadrant) := by
  rw [arcPolyline_eq]
  have hgrows : ∀ (table points : List (Int × Int)), points <+: table.foldl
      (fun points cs => pushNew points (arcPoint 0 0 r quadrant cs)) points := by
    intro table
    induction table with
    | nil => exact fun points => List.prefix_rfl
    | cons cs table ih => exact fun points => (prefix_pushNew _ _).trans (ih _)
  obtain ⟨rest, hrest⟩ := hgrows quarterCirclePpm.tail [arcStart r quadrant]
  rw [← hrest]
  rfl

theorem getLast_arcPolyline (r : Int) (quadrant : Nat) :
    (arcPolyline r quadrant).getLast? = some (arcPoint 0 0 r quadrant (0, 1000000)) := by
  have htable : quarterCirclePpm.tail = quarterCirclePpm.tail.dropLast ++ [(0, 1000000)] := rfl
  rw [arcPolyline_eq, htable, List.foldl_append]
  exact getLast_pushNew _ _

theorem beyond_cornerPath (h : FitsTabs nominal r widthUm) {depthZ : Int} {quadrant : Nat}
    {p : PathPoint} (hp : p ∈ cornerPath nominal r depthZ quadrant) :
    Beyond nominal quadrant (real (p.xUm, p.yUm)) := by
  obtain ⟨q, hq, rfl⟩ := List.mem_map.mp hp
  have hsigned := arcPolyline_signed h.radius hq
  rcases quadrant with _ | _ | _ | quadrant <;>
    simp only [Beyond, SignedBy, real, pathPointAt, lapCorner, Int.cast_le] at hsigned ⊢ <;> omega

theorem isChain_of_forall {α : Type} {R : α → α → Prop} {l : List α}
    (h : ∀ a ∈ l, ∀ b ∈ l, R a b) : List.IsChain R l := by
  induction l with
  | nil => exact List.isChain_nil
  | cons a l ih =>
    rw [List.isChain_cons]
    constructor
    · intro b hb
      exact h a List.mem_cons_self b (List.mem_cons_of_mem _ (List.mem_of_mem_head? hb))
    · exact ih fun b hb c hc => h b (List.mem_cons_of_mem _ hb) c (List.mem_cons_of_mem _ hc)

variable {floorUm depthZ : Int}

theorem isChain_cornerPath (h : FitsTabs nominal r widthUm) (quadrant : Nat) :
    List.IsChain (fun p q => KeepsAbove (InTab nominal r widthUm) floorUm p.place q.place)
      (cornerPath nominal r depthZ quadrant) := by
  apply isChain_of_forall
  intro p hp q hq
  apply keepsAbove_of_outside
  intro t h₀ h₁
  exact not_tab_of_beyond h (beyond_walk (beyond_cornerPath h hp) (beyond_cornerPath h hq) h₀ h₁)

/-! ## Edges -/

/-- The point of an edge at a whole distance from its first end. -/
def edgePlace (nominal : Rect) (r : Int) (edge : Nat) (s : Int) : Int × Int :=
  match edge with
  | 0 => (nominal.xUm + s, nominal.yUm - r)
  | 1 => (nominal.rightUm + r, nominal.yUm + s)
  | 2 => (nominal.rightUm - s, nominal.topUm + r)
  | _ => (nominal.xUm - r, nominal.topUm - s)

/-- A move along an edge. -/
theorem walk_edgePlace (nominal : Rect) (r : Int) (edge : Nat) (s s' : Int) (t : ℝ) :
    walk (real (edgePlace nominal r edge s)) (real (edgePlace nominal r edge s')) t =
      edgePoint nominal r edge (lerp s s' t) := by
  rcases edge with _ | _ | _ | edge <;>
    simp only [walk, real, edgePlace, edgePoint, lerp, Int.cast_add, Int.cast_sub, Prod.mk.injEq] <;>
    constructor <;> ring

/-- A move along an edge before its tab, or behind it. -/
theorem keepsAbove_along (h : FitsTabs nominal r widthUm) {edge : Nat} (hedge : edge < 4)
    {s s' z z' : Int}
    (hoff : (s ≤ tabBegin (edgeLength nominal edge) widthUm ∧
        s' ≤ tabBegin (edgeLength nominal edge) widthUm) ∨
      (tabBegin (edgeLength nominal edge) widthUm + widthUm ≤ s ∧
        tabBegin (edgeLength nominal edge) widthUm + widthUm ≤ s')) :
    KeepsAbove (InTab nominal r widthUm) floorUm
      ((edgePlace nominal r edge s).1, (edgePlace nominal r edge s).2, z)
      ((edgePlace nominal r edge s').1, (edgePlace nominal r edge s').2, z') := by
  apply keepsAbove_of_outside
  intro t h₀ h₁ htab
  rw [walk_edgePlace] at htab
  obtain ⟨hafter, hbefore⟩ := tab_of_edgePoint h hedge htab
  rcases hoff with hoff | hoff
  · exact absurd hafter
      (not_lt.mpr (lerp_le (Int.cast_le.mpr hoff.1) (Int.cast_le.mpr hoff.2) h₀ h₁))
  · exact absurd hbefore
      (not_lt.mpr (lerp_ge (Int.cast_le.mpr hoff.1) (Int.cast_le.mpr hoff.2) h₀ h₁))

/-- A point of an edge on a pass. -/
def edgeAt (nominal : Rect) (r : Int) (edge : Nat) (s z : Int) (role : ProductionMoveRole) : PathPoint :=
  ⟨(edgePlace nominal r edge s).1, (edgePlace nominal r edge s).2, z, role⟩

theorem natAbs_of_pos {n : Int} (h : 0 < n) : (n.natAbs : Int) = n := Int.natAbs_of_nonneg h.le

/-- The points of an edge with an active tab, without its end. -/
theorem edgePath_tab (h : FitsTabs nominal r widthUm) {edge : Nat} (hedge : edge < 4) (tabZ : Int) :
    let tabUm := tabBegin (edgeLength nominal edge) widthUm
    edgePath nominal r depthZ (some tabZ) widthUm edge =
      [edgeAt nominal r edge tabUm depthZ .cut, edgeAt nominal r edge tabUm tabZ .tabRamp,
        edgeAt nominal r edge (tabUm + widthUm) tabZ .tabBridge,
        edgeAt nominal r edge (tabUm + widthUm) depthZ .tabRamp] := by
  have hwidth := h.width_pos.trans h.width_lt
  have hheight := h.width_pos.trans h.height_lt
  have hneg : ∀ {n : Int}, 0 < n → directionOf (-n) = -1 ∧ ((-n).natAbs : Int) = n := by
    intro n hn
    rw [directionOf, if_neg (by omega), if_neg (by omega), Int.natAbs_neg]
    exact ⟨rfl, natAbs_of_pos hn⟩
  have hpos : ∀ {n : Int}, 0 < n → directionOf n = 1 ∧ (n.natAbs : Int) = n := by
    intro n hn
    rw [directionOf, if_neg (by omega), if_pos hn]
    exact ⟨rfl, natAbs_of_pos hn⟩
  have hzero : directionOf 0 = 0 := rfl
  interval_cases edge <;> intro tabUm
  · have hdx : nominal.rightUm - nominal.xUm = nominal.widthUm := by unfold Rect.rightUm; omega
    simp [edgePath, edgeWithOptionalTab, edgeAt, edgePlace, edgeLength, tabBegin, tabUm, hdx, hzero,
      hpos hwidth]
  · have hdy : nominal.topUm - nominal.yUm = nominal.heightUm := by unfold Rect.topUm; omega
    simp [edgePath, edgeWithOptionalTab, edgeAt, edgePlace, edgeLength, tabBegin, tabUm, hdy, hzero,
      hpos hheight]
  · have hdx : nominal.xUm - nominal.rightUm = -nominal.widthUm := by unfold Rect.rightUm; omega
    simp [edgePath, edgeWithOptionalTab, edgeAt, edgePlace, edgeLength, tabBegin, tabUm, hdx, hzero,
      hneg hwidth, abs_of_pos hwidth, sub_eq_add_neg]
  · have hdy : nominal.yUm - nominal.topUm = -nominal.heightUm := by unfold Rect.topUm; omega
    simp [edgePath, edgeWithOptionalTab, edgeAt, edgePlace, edgeLength, tabBegin, tabUm, hdy, hzero,
      hneg hheight, abs_of_pos hheight, sub_eq_add_neg]

/-- A corner begins at the end of its edge. -/
theorem cornerPath_head {edge : Nat} (hedge : edge < 4) :
    (cornerPath nominal r depthZ edge).head? =
      some (edgeAt nominal r edge (edgeLength nominal edge) depthZ .cut) := by
  rw [cornerPath, List.head?_map, head_arcPolyline, Option.map_some]
  interval_cases edge <;>
    simp [pathPointAt, lapCorner, arcStart, edgeAt, edgePlace, edgeLength, Rect.rightUm, Rect.topUm,
      sub_eq_add_neg]

/-- A corner ends where the next edge begins. -/
theorem cornerPath_last {edge : Nat} (hedge : edge < 4) :
    (cornerPath nominal r depthZ edge).getLast? =
      some (edgeAt nominal r ((edge + 1) % 4) 0 depthZ .cut) := by
  rw [cornerPath, List.getLast?_map, getLast_arcPolyline, Option.map_some]
  have hneg : -(r * 1000000) / 1000000 = -r := by omega
  interval_cases edge <;>
    simp [pathPointAt, lapCorner, arcPoint, arcOffsetPpm, edgeAt, edgePlace, sub_eq_add_neg, hneg]

/-- An edge with an active tab and its corner. -/
theorem isChain_block (h : FitsTabs nominal r widthUm) {edge : Nat} (hedge : edge < 4) :
    List.IsChain (fun p q => KeepsAbove (InTab nominal r widthUm) floorUm p.place q.place)
      (edgeAt nominal r edge 0 depthZ .cut ::
        (edgePath nominal r depthZ (some floorUm) widthUm edge ++ cornerPath nominal r depthZ edge)) := by
  obtain ⟨rest, hrest⟩ := List.head?_eq_some_iff.mp (cornerPath_head hedge)
  have hcorner := @isChain_cornerPath nominal r widthUm floorUm depthZ h edge
  rw [hrest] at hcorner ⊢
  obtain ⟨hbegin, hend⟩ := h.begin_nonneg edge
  have hwidth := h.width_pos
  rw [List.isChain_cons_split]
  refine ⟨?_, hcorner⟩
  rw [edgePath_tab h hedge]
  simp only [List.cons_append, List.nil_append, List.isChain_cons_cons, List.isChain_singleton,
    and_true]
  -- to the tab, up, across it on the floor, down, and to the corner
  refine ⟨?_, ?_, ?_, ?_, ?_⟩
  · exact keepsAbove_along h hedge (by omega)
  · exact keepsAbove_along h hedge (by omega)
  · exact keepsAbove_of_high le_rfl le_rfl
  · exact keepsAbove_along h hedge (by omega)
  · exact keepsAbove_along h hedge (by omega)

theorem isChain_glue {α : Type} {R : α → α → Prop} {a b : α} {l m : List α}
    (h₁ : List.IsChain R (a :: l)) (hlast : l.getLast? = some b) (h₂ : List.IsChain R (b :: m)) :
    List.IsChain R (a :: (l ++ m)) := by
  obtain ⟨init, rfl⟩ := List.getLast?_eq_some_iff.mp hlast
  rw [List.append_assoc, List.singleton_append, List.isChain_cons_split]
  exact ⟨h₁, h₂⟩

/-- A lap with active tabs. -/
theorem isChain_lap (h : FitsTabs nominal r widthUm) :
    List.IsChain (fun p q => KeepsAbove (InTab nominal r widthUm) floorUm p.place q.place)
      (outsideContourPath nominal r depthZ (some floorUm) widthUm) := by
  have hlast : ∀ edge < 4, (edgePath nominal r depthZ (some floorUm) widthUm edge ++
      cornerPath nominal r depthZ edge).getLast? =
        some (edgeAt nominal r ((edge + 1) % 4) 0 depthZ .cut) := by
    intro edge hedge
    rw [List.getLast?_append, cornerPath_last hedge, Option.some_or]
  have hblock := fun edge hedge => @isChain_block nominal r widthUm floorUm depthZ h edge hedge
  have hstart : (⟨nominal.xUm, nominal.yUm - r, depthZ, .cut⟩ : PathPoint) =
      edgeAt nominal r 0 0 depthZ .cut := by
    simp [edgeAt, edgePlace]
  rw [outsideContourPath_eq, hstart]
  simp only [List.flatMap_cons, List.flatMap_nil, List.append_nil]
  exact isChain_glue (hblock 0 (by decide)) (hlast 0 (by decide))
    (isChain_glue (hblock 1 (by decide)) (hlast 1 (by decide))
      (isChain_glue (hblock 2 (by decide)) (hlast 2 (by decide)) (hblock 3 (by decide))))

/-- A lap ends where it begins. -/
theorem getLast_lap (tabZ : Option Int) :
    ((outsideContourPath nominal r depthZ tabZ widthUm).getLast?.map fun p => (p.xUm, p.yUm)) =
      some (edgePlace nominal r 0 0) := by
  rw [outsideContourPath_eq]
  simp only [List.flatMap_cons, List.flatMap_nil, List.append_nil, ← List.append_assoc]
  rw [← List.cons_append, List.getLast?_append, cornerPath_last (by decide), Option.some_or,
    Option.map_some]
  rfl

/-- The place where a lap begins and ends is on no tab. -/
theorem not_tab_of_lapStart (h : FitsTabs nominal r widthUm) :
    ¬InTab nominal r widthUm (real (edgePlace nominal r 0 0)) := by
  apply @not_tab_of_beyond _ _ _ h 3
  have hr := h.radius
  simp only [Beyond, edgePlace, real, Int.cast_le]
  omega

end Rectangle

/-! ## The moves of a release contour -/

/-- The places of the moves of a builder call. -/
def Command.places (safeZUm : Int) : Command → List (Int × Int × Int)
  | .position _ x y approachZ => [(x, y, safeZUm), (x, y, approachZ)]
  | .cut _ x y z _ _ => [(x, y, z)]
  | .peckRetract _ x y z => [(x, y, z)]
  | .retract _ x y => [(x, y, safeZUm)]

section Moves

variable {op : CAMOperation} {safeZUm : Int} {recipe : CuttingRecipe}

theorem map_place_expand (n : Nat) (cs : List Command) :
    (expand op safeZUm n cs).map ProductionMove.place = cs.flatMap (Command.places safeZUm) := by
  induction cs generalizing n with
  | nil => rfl
  | cons c cs ih =>
    rw [expand, List.map_append, ih, List.flatMap_cons]
    cases c <;> rfl

theorem places_pathCuts (pass : Nat) (p : PathPoint) (path : List PathPoint) :
    (pathCuts pass recipe (p :: path)).flatMap (Command.places safeZUm) =
      path.map PathPoint.place := by
  induction path generalizing p with
  | nil => rfl
  | cons q path ih =>
    rw [List.map_cons, ← ih q]
    rfl

/-- The places of a pass: down over the start, along the path, and up over its end. -/
theorem places_contourPass (pass : Nat) (p : PathPoint) (path : List PathPoint) :
    (contourPass recipe (p :: path) pass p.zUm).flatMap (Command.places safeZUm) =
      let last := ((p :: path).getLast?.map fun q => (q.xUm, q.yUm)).getD (0, 0)
      (p.xUm, p.yUm, safeZUm) :: (p.xUm, p.yUm, recipe.approachClearanceUm) ::
        ((p :: path).map PathPoint.place ++ [(last.1, last.2, safeZUm)]) := by
  rw [contourPass, List.flatMap_append, List.flatMap_append, places_pathCuts]
  rfl

/-- A pass along a path that begins and ends over one point outside of a region. -/
theorem isChain_contourPass {region : ℝ × ℝ → Prop} {floorUm : Int} {start : Int × Int}
    (hstart : ¬region (real start)) {pass : Nat} {p : PathPoint} {path : List PathPoint}
    (hp : (p.xUm, p.yUm) = start)
    (hlast : ((p :: path).getLast?.map fun q => (q.xUm, q.yUm)) = some start)
    (hpath : List.IsChain (fun p q => KeepsAbove region floorUm p.place q.place) (p :: path)) :
    List.IsChain (KeepsAbove region floorUm)
      ((contourPass recipe (p :: path) pass p.zUm).flatMap (Command.places safeZUm)) := by
  rw [places_contourPass, hlast]
  subst hp
  rw [List.isChain_cons_cons]
  refine ⟨keepsAbove_of_vertical hstart, ?_⟩
  rw [List.map_cons, List.cons_append, List.isChain_cons_cons]
  refine ⟨keepsAbove_of_vertical hstart, ?_⟩
  show List.IsChain _ ((p :: path).map PathPoint.place ++ _)
  rw [List.isChain_append, List.isChain_map]
  refine ⟨hpath, List.isChain_singleton _, ?_⟩
  -- the retract is over the end of the path
  intro a ha b hb
  rw [List.getLast?_map] at ha
  obtain ⟨q, hq, rfl⟩ := Option.mem_map.mp ha
  rw [Option.mem_def.mp hq, Option.map_some, Option.some.injEq, Prod.mk.injEq] at hlast
  obtain rfl := Option.mem_some_iff.mp hb
  show KeepsAbove region floorUm (q.xUm, q.yUm, q.zUm) (p.xUm, p.yUm, safeZUm)
  rw [hlast.1, hlast.2]
  exact keepsAbove_of_vertical hstart

theorem isChain_flatMap {α β : Type} {R : α → α → Prop} {f : β → List α} {l : List β}
    (h : ∀ x ∈ l, List.IsChain R (f x)) (hne : ∀ x ∈ l, f x ≠ [])
    (hlink : ∀ x ∈ l, ∀ y ∈ l, ∀ a ∈ (f x).getLast?, ∀ b ∈ (f y).head?, R a b) :
    List.IsChain R (l.flatMap f) := by
  induction l with
  | nil => exact List.isChain_nil
  | cons x l ih =>
    rw [List.flatMap_cons, List.isChain_append]
    refine ⟨h x List.mem_cons_self, ?_, ?_⟩
    · exact ih (fun y hy => h y (List.mem_cons_of_mem _ hy))
        (fun y hy => hne y (List.mem_cons_of_mem _ hy))
        fun y hy z hz => hlink y (List.mem_cons_of_mem _ hy) z (List.mem_cons_of_mem _ hz)
    · intro a ha b hb
      cases l with
      | nil => cases hb
      | cons y l =>
        obtain ⟨c, cs, hc⟩ := List.exists_cons_of_ne_nil
          (hne y (List.mem_cons_of_mem _ List.mem_cons_self))
        refine hlink x List.mem_cons_self y (List.mem_cons_of_mem _ List.mem_cons_self) a ha b ?_
        rw [List.flatMap_cons, hc] at hb
        rw [hc]
        exact hb

/-- The tab contract of a release contour. -/
theorem fitsTabs_of_contract {setup : BoundSetup} {tool : ProductionToolBinding}
    (hrelease : isReleaseContour op = true)
    (h : validateContourContract op setup tool recipe = .ok ()) :
    FitsTabs (nominalRect op) (tool.effectiveDiameterUm / 2)
        (recipe.tabWidthUm + tool.effectiveDiameterUm) ∧
      recipe.tabHeightUm < setup.stockThicknessUm := by
  have hdiameter := tool.dims_pos.1
  have htabs := recipe.tabs_nonneg
  have hreleased := hrelease
  simp only [isReleaseContour, Bool.and_eq_true, decide_eq_true_eq] at hreleased
  simp only [validateContourContract, hrelease, hreleased.2, bind_eq_ok, require_eq_ok,
    demand_eq_ok, Bool.not_eq_true', decide_eq_false_iff_not, if_true] at h
  obtain ⟨_, -, width, hwidth, length, hlength, _, -, _, -, _, -, _, -, _, -, _, -, _, -, _, -, _,
    hheight, _, -, _, -, hedge⟩ := h
  refine ⟨⟨by omega, by omega, ?_, ?_⟩, by omega⟩
  · simp only [nominalRect, hwidth, Option.getD_some]
    omega
  · simp only [nominalRect, hlength, Option.getD_some]
    omega

end Moves

/-- A pass of a release contour. -/
theorem isChain_releasePass {op : CAMOperation} {setup : BoundSetup} {tool : ProductionToolBinding}
    {recipe : CuttingRecipe} (hrelease : isReleaseContour op = true)
    (hfits : FitsTabs (nominalRect op) (tool.effectiveDiameterUm / 2)
      (recipe.tabWidthUm + tool.effectiveDiameterUm)) (safeZUm : Int) (pass : Nat) (z : Int) :
    List.IsChain (KeepsAbove (InTab (nominalRect op) (tool.effectiveDiameterUm / 2)
        (recipe.tabWidthUm + tool.effectiveDiameterUm))
        (-(setup.stockThicknessUm - recipe.tabHeightUm)))
      ((contourPass recipe (contourPath op setup tool recipe z) pass z).flatMap
        (Command.places safeZUm)) := by
  have houtside := hrelease
  simp only [isReleaseContour, Bool.and_eq_true, decide_eq_true_eq] at houtside
  have hpath : List.IsChain (fun p q => KeepsAbove (InTab (nominalRect op)
      (tool.effectiveDiameterUm / 2) (recipe.tabWidthUm + tool.effectiveDiameterUm))
      (-(setup.stockThicknessUm - recipe.tabHeightUm)) p.place q.place)
      (contourPath op setup tool recipe z) := by
    simp only [contourPath, houtside.2, if_true, hrelease, Bool.true_and, decide_eq_true_eq]
    split
    · exact isChain_lap hfits
    · -- above the floor there are no tabs, and the whole lap is at the depth of the pass
      rename_i hfloor
      apply isChain_of_forall
      intro p hp q hq
      have hdepth : ∀ p ∈ outsideContourPath (nominalRect op) (tool.effectiveDiameterUm / 2) z none
          (recipe.tabWidthUm + tool.effectiveDiameterUm), p.zUm = z := by
        intro p hp
        exact (outsideContourPath_onPass p hp).1.resolve_right (by simp)
      apply keepsAbove_of_high
      · show _ ≤ p.zUm
        rw [hdepth p hp]
        omega
      · show _ ≤ q.zUm
        rw [hdepth q hq]
        omega
  have hlast : ((contourPath op setup tool recipe z).getLast?.map fun p => (p.xUm, p.yUm)) =
      some (edgePlace (nominalRect op) (tool.effectiveDiameterUm / 2) 0 0) := by
    simp only [contourPath, houtside.2, if_true]
    exact getLast_lap _
  obtain ⟨p, path, heq, hp, hz⟩ : ∃ p path, contourPath op setup tool recipe z = p :: path ∧
      (p.xUm, p.yUm) = edgePlace (nominalRect op) (tool.effectiveDiameterUm / 2) 0 0 ∧ p.zUm = z := by
    simp only [contourPath, houtside.2, if_true, outsideContourPath_eq]
    exact ⟨_, _, rfl, by simp [edgePlace], rfl⟩
  rw [heq] at hpath hlast ⊢
  rw [← hz]
  exact isChain_contourPass (not_tab_of_lapStart hfits) hp hlast hpath

/-- The tabs of a release contour that its contract accepts.  No point of any straight move of the
    operation, on any pass, is below the tab floor while the tool centre is over a tab; the tabs
    depend on the rectangle, the cutter and the recipe only.  Each is inside of its edge and
    centred up to half a micrometre. -/
theorem tab_preservation {b : ProgramBuilder} {op : CAMOperation} {recipe : CuttingRecipe}
    {before after : List ProductionMove} (hrelease : isReleaseContour op = true)
    (hcontract : validateContourContract op b.setup b.tool recipe = .ok ())
    (h : b.generateOperationMoves op recipe before = .ok after) :
    let widthUm := recipe.tabWidthUm + b.tool.effectiveDiameterUm
    (∀ edge, 0 ≤ tabBegin (edgeLength (nominalRect op) edge) widthUm ∧
      tabBegin (edgeLength (nominalRect op) edge) widthUm + widthUm ≤
        edgeLength (nominalRect op) edge ∧
      |edgeLength (nominalRect op) edge -
        (2 * tabBegin (edgeLength (nominalRect op) edge) widthUm + widthUm)| ≤ 1) ∧
    ∃ own, after = before ++ own ∧
      List.IsChain (KeepsAbove (InTab (nominalRect op) (b.tool.effectiveDiameterUm / 2) widthUm)
        (-(b.setup.stockThicknessUm - recipe.tabHeightUm))) (own.map ProductionMove.place) := by
  intro widthUm
  obtain ⟨hfits, hheight⟩ := fitsTabs_of_contract hrelease hcontract
  constructor
  · intro edge
    obtain ⟨hbegin, hend⟩ := hfits.begin_nonneg edge
    refine ⟨hbegin, hend, ?_⟩
    rw [abs_le]
    unfold tabBegin
    omega
  obtain ⟨commands, hcommands, hexec⟩ := bind_eq_ok.mp h
  refine ⟨_, (execCommands_eq_ok hexec).1, ?_⟩
  have hkind := hrelease
  simp only [isReleaseContour, Bool.and_eq_true, decide_eq_true_eq] at hkind
  rw [operationCommands, if_neg (by rw [hkind.1.1]; decide), if_neg (by rw [hkind.1.1]; decide)]
    at hcommands
  simp only [contourCommands, bind_eq_ok] at hcommands
  obtain ⟨target, -, levels, -, hret⟩ := hcommands
  cases hret
  rw [map_place_expand, List.flatMap_assoc]
  have hsafe := b.setup.dims_pos
  refine isChain_flatMap (fun l _ => isChain_releasePass hrelease hfits _ _ _) ?_ ?_
  · intro l _
    simp [contourPass, Command.places]
  · -- the link to the next pass is at the safe height
    intro l _ l' _ a ha c hc
    apply keepsAbove_of_high
    · have hlast : a.2.2 = b.setup.safeZUm := by
        rw [contourPass, List.flatMap_append, List.getLast?_append] at ha
        simp only [List.flatMap_cons, List.flatMap_nil, List.append_nil, Command.places,
          List.getLast?_singleton, Option.some_or, Option.mem_some_iff] at ha
        rw [← ha]
      omega
    · have hfirst : c.2.2 = b.setup.safeZUm := by
        simp only [contourPass, List.cons_append, List.flatMap_cons, Command.places, List.head?_cons,
          Option.mem_some_iff] at hc
        rw [← hc]
      omega

/-! ## An outline with an edge of an odd length -/

namespace OddOutline

def operation : CAMOperation where
  operationId := "op:outline"
  setupId := "setup:sheet:001:A"
  partId := "panel"
  instanceId := "panel:001"
  featureId := "outline"
  kind := .contour
  side := .a
  toolId := "T06R"
  xUm := 20000
  yUm := 30000
  depthUm := 18000
  widthUm := some 120001
  lengthUm := some 90000
  cutterEnvelopeXUm := some 20000
  cutterEnvelopeYUm := some 30000
  cutterEnvelopeWidthUm := some 120001
  cutterEnvelopeLengthUm := some 90000
  through := true
  compensation := some "OUTSIDE"

def builder : ProgramBuilder where
  context := PanelJob.context
  setup := PanelJob.boundSetup
  tool := PanelJob.routerBinding
  partOutlines := [{
    stockId := "sheet"
    sheetIndex := PanelJob.boundSetup.physicalSheet.2
    instanceId := "panel:001"
    partId := "panel"
    sourceRotation90 := false
    rect := ⟨20000, 30000, 120001, 90000⟩ }]

/-- The move behind the tab of the lower edge, at the depth of the pass. -/
def behindTab : List (Int × Int × Int) := [(85500, 27000, -18300), (140001, 27000, -18300)]

theorem generates : okAnd (builder.generateOperationMoves operation PanelJob.contourRecipe [])
    (fun moves => decide (behindTab <:+: moves.map ProductionMove.place)) = true := by
  decide +kernel

theorem contract : validateContourContract operation PanelJob.boundSetup PanelJob.routerBinding
    PanelJob.contourRecipe = .ok () := by
  have hchecks : okAnd (validateContourContract operation PanelJob.boundSetup
      PanelJob.routerBinding PanelJob.contourRecipe) (fun _ => true) = true := by
    decide +kernel
  obtain ⟨⟨⟩, hok, -⟩ := exists_of_okAnd hchecks
  exact hok

/-- The tab of 11 mm on the edge of 120.001 mm begins at 54.5 mm, half a micrometre before the
    exactly centred one, and the cutter is down again before the centred one ends. -/
theorem below_centred_tab : ∃ moves,
    builder.generateOperationMoves operation PanelJob.contourRecipe [] = .ok moves ∧
    isReleaseContour operation = true ∧
    validateContourContract operation PanelJob.boundSetup PanelJob.routerBinding
      PanelJob.contourRecipe = .ok () ∧
    ¬List.IsChain (KeepsAbove (InCentredTab (nominalRect operation)
        (PanelJob.routerBinding.effectiveDiameterUm / 2)
        (PanelJob.contourRecipe.tabWidthUm + PanelJob.routerBinding.effectiveDiameterUm))
        (-(PanelJob.boundSetup.stockThicknessUm - PanelJob.contourRecipe.tabHeightUm)))
      (moves.map ProductionMove.place) := by
  obtain ⟨moves, hmoves, hbehind⟩ := exists_of_okAnd generates
  refine ⟨moves, hmoves, rfl, contract, ?_⟩
  intro hchain
  have hmove := hchain.infix (decide_eq_true_eq.mp hbehind)
  rw [behindTab, List.isChain_cons_cons] at hmove
  -- a quarter of a micrometre behind the tab
  have hbelow := hmove.1 (1 / 218004) (by norm_num) (by norm_num) ⟨0, by decide, 65500.25, ?_, ?_⟩
  · simp only [lerp_self] at hbelow
    norm_num [PanelJob.boundSetup, PanelJob.contourRecipe, PanelJob.recipe] at hbelow
  · norm_num [edgeLength, nominalRect, operation, PanelJob.contourRecipe, PanelJob.recipe,
      PanelJob.routerBinding, abs_lt]
  · norm_num [walk, lerp, real, edgePoint, nominalRect, operation, PanelJob.routerBinding]

/-- Over its own tabs the cutter keeps to the floor. -/
theorem tab_preservation_outline : ∃ moves,
    builder.generateOperationMoves operation PanelJob.contourRecipe [] = .ok moves ∧
    List.IsChain (KeepsAbove (InTab (nominalRect operation) 3000 11000) (-15000))
      (moves.map ProductionMove.place) := by
  obtain ⟨moves, hmoves, -⟩ := exists_of_okAnd generates
  obtain ⟨-, own, hown, hchain⟩ := tab_preservation rfl contract hmoves
  rw [List.nil_append] at hown
  rw [← hown] at hchain
  exact ⟨moves, hmoves, hchain⟩

example : 0 < (nominalRect operation).widthUm := by decide +kernel

end OddOutline

end Custombuild.Cam
