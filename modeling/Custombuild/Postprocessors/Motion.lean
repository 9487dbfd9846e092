/-
  The motion rules of the production G-code validator: the checks that
  `_validate_and_round_trip_moves` makes on the coordinates of one body line, and the chain
  of these checks along a whole plan.  Source:
  `custombuild_postprocessors.production_parser`.
-/
import Custombuild.Cam.ProductionModel

namespace Custombuild.Postprocessors

open Custombuild.Lib Custombuild.Manufacturing Custombuild.Cam

/-- The arguments of `_validate_and_round_trip_moves` besides lines and program. -/
structure MotionLimits where
  setupWidthUm : Int
  setupHeightUm : Int
  stockThicknessUm : Int
  throughCutAllowanceUm : Int
  safeZUm : Int
  workZUm : Int
  machineXMinUm : Int
  machineXMaxUm : Int
  machineYMinUm : Int
  machineYMaxUm : Int
  machineZMinUm : Int
  machineZMaxUm : Int
  machineWcsX0Um : Int
  machineWcsY0Um : Int
  machineWcsZ0Um : Int
  expectedLengthOffsetXUm : Int
  expectedLengthOffsetYUm : Int
  expectedLengthOffsetZUm : Int

/-- Coordinates and feed of a motion. -/
structure Motion where
  xUm : Int
  yUm : Int
  zUm : Int
  feedUmMin : Option Int
deriving DecidableEq

/-- The motion that a planned move declares. -/
def plannedMotion (m : ProductionMove) : Motion := ⟨m.xUm, m.yUm, m.zUm, m.feedUmMin⟩

/-- A feed that is present and positive. -/
def positiveFeed : Option Int → Bool
  | some f => 0 < f
  | none => false

variable (lim : MotionLimits)

/-- The checks of one rapid, given the previous position. -/
def checkRapid (line : Nat) (previous : Int × Int × Int) (role : ProductionMoveRole)
    (m : Motion) : Except String Unit := do
  require (!(m.zUm < 0)) ("rapid motion below stock top at line " ++ toString line)
  let xyChanges : Bool := m.xUm ≠ previous.1 ∨ m.yUm ≠ previous.2.1
  require (!(xyChanges && (previous.2.2 < lim.safeZUm || m.zUm < lim.safeZUm)))
    ("rapid XY motion below safe Z at line " ++ toString line)
  require (!(m.zUm < lim.safeZUm) || role = .approach || role = .peckRetract)
    ("rapid below safe Z is not an explicit approach at line " ++ toString line)
  require (!(role = .retract && m.zUm ≠ lim.safeZUm))
    ("rapid retract must reach safe Z at line " ++ toString line)

/-- The motion rules for one body line. -/
def checkMotion (line : Nat) (previous : Int × Int × Int) (kind : ProductionMoveKind)
    (role : ProductionMoveRole) (m : Motion) : Except String Unit := do
  require (0 ≤ m.xUm && m.xUm ≤ lim.setupWidthUm && 0 ≤ m.yUm && m.yUm ≤ lim.setupHeightUm)
    ("motion leaves setup XY bounds at line " ++ toString line)
  require (!(m.zUm > lim.safeZUm ||
      m.zUm < -(lim.stockThicknessUm + lim.throughCutAllowanceUm)))
    ("motion leaves setup Z bounds at line " ++ toString line)
  require (!(lim.safeZUm + max 0 (-m.zUm) > lim.workZUm))
    ("motion exceeds machine Z travel at line " ++ toString line)
  let machineX := lim.machineWcsX0Um + m.xUm + lim.expectedLengthOffsetXUm
  let machineY := lim.machineWcsY0Um + m.yUm + lim.expectedLengthOffsetYUm
  let machineZ := lim.machineWcsZ0Um + m.zUm + lim.expectedLengthOffsetZUm
  require (lim.machineXMinUm ≤ machineX && machineX ≤ lim.machineXMaxUm
      && lim.machineYMinUm ≤ machineY && machineY ≤ lim.machineYMaxUm)
    ("motion leaves G43-transformed machine XY bounds at line " ++ toString line)
  require (lim.machineZMinUm ≤ machineZ && machineZ ≤ lim.machineZMaxUm)
    ("motion leaves G43-transformed machine Z bounds at line " ++ toString line)
  match kind with
  | .rapid => checkRapid lim line previous role m
  | .linear =>
    require (positiveFeed m.feedUmMin)
      ("feed motion lacks a positive feed at line " ++ toString line)

/-- The rule about the first planned move. -/
def checkFirstMove (moves : List ProductionMove) : Except String Unit :=
  require (match moves with
    | m :: _ => m.kind = .rapid && m.role = .position && m.zUm = lim.safeZUm
    | [] => false) "the first planned move must position at the established setup safe Z"

/-- The loop over a plan, `line` being the line number of its first move. -/
def checkMoves : Nat → Int × Int × Int → List ProductionMove → Except String Unit
  | _, _, [] => .ok ()
  | line, previous, m :: rest => do
    checkMotion lim line previous m.kind m.role (plannedMotion m)
    checkMoves (line + 1) (m.xUm, m.yUm, m.zUm) rest

/-- The motion rules of a plan as a proposition: what `checkMotion` demands of a move,
    given the position before it. -/
structure MotionRule (previous : Int × Int × Int) (m : ProductionMove) : Prop where
  in_stock : 0 ≤ m.xUm ∧ m.xUm ≤ lim.setupWidthUm ∧ 0 ≤ m.yUm ∧ m.yUm ≤ lim.setupHeightUm
  in_depth : -(lim.stockThicknessUm + lim.throughCutAllowanceUm) ≤ m.zUm ∧ m.zUm ≤ lim.safeZUm
  in_travel : lim.safeZUm + max 0 (-m.zUm) ≤ lim.workZUm
  in_machine_x : lim.machineXMinUm ≤ lim.machineWcsX0Um + m.xUm + lim.expectedLengthOffsetXUm ∧
    lim.machineWcsX0Um + m.xUm + lim.expectedLengthOffsetXUm ≤ lim.machineXMaxUm
  in_machine_y : lim.machineYMinUm ≤ lim.machineWcsY0Um + m.yUm + lim.expectedLengthOffsetYUm ∧
    lim.machineWcsY0Um + m.yUm + lim.expectedLengthOffsetYUm ≤ lim.machineYMaxUm
  in_machine_z : lim.machineZMinUm ≤ lim.machineWcsZ0Um + m.zUm + lim.expectedLengthOffsetZUm ∧
    lim.machineWcsZ0Um + m.zUm + lim.expectedLengthOffsetZUm ≤ lim.machineZMaxUm
  rapid : m.kind = .rapid → 0 ≤ m.zUm ∧
    ((m.xUm ≠ previous.1 ∨ m.yUm ≠ previous.2.1) →
      lim.safeZUm ≤ previous.2.2 ∧ m.zUm = lim.safeZUm) ∧
    (m.zUm < lim.safeZUm → m.role = .approach ∨ m.role = .peckRetract) ∧
    (m.role = .retract → m.zUm = lim.safeZUm)
  linear : m.kind = .linear → ∃ f, m.feedUmMin = some f ∧ 0 < f

/-- Every move of the list obeys the motion rules, each with the one before it. -/
def MotionRules : Int × Int × Int → List ProductionMove → Prop
  | _, [] => True
  | previous, m :: rest => MotionRule lim previous m ∧ MotionRules (m.xUm, m.yUm, m.zUm) rest

theorem checkMotion_eq_ok {line : Nat} {previous : Int × Int × Int} {m : ProductionMove} :
    checkMotion lim line previous m.kind m.role (plannedMotion m) = .ok () ↔
      MotionRule lim previous m := by
  constructor
  · intro h
    unfold plannedMotion checkMotion at h
    simp only [bind_eq_ok, require_eq_ok, Bool.and_eq_true,
      Bool.not_eq_true', Bool.or_eq_false_iff, decide_eq_true_eq, decide_eq_false_iff_not] at h
    obtain ⟨-, hstock, -, hdepth, -, htravel, -, hxy, -, hz, hkind⟩ := h
    refine ⟨by omega, by omega, by omega, by omega, by omega, by omega, ?_, ?_⟩
    · intro hk
      rw [hk] at hkind
      simp only [checkRapid, bind_eq_ok, require_eq_ok, Bool.and_eq_false_iff,
        Bool.not_eq_true', Bool.or_eq_false_iff, Bool.or_eq_true, decide_eq_true_eq,
        decide_eq_false_iff_not] at hkind
      obtain ⟨-, h1, -, h2, -, h3, h4⟩ := hkind
      refine ⟨by omega, fun hne => ?_, fun hlt => ?_, fun hr => ?_⟩
      · rcases h2 with h2 | h2
        · exact absurd hne h2
        · omega
      · rcases h3 with (h3 | h3) | h3
        · omega
        · exact .inl h3
        · exact .inr h3
      · rcases h4 with h4 | h4
        · exact absurd hr h4
        · simpa using h4
    · intro hk
      rw [hk] at hkind
      simp only [require_eq_ok] at hkind
      cases hf : m.feedUmMin with
      | none => rw [hf] at hkind; cases hkind
      | some f => exact ⟨f, rfl, by simpa [hf, positiveFeed] using hkind⟩
  · intro h
    obtain ⟨h1, h2, h3, h4, h5, h6, h7, h8⟩ := h
    unfold plannedMotion checkMotion
    simp only [bind_eq_ok, require_eq_ok, Bool.and_eq_true,
      Bool.not_eq_true', Bool.or_eq_false_iff, decide_eq_true_eq, decide_eq_false_iff_not]
    refine ⟨(), by omega, (), by omega, (), by omega, (), by omega, (), by omega, ?_⟩
    cases hk : m.kind with
    | rapid =>
      obtain ⟨r1, r2, r3, r4⟩ := h7 hk
      simp only [checkRapid, bind_eq_ok, require_eq_ok, Bool.and_eq_false_iff,
        Bool.not_eq_true', Bool.or_eq_false_iff, Bool.or_eq_true, decide_eq_true_eq,
        decide_eq_false_iff_not]
      refine ⟨(), by omega, (), ?_, (), ?_, ?_⟩
      · by_cases hne : m.xUm ≠ previous.1 ∨ m.yUm ≠ previous.2.1
        · have := r2 hne
          exact .inr (by omega)
        · exact .inl hne
      · by_cases hlt : m.zUm < lim.safeZUm
        · rcases r3 hlt with h | h
          · exact .inl (.inr h)
          · exact .inr h
        · exact .inl (.inl hlt)
      · by_cases hr : m.role = .retract
        · exact .inr (by simpa using r4 hr)
        · exact .inl hr
    | linear =>
      obtain ⟨f, hf, hpos⟩ := h8 hk
      simp only [require_eq_ok, hf, positiveFeed, decide_eq_true_eq]
      exact hpos

theorem checkMoves_eq_ok {line : Nat} {previous : Int × Int × Int} {moves : List ProductionMove} :
    checkMoves lim line previous moves = .ok () ↔ MotionRules lim previous moves := by
  induction moves generalizing line previous with
  | nil => simp [checkMoves, MotionRules]
  | cons m rest ih =>
    rw [checkMoves, bind_eq_ok, MotionRules]
    constructor
    · rintro ⟨⟨⟩, hm, hrest⟩
      exact ⟨(checkMotion_eq_ok lim).mp hm, ih.mp hrest⟩
    · rintro ⟨hm, hrest⟩
      exact ⟨(), (checkMotion_eq_ok lim).mpr hm, ih.mpr hrest⟩

/-- The position after a list of moves. -/
def endPosition (previous : Int × Int × Int) (moves : List ProductionMove) : Int × Int × Int :=
  moves.foldl (fun _ m => (m.xUm, m.yUm, m.zUm)) previous

variable {lim}

theorem motionRules_append {previous : Int × Int × Int} {k l : List ProductionMove}
    (hk : MotionRules lim previous k) (hl : MotionRules lim (endPosition previous k) l) :
    MotionRules lim previous (k ++ l) := by
  induction k generalizing previous with
  | nil => exact hl
  | cons m k ih => exact ⟨hk.1, ih hk.2 hl⟩

theorem endPosition_append {previous : Int × Int × Int} {k l : List ProductionMove} :
    endPosition previous (k ++ l) = endPosition (endPosition previous k) l := List.foldl_append

end Custombuild.Postprocessors
