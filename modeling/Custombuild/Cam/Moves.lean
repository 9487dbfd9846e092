/-
  What a run of the builder appends.  `expand` lists the moves of a sequence of builder calls;
  a run that returns appends exactly these, and every one of them has passed the builder's
  checks (`Checked`).  The tool is either retracted or down at an XY position (`ToolState`);
  `enter` says which calls are made in which state.
-/
import Custombuild.Cam.Planner
import Custombuild.Lib.Follow

namespace Custombuild.Cam

open Custombuild.Lib Custombuild.Manufacturing

/-! ## The moves of the builder calls -/

/-- The moves of a builder call after `n` moves. -/
def Command.moves (op : CAMOperation) (safeZUm : Int) (n : Nat) : Command → List ProductionMove
  | .position pass x y approachZ =>
    [⟨n + 1, op.operationId, pass, .rapid, .position, x, y, safeZUm, none⟩,
      ⟨n + 2, op.operationId, pass, .rapid, .approach, x, y, approachZ, none⟩]
  | .cut pass x y z feed role =>
    [⟨n + 1, op.operationId, pass, .linear, role, x, y, z, some feed⟩]
  | .peckRetract pass x y z =>
    [⟨n + 1, op.operationId, pass, .rapid, .peckRetract, x, y, z, none⟩]
  | .retract pass x y =>
    [⟨n + 1, op.operationId, pass, .rapid, .retract, x, y, safeZUm, none⟩]

/-- The moves of a list of builder calls after `n` moves. -/
def expand (op : CAMOperation) (safeZUm : Int) : Nat → List Command → List ProductionMove
  | _, [] => []
  | n, c :: cs => c.moves op safeZUm n ++ expand op safeZUm (n + (c.moves op safeZUm n).length) cs

variable {op : CAMOperation} {safeZUm : Int}

theorem Command.moves_operationId {n : Nat} {c : Command} {m : ProductionMove}
    (h : m ∈ c.moves op safeZUm n) : m.operationId = op.operationId := by
  cases c <;> simp only [Command.moves, List.mem_cons, List.not_mem_nil, or_false] at h
  case position => rcases h with rfl | rfl <;> rfl
  all_goals rw [h]

theorem mem_expand {n : Nat} {cs : List Command} {m : ProductionMove}
    (h : m ∈ expand op safeZUm n cs) : ∃ c ∈ cs, ∃ k, m ∈ c.moves op safeZUm k := by
  induction cs generalizing n with
  | nil => cases h
  | cons c cs ih =>
    rcases List.mem_append.mp h with h | h
    · exact ⟨c, List.mem_cons_self, n, h⟩
    · obtain ⟨c', hc', k, hk⟩ := ih h
      exact ⟨c', List.mem_cons_of_mem _ hc', k, hk⟩

theorem moves_mem_expand {n : Nat} {cs : List Command} {c : Command} (hc : c ∈ cs) :
    ∃ k, ∀ m ∈ c.moves op safeZUm k, m ∈ expand op safeZUm n cs := by
  induction cs generalizing n with
  | nil => cases hc
  | cons c' cs ih =>
    rcases List.mem_cons.mp hc with rfl | hc
    · exact ⟨n, fun m hm => List.mem_append.mpr (.inl hm)⟩
    · obtain ⟨k, hk⟩ := ih (n := n + (c'.moves op safeZUm n).length) hc
      exact ⟨k, fun m hm => List.mem_append.mpr (.inr (hk m hm))⟩

theorem expand_operationId {n : Nat} {cs : List Command} {m : ProductionMove}
    (h : m ∈ expand op safeZUm n cs) : m.operationId = op.operationId := by
  obtain ⟨c, -, k, hk⟩ := mem_expand h
  exact Command.moves_operationId hk

/-! ## Checks of the builder -/

/-- The checks of `_ProgramBuilder` on a move that follows `previous`. -/
structure MoveChecked (b : ProgramBuilder) (op : CAMOperation) (recipe : CuttingRecipe)
    (previous : Option ProductionMove) (m : ProductionMove) : Prop where
  wf : m.WellFormed
  machine : withinMachine b.context (machineEndpoint b.setup b.tool m) = true
  stock : m.role = .position → requirePointInStock b.setup m.xUm m.yUm op.operationId = .ok ()
  clear : m.kind = .linear → ∃ p ∈ previous,
    requireCutSegmentClear b.setup b.tool (p.xUm, p.yUm) (m.xUm, m.yUm) recipe.processAccuracyUm
      op b.partOutlines = .ok ()

/-- Every move of the list has been checked against its predecessor. -/
def Checked (b : ProgramBuilder) (op : CAMOperation) (recipe : CuttingRecipe) :
    Option ProductionMove → List ProductionMove → Prop
  | _, [] => True
  | previous, m :: rest => MoveChecked b op recipe previous m ∧ Checked b op recipe (some m) rest

variable {b : ProgramBuilder} {recipe : CuttingRecipe}

theorem checked_append {previous : Option ProductionMove} {k l : List ProductionMove} :
    Checked b op recipe previous (k ++ l) ↔
      Checked b op recipe previous k ∧ Checked b op recipe (k.getLast?.or previous) l := by
  induction k generalizing previous with
  | nil => simp [Checked]
  | cons m k ih =>
    rw [List.cons_append, Checked, Checked, ih, and_assoc]
    cases k with
    | nil => simp
    | cons m' k => rw [List.getLast?_cons_cons, List.getLast?_eq_some_getLast (by simp)]; simp

theorem Checked.mem {previous : Option ProductionMove} {l : List ProductionMove}
    (h : Checked b op recipe previous l) {m : ProductionMove} (hm : m ∈ l) :
    m.WellFormed ∧ withinMachine b.context (machineEndpoint b.setup b.tool m) = true := by
  induction l generalizing previous with
  | nil => cases hm
  | cons a l ih =>
    rcases List.mem_cons.mp hm with rfl | hm
    · exact ⟨h.1.wf, h.1.machine⟩
    · exact ih h.2 hm

theorem add_eq_ok {moves moves' : List ProductionMove} {pass : Nat} {kind : ProductionMoveKind}
    {role : ProductionMoveRole} {x y z : Int} {feed : Option Int}
    (h : b.add op moves pass kind role x y z feed = .ok moves') :
    ∃ m : ProductionMove, m = ⟨moves.length + 1, op.operationId, pass, kind, role, x, y, z, feed⟩ ∧
      moves' = moves ++ [m] ∧ m.WellFormed ∧
      withinMachine b.context (machineEndpoint b.setup b.tool m) = true := by
  unfold ProgramBuilder.add at h
  simp only [bind_eq_ok, require_eq_ok, decide_eq_true_eq] at h
  obtain ⟨-, hwf, -, hmachine, hret⟩ := h
  cases hret
  exact ⟨_, rfl, rfl, hwf, hmachine⟩

/-- A call that returns appends its moves, all checked. -/
theorem exec_eq_ok {c : Command} {moves moves' : List ProductionMove}
    (h : b.exec op recipe moves c = .ok moves') :
    moves' = moves ++ c.moves op b.setup.safeZUm moves.length ∧
      Checked b op recipe moves.getLast? (c.moves op b.setup.safeZUm moves.length) := by
  cases c with
  | position pass x y approachZ =>
    simp only [ProgramBuilder.exec, bind_eq_ok] at h
    obtain ⟨_, hstock, mid, hfirst, hsecond⟩ := h
    obtain ⟨m, rfl, rfl, hwf, hmachine⟩ := add_eq_ok hfirst
    obtain ⟨m', rfl, rfl, hwf', hmachine'⟩ := add_eq_ok hsecond
    rw [List.length_append] at hwf' hmachine' ⊢
    refine ⟨by simp [Command.moves], ⟨hwf, hmachine, fun _ => hstock, ?_⟩,
      ⟨hwf', hmachine', ?_, ?_⟩, trivial⟩
    · intro hk
      cases hk
    · intro hk
      cases hk
    · intro hk
      cases hk
  | cut pass x y z feed role =>
    simp only [ProgramBuilder.exec, bind_eq_ok, demand_eq_ok] at h
    obtain ⟨previous, hprevious, _, hclear, hadd⟩ := h
    obtain ⟨m, rfl, rfl, hwf, hmachine⟩ := add_eq_ok hadd
    refine ⟨rfl, ⟨hwf, hmachine, ?_, fun _ => ⟨previous, hprevious, hclear⟩⟩, trivial⟩
    intro hrole
    exact absurd hrole hwf.2.2.2.2.1
  | peckRetract pass x y z =>
    obtain ⟨m, rfl, rfl, hwf, hmachine⟩ := add_eq_ok h
    refine ⟨rfl, ⟨hwf, hmachine, ?_, ?_⟩, trivial⟩
    · intro hk
      cases hk
    · intro hk
      cases hk
  | retract pass x y =>
    obtain ⟨m, rfl, rfl, hwf, hmachine⟩ := add_eq_ok h
    refine ⟨rfl, ⟨hwf, hmachine, ?_, ?_⟩, trivial⟩
    · intro hk
      cases hk
    · intro hk
      cases hk

/-- A run of the builder that returns appends the expansion of its calls, all checked. -/
theorem execCommands_eq_ok {cs : List Command} {moves moves' : List ProductionMove}
    (h : b.execCommands op recipe cs moves = .ok moves') :
    moves' = moves ++ expand op b.setup.safeZUm moves.length cs ∧
      Checked b op recipe moves.getLast? (expand op b.setup.safeZUm moves.length cs) := by
  induction cs generalizing moves with
  | nil =>
    cases h
    exact ⟨by simp [expand], trivial⟩
  | cons c cs ih =>
    rw [ProgramBuilder.execCommands, bind_eq_ok] at h
    obtain ⟨mid, hc, hcs⟩ := h
    obtain ⟨rfl, hchecked⟩ := exec_eq_ok hc
    obtain ⟨rfl, hrest⟩ := ih hcs
    rw [List.length_append] at hrest ⊢
    refine ⟨by rw [expand, List.append_assoc], ?_⟩
    rw [expand, checked_append]
    refine ⟨hchecked, ?_⟩
    rwa [List.getLast?_append] at hrest

end Custombuild.Cam
