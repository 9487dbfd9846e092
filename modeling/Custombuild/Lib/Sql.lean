/-
  SQL conditions.  A condition is true, false or NULL (`none`); `IF` takes its branch only
  when the condition is true, so a check whose condition is NULL lets its input pass.
-/
import Custombuild.Lib.Checked

namespace Custombuild.Lib.Sql

variable {ε α : Type}

/-- `OR`: true as soon as one operand is, else NULL as soon as one operand is. -/
def or : Option Bool → Option Bool → Option Bool
  | some true, _ => some true
  | _, some true => some true
  | some false, b => b
  | none, _ => none

def orAll (conditions : List (Option Bool)) : Option Bool := conditions.foldr or (some false)

/-- `NOT`. -/
def not (condition : Option Bool) : Option Bool := condition.map Bool.not

/-- A comparison is NULL when one side is. -/
def strict (test : α → α → Bool) (a b : Option α) : Option Bool :=
  a.bind fun a => b.map fun b => test a b

@[simp] theorem strict_some (test : α → α → Bool) (a b : α) :
    strict test (some a) (some b) = some (test a b) := rfl

/-- `<>`. -/
def ne [BEq α] (a b : Option α) : Option Bool := strict (fun a b => a != b) a b

/-- `IS NULL`. -/
def isNull (a : Option α) : Option Bool := some a.isNone

/-- `IS DISTINCT FROM`, by a given equality: never NULL. -/
def distinctBy (same : α → α → Bool) : Option α → Option α → Bool
  | some a, some b => !same a b
  | none, none => false
  | _, _ => true

theorem or_eq_true {a b : Option Bool} : or a b = some true ↔ a = some true ∨ b = some true := by
  rcases a with _ | _ | _ <;> rcases b with _ | _ | _ <;> simp [or]

theorem orAll_eq_true {conditions : List (Option Bool)} :
    orAll conditions = some true ↔ some true ∈ conditions := by
  induction conditions with
  | nil => simp [orAll]
  | cons c conditions ih =>
    rw [orAll, List.foldr_cons, or_eq_true, ← orAll, ih, List.mem_cons, eq_comm]

/-- `IF condition THEN RAISE`. -/
def refuse (condition : Option Bool) (err : ε) : Except ε Unit :=
  if condition = some true then .error err else .ok ()

@[simp] theorem refuse_eq_ok {condition : Option Bool} {err : ε} {u : Unit} :
    refuse condition err = .ok u ↔ condition ≠ some true := by
  unfold refuse
  split <;> simp_all

theorem refuse_orAll_eq_ok {conditions : List (Option Bool)} {err : ε} {u : Unit} :
    refuse (orAll conditions) err = .ok u ↔ ∀ c ∈ conditions, c ≠ some true := by
  rw [refuse_eq_ok, Ne, orAll_eq_true]
  constructor
  · intro h c hc hctrue
    exact h (hctrue ▸ hc)
  · intro h hmem
    exact h _ hmem rfl

/-- A comparison that is not true is NULL or finds the two sides equal. -/
theorem ne_ne_true [BEq α] [LawfulBEq α] {a : Option α} {b : α} :
    ne a (some b) ≠ some true ↔ a = none ∨ a = some b := by
  cases a <;> simp [ne, strict]

end Custombuild.Lib.Sql
