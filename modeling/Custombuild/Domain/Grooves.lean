/-
  The grooves of a bookcase: every pair of joined panels has a plan of a dado, and a dado never
  joins panels of other kinds.
-/
import Custombuild.Lib.Partition
import Custombuild.Domain.Compiled

namespace Custombuild.Domain

open Custombuild.Lib BookcaseParameters

/-! ## Parts of a role -/

theorem getElem?_of_forall₂ {α β : Type} {R : α → β → Prop} {l : List α} {l' : List β}
    (h : List.Forall₂ R l l') {i : Nat} {a : α} (ha : l[i]? = some a) :
    ∃ b, l'[i]? = some b ∧ R a b := by
  induction h generalizing i with
  | nil => simp at ha
  | cons hab _ ih =>
    cases i with
    | zero =>
      simp only [List.getElem?_cons_zero, Option.some.injEq] at ha ⊢
      subst ha
      exact ⟨_, rfl, hab⟩
    | succ i =>
      simp only [List.getElem?_cons_succ] at ha ⊢
      exact ih ha

theorem filter_role_eq_nil {role : PartRole} {plans : List PartPlan}
    (h : ∀ plan ∈ plans, plan.role ≠ role) : plans.filter (fun plan => plan.role == role) = [] := by
  rw [List.filter_eq_nil_iff]
  intro plan hplan
  simpa using h plan hplan

theorem filter_role_eq_self {role : PartRole} {plans : List PartPlan}
    (h : ∀ plan ∈ plans, plan.role = role) :
    plans.filter (fun plan => plan.role == role) = plans := by
  rw [List.filter_eq_self]
  intro plan hplan
  simpa using h plan hplan

section Roles

variable (p : BookcaseParameters) (capture : Int)

theorem dividerPlans_role : ∀ plan ∈ dividerPlans p, plan.role = .divider := by
  intro plan hplan
  obtain ⟨bay, -, rfl⟩ := List.mem_map.mp hplan
  rfl

theorem shelfPlans_role : ∀ plan ∈ shelfPlans p, plan.role = .shelf := by
  intro plan hplan
  obtain ⟨row, -, hplan⟩ := List.mem_flatMap.mp hplan
  obtain ⟨bay, -, rfl⟩ := List.mem_map.mp hplan
  rfl

theorem basePlans_role : ∀ plan ∈ basePlans p,
    plan.role = .baseSide ∨ plan.role = .baseBottom ∨ plan.role = .cabinetFront := by
  intro plan hplan
  unfold basePlans at hplan
  split at hplan
  · rcases List.mem_append.mp hplan with h | h
    · obtain ⟨cabinet, -, rfl⟩ := List.mem_map.mp h
      exact Or.inl rfl
    · obtain ⟨cabinet, -, h⟩ := List.mem_flatMap.mp h
      rcases List.mem_cons.mp h with rfl | h
      · exact Or.inr (Or.inl rfl)
      · rw [List.mem_singleton.mp h]
        exact Or.inr (Or.inr rfl)
  · exact absurd hplan List.not_mem_nil

theorem backPlans_role : ∀ plan ∈ backPlans p capture, plan.role = .back := by
  intro plan hplan
  unfold backPlans at hplan
  split at hplan
  · rw [List.mem_singleton.mp hplan]
    rfl
  · obtain ⟨bay, -, rfl⟩ := List.mem_map.mp hplan
    rfl
  · exact absurd hplan List.not_mem_nil

theorem plinthPlans_role : ∀ plan ∈ plinthPlans p, plan.role = .plinth := by
  intro plan hplan
  unfold plinthPlans at hplan
  split at hplan
  · rw [List.mem_singleton.mp hplan]
    rfl
  · exact absurd hplan List.not_mem_nil

/-- The plans of a role other than the carcass, list by list. -/
theorem filter_partPlans (role : PartRole)
    (hrole : role ≠ .leftSide ∧ role ≠ .rightSide ∧ role ≠ .bottom ∧ role ≠ .top) :
    (partPlans p capture).filter (fun plan => plan.role == role) =
      (dividerPlans p).filter (fun plan => plan.role == role) ++
      (shelfPlans p).filter (fun plan => plan.role == role) ++
      (basePlans p).filter (fun plan => plan.role == role) ++
      (backPlans p capture).filter (fun plan => plan.role == role) ++
      (plinthPlans p).filter (fun plan => plan.role == role) := by
  have hcarcass : [leftSidePlan p, rightSidePlan p, bottomPlan p, topPlan p].filter
      (fun plan => plan.role == role) = [] := by
    refine filter_role_eq_nil fun plan hplan => ?_
    simp only [List.mem_cons, List.not_mem_nil, or_false] at hplan
    rcases hplan with rfl | rfl | rfl | rfl
    · exact hrole.1.symm
    · exact hrole.2.1.symm
    · exact hrole.2.2.1.symm
    · exact hrole.2.2.2.symm
  simp only [partPlans, List.filter_append, hcarcass, List.nil_append]

theorem filter_divider :
    (partPlans p capture).filter (fun plan => plan.role == .divider) = dividerPlans p := by
  rw [filter_partPlans p capture .divider (by decide),
    filter_role_eq_self (dividerPlans_role p),
    filter_role_eq_nil fun plan h => by rw [shelfPlans_role p plan h]; decide,
    filter_role_eq_nil fun plan h => by
      rcases basePlans_role p plan h with h | h | h <;> rw [h] <;> decide,
    filter_role_eq_nil fun plan h => by rw [backPlans_role p capture plan h]; decide,
    filter_role_eq_nil fun plan h => by rw [plinthPlans_role p plan h]; decide]
  simp

theorem filter_back :
    (partPlans p capture).filter (fun plan => plan.role == .back) = backPlans p capture := by
  rw [filter_partPlans p capture .back (by decide),
    filter_role_eq_nil fun plan h => by rw [dividerPlans_role p plan h]; decide,
    filter_role_eq_nil fun plan h => by rw [shelfPlans_role p plan h]; decide,
    filter_role_eq_nil fun plan h => by
      rcases basePlans_role p plan h with h | h | h <;> rw [h] <;> decide,
    filter_role_eq_self (backPlans_role p capture),
    filter_role_eq_nil fun plan h => by rw [plinthPlans_role p plan h]; decide]
  simp

theorem filter_baseBottom (hbase : p.baseCabinetCount ≠ 0) :
    (partPlans p capture).filter (fun plan => plan.role == .baseBottom) =
      p.cabinets.map (baseBottomPlan p) := by
  have hbasePlans : (basePlans p).filter (fun plan => plan.role == .baseBottom) =
      p.cabinets.map (baseBottomPlan p) := by
    rw [basePlans, if_pos hbase, List.filter_append,
      filter_role_eq_nil fun plan h => by
        obtain ⟨cabinet, -, rfl⟩ := List.mem_map.mp h
        simp [baseSidePlan],
      List.nil_append, List.filter_flatMap, ← List.flatMap_singleton' (p.cabinets.map _),
      List.flatMap_map]
    rfl
  rw [filter_partPlans p capture .baseBottom (by decide),
    filter_role_eq_nil fun plan h => by rw [dividerPlans_role p plan h]; decide,
    filter_role_eq_nil fun plan h => by rw [shelfPlans_role p plan h]; decide, hbasePlans,
    filter_role_eq_nil fun plan h => by rw [backPlans_role p capture plan h]; decide,
    filter_role_eq_nil fun plan h => by rw [plinthPlans_role p plan h]; decide]
  simp

end Roles

/-- Parts of a role stand in the order of their plans. -/
theorem partsOfRole_fits {ident : Identity} {spec : BookcaseDesignSpec} {plans : List PartPlan}
    {parts : List PartInstance} (h : List.Forall₂ (Fits ident spec) plans parts)
    {role : PartRole} {selected : List PartPlan}
    (hselected : plans.filter (fun plan => plan.role == role) = selected)
    (hsorted : selected.Pairwise fun a b => a.index ≤ b.index) :
    List.Forall₂ (Fits ident spec) selected (partsOfRole parts role) := by
  have hfilter : List.Forall₂ (Fits ident spec) selected
      (parts.filter fun part => part.role == role) := by
    rw [← hselected]
    refine List.rel_filter ?_ h
    intro plan part hfits
    simp [hfits.role]
  have hindex : (parts.filter fun part => part.role == role).Pairwise fun a b =>
      a.instanceIndex ≤ b.instanceIndex := by
    have hmap : List.Forall₂ (· = ·) (selected.map PartPlan.index)
        ((parts.filter fun part => part.role == role).map PartInstance.instanceIndex) := by
      rw [List.forall₂_map_left_iff, List.forall₂_map_right_iff]
      exact hfilter.imp fun _ _ hfits => hfits.instanceIndex.symm
    rw [List.forall₂_eq_eq_eq] at hmap
    have hplans : (selected.map PartPlan.index).Pairwise (· ≤ ·) := List.pairwise_map.mpr hsorted
    rw [hmap] at hplans
    exact List.pairwise_map.mp hplans
  rw [partsOfRole, sortBy_eq_self hindex]
  exact hfilter

/-! ## The plans of the joints -/

/-- The stages of `jointPlans`. -/
structure Joinery (p : BookcaseParameters) (parts : List PartInstance) (plans : List JointPlan) where
  left : PartInstance
  right : PartInstance
  bottom : PartInstance
  top : PartInstance
  shelves : List (List JointPlan)
  base : List JointPlan
  back : List JointPlan
  left_eq : partByKey parts "left-side" = .ok left
  right_eq : partByKey parts "right-side" = .ok right
  bottom_eq : partByKey parts "bottom" = .ok bottom
  top_eq : partByKey parts "top" = .ok top
  shelves_eq : collect (shelfJoints p (left :: partsOfRole parts .divider ++ [right]))
    (partsOfRole parts .shelf) = .ok shelves
  base_eq : baseJoints parts left right bottom = .ok base
  back_eq : backJoints p parts (left :: partsOfRole parts .divider ++ [right]) top bottom = .ok back
  plans_eq : plans = carcassJoints p bottom ++
    (partsOfRole parts .divider).flatMap (dividerJoints bottom top) ++ shelves.flatten ++ base ++
    back ++ plinthJoints p parts

theorem joinery_of_plans {p : BookcaseParameters} {parts : List PartInstance}
    {plans : List JointPlan} (h : jointPlans p parts = .ok plans) :
    Nonempty (Joinery p parts plans) := by
  simp only [jointPlans, bind_eq_ok] at h
  obtain ⟨left, hleft, right, hright, bottom, hbottom, top, htop, shelves, hshelves, base, hbase,
    back, hback, hplans⟩ := h
  cases hplans
  exact ⟨⟨left, right, bottom, top, shelves, base, back, hleft, hright, hbottom, htop, hshelves,
    hbase, hback, rfl⟩⟩

/-- The plans, stage by stage. -/
theorem Joinery.mem_plans {p : BookcaseParameters} {parts : List PartInstance}
    {plans : List JointPlan} (j : Joinery p parts plans) {plan : JointPlan} :
    plan ∈ plans ↔ plan ∈ carcassJoints p j.bottom ∨
      plan ∈ (partsOfRole parts .divider).flatMap (dividerJoints j.bottom j.top) ∨
      plan ∈ j.shelves.flatten ∨ plan ∈ j.base ∨ plan ∈ j.back ∨ plan ∈ plinthJoints p parts := by
  rw [iff_of_eq (congrArg (fun list : List JointPlan => plan ∈ list) j.plans_eq)]
  simp only [List.mem_append, or_assoc]

/-- A dado between the parts of two keys is planned. -/
def Grooved (plans : List JointPlan) (first second : String) : Prop :=
  ∃ plan ∈ plans, plan.kind = .dado ∧ plan.firstKey = first ∧ plan.secondKey = second

theorem Grooved.mono {plans plans' : List JointPlan} {first second : String}
    (h : Grooved plans first second) (hsub : ∀ plan ∈ plans, plan ∈ plans') :
    Grooved plans' first second := by
  obtain ⟨plan, hplan, hrest⟩ := h
  exact ⟨plan, hsub plan hplan, hrest⟩

theorem baysOf_getElem? {t : Int} {widths : List Int} {bay : Bay} (h : bay ∈ baysOf t widths) :
    (baysOf t widths)[bay.index]? = some bay := by
  obtain ⟨k, hk, rfl⟩ := List.mem_iff_getElem.mp h
  have hindex := congrArg (fun l : List Nat => l[k]?) (map_index_baysOf t widths)
  rw [length_baysOf] at hk
  simp only [List.getElem?_map, List.getElem?_range hk, Option.map_eq_some_iff] at hindex
  obtain ⟨bay, hbay, hindex⟩ := hindex
  have heq : (baysOf t widths)[k] = bay := by
    rw [List.getElem?_eq_getElem (by rwa [length_baysOf])] at hbay
    exact Option.some.inj hbay
  rw [heq, hindex, hbay]

theorem baysOf_index_pairwise (t : Int) (widths : List Int) :
    (baysOf t widths).Pairwise fun a b => a.index ≤ b.index := by
  have hmap : ((baysOf t widths).map Bay.index).Pairwise (· ≤ ·) := by
    rw [map_index_baysOf]
    exact List.pairwise_le_range
  exact List.pairwise_map.mp hmap

section Planned

variable {hashing : Hashing} {spec : BookcaseDesignSpec} {design : DesignResult}
variable (c : Compiled hashing spec design) (j : Joinery spec.parameters c.parts c.plans)

theorem dividers_fit : List.Forall₂ (Fits hashing.toIdentity spec) (dividerPlans spec.parameters)
    (partsOfRole c.parts .divider) := by
  refine partsOfRole_fits c.fits (filter_divider _ _) ?_
  refine List.pairwise_map.mpr ?_
  exact (baysOf_index_pairwise _ _).sublist (List.take_sublist _ _)

theorem divider_of_bay {bay : Bay} (h : (Panel.divider bay).Present spec.parameters) :
    ∃ part, (partsOfRole c.parts .divider)[bay.index]? = some part ∧
      Fits hashing.toIdentity spec (dividerPlan spec.parameters bay) part := by
  refine getElem?_of_forall₂ (dividers_fit c) ?_
  rw [dividerPlans, List.getElem?_map, List.getElem?_take_of_lt h.2]
  have hget : spec.parameters.bays[bay.index]? = some bay := baysOf_getElem? h.1
  rw [hget]
  rfl

theorem length_dividers :
    (partsOfRole c.parts .divider).length = spec.parameters.verticalDividerCount := by
  rw [← (dividers_fit c).length_eq, dividerPlans, List.length_map, List.length_take, length_bays]
  omega

/-- The supports of the bays from left to right. -/
def Joinery.supports {p : BookcaseParameters} {parts : List PartInstance} {plans : List JointPlan}
    (j : Joinery p parts plans) : List PartInstance :=
  j.left :: partsOfRole parts .divider ++ [j.right]

theorem supports_zero : j.supports[0]? = some j.left := rfl

theorem supports_divider {bay : Bay} (h : (Panel.divider bay).Present spec.parameters) :
    ∃ part, j.supports[bay.index + 1]? = some part ∧
      Fits hashing.toIdentity spec (dividerPlan spec.parameters bay) part := by
  obtain ⟨part, hpart, hfits⟩ := divider_of_bay c h
  refine ⟨part, ?_, hfits⟩
  have hlt : bay.index < (partsOfRole c.parts .divider).length := by
    rw [length_dividers]
    exact h.2
  simp only [Joinery.supports, List.cons_append, List.getElem?_cons_succ]
  rw [List.getElem?_append_left hlt, hpart]

theorem supports_last : j.supports[spec.parameters.verticalDividerCount + 1]? = some j.right := by
  simp only [Joinery.supports, List.cons_append, List.getElem?_cons_succ]
  rw [List.getElem?_append_right (by rw [length_dividers]), length_dividers]
  simp

theorem left_fits : Fits hashing.toIdentity spec (leftSidePlan spec.parameters) j.left :=
  c.fits_of_key .leftSide trivial j.left_eq rfl

theorem right_fits : Fits hashing.toIdentity spec (rightSidePlan spec.parameters) j.right :=
  c.fits_of_key .rightSide trivial j.right_eq rfl

theorem bottom_fits : Fits hashing.toIdentity spec (bottomPlan spec.parameters) j.bottom :=
  c.fits_of_key .bottom trivial j.bottom_eq rfl

theorem top_fits : Fits hashing.toIdentity spec (topPlan spec.parameters) j.top :=
  c.fits_of_key .top trivial j.top_eq rfl

/-! The dados of the carcass and its dividers. -/

include j

theorem grooved_carcass (hdado : spec.parameters.jointSystem = .dado) {side panel : String}
    (hside : side = "left-side" ∨ side = "right-side") (hpanel : panel = "bottom" ∨ panel = "top") :
    Grooved c.plans side panel := by
  have hsub : ∀ plan ∈ carcassJoints spec.parameters j.bottom, plan ∈ c.plans := by
    intro plan hplan
    rw [j.mem_plans]
    tauto
  refine Grooved.mono ?_ hsub
  rcases hside with rfl | rfl <;> rcases hpanel with rfl | rfl
  all_goals simp [Grooved, carcassJoints, hdado]

theorem grooved_divider {bay : Bay} (h : (Panel.divider bay).Present spec.parameters)
    {panel : String} (hpanel : panel = "bottom" ∨ panel = "top") :
    Grooved c.plans panel (dividerPlan spec.parameters bay).key := by
  obtain ⟨part, hpart, hfits⟩ := divider_of_bay c h
  have hsub : ∀ plan ∈ dividerJoints j.bottom j.top part, plan ∈ c.plans := by
    intro plan hplan
    have hmem : plan ∈ (partsOfRole c.parts .divider).flatMap (dividerJoints j.bottom j.top) :=
      List.mem_flatMap.mpr ⟨part, List.mem_of_getElem? hpart, hplan⟩
    rw [j.mem_plans]
    tauto
  refine Grooved.mono ?_ hsub
  rw [← hfits.semanticKey]
  rcases hpanel with rfl | rfl
  all_goals simp [Grooved, dividerJoints]

/-! The dados of a fixed shelf. -/

theorem grooved_shelf (hdado : spec.parameters.jointSystem = .dado)
    (hfixed : spec.parameters.shelfMount = .fixed) {row : Nat × Int} {bay : Bay}
    (hlt : bay.index < spec.parameters.verticalDividerCount + 1)
    (h : (Panel.shelf row bay).Present spec.parameters) {k : Nat} {support : PartInstance}
    (hk : k = bay.index ∨ k = bay.index + 1) (hsupport : j.supports[k]? = some support) :
    Grooved c.plans support.semanticKey (shelfPlan spec.parameters row bay).key := by
  obtain ⟨shelf, hshelf, hfits⟩ := c.exists_part _ h
  have hrole : shelf ∈ partsOfRole c.parts .shelf := by
    refine mem_sortBy.mpr (List.mem_filter.mpr ⟨hshelf, ?_⟩)
    rw [hfits.role]
    rfl
  obtain ⟨plans, hplans, hjoints⟩ := collect_mem j.shelves_eq hrole
  have hsub : ∀ plan ∈ plans, plan ∈ c.plans := by
    intro plan hplan
    have hmem : plan ∈ j.shelves.flatten := List.mem_flatten.mpr ⟨plans, hplans, hplan⟩
    rw [j.mem_plans]
    tauto
  have hindex : shelf.instanceIndex = row.1 * spec.parameters.bays.length + bay.index :=
    hfits.instanceIndex
  have hbay : shelf.instanceIndex % (spec.parameters.verticalDividerCount + 1) = bay.index := by
    rw [hindex, length_bays, Nat.mul_add_mod_self_right, Nat.mod_eq_of_lt hlt]
  simp only [shelfJoints, bind_eq_ok, demand_eq_ok, hbay] at hjoints
  obtain ⟨left, hleft, right, hright, hresult⟩ := hjoints
  cases hresult
  refine Grooved.mono ?_ hsub
  have hkey : shelf.semanticKey = (shelfPlan spec.parameters row bay).key := hfits.semanticKey
  rw [← hkey]
  rcases hk with rfl | rfl
  · have : support = left := by
      have heq := hsupport.symm.trans hleft
      exact Option.some.inj heq
    simp [Grooved, hdado, hfixed, this]
  · have : support = right := by
      have heq := hsupport.symm.trans hright
      exact Option.some.inj heq
    simp [Grooved, hdado, hfixed, this]

/-! The dados of the cabinets. -/

omit j in
theorem baseBottoms_fit (hbase : spec.parameters.baseCabinetCount ≠ 0) :
    List.Forall₂ (Fits hashing.toIdentity spec)
      (spec.parameters.cabinets.map (baseBottomPlan spec.parameters))
      (partsOfRole c.parts .baseBottom) := by
  refine partsOfRole_fits c.fits (filter_baseBottom _ _ hbase) ?_
  exact List.pairwise_map.mpr (baysOf_index_pairwise _ _)

omit j in
theorem length_baseBottoms (hbase : spec.parameters.baseCabinetCount ≠ 0) :
    (partsOfRole c.parts .baseBottom).length = spec.parameters.baseCabinetCount := by
  rw [← (baseBottoms_fit c hbase).length_eq, List.length_map, cabinets, length_baysOf,
    length_baseOpenings hbase]

/-- The supports of a base bottom. -/
theorem grooved_baseBottom {cabinet : Bay}
    (h : (Panel.baseBottom cabinet).Present spec.parameters) {support : PartInstance}
    (hsupport : cabinetSupport c.parts (cabinet.index = 0) j.left cabinet.index = .ok support ∨
      cabinetSupport c.parts (cabinet.index + 1 = spec.parameters.baseCabinetCount) j.right
        (cabinet.index + 1) = .ok support) :
    Grooved c.plans support.semanticKey (baseBottomPlan spec.parameters cabinet).key := by
  have hget : (spec.parameters.cabinets.map (baseBottomPlan spec.parameters))[cabinet.index]? =
      some (baseBottomPlan spec.parameters cabinet) := by
    have hcabinet : spec.parameters.cabinets[cabinet.index]? = some cabinet := baysOf_getElem? h.2
    rw [List.getElem?_map, hcabinet]
    rfl
  obtain ⟨part, hpart, hfits⟩ := getElem?_of_forall₂ (baseBottoms_fit c h.1) hget
  have hentry : (part, cabinet.index) ∈ (partsOfRole c.parts .baseBottom).zipIdx :=
    List.mem_zipIdx_iff_getElem?.mpr hpart
  have hbase := j.base_eq
  simp only [baseJoints, bind_eq_ok] at hbase
  obtain ⟨plans, hplans, hresult⟩ := hbase
  obtain ⟨plan, hplan, hmade⟩ := collect_mem hplans hentry
  have hsub : ∀ item ∈ plan, item ∈ c.plans := by
    intro item hitem
    have hmem : item ∈ j.base := by
      rw [← Except.ok.inj hresult]
      exact List.mem_append_left _ (List.mem_flatten.mpr ⟨plan, hplan, hitem⟩)
    rw [j.mem_plans]
    tauto
  simp only [bind_eq_ok, length_baseBottoms c h.1] at hmade
  obtain ⟨left, hleft, right, hright, hresult⟩ := hmade
  cases hresult
  refine Grooved.mono ?_ hsub
  rw [← hfits.semanticKey]
  rcases hsupport with hsupport | hsupport
  · have : left = support := Except.ok.inj (hleft.symm.trans hsupport)
    simp [Grooved, baseBottomJoints, this]
  · have : right = support := Except.ok.inj (hright.symm.trans hsupport)
    simp [Grooved, baseBottomJoints, this]

/-- A base side carries the bottom. -/
theorem grooved_baseSide {cabinet : Bay} (h : (Panel.baseSide cabinet).Present spec.parameters) :
    Grooved c.plans "bottom" (baseSidePlan spec.parameters cabinet).key := by
  obtain ⟨part, hpart, hfits⟩ := c.exists_part _ h
  have hrole : part ∈ partsOfRole c.parts .baseSide := by
    refine mem_sortBy.mpr (List.mem_filter.mpr ⟨hpart, ?_⟩)
    rw [hfits.role]
    rfl
  have hbase := j.base_eq
  simp only [baseJoints, bind_eq_ok] at hbase
  obtain ⟨plans, -, hresult⟩ := hbase
  have hne : partsOfRole c.parts .baseBottom ≠ [] := by
    intro hnil
    have hlength := length_baseBottoms c h.1
    rw [hnil] at hlength
    exact h.1 hlength.symm
  refine ⟨baseSideJoint j.bottom part, ?_, rfl, rfl, hfits.semanticKey⟩
  have hmem : baseSideJoint j.bottom part ∈ j.base := by
    rw [← Except.ok.inj hresult, if_neg hne]
    exact List.mem_append_right _ (List.mem_map_of_mem hrole)
  rw [j.mem_plans]
  tauto

theorem grooved_plinth (h : Panel.plinth.Present spec.parameters)
    (hbase : spec.parameters.baseCabinetCount = 0) : Grooved c.plans "bottom" "plinth" := by
  obtain ⟨part, hpart, hfits⟩ := c.exists_part _ h
  have hkey : part.semanticKey = "plinth" := hfits.semanticKey
  have hany : c.parts.any (fun part => part.semanticKey == "plinth") = true :=
    List.any_eq_true.mpr ⟨part, hpart, by simp [hkey]⟩
  have hgroove : Grooved (plinthJoints spec.parameters c.parts) "bottom" "plinth" := by
    rw [plinthJoints, if_pos ⟨hany, hbase⟩]
    simp [Grooved]
  refine hgroove.mono fun plan hplan => ?_
  rw [j.mem_plans]
  tauto

/-! The dados of an inset back. -/

omit j in
theorem backs_fit (hback : spec.parameters.backPanel = .insetGroove) :
    List.Forall₂ (Fits hashing.toIdentity spec)
      (spec.parameters.bays.map (insetBackPlan spec.parameters c.capture))
      (partsOfRole c.parts .back) := by
  refine partsOfRole_fits c.fits ?_ ?_
  · rw [filter_back, backPlans, hback]
  · exact List.pairwise_map.mpr (baysOf_index_pairwise _ _)

/-- The four boundaries of a field are planned. -/
theorem insetBackJoints_planned {bay : Bay}
    (h : (Panel.insetBack bay).Present spec.parameters) :
    ∃ left right back depth, j.supports[bay.index]? = some left ∧
      j.supports[bay.index + 1]? = some right ∧
      Fits hashing.toIdentity spec (insetBackPlan spec.parameters c.capture bay) back ∧
      ∀ plan ∈ insetBackJoints depth j.top j.bottom left right back, plan ∈ c.plans := by
  have hget : (spec.parameters.bays.map (insetBackPlan spec.parameters c.capture))[bay.index]? =
      some (insetBackPlan spec.parameters c.capture bay) := by
    have hbay : spec.parameters.bays[bay.index]? = some bay := baysOf_getElem? h.2
    rw [List.getElem?_map, hbay]
    rfl
  obtain ⟨back, hpart, hfits⟩ := getElem?_of_forall₂ (backs_fit c h.1) hget
  have hresult := j.back_eq
  rw [backJoints, h.1] at hresult
  simp only [bind_eq_ok, require_eq_ok, decide_eq_true_eq] at hresult
  obtain ⟨⟨⟩, hlength, depth, -, hresult⟩ := hresult
  have hlt : bay.index < (partsOfRole c.parts .back).length := (List.getElem?_eq_some_iff.mp hpart).1
  have hsupports : j.supports.length = (partsOfRole c.parts .back).length + 1 := hlength.symm
  have hleft : j.supports[bay.index]? = some j.supports[bay.index] :=
    List.getElem?_eq_getElem (by omega)
  have hright : j.supports[bay.index + 1]? = some j.supports[bay.index + 1] :=
    List.getElem?_eq_getElem (by omega)
  refine ⟨_, _, back, depth, hleft, hright, hfits, ?_⟩
  intro plan hplan
  rw [j.mem_plans]
  have hmem : plan ∈ j.back := by
    rw [← Except.ok.inj hresult]
    refine List.mem_flatMap.mpr ⟨((j.supports[bay.index], j.supports[bay.index + 1]), back), ?_, hplan⟩
    refine List.mem_of_getElem? (i := bay.index) ?_
    rw [List.getElem?_zip_eq_some]
    refine ⟨?_, hpart⟩
    rw [List.getElem?_zip_eq_some]
    refine ⟨hleft, ?_⟩
    rw [List.getElem?_drop, Nat.add_comm]
    exact hright
  tauto

theorem grooved_back_support {bay : Bay} (h : (Panel.insetBack bay).Present spec.parameters)
    {k : Nat} {support : PartInstance} (hk : k = bay.index ∨ k = bay.index + 1)
    (hsupport : j.supports[k]? = some support) :
    Grooved c.plans support.semanticKey (insetBackPlan spec.parameters c.capture bay).key := by
  obtain ⟨left, right, back, depth, hleft, hright, hfits, hsub⟩ := insetBackJoints_planned c j h
  refine Grooved.mono ?_ hsub
  rw [← hfits.semanticKey]
  rcases hk with rfl | rfl
  · have : support = left := Option.some.inj (hsupport.symm.trans hleft)
    simp [Grooved, insetBackJoints, this]
  · have : support = right := Option.some.inj (hsupport.symm.trans hright)
    simp [Grooved, insetBackJoints, this]

theorem grooved_back_carcass {bay : Bay} (h : (Panel.insetBack bay).Present spec.parameters)
    {panel : PartInstance} (hpanel : panel = j.top ∨ panel = j.bottom) :
    Grooved c.plans panel.semanticKey (insetBackPlan spec.parameters c.capture bay).key := by
  obtain ⟨left, right, back, depth, -, -, hfits, hsub⟩ := insetBackJoints_planned c j h
  refine Grooved.mono ?_ hsub
  rw [← hfits.semanticKey]
  rcases hpanel with rfl | rfl
  all_goals simp [Grooved, insetBackJoints]

/-- Every pair of joined panels has a dado. -/
theorem grooved_of_joined (m : spec.parameters.Measured) {a b : Panel}
    (ha : a.Present spec.parameters) (hb : b.Present spec.parameters)
    (h : Joined spec.parameters a b) :
    Grooved c.plans (a.plan spec.parameters c.capture).key
      (b.plan spec.parameters c.capture).key := by
  have hleft := (left_fits c j).semanticKey
  have hright := (right_fits c j).semanticKey
  have hbottom := (bottom_fits c j).semanticKey
  have htop := (top_fits c j).semanticKey
  cases b with
  | bottom =>
    cases a with
    | leftSide => exact grooved_carcass c j m.dado (Or.inl rfl) (Or.inl rfl)
    | rightSide => exact grooved_carcass c j m.dado (Or.inr rfl) (Or.inl rfl)
    | _ => exact absurd h (by simp [Joined])
  | top =>
    cases a with
    | leftSide => exact grooved_carcass c j m.dado (Or.inl rfl) (Or.inr rfl)
    | rightSide => exact grooved_carcass c j m.dado (Or.inr rfl) (Or.inr rfl)
    | _ => exact absurd h (by simp [Joined])
  | divider bay =>
    cases a with
    | bottom => exact grooved_divider c j hb (Or.inl rfl)
    | top => exact grooved_divider c j hb (Or.inr rfl)
    | _ => exact absurd h (by simp [Joined])
  | shelf row bay =>
    have hlt := (m.bay_between hb.2).index_lt
    rw [length_bayWidths] at hlt
    cases a with
    | leftSide =>
      have hgroove := grooved_shelf c j m.dado h.1 hlt hb (Or.inl h.2.symm) (supports_zero c j)
      rw [hleft] at hgroove
      exact hgroove
    | rightSide =>
      have hgroove := grooved_shelf c j m.dado h.1 hlt hb (Or.inr (by rw [h.2])) (supports_last c j)
      rw [hright] at hgroove
      exact hgroove
    | divider k =>
      have hnear : k.index = bay.index ∨ k.index + 1 = bay.index := h.2
      obtain ⟨part, hpart, hfits⟩ := supports_divider c j ha
      have hgroove := grooved_shelf c j m.dado h.1 hlt hb (by omega) hpart
      rw [hfits.semanticKey] at hgroove
      exact hgroove
    | _ => exact absurd h (by simp [Joined])
  | baseSide cabinet =>
    cases a with
    | bottom => exact grooved_baseSide c j hb
    | _ => exact absurd h (by simp [Joined])
  | baseBottom cabinet =>
    cases a with
    | leftSide =>
      have hindex : cabinet.index = 0 := h
      have hsupport : cabinetSupport c.parts (cabinet.index = 0) j.left cabinet.index =
          .ok j.left := if_pos (by simpa using hindex)
      have hgroove := grooved_baseBottom c j hb (Or.inl hsupport)
      rw [hleft] at hgroove
      exact hgroove
    | rightSide =>
      have hindex : cabinet.index + 1 = spec.parameters.baseCabinetCount := h
      have hsupport : cabinetSupport c.parts (cabinet.index + 1 = spec.parameters.baseCabinetCount)
          j.right (cabinet.index + 1) = .ok j.right := if_pos (by simpa using hindex)
      have hgroove := grooved_baseBottom c j hb (Or.inr hsupport)
      rw [hright] at hgroove
      exact hgroove
    | baseSide k =>
      obtain ⟨part, hpart, hfits⟩ := c.exists_part _ ha
      have hkey : part.semanticKey = numbered "base-side-" k.index := hfits.semanticKey
      have hfind : partByKey c.parts (numbered "base-side-" k.index) = .ok part := by
        rw [← hkey]
        exact c.partByKey_eq hpart
      have hnear : k.index = cabinet.index ∨ k.index = cabinet.index + 1 := h
      have hpos : 0 < k.index := ha.2.2
      have hlt := (m.cabinet_between ha.1 ha.2.1).index_lt
      rw [length_baseOpenings ha.1] at hlt
      have hgroove : Grooved c.plans part.semanticKey
          (baseBottomPlan spec.parameters cabinet).key := by
        refine grooved_baseBottom c j hb ?_
        rcases hnear with heq | heq
        · refine Or.inl ?_
          rw [cabinetSupport, if_neg (by simp; omega), ← heq, hfind]
        · refine Or.inr ?_
          rw [cabinetSupport, if_neg (by simp; omega), ← heq, hfind]
      rw [hkey] at hgroove
      exact hgroove
    | _ => exact absurd h (by simp [Joined])
  | insetBack bay =>
    cases a with
    | leftSide =>
      have hindex : bay.index = 0 := h
      have hgroove := grooved_back_support c j hb (Or.inl hindex.symm) (supports_zero c j)
      rw [hleft] at hgroove
      exact hgroove
    | rightSide =>
      have hindex : bay.index = spec.parameters.verticalDividerCount := h
      have hgroove := grooved_back_support c j hb (Or.inr (by rw [hindex])) (supports_last c j)
      rw [hright] at hgroove
      exact hgroove
    | divider k =>
      have hnear : k.index = bay.index ∨ k.index + 1 = bay.index := h
      obtain ⟨part, hpart, hfits⟩ := supports_divider c j ha
      have hgroove := grooved_back_support c j hb (by omega) hpart
      rw [hfits.semanticKey] at hgroove
      exact hgroove
    | top =>
      have hgroove := grooved_back_carcass c j hb (Or.inl rfl)
      rw [htop] at hgroove
      exact hgroove
    | bottom =>
      have hgroove := grooved_back_carcass c j hb (Or.inr rfl)
      rw [hbottom] at hgroove
      exact hgroove
    | _ => exact absurd h (by simp [Joined])
  | plinth =>
    cases a with
    | bottom => exact grooved_plinth c j hb h
    | _ => exact absurd h (by simp [Joined])
  | leftSide | rightSide | cabinetFront _ | surfaceBack => exact absurd h (by cases a <;> simp [Joined])

end Planned

end Custombuild.Domain
