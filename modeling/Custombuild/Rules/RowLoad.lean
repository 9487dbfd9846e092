/-
  The advice to lower the load of a row.  The demand on the worst support grows with the load,
  and the advised load is where it comes to the capacity that still passes.
-/
import Custombuild.Rules.Anchor

namespace Custombuild.Rules

open Custombuild.Lib Custombuild.Domain

/-- The same furniture with another load on its rows. -/
def withShelfLoad (spec : BookcaseDesignSpec) (load : Int) : BookcaseDesignSpec :=
  { spec with parameters := { spec.parameters with shelfLoadN := load } }

/-- What a support of the widest shelf carries. -/
def supportDemandN (design : DesignResult) : Int :=
  if shelves design = [] then 0 else ⌈((shelfGeometry design).designLoadN : Rat) / 2⌉

/-- The largest demand that passes. -/
def passDemandN (allowedN : Int) : Int := max 0 ((allowedN * 800 - 1) / 1000)

/-- The `capacity_status` of `_joint_capacity`, where it comes so far. -/
def capacityStatus (design : DesignResult) : Except ValueError (Option RuleStatus) :=
  if design.spec.parameters.shelfMount = .adjustable ∧ shelves design ≠ [] then .ok none
  else do
    let cases ← dadoSupportCases design
    if shelves design = [] then return some .pass
    else return (worstCase cases).map fun worst =>
      thresholdStatus (supportDemandN design) worst.allowedLoadN 800

/-! ## Rounding -/

theorem ceil_half_le {a b : Int} : ⌈(a : Rat) / 2⌉ ≤ b ↔ a ≤ 2 * b := by
  rw [Int.ceil_le, div_le_iff₀ (by norm_num)]
  constructor
  · intro h
    have hcast : (a : Rat) ≤ ((2 * b : Int) : Rat) := by
      push_cast
      linarith
    exact_mod_cast hcast
  · intro h
    have hcast : (a : Rat) ≤ ((2 * b : Int) : Rat) := by exact_mod_cast h
    push_cast at hcast
    linarith

theorem ceil_mul_le {share : Rat} (hshare : 0 < share) {load bound : Int} :
    ⌈(load : Rat) * share⌉ ≤ bound ↔ load ≤ ⌊(bound : Rat) / share⌋ := by
  rw [Int.ceil_le, Int.le_floor, le_div_iff₀ hshare]

/-- The status is a pass exactly up to the pass demand. -/
theorem thresholdStatus_pass_iff {demand allowed : Int} (h : 0 < passDemandN allowed) :
    thresholdStatus demand allowed 800 = .pass ↔ demand ≤ passDemandN allowed := by
  have hpositive : 0 < (allowed * 800 - 1) / 1000 := by
    unfold passDemandN at h
    omega
  have hpass : passDemandN allowed = (allowed * 800 - 1) / 1000 := max_eq_right hpositive.le
  rw [hpass, thresholdStatus]
  split
  · next hblock =>
    constructor
    · intro hstatus
      cases hstatus
    · intro hle
      omega
  · split
    · next hwarning =>
      constructor
      · intro hstatus
        cases hstatus
      · intro hle
        omega
    · constructor
      · intro _
        omega
      · intro _
        rfl

/-! ## The demand of a load -/

/-- The demand of a load on a row, given the share of a shelf and its weight. -/
def demandOf (share : Rat) (deadWeightN load : Int) : Int :=
  ⌈((⌈(load : Rat) * share⌉ + deadWeightN : Int) : Rat) / 2⌉

theorem supportDemandN_eq {design : DesignResult} (h : shelves design ≠ []) :
    supportDemandN design = demandOf (shelfLoadComponents design).1 (shelfLoadComponents design).2
      design.spec.parameters.shelfLoadN := by
  rw [supportDemandN, if_neg h, shelfGeometry, if_neg h]
  rfl

theorem demandOf_le_iff {share : Rat} (hshare : 0 < share) {deadWeightN load bound : Int} :
    demandOf share deadWeightN load ≤ bound ↔
      load ≤ ⌊((2 * bound - deadWeightN : Int) : Rat) / share⌋ := by
  rw [demandOf, ceil_half_le, ← ceil_mul_le hshare]
  omega

theorem demandOf_mono {share : Rat} (hshare : 0 < share) {deadWeightN load more : Int}
    (h : load ≤ more) : demandOf share deadWeightN load ≤ demandOf share deadWeightN more :=
  (demandOf_le_iff hshare).mpr (h.trans ((demandOf_le_iff hshare).mp le_rfl))

theorem demandOf_nonneg {share : Rat} (hshare : 0 < share) {deadWeightN load : Int}
    (hdead : 0 ≤ deadWeightN) (hload : 0 ≤ load) : 0 ≤ demandOf share deadWeightN load := by
  have hcast : (0 : Rat) ≤ load := by exact_mod_cast hload
  have hceil : 0 ≤ ⌈(load : Rat) * share⌉ := Int.ceil_nonneg (by positivity)
  have hsum : (0 : Rat) ≤ ((⌈(load : Rat) * share⌉ + deadWeightN : Int) : Rat) := by
    exact_mod_cast (by omega : 0 ≤ ⌈(load : Rat) * share⌉ + deadWeightN)
  exact Int.ceil_nonneg (by positivity)

/-! ## The shelves of a design -/

section Shelves

variable {design : DesignResult}

theorem le_maximum {numbers : List Int} {n : Int} (h : n ∈ numbers) : n ≤ maximum numbers :=
  (le_foldl_max numbers _).2 n h

/-- The largest of the shelves has what every shelf has more than none of. -/
theorem maximum_shelves_pos {measure : PartInstance → Int} (h : shelves design ≠ [])
    (hmeasure : ∀ part ∈ shelves design, 0 < measure part) :
    0 < maximum ((shelves design).map measure) := by
  obtain ⟨shelf, hshelf⟩ := List.exists_mem_of_ne_nil _ h
  exact (hmeasure shelf hshelf).trans_le (le_maximum (List.mem_map_of_mem hshelf))

theorem rowWidth_pos (h : shelves design ≠ []) (bayCount : Nat) :
    0 < (((sortBy PartInstance.instanceIndex (shelves design)).take (bayCount + 1)).map
      fun part => part.finishedSize.widthUm).sum := by
  apply List.sum_pos
  · intro width hwidth
    obtain ⟨part, -, rfl⟩ := List.mem_map.mp hwidth
    exact part.finishedSize.positive.1
  · intro hnil
    rw [List.map_eq_nil_iff, List.take_eq_nil_iff] at hnil
    rcases hnil with hnil | hnil
    · exact absurd hnil (Nat.succ_ne_zero _)
    · have hperm := sortBy_perm PartInstance.instanceIndex (shelves design)
      rw [hnil] at hperm
      exact h hperm.symm.eq_nil

theorem share_pos (h : shelves design ≠ []) : 0 < (shelfLoadComponents design).1 := by
  rw [shelfLoadComponents, if_neg h]
  apply div_pos
  · exact_mod_cast maximum_shelves_pos h fun part _ => part.finishedSize.positive.1
  · exact_mod_cast rowWidth_pos h design.spec.parameters.verticalDividerCount

/-- A shelf weighs at least one gram, so its weight is a load of one newton at least. -/
theorem deadWeight_pos (h : shelves design ≠ [])
    (hweights : ∀ part ∈ design.parts, 0 < part.weightG) : 0 < (shelfLoadComponents design).2 := by
  rw [shelfLoadComponents, if_neg h]
  have hheaviest : 0 < maximum ((shelves design).map PartInstance.weightG) :=
    maximum_shelves_pos h fun part hpart => hweights part (List.mem_of_mem_filter hpart)
  have hcast : (0 : Rat) < maximum ((shelves design).map PartInstance.weightG) := by
    exact_mod_cast hheaviest
  exact Int.ceil_pos.mpr (by positivity)

end Shelves

/-! ## The same furniture under another load -/

section Reloaded

variable {hashing : Hashing} {spec : BookcaseDesignSpec} {design : DesignResult} {load : Int}

theorem withShelfLoad_parameters_validate {p : BookcaseParameters} (h : p.validate = .ok ())
    (hload : 0 ≤ load) (hle : load ≤ p.shelfLoadN) :
    { p with shelfLoadN := load }.validate = .ok () := by
  simp only [BookcaseParameters.validate, BookcaseParameters.checkFields, bind_eq_ok,
    BookcaseParameters.checkRanges, require_eq_ok, exists_const] at h ⊢
  obtain ⟨⟨⟩, ⟨⟨h₁, h₂, h₃, h₄, h₅, h₆, h₇, hrest⟩, hanchor⟩, hgeometry⟩ := h
  refine ⟨(), ⟨⟨h₁, h₂, h₃, h₄, h₅, h₆, ?_, hrest⟩, hanchor⟩, hgeometry⟩
  rw [Bool.and_eq_true, decide_eq_true_eq, decide_eq_true_eq] at h₇ ⊢
  omega

theorem any_rated_mono {rated : Option Int} {low high : Int} (h : low ≤ high)
    (hany : (rated.any fun value => high ≤ value) = true) :
    (rated.any fun value => low ≤ value) = true := by
  rw [Option.any_eq_true] at hany ⊢
  obtain ⟨value, hvalue, hle⟩ := hany
  exact ⟨value, hvalue, decide_eq_true (h.trans (of_decide_eq_true hle))⟩

theorem withShelfLoad_validate (h : spec.validate = .ok ()) (hload : 0 ≤ load)
    (hle : load ≤ spec.parameters.shelfLoadN) : (withShelfLoad spec load).validate = .ok () := by
  simp only [BookcaseDesignSpec.validate, bind_eq_ok] at h ⊢
  obtain ⟨⟨⟩, hrevision, ⟨⟩, hparameters, ⟨⟩, hmaterial, ⟨⟩, hback, ⟨⟩, hretention, ⟨⟩, hversions,
    ⟨⟩, hthickness, hjoint⟩ := h
  refine ⟨(), hrevision, (), withShelfLoad_parameters_validate hparameters hload hle, (), hmaterial,
    (), hback, (), hretention, (), hversions, (), hthickness, ?_⟩
  unfold BookcaseDesignSpec.validateJointRetention at hjoint ⊢
  have hkept : (withShelfLoad spec load).jointRetention = spec.jointRetention := rfl
  rw [hkept]
  cases hcontract : spec.jointRetention with
  | none => rfl
  | some retention =>
    rw [hcontract] at hjoint
    simp only [bind_eq_ok, require_eq_ok, exists_const, Bool.and_eq_true] at hjoint ⊢
    obtain ⟨h₁, h₂, h₃, h₄, h₅, h₆, ⟨hshear, hwithdrawal⟩, hfactor⟩ := hjoint
    refine ⟨h₁, h₂, h₃, h₄, h₅, h₆, ⟨?_, hwithdrawal⟩, hfactor⟩
    exact any_rated_mono (max_le_max_right 1 hle) hshear

/-- A lighter load asks less of the retention, and no other check reads it. -/
theorem validate_reloaded (hash : String) (h : design.validate hashing = .ok ())
    (hle : load ≤ design.spec.parameters.shelfLoadN) :
    { design with designHash := hash, spec := withShelfLoad design.spec load }.validate hashing =
      .ok () := by
  have hshear : { design with
      designHash := hash, spec := withShelfLoad design.spec load }.minimumRetentionShearLoadN ≤
        design.minimumRetentionShearLoadN := by
    have hrows := Int.mul_le_mul_of_nonneg_left hle
      (Int.natCast_nonneg design.spec.parameters.shelfCount)
    exact Int.add_le_add_left hrows _
  simp only [DesignResult.validate, bind_eq_ok] at h ⊢
  obtain ⟨⟨⟩, h₁, ⟨⟩, h₂, ⟨⟩, h₃, ⟨⟩, h₄, ⟨⟩, h₅, ⟨⟩, h₆, ⟨⟩, h₇, ⟨⟩, h₈, h⟩ := h
  refine ⟨(), h₁, (), h₂, (), h₃, (), h₄, (), h₅, (), h₆, (), h₇, (), h₈, ?_⟩
  have hkept : (withShelfLoad design.spec load).jointRetention = design.spec.jointRetention := rfl
  have hbackKept : (withShelfLoad design.spec load).parameters.backPanel =
    design.spec.parameters.backPanel := rfl
  rw [hkept, hbackKept]
  cases hcontract : design.spec.jointRetention with
  | none =>
    rw [hcontract] at h
    exact h
  | some retention =>
    rw [hcontract] at h
    simp only [bind_eq_ok] at h ⊢
    obtain ⟨fingerprint, hfingerprint, ⟨⟩, hmatches, h⟩ := h
    refine ⟨fingerprint, hfingerprint, (), hmatches, ?_⟩
    split at h
    · next hback =>
      rw [if_pos hback]
      simp only [bind_eq_ok, require_eq_ok] at h ⊢
      obtain ⟨⟨⟩, hcaptive, ⟨⟩, hweight, hrated⟩ := h
      exact ⟨(), hcaptive, (), hweight, any_rated_mono hshear hrated⟩
    · next hback =>
      rw [if_neg hback]
      simp only [bind_eq_ok, require_eq_ok] at h ⊢
      obtain ⟨⟨⟩, hnone, ⟨⟩, hweight, hrated⟩ := h
      exact ⟨(), hnone, (), hweight, any_rated_mono hshear hrated⟩

/-- The load is no part of the furniture. -/
theorem build_withShelfLoad (h : build hashing spec = .ok design)
    (hle : load ≤ spec.parameters.shelfLoadN) :
    ∃ hash, build hashing (withShelfLoad spec load) =
      .ok { design with designHash := hash, spec := withShelfLoad spec load } := by
  simp only [build, bind_eq_ok] at h
  obtain ⟨parts, hparts, ⟨updated, joints⟩, hjoints, graph, hgraph, ⟨⟩, hvalid, hdesign⟩ := h
  cases hdesign
  refine ⟨hashing.contentHash (.design { withShelfLoad spec load with revision := 0 }
    (updated.map fun part => { part with revision := 0 }) joints graph), ?_⟩
  simp only [build, bind_eq_ok]
  refine ⟨parts, hparts, (updated, joints), hjoints, graph, hgraph, (), ?_, rfl⟩
  exact @validate_reloaded hashing ⟨_, _, _, spec, updated, joints, graph, _⟩ load _ hvalid hle

end Reloaded

/-! ## The screen of the worst support -/

/-- The shelves are fixed, and this is the worst of their supports. -/
structure Screened (design : DesignResult) (worst : DadoSupportCase) : Prop where
  shelves_ne : shelves design ≠ []
  fixed : ¬(design.spec.parameters.shelfMount = .adjustable ∧ shelves design ≠ [])
  worst_eq : ∃ cases, dadoSupportCases design = .ok cases ∧ worstCase cases = some worst

section Screen

variable {design : DesignResult} {worst : DadoSupportCase} {evaluation : RuleEvaluation}

theorem Screened.jointCapacity_eq (s : Screened design worst) :
    jointCapacity design = (supportCapacity design (supportDemandN design) (some worst)).validate := by
  obtain ⟨cases, hcases, hworst⟩ := s.worst_eq
  rw [jointCapacity]
  simp only
  rw [if_neg s.fixed, hcases]
  show (if shelves design = [] then _ else _) = _
  rw [if_neg s.shelves_ne, hworst]
  rfl

theorem Screened.capacityStatus_eq (s : Screened design worst) :
    capacityStatus design =
      .ok (some (thresholdStatus (supportDemandN design) worst.allowedLoadN 800)) := by
  obtain ⟨cases, hcases, hworst⟩ := s.worst_eq
  rw [capacityStatus, if_neg s.fixed, hcases]
  show (if shelves design = [] then _ else _) = _
  rw [if_neg s.shelves_ne, hworst]
  rfl

theorem not_reduceLoad_of_unknown {affected : List String} {demandN : Int}
    {action first : SuggestedAction}
    (haction : action ∈ (unknownCapacity affected demandN first).suggestedActions)
    (hfirst : first.actionType ≠ .reduceLoad) : action.actionType ≠ .reduceLoad := by
  rcases List.mem_pair.mp haction with rfl | rfl
  · exact hfirst
  · exact ActionType.noConfusion

/-- Only the screen of a support advises to lower the load. -/
theorem screened_of_reduceLoad {action : SuggestedAction} (h : jointCapacity design = .ok evaluation)
    (haction : action ∈ evaluation.suggestedActions) (htype : action.actionType = .reduceLoad) :
    ∃ worst, Screened design worst ∧
      evaluation = supportCapacity design (supportDemandN design) (some worst) := by
  unfold jointCapacity at h
  simp only at h
  split at h
  · rw [(validate_eq_ok.mp h).2] at haction
    exact absurd htype (not_reduceLoad_of_unknown haction ActionType.noConfusion)
  · next hfixed =>
    obtain ⟨cases, hcases, h⟩ := bind_eq_ok.mp h
    split at h
    · rw [(validate_eq_ok.mp h).2] at haction
      rw [List.mem_singleton.mp haction] at htype
      cases htype
    · next hshelves =>
      split at h
      · rw [(validate_eq_ok.mp h).2] at haction
        exact absurd htype (not_reduceLoad_of_unknown haction ActionType.noConfusion)
      · next worst hworst =>
        refine ⟨worst, ⟨hshelves, hfixed, cases, hcases, hworst⟩, ?_⟩
        rw [(validate_eq_ok.mp h).2, supportDemandN, if_neg hshelves]

theorem changes_of_reduceLoad {action : SuggestedAction} {demandN : Int}
    (haction : action ∈ (supportCapacity design demandN (some worst)).suggestedActions)
    (htype : action.actionType = .reduceLoad) :
    action.changes = [⟨"parameters.shelf_load_n", .int design.spec.parameters.shelfLoadN,
      .int (recommendedRowLoad design worst.allowedLoadN)⟩] := by
  rw [supportCapacity] at haction
  simp only [Option.isNone_some, Option.map_some, Option.getD_some, Bool.false_eq_true,
    if_false] at haction
  split at haction
  · rw [List.mem_singleton.mp haction] at htype
    cases htype
  · rw [List.mem_append, List.mem_pair] at haction
    rcases haction with haction | rfl | rfl
    · unfold dividerActions at haction
      simp only at haction
      split at haction
      · exact absurd haction List.not_mem_nil
      · rw [List.mem_singleton.mp haction] at htype
        cases htype
    · rfl
    · cases htype

/-- Up to the current load, the advised one is the last that passes. -/
theorem pass_iff_le_recommended (hshelves : shelves design ≠ []) {load : Int}
    (hdead : 0 < (shelfLoadComponents design).2)
    (hcovered : (shelfLoadComponents design).2 ≤ 2 * passDemandN worst.allowedLoadN)
    (hle : load ≤ design.spec.parameters.shelfLoadN) :
    thresholdStatus (demandOf (shelfLoadComponents design).1 (shelfLoadComponents design).2 load)
        worst.allowedLoadN 800 = .pass ↔ load ≤ recommendedRowLoad design worst.allowedLoadN := by
  have hshare := share_pos hshelves
  rw [thresholdStatus_pass_iff (by omega), demandOf_le_iff hshare]
  have hpayload : max 0 (2 * passDemandN worst.allowedLoadN - (shelfLoadComponents design).2) =
      2 * passDemandN worst.allowedLoadN - (shelfLoadComponents design).2 := by omega
  show _ ↔ load ≤ min design.spec.parameters.shelfLoadN (if (shelfLoadComponents design).1 ≠ 0 then
    ⌊((max 0 (2 * passDemandN worst.allowedLoadN - (shelfLoadComponents design).2) : Int) : Rat) /
      (shelfLoadComponents design).1⌋ else design.spec.parameters.shelfLoadN)
  rw [hpayload, if_pos hshare.ne', le_min_iff]
  exact (and_iff_right hle).symm

/-- The advised load is not negative. -/
theorem recommendedRowLoad_nonneg (hshelves : shelves design ≠ []) {allowedN : Int}
    (hload : 0 ≤ design.spec.parameters.shelfLoadN) : 0 ≤ recommendedRowLoad design allowedN := by
  have hshare := share_pos hshelves
  show 0 ≤ min design.spec.parameters.shelfLoadN (if (shelfLoadComponents design).1 ≠ 0 then
    ⌊((max 0 (2 * passDemandN allowedN - (shelfLoadComponents design).2) : Int) : Rat) /
      (shelfLoadComponents design).1⌋ else design.spec.parameters.shelfLoadN)
  rw [if_pos hshare.ne']
  have hpayload : (0 : Rat) ≤
      ((max 0 (2 * passDemandN allowedN - (shelfLoadComponents design).2) : Int) : Rat) := by
    exact_mod_cast le_max_left 0 (2 * passDemandN allowedN - (shelfLoadComponents design).2)
  exact le_min hload (Int.floor_nonneg.mpr (by positivity))

theorem recommendedRowLoad_le (allowedN : Int) :
    recommendedRowLoad design allowedN ≤ design.spec.parameters.shelfLoadN :=
  min_le_left _ _

end Screen

/-- A smaller number is not written with more digits. -/
theorem length_toString_mono {small large : Int} (hsmall : 0 ≤ small) (hle : small ≤ large)
    {k : Nat} (hk : 0 < k) (h : (toString large).length ≤ k) : (toString small).length ≤ k := by
  obtain ⟨m, rfl⟩ := Int.eq_ofNat_of_zero_le hsmall
  obtain ⟨n, rfl⟩ := Int.eq_ofNat_of_zero_le (hsmall.trans hle)
  have hn : n < 10 ^ k := (Nat.length_repr_le_iff hk).mp h
  have hmn : m ≤ n := Int.ofNat_le.mp hle
  exact (Nat.length_repr_le_iff hk).mpr (hmn.trans_lt hn)

/-! ## The advice -/

section Advice

variable {hashing : Hashing} {spec : BookcaseDesignSpec} {design : DesignResult}
  {worst : DadoSupportCase}

/-- A design after the load of its rows was set. -/
def reload (design : DesignResult) (hash : String) (load : Int) : DesignResult :=
  { design with designHash := hash, spec := withShelfLoad design.spec load }

theorem Screened.reload (s : Screened design worst) (hash : String) (load : Int) :
    Screened (reload design hash load) worst :=
  ⟨s.shelves_ne, s.fixed, s.worst_eq⟩

/-- The demand of the reloaded design is that of the load. -/
theorem supportDemandN_reload (hshelves : shelves design ≠ []) (hash : String) (load : Int) :
    supportDemandN (reload design hash load) =
      demandOf (shelfLoadComponents design).1 (shelfLoadComponents design).2 load :=
  @supportDemandN_eq (reload design hash load) hshelves

/-- With a lighter load the rule has no longer numbers to write down. -/
theorem jointCapacity_reload (s : Screened design worst) {evaluation : RuleEvaluation}
    (h : jointCapacity design = .ok evaluation) (hdead : 0 < (shelfLoadComponents design).2)
    (hash : String) {load : Int} (hload : 0 ≤ load)
    (hle : load ≤ design.spec.parameters.shelfLoadN) :
    jointCapacity (reload design hash load) = .ok (supportCapacity (reload design hash load)
      (supportDemandN (reload design hash load)) (some worst)) := by
  have hshare := share_pos s.shelves_ne
  rw [s.jointCapacity_eq, validate_eq_ok] at h
  rw [(s.reload hash load).jointCapacity_eq, validate_eq_ok]
  refine ⟨fun number hnumber => ?_, rfl⟩
  rcases List.mem_cons.mp hnumber with rfl | hnumber
  · have hdemand := h.1 _ List.mem_cons_self
    rw [supportDemandN_eq s.shelves_ne] at hdemand
    rw [supportDemandN_reload s.shelves_ne]
    exact length_toString_mono (demandOf_nonneg hshare hdead.le hload) (demandOf_mono hshare hle)
      (by decide) hdemand
  · exact h.1 number (List.mem_cons_of_mem _ hnumber)

/-- Where the capacity that passes carries the shelf, the joint rule advises the largest load up to
    the current one whose capacity status is a pass: furniture with a load up to the current one is
    valid, is built, and passes exactly up to the advised load. -/
theorem reduce_load_exact {evaluation : RuleEvaluation} {action : SuggestedAction}
    (hvalid : spec.validate = .ok ()) (hbuild : build hashing spec = .ok design)
    (hjoint : jointCapacity design = .ok evaluation)
    (haction : action ∈ evaluation.suggestedActions) (htype : action.actionType = .reduceLoad)
    (hcovered : (shelfLoadComponents design).2 ≤ 2 * passDemandN evaluation.allowedValue) :
    ∃ advised, action.changes = [⟨"parameters.shelf_load_n", .int spec.parameters.shelfLoadN,
        .int advised⟩] ∧
      0 ≤ advised ∧ advised ≤ spec.parameters.shelfLoadN ∧
      (∀ load, 0 ≤ load → load ≤ spec.parameters.shelfLoadN → ∃ reloaded,
        (withShelfLoad spec load).validate = .ok () ∧
        build hashing (withShelfLoad spec load) = .ok reloaded ∧
        (capacityStatus reloaded = .ok (some .pass) ↔ load ≤ advised)) ∧
      ∃ reloaded again, build hashing (withShelfLoad spec advised) = .ok reloaded ∧
        capacityStatus reloaded = .ok (some .pass) ∧ jointCapacity reloaded = .ok again ∧
        again.suggestedActions = [dryJoiningAction] := by
  have hspec := spec_of_build hbuild
  subst hspec
  obtain ⟨c⟩ := compiled_of_build hbuild
  obtain ⟨worst, s, rfl⟩ := screened_of_reduceLoad hjoint haction htype
  have hdead := deadWeight_pos s.shelves_ne fun _ hpart => weight_pos c hpart
  have hload := (loads_of_validate (parameters_valid hvalid)).1
  have hnonneg := @recommendedRowLoad_nonneg design s.shelves_ne worst.allowedLoadN hload
  have hle := @recommendedRowLoad_le design worst.allowedLoadN
  have hpass : ∀ hash load, load ≤ design.spec.parameters.shelfLoadN →
      (capacityStatus (reload design hash load) = .ok (some .pass) ↔
        load ≤ recommendedRowLoad design worst.allowedLoadN) := by
    intro hash load hup
    rw [(s.reload hash load).capacityStatus_eq, supportDemandN_reload s.shelves_ne,
      Except.ok.injEq, Option.some.injEq]
    exact pass_iff_le_recommended s.shelves_ne hdead hcovered hup
  refine ⟨recommendedRowLoad design worst.allowedLoadN, changes_of_reduceLoad haction htype,
    hnonneg, hle, ?_, ?_⟩
  · intro load hlow hup
    obtain ⟨hash, hreloaded⟩ := build_withShelfLoad hbuild hup
    exact ⟨reload design hash load, withShelfLoad_validate hvalid hlow hup, hreloaded,
      hpass hash load hup⟩
  · obtain ⟨hash, hreloaded⟩ := build_withShelfLoad hbuild hle
    have hstatus := (hpass hash _ hle).mpr le_rfl
    refine ⟨_, _, hreloaded, hstatus, jointCapacity_reload s hjoint hdead hash hnonneg hle, ?_⟩
    rw [(s.reload hash _).capacityStatus_eq, Except.ok.injEq, Option.some.injEq] at hstatus
    exact if_pos hstatus

end Advice

/-- A shelf under five thousand newtons. -/
def heavyShelf : BookcaseParameters := { bareCarcass with shelfCount := 1, shelfLoadN := 5000 }

theorem reduce_load_heavyShelf :
    (plywoodBookcase heavyShelf).validate = .ok () ∧
      ∃ design evaluation action advised,
        build namedHashing (plywoodBookcase heavyShelf) = .ok design ∧
        jointCapacity design = .ok evaluation ∧ action ∈ evaluation.suggestedActions ∧
        action.changes = [⟨"parameters.shelf_load_n", .int 5000, .int advised⟩] ∧
        ∃ reloaded, build namedHashing (withShelfLoad (plywoodBookcase heavyShelf) advised) =
            .ok reloaded ∧ capacityStatus reloaded = .ok (some .pass) := by
  have hvalid : (plywoodBookcase heavyShelf).validate = .ok () := by decide +kernel
  have hadvised : okAnd (build namedHashing (plywoodBookcase heavyShelf)) (fun design =>
      okAnd (jointCapacity design) fun evaluation =>
        (evaluation.suggestedActions.any fun action => action.actionType == .reduceLoad) &&
          decide ((shelfLoadComponents design).2 ≤ 2 * passDemandN evaluation.allowedValue)) =
      true := by decide +kernel
  obtain ⟨design, hdesign, hadvised⟩ := exists_of_okAnd hadvised
  obtain ⟨evaluation, hjoint, hadvised⟩ := exists_of_okAnd hadvised
  rw [Bool.and_eq_true, List.any_eq_true, decide_eq_true_eq] at hadvised
  obtain ⟨⟨action, haction, htype⟩, hcovered⟩ := hadvised
  obtain ⟨advised, hchanges, -, -, -, reloaded, -, hreloaded, hpass, -⟩ :=
    reduce_load_exact hvalid hdesign hjoint haction (eq_of_beq htype) hcovered
  exact ⟨hvalid, design, evaluation, action, advised, hdesign, hjoint, haction, hchanges, reloaded,
    hreloaded, hpass⟩

end Custombuild.Rules
