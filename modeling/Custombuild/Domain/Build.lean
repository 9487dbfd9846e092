/-
  The compiler: from a specification to parts, joints and an assembly graph, and the integrity
  checks of its result.
  Source: `custombuild_domain.engine`, `BookcaseEngine.build`, and `DesignResult` of
  `custombuild_domain.models`.
-/
import Custombuild.Lib.Names
import Custombuild.Domain.Assembly

namespace Custombuild.Domain

open Custombuild.Lib

/-! ## Hashes -/

/-- One member of a joint as the geometry fingerprint sees it. -/
structure FingerprintMember where
  partId : String
  materialId : String
  materialVersion : String
  actualThicknessUm : Int
  matingFace : FaceName
  featureIds : List String
  features : List ManufacturingFeature
deriving DecidableEq

/-- One joint as the geometry fingerprint sees it. -/
structure FingerprintEntry where
  jointId : String
  jointType : JointType
  retentionApplicationClass : Option JointRetentionApplicationClass
  members : List FingerprintMember
  matingOrigin : Point3D
  assemblyDirection : AssemblyDirection
  toleranceUm : Int
deriving DecidableEq

/-- What is hashed.  The revisions are left out of a design. -/
inductive HashPayload
  | design (spec : BookcaseDesignSpec) (parts : List PartInstance) (joints : List Joint)
      (graph : AssemblyGraph)
  | dadoGeometry (entries : List FingerprintEntry)

/-- Identities and the SHA-256 digests of canonical payloads. -/
structure Hashing extends Identity where
  contentHash : HashPayload → String

structure DesignResult where
  designHash : String
  engineVersion : String
  templateVersion : String
  spec : BookcaseDesignSpec
  parts : List PartInstance
  joints : List Joint
  assemblyGraph : AssemblyGraph
  totalWeightG : Int

/-- `dado_joint_geometry_fingerprint`. -/
def dadoJointGeometryFingerprint (hashing : Hashing) (parts : List PartInstance)
    (joints : List Joint) : Except ValueError String := do
  let carcass := sortBy Joint.jointId (joints.filter fun joint => joint.jointType == .dado &&
    joint.retentionApplicationClass == some .loadBearingCarcassDado)
  let entries ← collect (fun joint : Joint => do
      let members ← collect (fun member : JointMember => do
          let part ← partById parts member.partId
          let features ← collect (featureById parts) member.featureIds
          return (⟨member.partId, part.materialId, part.materialVersion, part.actualThicknessUm,
            member.matingFace, member.featureIds, features⟩ : FingerprintMember)) joint.members
      return (⟨joint.jointId, joint.jointType, joint.retentionApplicationClass, members,
        joint.matingOrigin, joint.assemblyDirection, joint.toleranceUm⟩ : FingerprintEntry)) carcass
  return hashing.contentHash (.dadoGeometry entries)

/-! ## Captive backs -/

/-- The step that installs a joint. -/
def stepOfJoint (graph : AssemblyGraph) (jointId : String) : Option AssemblyStep :=
  graph.steps.reverse.find? fun step => step.jointIds.contains jointId

/-- What one boundary of a back contributes: its two faces, the role of the panel, and the step
    that installs it. -/
structure Boundary where
  backFace : FaceName
  role : PartRole
  movingPartIds : List String
  stepNumber : Nat

/-- One boundary of a back, if it is a groove of a panel around the back. -/
def boundaryOf (parts : List PartInstance) (graph : AssemblyGraph) (back : PartInstance)
    (joint : Joint) : Option Boundary := do
  let backMember ← joint.members.find? fun member => member.partId == back.partId
  let boundaryMember ← joint.members.find? fun member => member.partId != back.partId
  let panel ← parts.find? fun part => part.partId == boundaryMember.partId
  let step ← stepOfJoint graph joint.jointId
  match backMember.featureIds, boundaryMember.featureIds with
  | [], [featureId] => do
    let groove ← (allFeatures parts).reverse.find? fun feature => feature.featureId == featureId
    let depth ← groove.dimensions.depthUm
    let thickness := back.actualThicknessUm + joint.toleranceUm
    if groove.kind == .groove && groove.partId == boundaryMember.partId &&
        groove.jointId == joint.jointId && 0 < depth &&
        groove.fitClearanceUm == joint.toleranceUm &&
        (groove.dimensions.widthUm == some thickness ||
          groove.dimensions.lengthUm == some thickness) then
      some ⟨backMember.matingFace, panel.role, step.movingPartIds, step.stepNumber⟩
    else none
  | _, _ => none

/-- Whether a back is captured on its four boundaries, and closed after it was inserted. -/
def backIsCaptive (parts : List PartInstance) (joints : List Joint) (graph : AssemblyGraph)
    (back : PartInstance) : Bool :=
  let backJoints := joints.filter fun joint => joint.partIds.contains back.partId
  let plain := backJoints.all fun joint => joint.jointType == .dado &&
    joint.retentionApplicationClass == some .captiveInsetBackGroove && joint.retention.isNone &&
    joint.hardwareSku.isNone && joint.hardwareCount == 0
  match backJoints.mapM (boundaryOf parts graph back) with
  | none => false
  | some boundaries =>
    let faces := boundaries.map Boundary.backFace
    let roles := boundaries.map Boundary.role
    let groups := boundaries.map Boundary.movingPartIds
    let inserted := (boundaries.filter fun b => b.movingPartIds.contains back.partId).map
      Boundary.stepNumber
    let closed := (boundaries.filter fun b => !b.movingPartIds.contains back.partId).map
      Boundary.stepNumber
    backJoints.length == 4 && plain &&
      [FaceName.left, .right, .top, .bottom].all faces.contains &&
      faces.all [FaceName.left, .right, .top, .bottom].contains &&
      roles.contains .top && roles.contains .bottom &&
      roles.all [PartRole.leftSide, .rightSide, .divider, .top, .bottom].contains &&
      2 ≤ groups.dedup.length && inserted != [] && closed != [] &&
      inserted.all fun first => closed.all fun last => first < last

/-- `captive_inset_back_topology_is_complete`. -/
def captiveInsetBackTopologyIsComplete (parts : List PartInstance) (joints : List Joint)
    (graph : AssemblyGraph) : Bool :=
  let backs := parts.filter fun part => part.role == .back
  backs != [] && backs.all (backIsCaptive parts joints graph)

/-! ## Integrity -/

namespace DesignResult

/-- `minimum_retention_shear_load_n`. -/
def minimumRetentionShearLoadN (design : DesignResult) : Int :=
  (design.totalWeightG * 981 + 99999) / 100000 +
    design.spec.parameters.shelfCount * design.spec.parameters.shelfLoadN

/-- The retention of one joint. -/
def checkRetention (design : DesignResult) (joint : Joint) : Except ValueError Unit := do
  if joint.jointType = .dado then
    require (!(joint.retentionApplicationClass == some .loadBearingCarcassDado &&
        joint.retention != design.spec.jointRetention))
      (.message "every load-bearing carcass DADO must carry the frozen retention contract")
    require (!(joint.retentionApplicationClass == some .captiveInsetBackGroove &&
        joint.retention.isSome))
      (.message "captive inset-back grooves cannot carry carcass retention")
  else
    require joint.retention.isNone (.message "joint retention is bound to a non-DADO joint")
  match joint.retention with
  | none => return ()
  | some retention =>
    forEach (fun member : JointMember => do
      let part ← demand (design.parts.find? fun part => part.partId == member.partId)
        (.message "joint references a missing part")
      require (retention.coversThickness part.actualThicknessUm)
        (.message "joint retention does not cover a joint member's actual thickness")
      require (retention.applicableMaterials.contains (part.materialId, part.materialVersion))
        (.message "joint retention does not cover a joint member's material version"))
      joint.members

/-- The features that one joint names. -/
def checkMembers (design : DesignResult) (joint : Joint) : Except ValueError Unit :=
  forEach (fun member : JointMember => do
    require ((design.parts.map PartInstance.partId).contains member.partId)
      (.message "joint references a missing part")
    forEach (fun featureId : String => do
      let feature ← demand
        ((allFeatures design.parts).reverse.find? fun feature => feature.featureId == featureId)
        (.message "joint references a missing manufacturing feature")
      require (feature.partId == member.partId)
        (.message "joint member references another part's feature")
      require (feature.jointId == joint.jointId)
        (.message "joint member references a feature owned by another joint")) member.featureIds)
    joint.members

/-- The identities of the features a joint names. -/
def jointFeatureIds (joint : Joint) : List String := joint.members.flatMap JointMember.featureIds

/-- One feature is named by its own joint. -/
def checkFeature (design : DesignResult) (feature : ManufacturingFeature) :
    Except ValueError Unit := do
  require ((design.joints.map Joint.jointId).contains feature.jointId)
    (.message "manufacturing feature references a missing joint")
  require (design.joints.any fun joint => joint.jointId == feature.jointId &&
      (jointFeatureIds joint).contains feature.featureId)
    (.message "joint-owned manufacturing feature is absent from its joint")

/-- `validate_result_integrity`.  A feature of one joint carries the identity of that joint, so no
    other joint can name it: that check is part of `checkMembers`. -/
def validate (hashing : Hashing) (design : DesignResult) : Except ValueError Unit := do
  let partIds := design.parts.map PartInstance.partId
  let jointIds := design.joints.map Joint.jointId
  require (0 < design.totalWeightG) (.field "total_weight_g")
  require (isUnique partIds) (.message "design result has duplicate part IDs")
  require (isUnique jointIds) (.message "design result has duplicate joint IDs")
  require (sameMembers (design.assemblyGraph.nodes.map AssemblyNode.partId) partIds)
    (.message "assembly graph and part collection differ")
  require (sameMembers (design.assemblyGraph.edges.map AssemblyEdge.jointId) jointIds)
    (.message "assembly graph and joint collection differ")
  require (isUnique ((allFeatures design.parts).map ManufacturingFeature.featureId))
    (.message "design result has duplicate manufacturing feature IDs")
  forEach (fun joint => do
    design.checkRetention joint
    design.checkMembers joint) design.joints
  forEach design.checkFeature (allFeatures design.parts)
  match design.spec.jointRetention with
  | none => pure ()
  | some retention => do
    let fingerprint ← dadoJointGeometryFingerprint hashing design.parts design.joints
    require (retention.jointGeometrySha256 == fingerprint)
      (.message "joint-retention contract does not match the exact DADO geometry fingerprint")
  if design.spec.parameters.backPanel = .insetGroove then
    require (captiveInsetBackTopologyIsComplete design.parts design.joints design.assemblyGraph)
      (.message "inset back panel is not proven captive on four independent boundaries")
  else
    require (!design.joints.any fun joint =>
        joint.retentionApplicationClass == some .captiveInsetBackGroove)
      (.message "captive inset-back grooves require an inset back panel")
  require ((design.parts.map PartInstance.weightG).sum == design.totalWeightG)
    (.message "total design weight does not equal the part weights")
  match design.spec.jointRetention with
  | none => pure ()
  | some retention =>
    require ((retention.ratedLoad .shear).any fun rated =>
        design.minimumRetentionShearLoadN ≤ rated) (.message
      "joint-retention shear capacity must cover accumulated row loads and the entire structure's own weight")

end DesignResult

/-- `BookcaseEngine.build`. -/
def build (hashing : Hashing) (spec : BookcaseDesignSpec) : Except ValueError DesignResult := do
  let parts ← buildParts hashing.toIdentity spec
  let (parts, joints) ← buildJoints hashing.toIdentity spec parts
  let graph ← buildAssemblyGraph hashing.toIdentity parts joints
  let payload := HashPayload.design { spec with revision := 0 }
    (parts.map fun part => { part with revision := 0 }) joints graph
  let design : DesignResult :=
    { designHash := hashing.contentHash payload
      engineVersion := spec.engineVersion
      templateVersion := spec.templateVersion
      spec := spec
      parts := parts
      joints := joints
      assemblyGraph := graph
      totalWeightG := (parts.map PartInstance.weightG).sum }
  design.validate hashing
  return design

theorem spec_of_build {hashing : Hashing} {spec : BookcaseDesignSpec} {design : DesignResult}
    (h : build hashing spec = .ok design) : design.spec = spec := by
  simp only [build, bind_eq_ok] at h
  obtain ⟨_, _, _, _, _, _, _, _, hdesign⟩ := h
  cases hdesign
  rfl

theorem parameters_valid {spec : BookcaseDesignSpec} (h : spec.validate = .ok ()) :
    spec.parameters.validate = .ok () := by
  simp only [BookcaseDesignSpec.validate, bind_eq_ok] at h
  obtain ⟨-, -, ⟨⟩, hparameters, -⟩ := h
  exact hparameters

/-! ## Specifications to compile -/

/-- Identities that are the joined names; no two payloads of the examples are compared. -/
def namedHashing : Hashing where
  stableId := joinNames
  stableId_injective := joinNames_injective
  contentHash := fun _ => ""

/-- A material version for panels of a thickness. -/
def plywood (nominalThicknessUm : Int) : MaterialVersion :=
  { materialId := "ply", version := "1", nominalThicknessUm := nominalThicknessUm
    densityKgM3 := 680, elasticModulusMpa := 8000, bendingStrengthMpa := 40, shearStrengthMpa := 5
    minSupportedThicknessUm := 1000, source := ⟨"sheet", "data sheet", "1"⟩ }

/-- The specification of a bookcase of plywood. -/
def plywoodBookcase (parameters : BookcaseParameters) : BookcaseDesignSpec :=
  { designId := "bookcase", parameters := parameters
    material := plywood parameters.nominalThicknessUm
    backMaterial := if parameters.backPanel = .none then none else some (plywood 6000) }

end Custombuild.Domain
