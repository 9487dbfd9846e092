/-
  The order in which a bookcase is put together.
  Source: `custombuild_domain.engine`, `BookcaseEngine._build_assembly_graph`, and the assembly
  models of `custombuild_domain.models`.
-/
import Custombuild.Domain.Interlocks

namespace Custombuild.Domain

open Custombuild.Lib

structure AssemblyNode where
  partId : String
  semanticKey : String
deriving DecidableEq

structure AssemblyEdge where
  jointId : String
  fromPartId : String
  toPartId : String
deriving DecidableEq

structure AssemblyStep where
  stepNumber : Nat
  stepId : String
  partIds : List String
  movingPartIds : List String
  jointIds : List String
  direction : AssemblyDirection
  motionPath : List AssemblyDirection
  toolIds : List String := []
  checkpoint : String
deriving DecidableEq

/-- `moving_group_belongs_to_step` and the declared lengths. -/
def AssemblyStep.validate (step : AssemblyStep) : Except ValueError Unit := do
  require (0 < step.stepNumber) (.field "step_number")
  require (step.movingPartIds ≠ []) (.field "moving_part_ids")
  require (step.motionPath ≠ []) (.field "motion_path")
  require (step.movingPartIds.dedup.length = step.movingPartIds.length)
    (.message "assembly moving group contains duplicate parts")
  require (step.movingPartIds.all step.partIds.contains)
    (.message "assembly moving group must be contained in the step parts")
  require (step.motionPath.getLast? == some step.direction)
    (.message "assembly direction must equal the final motion-path segment")

structure AssemblyGraph where
  nodes : List AssemblyNode
  edges : List AssemblyEdge
  steps : List AssemblyStep
deriving DecidableEq

/-- Whether two lists have the same members. -/
def sameMembers (a b : List String) : Bool := a.all b.contains && b.all a.contains

def isUnique (ids : List String) : Bool := ids.dedup.length == ids.length

/-- `graph_references_exist`. -/
def AssemblyGraph.validate (graph : AssemblyGraph) : Except ValueError Unit := do
  let nodeIds := graph.nodes.map AssemblyNode.partId
  let edgeIds := graph.edges.map AssemblyEdge.jointId
  let stepJointIds := graph.steps.flatMap AssemblyStep.jointIds
  let stepPartIds := graph.steps.flatMap AssemblyStep.partIds
  require (isUnique nodeIds) (.message "assembly graph has duplicate nodes")
  require (isUnique edgeIds) (.message "assembly graph has duplicate joint edges")
  require (graph.edges.all fun edge =>
      nodeIds.contains edge.fromPartId && nodeIds.contains edge.toPartId)
    (.message "assembly edge references a missing part")
  require (graph.steps.map AssemblyStep.stepNumber ==
      (List.range graph.steps.length).map (· + 1))
    (.message "assembly steps must be sequential and one-based")
  require (stepPartIds.all nodeIds.contains) (.message "assembly step references a missing part")
  require (stepJointIds.all edgeIds.contains) (.message "assembly step references a missing joint")
  require (isUnique stepJointIds) (.message "each assembly joint must be installed exactly once")
  require (sameMembers stepJointIds edgeIds) (.message "assembly steps must install every joint")
  require (sameMembers stepPartIds nodeIds)
    (.message "assembly steps must use every part exactly as a BOM item")

/-! ## Steps -/

/-- The steps made so far and the joints they install. -/
structure AssemblyState where
  used : List String := []
  steps : List AssemblyStep := []

/-- The tools of a joint. -/
def toolsFor : JointType → List String
  | .dowel | .tenon => ["mallet"]
  | .confirmat => ["hex-key-4mm"]
  | _ => []

/-- The arguments of `add_step`. -/
structure StepPlan where
  selected : List Joint
  direction : AssemblyDirection
  checkpoint : String
  movingParts : List PartInstance
  motionPath : Option (List AssemblyDirection) := none
  requiredTools : List String := []

/-- `add_step`. -/
def addStep (ident : Identity) (parts : List PartInstance) (state : AssemblyState)
    (plan : StepPlan) : Except ValueError AssemblyState := do
  let current := sortBy Joint.jointId
    (plan.selected.filter fun joint => !state.used.contains joint.jointId)
  if current = [] then return state
  else
    let jointIds := current.map Joint.jointId
    let movingPartIds := sortedSet (plan.movingParts.map PartInstance.partId)
    require (movingPartIds ≠ [] && movingPartIds.all (parts.map PartInstance.partId).contains)
      (.message "assembly step moving group must belong to the design")
    let step : AssemblyStep :=
      { stepNumber := state.steps.length + 1
        stepId := ident.stableId ("assembly-step" :: jointIds)
        partIds := sortedSet (current.flatMap Joint.partIds ++ movingPartIds)
        movingPartIds := movingPartIds
        jointIds := jointIds
        direction := plan.direction
        motionPath := plan.motionPath.getD [plan.direction]
        toolIds := sortedSet (plan.requiredTools ++ current.flatMap fun joint =>
          toolsFor joint.jointType)
        checkpoint := plan.checkpoint }
    step.validate
    return ⟨state.used ++ jointIds, state.steps ++ [step]⟩

/-- Several calls of `add_step`. -/
def addSteps (ident : Identity) (parts : List PartInstance) :
    AssemblyState → List StepPlan → Except ValueError AssemblyState
  | state, [] => .ok state
  | state, plan :: plans => do
    let state ← addStep ident parts state plan
    addSteps ident parts state plans

section Selection

variable (parts : List PartInstance)

/-- The keys of the parts of a joint. -/
def keysOf (joint : Joint) : List String :=
  joint.partIds.filterMap fun id =>
    (parts.find? fun part => part.partId == id).map PartInstance.semanticKey

/-- The roles of the parts of a joint. -/
def rolesOf (joint : Joint) : List PartRole :=
  joint.partIds.filterMap fun id =>
    (parts.find? fun part => part.partId == id).map PartInstance.role

/-- The joints between two parts. -/
def jointsBetween (joints : List Joint) (first second : String) : List Joint :=
  joints.filter fun joint => sameMembers (keysOf parts joint) [first, second]

/-- The joints of a divider with shelves. -/
def dividerShelfJoints (joints : List Joint) (divider : PartInstance) : List Joint :=
  joints.filter fun joint => joint.jointType == .dado && joint.partIds.contains divider.partId &&
    (rolesOf parts joint).contains .shelf

/-- The joints whose groove is on a face of the part. -/
def jointsOnFace (joints : List Joint) (part : PartInstance) (face : FaceName) : List Joint :=
  joints.filter fun joint => joint.members.any fun member =>
    member.partId == part.partId && member.matingFace == face

/-- `shelves_for`. -/
def shelvesFor (joints : List Joint) : List PartInstance :=
  sortBy PartInstance.partId (parts.filter fun part => part.role == .shelf &&
    (joints.flatMap Joint.partIds).contains part.partId)

/-- The lower cabinets are put together from left to right. -/
def baseSteps (joints : List Joint) : List StepPlan :=
  (partsOfRole parts .baseSide).flatMap fun baseSide =>
    let leftBottom := numbered "base-bottom-" (baseSide.instanceIndex - 1)
    let rightBottom := numbered "base-bottom-" baseSide.instanceIndex
    [{ selected := jointsBetween parts joints baseSide.semanticKey leftBottom
       direction := .negX
       checkpoint := "För underskåpssidan från höger över vänster bottenkant och kontrollera fullt spårinstick."
       movingParts := [baseSide] },
     { selected := jointsBetween parts joints baseSide.semanticKey rightBottom
       direction := .negX
       checkpoint := "För nästa underskåpsbotten från höger in i sidans öppna spår."
       movingParts := parts.filter fun part => part.semanticKey == rightBottom }]

/-- The bottom is lowered over the base sides, then over the plinth. -/
def bottomSteps (joints : List Joint) (bottom : PartInstance) : List StepPlan :=
  [{ selected := joints.filter fun joint => (keysOf parts joint).contains "bottom" &&
       (rolesOf parts joint).contains .baseSide
     direction := .negZ
     checkpoint := "Sänk överdelens botten över samtliga interna underskåpssidor och kontrollera den sammanhängande lodräta lastvägen."
     movingParts := [bottom] },
   { selected := (jointsBetween parts joints "bottom" "plinth").filter fun joint =>
       joint.jointType == .dado
     direction := .negZ
     checkpoint := "Sänk botten över sockelns övre tappkant och kontrollera full anliggning."
     movingParts := [bottom] }]

/-- The shelves enter a divider from both sides. -/
def dividerSteps (joints : List Joint) (entry : PartInstance × Nat) : List StepPlan :=
  let divider := entry.1
  let shelfJoints := dividerShelfJoints parts joints divider
  let leftJoints := jointsOnFace shelfJoints divider .left
  let rightJoints := jointsOnFace shelfJoints divider .right
  [if entry.2 = 0 then
     { selected := leftJoints, direction := .posX
       checkpoint := "För in vänsterfackets hyllkanter i avdelarens öppna spår; kontrollera spårbotten och del-ID före nästa grupp."
       movingParts := shelvesFor parts leftJoints }
   else
     { selected := leftJoints, direction := .negX
       checkpoint := "För in avdelaren från höger över föregående facks exponerade hylländar."
       movingParts := [divider] },
   { selected := rightJoints, direction := .negX
     checkpoint := "För in nästa facks hyllkanter från höger i avdelarens öppna spår; kontrollera spårbotten och del-ID före nästa avdelare."
     movingParts := shelvesFor parts rightJoints }]

/-- The dividers with their shelves are lowered into the bottom together. -/
def moduleStep (joints : List Joint) (used : List String) : StepPlan :=
  let dividers := partsOfRole parts .divider
  let joined := joints.filter fun joint => used.contains joint.jointId && joint.jointType == .dado &&
    (rolesOf parts joint).contains .divider
  { selected := joints.filter fun joint => joint.jointType == .dado &&
      (keysOf parts joint).contains "bottom" && (rolesOf parts joint).contains .divider
    direction := .negZ
    checkpoint := "Sänk avdelar-/hyllmodulen i bottens samtliga spår samtidigt."
    movingParts := dividers ++ shelvesFor parts joined }

/-- The joints of a back that is captured in grooves. -/
def capturedBackJoints (joints : List Joint) : List Joint :=
  joints.filter fun joint => (rolesOf parts joint).contains .back && joint.jointType == .dado

/-- The backs, the top, the two sides and a back on the surface. -/
def closingSteps (joints : List Joint) (top right left : PartInstance) : List StepPlan :=
  let backs := partsOfRole parts .back
  let captured := capturedBackJoints parts joints
  backs.map (fun back =>
    { selected := captured.filter fun joint => joint.partIds.contains back.partId &&
        ((rolesOf parts joint).contains .bottom || (rolesOf parts joint).contains .divider)
      direction := .negZ
      checkpoint := if backs.length = 1 then
          "Sänk ryggens nederkant i bottenspåret innan topp eller gavlar monteras."
        else "Sänk ryggfältets nederkant i bottenspåret och dess sidokant(er) i öppna avdelarspår innan topp eller gavlar monteras."
      movingParts := [back] }) ++
  [{ selected := joints.filter fun joint => (keysOf parts joint).contains "top" &&
       (captured.contains joint || (rolesOf parts joint).contains .divider)
     direction := .negZ
     checkpoint := "Sänk toppen över rygg och avdelare och kontrollera alla samtidiga instick."
     movingParts := [top] },
   { selected := joints.filter fun joint =>
       (keysOf parts joint).contains "right-side" && joint.jointType == .dado
     direction := .negX
     checkpoint := "Säkra samtliga FIX-delar i panelpositioneringsjiggen och för därefter in höger gavel från höger över alla exponerade tappkanter samtidigt."
     movingParts := [right]
     requiredTools := ["panel-positioning-jig"] },
   { selected := joints.filter fun joint =>
       (keysOf parts joint).contains "left-side" && joint.jointType == .dado
     direction := .posX
     checkpoint := "Stäng stommen med vänster gavel och kontrollera varje spåranslutning visuellt. Kontroll av instick verifierar inte permanent hållning."
     movingParts := [left] },
   { selected := joints.filter fun joint =>
       (rolesOf parts joint).contains .back && joint.jointType == .rabbet
     direction := .negY
     checkpoint := "För ryggstycket från baksidan mot den slutna stommen och kontrollera full anliggning längs samtliga fyra kanter."
     movingParts := backs }]

/-- Adjustable shelves are laid in when the carcass is closed. -/
def shelfSteps (joints : List Joint) : List StepPlan :=
  (partsOfRole parts .shelf).map fun shelf =>
    { selected := joints.filter fun joint =>
        joint.jointType == .shelfPin && joint.partIds.contains shelf.partId
      direction := .negZ
      checkpoint := "Montera rätt hyllbärare, för in den märkta hyllan från framkanten ovanför bärarna och sänk den därefter på samtliga bärare."
      movingParts := [shelf]
      motionPath := some [.posY, .negZ] }

/-- The steps of the parts that no joint holds yet. -/
def pendingSteps (ident : Identity) (count : Nat) (covered : List String) : List AssemblyStep :=
  let pending := (sortBy PartInstance.semanticKey parts).filter fun part =>
    !covered.contains part.partId
  pending.zipIdx.map fun entry =>
    let part := entry.1
    let direction : AssemblyDirection := if part.role = .cabinetFront then .negY else .negZ
    { stepNumber := count + entry.2 + 1
      stepId := ident.stableId ["assembly-step", part.partId, "hardware-pending"]
      partIds := [part.partId]
      movingPartIds := [part.partId]
      jointIds := []
      direction := direction
      motionPath := [direction]
      checkpoint := if part.role = .cabinetFront then
          "FRONT EJ MONTERINGSBAR: montera inte förrän mekaniskt beslag, spel och borrbild har verifierats."
        else "Placera moduldelen enligt ritning; infästningen inväntar verifierat beslagssystem." }

end Selection

/-- `_build_assembly_graph`. -/
def buildAssemblyGraph (ident : Identity) (parts : List PartInstance) (joints : List Joint) :
    Except ValueError AssemblyGraph := do
  let bottom ← partByKey parts "bottom"
  let top ← partByKey parts "top"
  let right ← partByKey parts "right-side"
  let left ← partByKey parts "left-side"
  let dividers := partsOfRole parts .divider
  let state ← addSteps ident parts {} (baseSteps parts joints ++ bottomSteps parts joints bottom)
  let state ← addSteps ident parts state (dividers.zipIdx.flatMap (dividerSteps parts joints))
  let state ← if dividers = [] then pure state
    else addStep ident parts state (moduleStep parts joints state.used)
  let state ← addSteps ident parts state
    (closingSteps parts joints top right left ++ shelfSteps parts joints)
  let unused := (joints.map Joint.jointId).filter fun id => !state.used.contains id
  require unused.isEmpty (.message ("no verified assembly sequence exists for joints: " ++
    String.intercalate ", " (sortedSet unused)))
  let pending := pendingSteps parts ident state.steps.length
    (state.steps.flatMap AssemblyStep.partIds)
  forEach AssemblyStep.validate pending
  let graph : AssemblyGraph :=
    { nodes := parts.map fun part => ⟨part.partId, part.semanticKey⟩
      edges := joints.map fun joint => ⟨joint.jointId, joint.first.partId, joint.second.partId⟩
      steps := state.steps ++ pending }
  graph.validate
  return graph

end Custombuild.Domain
