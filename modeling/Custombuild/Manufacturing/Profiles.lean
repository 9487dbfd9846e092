/-
  The two server-owned validation machines.  Source: `custombuild_manufacturing.profiles`.
-/
import Custombuild.Manufacturing.Model

namespace Custombuild.Manufacturing

def referenceTools : List ToolSpec :=
  [{ toolId := "T05", name := "5 mm brad-point reference drill", diameterUm := 5000
     cuttingLengthUm := 30000, supportedOperations := [.drill], spindleRpm := 12000
     feedUmMin := 1500000, plungeUmMin := 500000, version := "1.0.0-validation" },
   { toolId := "T08D", name := "8 mm reference drill/countersink", diameterUm := 8000
     cuttingLengthUm := 35000, supportedOperations := [.drill, .countersink]
     spindleRpm := 12000, feedUmMin := 1500000, plungeUmMin := 500000
     version := "1.0.0-validation" },
   { toolId := "T06R", name := "6 mm two-flute reference router", diameterUm := 6000
     cuttingLengthUm := 30000, supportedOperations := [.pocket, .groove, .contour, .engrave]
     spindleRpm := 18000, feedUmMin := 3000000, plungeUmMin := 800000
     version := "1.0.0-validation" },
   { toolId := "T08R", name := "8 mm two-flute reference router", diameterUm := 8000
     cuttingLengthUm := 35000, supportedOperations := [.pocket, .groove, .contour, .engrave]
     spindleRpm := 18000, feedUmMin := 4000000, plungeUmMin := 1000000
     version := "1.0.0-validation" }]

def linuxcncReferenceRouter1325 : MachineProfile where
  profileId := "custombuild-router-1325-linuxcnc"
  name := "Custombuild Reference Router 1325 / LinuxCNC"
  version := "1.0.0-validation"
  controller := "LinuxCNC"
  workWidthUm := 2500000
  workHeightUm := 1300000
  workZUm := 150000
  safeZUm := 15000
  maxSpindleRpm := 24000
  supportedOperations := [.drill, .countersink, .pocket, .groove, .contour, .engrave]
  tools := referenceTools
  toolLibraryVersion := "reference-tools-1.0.0-validation"
  supportedSides := [.a]
  canFlipStock := true
  wcsCodes := [.g54, .g55]
  accuracyUm := 100
  tools_nodup := by decide +kernel

def linuxcncReferenceRouter5125 : MachineProfile :=
  { linuxcncReferenceRouter1325 with
    profileId := "custombuild-router-5125-linuxcnc"
    name := "Custombuild Reference Router 5125 / LinuxCNC"
    version := "1.0.0-validation"
    workWidthUm := 5100000
    workHeightUm := 2600000
    work_pos := by decide
    texts_canonical := by decide +kernel }

/-- The trusted profile of an identity. -/
def resolveReferenceMachine (profileId : String) : Option MachineProfile :=
  if profileId = linuxcncReferenceRouter1325.profileId then some linuxcncReferenceRouter1325
  else if profileId = linuxcncReferenceRouter5125.profileId then some linuxcncReferenceRouter5125
  else none

end Custombuild.Manufacturing
