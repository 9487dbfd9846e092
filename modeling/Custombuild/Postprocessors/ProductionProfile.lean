/-
  The attested LinuxCNC machine profile.  Source:
  `custombuild_postprocessors.production_model`.

  Policies that the constructor fixes to one value are constants here, attestation flags
  (all required to be true), evidence identities and evidence versions are left out: nothing
  reads them but the constructor itself and the SHA-256 fingerprint of the profile.  The
  fingerprints are parameters (`FingerprintEnv`).
-/
import Custombuild.Cam.ProductionModel

namespace Custombuild.Postprocessors

open Custombuild.Lib Custombuild.Manufacturing Custombuild.Cam

def linuxcncProductionPostprocessorId : String := "linuxcnc-3axis-production"
def linuxcncProductionPostprocessorVersion : String := "1.2.0"
def linuxcncOracleControllerVersion : String := "2.9.4"

def g53ToolChangePathComplete : String :=
  "G53_Z_TOOLCHANGE_XY_M6_G53_Z_THEN_ENTRY_XY_AT_GLOBAL_CLEARANCE"
def g52G92OffsetResetPolicy : String := "G92.1_CLEAR_AND_DO_NOT_RESTORE"
def feedSpindleOverridePolicy : String := "PROGRAM_DISABLES_FEED_AND_SPINDLE_OVERRIDES_WITH_M49"
def externalAxisOffsetPolicy : String := "XYZ_OFFSET_AV_RATIO_ZERO_EOFFSETS_DISABLED"
def homingPreflightPolicy : String := "NO_FORCE_HOMING_0_ALL_XYZ_HOMED_BEFORE_AUTO"
def spindleAtSpeedPolicy : String := "ACTUAL_RPM_GT_0_WITHIN_TOLERANCE_BEFORE_FEED"
def continuousSpindleSpeedInterlockPolicy : String :=
  "ACTUAL_RPM_OUT_OF_TOLERANCE_INHIBITS_CUTTING_FEED_CONTINUOUSLY"
def spindleDwellRole : String := "MINIMUM_DWELL_NOT_SPEED_PROOF"
def programRestartPolicy : String :=
  "PROGRAM_START_ONLY_RUN_FROM_LINE_DISABLED_FULL_RESTART_AFTER_ABORT"
def m6ToolTablePolicy : String := "M6_PRESERVES_EXACT_BOUND_TOOL_TABLE"
def m6WcsTablePolicy : String := "M6_PRESERVES_EXACT_BOUND_WCS_TABLE"
def metricXyzIdentityKinematicsPolicy : String :=
  "LINEAR_UNITS_MM_COORDINATES_XYZ_IDENTITY_TRIVKINS_JOINTS_3_" ++
    "JOINT_0_X_JOINT_1_Y_JOINT_2_Z_NO_EXTRA_AXES"

/-- `STOCK_TOP_Z0_REFERENCE`, the only reference surface of a bound setup. -/
def stockTopZ0Reference : String := "STOCK_TOP_Z0"

/-- The number of a work coordinate system, and its text. -/
def wcsNumber : Wcs → Int
  | .g54 => 54
  | .g55 => 55
  | .g56 => 56
  | .g57 => 57
  | .g58 => 58
  | .g59 => 59

def wcsText : Wcs → String
  | .g54 => "G54"
  | .g55 => "G55"
  | .g56 => "G56"
  | .g57 => "G57"
  | .g58 => "G58"
  | .g59 => "G59"

/-- A raw controller offset row; its XY rotation is zero. -/
structure LinuxCNCWCSOffset where
  wcs : Wcs
  machineX0Um : Int
  machineY0Um : Int
  machineZ0Um : Int
deriving DecidableEq

structure LinuxCNCProductionMachineProfile where
  profileId : String
  version : String
  machineProfileId : String
  machineProfileVersion : String
  controllerId : String
  controllerVersion : String
  minForwardVelocityRpm : Int
  maxForwardVelocityRpm : Int
  wcsOffsets : List LinuxCNCWCSOffset
  machineXMinUm : Int
  machineXMaxUm : Int
  machineYMinUm : Int
  machineYMaxUm : Int
  machineZMinUm : Int
  machineZMaxUm : Int
  toolChangeXUm : Int
  toolChangeYUm : Int
  toolChangeZUm : Int
  spindleSpinupMs : Int
  g53ToolChangePathClearanceEvidenceSha256 : String
  wcsOffsetsEvidenceSha256 : String
  g52G92OffsetResetEvidenceSha256 : String
  feedSpindleOverrideEvidenceSha256 : String
  externalAxisOffsetEvidenceSha256 : String
  homingPreflightEvidenceSha256 : String
  programRestartEvidenceSha256 : String
  m6ToolTableEvidenceSha256 : String
  m6WcsTableEvidenceSha256 : String
  metricXyzIdentityKinematicsEvidenceSha256 : String
  spindleFeedbackSource : String
  spindleAtSpeedEvidenceSha256 : String
  spindleAtSpeedTolerancePpm : Int
  continuousSpindleSpeedInterlockEvidenceSha256 : String
  ids_valid : ∀ s ∈ [profileId, version, machineProfileId, machineProfileVersion, controllerId,
    controllerVersion, spindleFeedbackSource], isIdentity s = true
  controller_linuxcnc : controllerId.toLower = "linuxcnc"
  controller_version : controllerVersion = linuxcncOracleControllerVersion
  velocity_range : 0 < minForwardVelocityRpm ∧ minForwardVelocityRpm < maxForwardVelocityRpm
  wcs_nonempty : wcsOffsets ≠ []
  wcs_sorted : wcsOffsets.Pairwise fun a b => wcsNumber a.wcs < wcsNumber b.wcs
  x_range : machineXMinUm < machineXMaxUm ∧ machineXMinUm ≤ toolChangeXUm ∧
    toolChangeXUm ≤ machineXMaxUm
  y_range : machineYMinUm < machineYMaxUm ∧ machineYMinUm ≤ toolChangeYUm ∧
    toolChangeYUm ≤ machineYMaxUm
  z_range : machineZMinUm < machineZMaxUm ∧ machineZMinUm ≤ toolChangeZUm ∧
    toolChangeZUm ≤ machineZMaxUm
  origins_inside : ∀ o ∈ wcsOffsets,
    (machineXMinUm ≤ o.machineX0Um ∧ o.machineX0Um ≤ machineXMaxUm) ∧
    (machineYMinUm ≤ o.machineY0Um ∧ o.machineY0Um ≤ machineYMaxUm) ∧
    machineZMinUm ≤ o.machineZ0Um ∧ o.machineZ0Um ≤ machineZMaxUm
  spinup_range : 1 ≤ spindleSpinupMs ∧ spindleSpinupMs ≤ 120000
  tolerance_range : 1 ≤ spindleAtSpeedTolerancePpm ∧ spindleAtSpeedTolerancePpm ≤ 100000
  hashes_valid : ∀ s ∈ [g53ToolChangePathClearanceEvidenceSha256, wcsOffsetsEvidenceSha256,
    g52G92OffsetResetEvidenceSha256, feedSpindleOverrideEvidenceSha256,
    externalAxisOffsetEvidenceSha256, homingPreflightEvidenceSha256,
    programRestartEvidenceSha256, m6ToolTableEvidenceSha256, m6WcsTableEvidenceSha256,
    metricXyzIdentityKinematicsEvidenceSha256, spindleAtSpeedEvidenceSha256,
    continuousSpindleSpeedInterlockEvidenceSha256], isSha256 s = true

namespace LinuxCNCProductionMachineProfile

variable (p : LinuxCNCProductionMachineProfile)

def supportedWcs : List Wcs := p.wcsOffsets.map LinuxCNCWCSOffset.wcs

def workWidthUm : Int := p.machineXMaxUm - p.machineXMinUm
def workHeightUm : Int := p.machineYMaxUm - p.machineYMinUm
def workZUm : Int := p.machineZMaxUm - p.machineZMinUm

end LinuxCNCProductionMachineProfile

/-- The SHA-256 fingerprints that the header of a program repeats, and the eight digits that
    shorten a file name. -/
structure FingerprintEnv where
  documentFingerprint : ProductionToolpathDocument → String
  machineProfileFingerprint : ProductionToolpathDocument → String
  configSha256 : LinuxCNCProductionMachineProfile → String
  runtimeContractSha256 : LinuxCNCProductionMachineProfile → String
  filenameDigest : String → String

end Custombuild.Postprocessors
