/-
  The production machine profile as a JSON document.
  Source: `custombuild_postprocessors.production_model`, `custombuild_postprocessors.runtime_contract`
  and `canonical_json_bytes` of `custombuild_manufacturing.model`.

  The many fields of one kind (identities, evidence, policies, coordinates, attestations) are
  tables over the names of the fields.  The digest of the oracle build is a parameter.  Where a
  document has several faults, the one reported first may be another than in the source.
-/
import Mathlib
import Custombuild.Lib.JsonText
import Custombuild.Postprocessors.ProductionProfile

namespace Custombuild.Postprocessors.ProfileCodec

open Custombuild.Lib Custombuild.Cam

/-! ## Canonical JSON -/

/-- `canonical_data` of a record: its fields in the order of their names. -/
def record (fields : List (String × Json)) : Json := .obj (sortBy Prod.fst fields)

/-- `canonical_json_bytes`: integers of too many digits have no text. -/
def canonicalJsonBytes (value : Json) : Except String ByteArray :=
  if JsonText.printable value then .ok (String.ofList (JsonText.text value)).toUTF8
  else .error "Exceeds the limit (4300 digits) for integer string conversion"

/-- `_json_string`. -/
def jsonString (doc : Json) (key : String) : Except String String :=
  match doc.get key with
  | some (.str value) => .ok value
  | _ => .error (key ++ " must be a JSON string")

/-- `_json_int`. -/
def jsonInt (doc : Json) (key : String) : Except String Int :=
  match doc.get key with
  | some (.num value 0) => .ok value
  | _ => .error (key ++ " must be a JSON integer")

/-- `_json_bool`. -/
def jsonBool (doc : Json) (key : String) : Except String Bool :=
  match doc.get key with
  | some (.bool value) => .ok value
  | _ => .error (key ++ " must be a JSON boolean")

/-- A list, wherever the field is one. -/
def jsonArray (doc : Json) (key message : String) : Except String (List Json) :=
  match doc.get key with
  | some (.arr items) => .ok items
  | _ => .error message

def isObject : Json → Bool
  | .obj _ => true
  | _ => false

/-- Whether a value is an object with exactly the given keys. -/
def hasKeys (doc : Json) (expected : List String) : Bool :=
  match doc with
  | .obj fields => (fields.map Prod.fst).all expected.contains &&
      expected.all (fields.map Prod.fst).contains
  | _ => false

/-! ## Tables of fields -/

/-- The fields of one kind: their names, none left out. -/
structure FieldTable (ι : Type) where
  all : List ι
  key : ι → String
  complete : ∀ i, i ∈ all

namespace FieldTable

variable {ι α : Type} (table : FieldTable ι)

def keys : List String := table.all.map table.key

def fields (value : ι → Json) : List (String × Json) :=
  table.all.map fun i => (table.key i, value i)

/-- Every field of the table, read in the order of the table. -/
def read (one : String → Except String α) (absent : α) : Except String (ι → α) := do
  forEach (fun i => (one (table.key i)).map fun _ => ()) table.all
  return fun i => (one (table.key i)).toOption.getD absent

end FieldTable

inductive ProfileIdentity
  | profileId | version | machineProfileId | machineProfileVersion | controllerId
  | controllerVersion | spindleFeedbackSource
deriving DecidableEq

def identityTable : FieldTable ProfileIdentity where
  all := [.profileId, .version, .machineProfileId, .machineProfileVersion, .controllerId,
    .controllerVersion, .spindleFeedbackSource]
  key
    | .profileId => "profile_id"
    | .version => "version"
    | .machineProfileId => "machine_profile_id"
    | .machineProfileVersion => "machine_profile_version"
    | .controllerId => "controller_id"
    | .controllerVersion => "controller_version"
    | .spindleFeedbackSource => "spindle_feedback_source"
  complete i := by cases i <;> decide

/-- What the evidence of a profile is about. -/
inductive EvidenceTopic
  | g53ToolChangePathClearance | wcsOffsets | g52G92OffsetReset | feedSpindleOverride
  | externalAxisOffset | homingPreflight | programRestart | m6ToolTable | m6WcsTable
  | metricXyzIdentityKinematics | spindleAtSpeed | continuousSpindleSpeedInterlock
deriving DecidableEq

def EvidenceTopic.stem : EvidenceTopic → String
  | .g53ToolChangePathClearance => "g53_tool_change_path_clearance"
  | .wcsOffsets => "wcs_offsets"
  | .g52G92OffsetReset => "g52_g92_offset_reset"
  | .feedSpindleOverride => "feed_spindle_override"
  | .externalAxisOffset => "external_axis_offset"
  | .homingPreflight => "homing_preflight"
  | .programRestart => "program_restart"
  | .m6ToolTable => "m6_tool_table"
  | .m6WcsTable => "m6_wcs_table"
  | .metricXyzIdentityKinematics => "metric_xyz_identity_kinematics"
  | .spindleAtSpeed => "spindle_at_speed"
  | .continuousSpindleSpeedInterlock => "continuous_spindle_speed_interlock"

/-- The fields of each evidence that end alike. -/
def evidenceTable (suffix : String) : FieldTable EvidenceTopic where
  all := [.g53ToolChangePathClearance, .wcsOffsets, .g52G92OffsetReset, .feedSpindleOverride,
    .externalAxisOffset, .homingPreflight, .programRestart, .m6ToolTable, .m6WcsTable,
    .metricXyzIdentityKinematics, .spindleAtSpeed, .continuousSpindleSpeedInterlock]
  key topic := topic.stem ++ suffix
  complete i := by cases i <;> decide

def evidenceIdTable : FieldTable EvidenceTopic := evidenceTable "_evidence_id"
def evidenceVersionTable : FieldTable EvidenceTopic := evidenceTable "_evidence_version"
def evidenceSha256Table : FieldTable EvidenceTopic := evidenceTable "_evidence_sha256"

inductive ProfilePolicy
  | g53ToolChangePath | g52G92OffsetReset | feedSpindleOverride | externalAxisOffset
  | homingPreflight | programRestart | m6ToolTable | m6WcsTable | metricXyzIdentityKinematics
  | spindleAtSpeed | continuousSpindleSpeedInterlock
deriving DecidableEq

def policyTable : FieldTable ProfilePolicy where
  all := [.g53ToolChangePath, .g52G92OffsetReset, .feedSpindleOverride, .externalAxisOffset,
    .homingPreflight, .programRestart, .m6ToolTable, .m6WcsTable, .metricXyzIdentityKinematics,
    .spindleAtSpeed, .continuousSpindleSpeedInterlock]
  key
    | .g53ToolChangePath => "g53_tool_change_path"
    | .g52G92OffsetReset => "g52_g92_offset_reset_policy"
    | .feedSpindleOverride => "feed_spindle_override_policy"
    | .externalAxisOffset => "external_axis_offset_policy"
    | .homingPreflight => "homing_preflight_policy"
    | .programRestart => "program_restart_policy"
    | .m6ToolTable => "m6_tool_table_policy"
    | .m6WcsTable => "m6_wcs_table_policy"
    | .metricXyzIdentityKinematics => "metric_xyz_identity_kinematics_policy"
    | .spindleAtSpeed => "spindle_at_speed_policy"
    | .continuousSpindleSpeedInterlock => "continuous_spindle_speed_interlock_policy"
  complete i := by cases i <;> decide

/-- The only accepted value of a policy, and what is said of any other. -/
def ProfilePolicy.required : ProfilePolicy → String × String
  | .g53ToolChangePath => (g53ToolChangePathComplete, "unsupported G53 tool-change path")
  | .g52G92OffsetReset => (g52G92OffsetResetPolicy, "unsupported G52/G92 offset-reset policy")
  | .feedSpindleOverride =>
    (feedSpindleOverridePolicy, "unsupported feed/spindle-override policy")
  | .externalAxisOffset => (externalAxisOffsetPolicy, "unsupported external-axis-offset policy")
  | .homingPreflight => (homingPreflightPolicy, "unsupported homing-preflight policy")
  | .programRestart => (programRestartPolicy, "unsupported program-restart policy")
  | .m6ToolTable => (m6ToolTablePolicy, "unsupported M6 tool-table policy")
  | .m6WcsTable => (m6WcsTablePolicy, "unsupported M6 WCS-table policy")
  | .metricXyzIdentityKinematics =>
    (metricXyzIdentityKinematicsPolicy, "unsupported native-unit/axis/kinematics policy")
  | .spindleAtSpeed => (spindleAtSpeedPolicy, "unsupported spindle-at-speed policy")
  | .continuousSpindleSpeedInterlock =>
    (continuousSpindleSpeedInterlockPolicy, "unsupported continuous spindle-speed-interlock policy")

inductive MachineCoordinate
  | xMin | xMax | yMin | yMax | zMin | zMax | toolChangeX | toolChangeY | toolChangeZ
deriving DecidableEq

def coordinateTable : FieldTable MachineCoordinate where
  all := [.xMin, .xMax, .yMin, .yMax, .zMin, .zMax, .toolChangeX, .toolChangeY, .toolChangeZ]
  key
    | .xMin => "machine_x_min_um"
    | .xMax => "machine_x_max_um"
    | .yMin => "machine_y_min_um"
    | .yMax => "machine_y_max_um"
    | .zMin => "machine_z_min_um"
    | .zMax => "machine_z_max_um"
    | .toolChangeX => "tool_change_x_um"
    | .toolChangeY => "tool_change_y_um"
    | .toolChangeZ => "tool_change_z_um"
  complete i := by cases i <;> decide

/-- The capabilities that must be verified. -/
inductive Attestation
  | g53MachineCoordinates | g53ToolChangePathClearance | wcsOffsets | g92ClearsOffsets
  | m6ToolChange | m6PreservesAxisPosition | m6PreservesBoundToolTable | m6PreservesBoundWcsTable
  | linearUnitsMm | coordinatesXyz | identityTrivkins | exactlyThreeJoints | jointMapping
  | noExtraControlledAxes | g43HLengthOffset | g8RadiusMode | g97RpmMode | m9CoolantOff
  | m49OverridesDisabled | m52AdaptiveFeedDisabled | m53FeedHoldEnabled
  | externalXyzOffsetsDisabled | allXyzHomedBeforeAuto | noForceHomingDisabled
  | runFromLineDisabled | fullRestartAfterAbort | realSpindleFeedback
  | spindleAtSpeedMotionInterlock | continuousSpindleSpeedFeedInhibit | vfdFaultMotionInhibit
  | vfdFaultSpindleStop | m3ClockwiseSpindle | g4PSecondsDwell
deriving DecidableEq

def attestationTable : FieldTable Attestation where
  all := [.g53MachineCoordinates, .g53ToolChangePathClearance, .wcsOffsets, .g92ClearsOffsets,
    .m6ToolChange, .m6PreservesAxisPosition, .m6PreservesBoundToolTable,
    .m6PreservesBoundWcsTable, .linearUnitsMm, .coordinatesXyz, .identityTrivkins,
    .exactlyThreeJoints, .jointMapping, .noExtraControlledAxes, .g43HLengthOffset, .g8RadiusMode,
    .g97RpmMode, .m9CoolantOff, .m49OverridesDisabled, .m52AdaptiveFeedDisabled,
    .m53FeedHoldEnabled, .externalXyzOffsetsDisabled, .allXyzHomedBeforeAuto,
    .noForceHomingDisabled, .runFromLineDisabled, .fullRestartAfterAbort, .realSpindleFeedback,
    .spindleAtSpeedMotionInterlock, .continuousSpindleSpeedFeedInhibit, .vfdFaultMotionInhibit,
    .vfdFaultSpindleStop, .m3ClockwiseSpindle, .g4PSecondsDwell]
  key
    | .g53MachineCoordinates => "g53_machine_coordinates_verified"
    | .g53ToolChangePathClearance => "g53_tool_change_path_clearance_verified"
    | .wcsOffsets => "wcs_offsets_verified"
    | .g92ClearsOffsets => "g92_1_clears_g52_g92_offsets_verified"
    | .m6ToolChange => "m6_tool_change_verified"
    | .m6PreservesAxisPosition => "m6_preserves_axis_position"
    | .m6PreservesBoundToolTable => "m6_preserves_bound_tool_table_verified"
    | .m6PreservesBoundWcsTable => "m6_preserves_bound_wcs_table_verified"
    | .linearUnitsMm => "linear_units_mm_verified"
    | .coordinatesXyz => "coordinates_xyz_verified"
    | .identityTrivkins => "identity_trivkins_verified"
    | .exactlyThreeJoints => "exactly_three_joints_verified"
    | .jointMapping => "joint_0_x_1_y_2_z_verified"
    | .noExtraControlledAxes => "no_extra_controlled_axes_verified"
    | .g43HLengthOffset => "g43_h_length_offset_verified"
    | .g8RadiusMode => "g8_radius_mode_verified"
    | .g97RpmMode => "g97_rpm_mode_verified"
    | .m9CoolantOff => "m9_coolant_off_verified"
    | .m49OverridesDisabled => "m49_feed_and_spindle_overrides_disabled_verified"
    | .m52AdaptiveFeedDisabled => "m52_p0_adaptive_feed_disabled_verified"
    | .m53FeedHoldEnabled => "m53_p1_feed_hold_enabled_verified"
    | .externalXyzOffsetsDisabled => "external_xyz_offsets_disabled_verified"
    | .allXyzHomedBeforeAuto => "all_xyz_homed_before_auto_verified"
    | .noForceHomingDisabled => "no_force_homing_disabled_verified"
    | .runFromLineDisabled => "run_from_line_disabled_verified"
    | .fullRestartAfterAbort => "full_restart_after_abort_required"
    | .realSpindleFeedback => "real_spindle_feedback_verified"
    | .spindleAtSpeedMotionInterlock => "spindle_at_speed_motion_interlock_verified"
    | .continuousSpindleSpeedFeedInhibit => "continuous_spindle_speed_feed_inhibit_verified"
    | .vfdFaultMotionInhibit => "vfd_fault_motion_inhibit_verified"
    | .vfdFaultSpindleStop => "vfd_fault_spindle_stop_verified"
    | .m3ClockwiseSpindle => "m3_clockwise_spindle_verified"
    | .g4PSecondsDwell => "g4_p_seconds_dwell_verified"
  complete i := by cases i <;> decide

/-! ## The runtime contract -/

def linuxcncOraclePackageVersion : String := "1:2.9.4-2+deb13u1"
def runtimeContractSchemaVersion : String := "custombuild.linuxcnc-runtime-contract.v1"

/-- `REQUIRED_RUNTIME_SETTINGS`. -/
def requiredRuntimeSettings : List (String × Json) :=
  ([("TRAJ.SPINDLES", .num 1 0),
   ("MOTION.num_spindles", .num 1 0),
   ("COMMAND.spindle_index", .num 0 0),
   ("SPINDLE_0.commands_feedback_interlocks_bound", .bool true),
   ("SPINDLE_0.interlocks_compare_exact_programmed_S", .bool true),
   ("RS274NGC.REMAP_T", .bool false),
   ("RS274NGC.REMAP_S", .bool false),
   ("RS274NGC.REMAP_F", .bool false),
   ("RS274NGC.ON_ABORT_COMMAND", .bool false),
   ("FILTER.ngc", .bool false),
   ("INPUT.exact_verified_bytes_to_interpreter", .bool true),
   ("TASK.TASK", .str "milltask"),
   ("TRAJ.TPMOD", .str "tpmod"),
   ("EMCMOT.EMCMOT", .str "motmod"),
   ("EMCMOT.HOMEMOD", .str "homemod"),
   ("EMCIO.EMCIO", .str "io"),
   ("STARTUP.alternate_components_or_search_path_overrides", .bool false),
   ("M6.axis_motion", .bool false),
   ("EMCIO.TOOL_CHANGE_POSITION", .bool false),
   ("EMCIO.TOOL_CHANGE_QUILL_UP", .bool false),
   ("EMCIO.TOOL_CHANGE_AT_G30", .bool false),
   ("EMCIO.DB_PROGRAM", .bool false),
   ("EMCIO.file_tool_table_backend", .bool true)] : List (String × Json)) ++
  (["0", "1", "2"].map fun i => ("JOINT_" ++ i ++ ".TYPE", .str "LINEAR")) ++
  ["0", "1", "2"].map fun i => ("JOINT_" ++ i ++ ".effective_UNITS", .str "mm")

def runtimeComponents : List String := ["rs274", "milltask", "tpmod", "motmod", "homemod", "io"]
def runtimeInputs : List String := ["expanded_ini", "expanded_hal", "hal_topology", "tool_table"]

/-- A setting; its value may be any JSON value before the contract is checked. -/
structure RuntimeSetting where
  name : String
  value : Json

structure RuntimeInventoryEntry where
  name : String
  sha256 : String

structure RuntimeContractFields where
  schemaVersion : String
  oracleBuildSha256 : String
  installedPackageVersion : String
  effectiveSettings : List RuntimeSetting
  components : List RuntimeInventoryEntry
  configurationInputs : List RuntimeInventoryEntry
  minForwardVelocityRpm : Int
  maxForwardVelocityRpm : Int
  evidenceId : String
  evidenceVersion : String
  evidenceSha256 : String
  workshopRuntimeVerified : Bool

/-- An inventory of exactly the required names in their order, with digests. -/
def checkInventory (label : String) (entries : List RuntimeInventoryEntry)
    (required : List String) : Except String Unit := do
  require (entries.map RuntimeInventoryEntry.name == sortBy id required)
    ("runtime " ++ label ++ " inventory is incomplete or non-canonical")
  require (entries.all fun entry => isSha256 entry.sha256)
    ("runtime " ++ label ++ " requires SHA-256 byte digests")

/-- A setting has the value that its name requires. -/
def checkSetting (item : RuntimeSetting) : Except String Unit :=
  require ((requiredRuntimeSettings.find? fun entry => entry.1 == item.name).any fun entry =>
    item.value.identical entry.2) ("unsupported effective LinuxCNC setting: " ++ item.name)

/-- `LinuxCNCRuntimeContract.__post_init__`, for the digest of the oracle build. -/
def RuntimeContractFields.validate (oracleBuild : String) (c : RuntimeContractFields) :
    Except String Unit := do
  require (c.schemaVersion == runtimeContractSchemaVersion)
    "unsupported LinuxCNC runtime contract schema"
  require (c.oracleBuildSha256 == oracleBuild) "LinuxCNC oracle build digest mismatch"
  require (c.installedPackageVersion == linuxcncOraclePackageVersion)
    "LinuxCNC package is outside the oracle-qualified build"
  require (c.effectiveSettings.map RuntimeSetting.name ==
      sortBy id (requiredRuntimeSettings.map Prod.fst))
    "runtime settings must exactly cover the supported configuration"
  forEach checkSetting c.effectiveSettings
  checkInventory "components" c.components runtimeComponents
  checkInventory "configuration_inputs" c.configurationInputs runtimeInputs
  require (decide (0 < c.minForwardVelocityRpm ∧
      c.minForwardVelocityRpm < c.maxForwardVelocityRpm))
    "runtime spindle limits must be positive increasing integer RPM"
  require (isIdentity c.evidenceId && isIdentity c.evidenceVersion)
    "runtime evidence requires canonical identities"
  require (isSha256 c.evidenceSha256) "runtime evidence requires a SHA-256 byte digest"
  require c.workshopRuntimeVerified "the workshop must explicitly verify the effective runtime"

/-- A contract that was constructed. -/
structure RuntimeContract (oracleBuild : String) extends RuntimeContractFields where
  valid : toRuntimeContractFields.validate oracleBuild = .ok ()

def RuntimeSetting.document (item : RuntimeSetting) : Json :=
  record [("name", .str item.name), ("value", item.value)]

def RuntimeInventoryEntry.document (entry : RuntimeInventoryEntry) : Json :=
  record [("name", .str entry.name), ("sha256", .str entry.sha256)]

/-- The fields of a contract, as `asdict` gives them. -/
def RuntimeContractFields.fields (c : RuntimeContractFields) : List (String × Json) :=
  [("schema_version", .str c.schemaVersion),
   ("oracle_build_sha256", .str c.oracleBuildSha256),
   ("installed_package_version", .str c.installedPackageVersion),
   ("effective_settings", .arr (c.effectiveSettings.map RuntimeSetting.document)),
   ("components", .arr (c.components.map RuntimeInventoryEntry.document)),
   ("configuration_inputs", .arr (c.configurationInputs.map RuntimeInventoryEntry.document)),
   ("min_forward_velocity_rpm", .num c.minForwardVelocityRpm 0),
   ("max_forward_velocity_rpm", .num c.maxForwardVelocityRpm 0),
   ("evidence_id", .str c.evidenceId),
   ("evidence_version", .str c.evidenceVersion),
   ("evidence_sha256", .str c.evidenceSha256),
   ("workshop_runtime_verified", .bool c.workshopRuntimeVerified)]

def RuntimeContractFields.document (c : RuntimeContractFields) : Json := record c.fields

def runtimeContractKeys : List String :=
  ["schema_version", "oracle_build_sha256", "installed_package_version", "effective_settings",
   "components", "configuration_inputs", "min_forward_velocity_rpm", "max_forward_velocity_rpm",
   "evidence_id", "evidence_version", "evidence_sha256", "workshop_runtime_verified"]

def readSetting (item : Json) : Except String RuntimeSetting := do
  let message := "runtime effective_settings must be a closed inventory array"
  require (hasKeys item ["name", "value"]) message
  let name ← (jsonString item "name").mapError fun _ => message
  let value ← demand (item.get "value") message
  return { name := name, value := value }

def readEntry (key : String) (item : Json) : Except String RuntimeInventoryEntry := do
  let message := "runtime " ++ key ++ " must be a closed inventory array"
  require (hasKeys item ["name", "sha256"]) message
  let name ← (jsonString item "name").mapError fun _ => message
  let sha256 ← (jsonString item "sha256").mapError fun _ => message
  return { name := name, sha256 := sha256 }

/-- `cls(...)` of a contract. -/
def makeContract (oracleBuild : String) (c : RuntimeContractFields) :
    Except String (RuntimeContract oracleBuild) :=
  match h : c.validate oracleBuild with
  | .error message => .error message
  | .ok () => .ok { toRuntimeContractFields := c, valid := h }

/-- A text of a contract. -/
def contractString (value : Json) (key : String) : Except String String :=
  (jsonString value key).mapError fun _ => "runtime " ++ key ++ " must be a string"

/-- `LinuxCNCRuntimeContract.from_mapping`. -/
def readContract (oracleBuild : String) (value : Json) :
    Except String (RuntimeContract oracleBuild) := do
  require (hasKeys value runtimeContractKeys) "runtime contract has missing or unknown fields"
  let schemaVersion ← contractString value "schema_version"
  let oracleBuildSha256 ← contractString value "oracle_build_sha256"
  let installedPackageVersion ← contractString value "installed_package_version"
  let evidenceId ← contractString value "evidence_id"
  let evidenceVersion ← contractString value "evidence_version"
  let evidenceSha256 ← contractString value "evidence_sha256"
  let settings ← jsonArray value "effective_settings"
    "runtime effective_settings must be a closed inventory array"
  let settings ← collect readSetting settings
  let components ← jsonArray value "components"
    "runtime components must be a closed inventory array"
  let components ← collect (readEntry "components") components
  let inputs ← jsonArray value "configuration_inputs"
    "runtime configuration_inputs must be a closed inventory array"
  let inputs ← collect (readEntry "configuration_inputs") inputs
  -- the constructor refuses what is no integer and no boolean
  let minimum ← (jsonInt value "min_forward_velocity_rpm").mapError fun _ =>
    "runtime spindle limits must be positive increasing integer RPM"
  let maximum ← (jsonInt value "max_forward_velocity_rpm").mapError fun _ =>
    "runtime spindle limits must be positive increasing integer RPM"
  let verified ← (jsonBool value "workshop_runtime_verified").mapError fun _ =>
    "the workshop must explicitly verify the effective runtime"
  makeContract oracleBuild
    { schemaVersion := schemaVersion, oracleBuildSha256 := oracleBuildSha256
      installedPackageVersion := installedPackageVersion, effectiveSettings := settings
      components := components, configurationInputs := inputs, minForwardVelocityRpm := minimum
      maxForwardVelocityRpm := maximum, evidenceId := evidenceId, evidenceVersion := evidenceVersion
      evidenceSha256 := evidenceSha256, workshopRuntimeVerified := verified }

/-! ## Offsets -/

def wcsCodes : List String := ["G54", "G55", "G56", "G57", "G58", "G59"]

/-- `LinuxCNCWCSOffset`: a canonical code, and no rotation. -/
structure WCSOffset where
  wcs : String
  machineX0Um : Int
  machineY0Um : Int
  machineZ0Um : Int
  machineXyRotationMdeg : Int
  known : wcs ∈ wcsCodes
  unrotated : machineXyRotationMdeg = 0

def WCSOffset.document (offset : WCSOffset) : Json :=
  record [("wcs", .str offset.wcs), ("machine_x0_um", .num offset.machineX0Um 0),
    ("machine_y0_um", .num offset.machineY0Um 0), ("machine_z0_um", .num offset.machineZ0Um 0),
    ("machine_xy_rotation_mdeg", .num offset.machineXyRotationMdeg 0)]

/-- `LinuxCNCWCSOffset.__post_init__`. -/
def makeOffset (wcs : String) (x y z rotation : Int) : Except String WCSOffset :=
  if known : wcs ∈ wcsCodes then
    if unrotated : rotation = 0 then .ok ⟨wcs, x, y, z, rotation, known, unrotated⟩
    else .error "LinuxCNC production WCS XY rotation must be exactly zero"
  else .error "WCS offset must use a canonical G54-G59 code"

/-- `_parse_wcs_offset`. -/
def parseWcsOffset (value : Json) (index : Nat) : Except String WCSOffset := do
  require (isObject value) ("wcs_offsets[" ++ toString index ++ "] must be a JSON object")
  require (hasKeys value ["wcs", "machine_x0_um", "machine_y0_um", "machine_z0_um",
    "machine_xy_rotation_mdeg"])
    ("wcs_offsets[" ++ toString index ++ "] has missing or unknown fields")
  let wcs ← jsonString value "wcs"
  let x ← jsonInt value "machine_x0_um"
  let y ← jsonInt value "machine_y0_um"
  let z ← jsonInt value "machine_z0_um"
  let rotation ← jsonInt value "machine_xy_rotation_mdeg"
  makeOffset wcs x y z rotation

/-! ## The profile -/

def productionMachineProfileSchemaVersion : String :=
  "custombuild.linuxcnc-production-machine-profile.v1"

structure ProfileFields (oracleBuild : String) where
  identity : ProfileIdentity → String
  evidenceId : EvidenceTopic → String
  evidenceVersion : EvidenceTopic → String
  evidenceSha256 : EvidenceTopic → String
  policy : ProfilePolicy → String
  runtimeContract : RuntimeContract oracleBuild
  supportedWcs : List String
  wcsOffsets : List WCSOffset
  coordinate : MachineCoordinate → Int
  spindleSpinupMs : Int
  spindleAtSpeedTolerancePpm : Int
  attested : Attestation → Bool
  schemaVersion : String

namespace ProfileFields

variable {oracleBuild : String} (p : ProfileFields oracleBuild)

/-- The checks of a text of each field of a table. -/
def checkTexts {ι : Type} (table : FieldTable ι) (value : ι → String) (accepts : String → Bool)
    (message : String) : Except String Unit :=
  forEach (fun i => require (accepts (value i)) (table.key i ++ message)) table.all

/-- The bounds of an axis, and the position of the tool change between them. -/
def checkAxis (axis : String) (minimum maximum toolChange : Int) : Except String Unit := do
  require (decide (minimum < maximum)) ("machine " ++ axis ++ " minimum must be below its maximum")
  require (decide (minimum ≤ toolChange ∧ toolChange ≤ maximum))
    ("tool-change " ++ axis ++ " is outside the declared machine bounds")

/-- An origin lies in the machine. -/
def checkOrigin (offset : WCSOffset) : Except String Unit :=
  require (decide (
      (p.coordinate .xMin ≤ offset.machineX0Um ∧ offset.machineX0Um ≤ p.coordinate .xMax) ∧
      (p.coordinate .yMin ≤ offset.machineY0Um ∧ offset.machineY0Um ≤ p.coordinate .yMax) ∧
      (p.coordinate .zMin ≤ offset.machineZ0Um ∧ offset.machineZ0Um ≤ p.coordinate .zMax)))
    (offset.wcs ++ " origin is outside the declared machine bounds")

/-- `LinuxCNCProductionMachineProfile.__post_init__`. -/
def validate : Except String Unit := do
  checkTexts identityTable p.identity isIdentity " must be a canonical identity"
  checkTexts evidenceIdTable p.evidenceId isIdentity " must be a canonical identity"
  checkTexts evidenceVersionTable p.evidenceVersion isIdentity " must be a canonical identity"
  require (p.schemaVersion == productionMachineProfileSchemaVersion)
    "unsupported LinuxCNC production machine-profile schema"
  require ((p.identity .controllerId).toLower == "linuxcnc")
    "production machine profile must bind LinuxCNC"
  require (p.identity .controllerVersion == linuxcncOracleControllerVersion)
    "production profile requires the oracle-qualified LinuxCNC version"
  require (!p.supportedWcs.isEmpty && decide p.supportedWcs.Nodup &&
      sortBy id p.supportedWcs == p.supportedWcs && p.supportedWcs.all wcsCodes.contains)
    "supported_wcs must be a canonical sorted subset of G54-G59"
  -- as the supported codes are, the codes of the offsets are then sorted and distinct
  require (!p.wcsOffsets.isEmpty && p.wcsOffsets.map WCSOffset.wcs == p.supportedWcs)
    "wcs_offsets must exactly and canonically bind every supported WCS"
  checkAxis "X" (p.coordinate .xMin) (p.coordinate .xMax) (p.coordinate .toolChangeX)
  checkAxis "Y" (p.coordinate .yMin) (p.coordinate .yMax) (p.coordinate .toolChangeY)
  checkAxis "Z" (p.coordinate .zMin) (p.coordinate .zMax) (p.coordinate .toolChangeZ)
  forEach p.checkOrigin p.wcsOffsets
  require (decide (1 ≤ p.spindleSpinupMs ∧ p.spindleSpinupMs ≤ 120000))
    "spindle_spinup_ms must be an integer from 1 to 120000"
  forEach (fun i => require (p.policy i == i.required.1) i.required.2) policyTable.all
  require (decide (1 ≤ p.spindleAtSpeedTolerancePpm ∧ p.spindleAtSpeedTolerancePpm ≤ 100000))
    "spindle_at_speed_tolerance_ppm must be an integer from 1 to 100000"
  checkTexts evidenceSha256Table p.evidenceSha256 isSha256 " must be a lowercase SHA-256 digest"
  require (attestationTable.all.all p.attested)
    "all LinuxCNC production capabilities must be explicitly verified"

/-- The fields that are not in a table. -/
def ownFields : List (String × Json) :=
  [("runtime_contract", p.runtimeContract.document),
   ("supported_wcs", .arr (p.supportedWcs.map Json.str)),
   ("wcs_offsets", .arr (p.wcsOffsets.map WCSOffset.document)),
   ("spindle_spinup_ms", .num p.spindleSpinupMs 0),
   ("spindle_at_speed_tolerance_ppm", .num p.spindleAtSpeedTolerancePpm 0),
   ("schema_version", .str p.schemaVersion)]

/-- The fields of a profile, as `asdict` gives them. -/
def fields : List (String × Json) :=
  p.ownFields ++ identityTable.fields (fun i => .str (p.identity i)) ++
    evidenceIdTable.fields (fun i => .str (p.evidenceId i)) ++
    evidenceVersionTable.fields (fun i => .str (p.evidenceVersion i)) ++
    evidenceSha256Table.fields (fun i => .str (p.evidenceSha256 i)) ++
    policyTable.fields (fun i => .str (p.policy i)) ++
    coordinateTable.fields (fun i => .num (p.coordinate i) 0) ++
    attestationTable.fields fun i => .bool (p.attested i)

end ProfileFields

/-- A profile that was constructed. -/
structure MachineProfile (oracleBuild : String) extends ProfileFields oracleBuild where
  valid : toProfileFields.validate = .ok ()

/-- `to_json`. -/
def MachineProfile.toJson {oracleBuild : String} (p : MachineProfile oracleBuild) :
    Except String ByteArray := canonicalJsonBytes (record p.fields)

/-- The names of the fields that `from_json` expects. -/
def expectedKeys : List String :=
  ["runtime_contract", "supported_wcs", "wcs_offsets", "spindle_spinup_ms",
    "spindle_at_speed_tolerance_ppm", "schema_version"] ++ identityTable.keys ++
    evidenceIdTable.keys ++ evidenceVersionTable.keys ++ evidenceSha256Table.keys ++
    policyTable.keys ++ coordinateTable.keys ++ attestationTable.keys

/-- `cls(...)` of a profile. -/
def makeProfile {oracleBuild : String} (p : ProfileFields oracleBuild) :
    Except String (MachineProfile oracleBuild) :=
  match h : p.validate with
  | .error message => .error message
  | .ok () => .ok { toProfileFields := p, valid := h }

/-- A text of `supported_wcs`. -/
def wcsCode (item : Json) : Except String String :=
  match item with
  | .str code => .ok code
  | _ => .error "supported_wcs must be a JSON string array"

/-- The profile of a document. -/
def readProfile (oracleBuild : String) (parsed : Json) :
    Except String (MachineProfile oracleBuild) := do
  require (hasKeys parsed expectedKeys)
    "LinuxCNC production machine profile has missing or unknown fields"
  let codes ← jsonArray parsed "supported_wcs" "supported_wcs must be a JSON string array"
  let codes ← collect wcsCode codes
  let offsets ← jsonArray parsed "wcs_offsets" "wcs_offsets must be a JSON object array"
  let offsets ← collect (fun item => parseWcsOffset item.1 item.2) offsets.zipIdx
  let identity ← identityTable.read (jsonString parsed) ""
  let contract ← demand (parsed.get "runtime_contract")
    "runtime contract has missing or unknown fields"
  let contract ← readContract oracleBuild contract
  let coordinate ← coordinateTable.read (jsonInt parsed) 0
  let spinup ← jsonInt parsed "spindle_spinup_ms"
  let policy ← policyTable.read (jsonString parsed) ""
  let evidenceId ← evidenceIdTable.read (jsonString parsed) ""
  let evidenceVersion ← evidenceVersionTable.read (jsonString parsed) ""
  let evidenceSha256 ← evidenceSha256Table.read (jsonString parsed) ""
  let tolerance ← jsonInt parsed "spindle_at_speed_tolerance_ppm"
  let attested ← attestationTable.read (jsonBool parsed) false
  let schemaVersion ← jsonString parsed "schema_version"
  makeProfile
    { identity := identity, evidenceId := evidenceId, evidenceVersion := evidenceVersion
      evidenceSha256 := evidenceSha256, policy := policy, runtimeContract := contract
      supportedWcs := codes, wcsOffsets := offsets, coordinate := coordinate
      spindleSpinupMs := spinup, spindleAtSpeedTolerancePpm := tolerance, attested := attested
      schemaVersion := schemaVersion }

/-- What is said of a text that is refused. -/
def faultText : JsonText.Fault → String
  | .malformed => "LinuxCNC production machine profile is not valid UTF-8 JSON"
  | .inexactNumber => "LinuxCNC production profile requires exact JSON integers"
  | .longNumber => "Exceeds the limit (4300 digits) for integer string conversion"
  | .duplicateKey key => "duplicate JSON key in LinuxCNC production profile: " ++ key

/-- `from_json` of bytes. -/
def fromJson (oracleBuild : String) (raw : ByteArray) :
    Except String (MachineProfile oracleBuild) := do
  require (decide (0 < raw.size ∧ raw.size ≤ 64000))
    "LinuxCNC production machine profile has invalid byte size"
  let text ← demand (String.fromUTF8? raw)
    "LinuxCNC production machine profile is not valid UTF-8 JSON"
  let parsed ← (JsonText.loads text.toList).mapError faultText
  require (isObject parsed)
    "LinuxCNC production machine profile must be a JSON object"
  let profile ← readProfile oracleBuild parsed
  let canonical ← profile.toJson
  require (decide (canonical = raw))
    "LinuxCNC production machine profile must use canonical JSON bytes"
  return profile

/-- `from_json` of a text. -/
def fromJsonText (oracleBuild : String) (payload : String) :
    Except String (MachineProfile oracleBuild) := fromJson oracleBuild payload.toUTF8

end Custombuild.Postprocessors.ProfileCodec
