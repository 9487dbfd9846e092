/-
  Texts of production programs: payloads, comments, the identity header that a program
  repeats from its plan, and the canonical lexical form.  Source:
  `custombuild_postprocessors.production_parser`.
-/
import Custombuild.Postprocessors.ProductionProfile
import Custombuild.Postprocessors.Words

namespace Custombuild.Postprocessors

open Custombuild.Lib Custombuild.Manufacturing Custombuild.Cam

/-! ## Payloads -/

/-- `bytes | str`. -/
inductive Payload
  | bytes (data : List UInt8)
  | text (chars : List Char)

/-- `_ascii_text`. -/
def asciiText : Payload → Except String (List Char)
  | .bytes data => do
    require (data.all (· < 128)) "production machine program must be ASCII"
    return data.map fun b => Char.ofNat b.toNat
  | .text chars => do
    require (chars.all fun c => c.toNat < 128) "production machine program must be ASCII"
    return chars

/-- `str` of an integer. -/
def intText (n : Int) : List Char :=
  if n < 0 then '-' :: Nat.toDigits 10 n.natAbs else Nat.toDigits 10 n.natAbs

/-- `(key=value)`. -/
def comment (key : String) (value : List Char) : List Char :=
  '(' :: (key.toList ++ '=' :: (value ++ [')']))

/-- `(key=id@version)`. -/
def versioned (id version : String) : List Char := id.toList ++ '@' :: version.toList

/-! ## Markers and identities -/

def productionGcodeParserVersion : String := "linuxcnc-production-parser-1.3.1"
def productionGcodeSafetyValidatorVersion : String := "linuxcnc-production-safety-1.3.1"

def linuxcncFileMaxLineBytes : Nat := 252

def productionCandidateTitle : String := "(CUSTOMBUILD LINUXCNC 3-AXIS PRODUCTION CANDIDATE)"
def productionCandidatePolicyMarker : String :=
  "(CUSTOMBUILD_MACHINE_PROGRAM_MODE=EXECUTABLE_CAM_CANDIDATE)"
def physicalAuthorizationMarker : String := "(PHYSICAL_CUTTING_AUTHORIZED=FALSE)"
def workshopAcceptanceMarker : String := "(WORKSHOP_ACCEPTANCE_REQUIRED=TRUE)"

def markers : List String :=
  [productionCandidatePolicyMarker, physicalAuthorizationMarker, workshopAcceptanceMarker]

/-- `_STATIC_COMMENTS`. -/
def staticComments : List String := productionCandidateTitle :: markers

/-- The keys that `_DYNAMIC_COMMENT` admits. -/
def dynamicCommentKeys : List String :=
  ["DESIGN_HASH", "TOOLPATH_DOCUMENT_SHA256", "MACHINE_PROFILE", "MACHINE_PROFILE_SHA256",
    "LINUXCNC_PRODUCTION_PROFILE", "LINUXCNC_RUNTIME_CONTRACT_SHA256",
    "LINUXCNC_PRODUCTION_PROFILE_SHA256", "POSTPROCESSOR", "PRODUCTION_PARSER",
    "PRODUCTION_SAFETY_VALIDATOR", "PROGRAM_ID", "RUN_ORDER", "SETUP_ID", "STOCK_ID",
    "SHEET_INDEX", "SETUP_SIDE", "SOURCE_MATERIAL_ID", "SOURCE_MATERIAL_VERSION",
    "ACTUAL_MATERIAL_ID", "ACTUAL_MATERIAL_VERSION", "MATERIAL_EVIDENCE_ID",
    "MATERIAL_EVIDENCE_VERSION", "MATERIAL_EVIDENCE_SHA256", "STOCK_THICKNESS_UM", "SETUP_WCS",
    "WCS_MACHINE_ORIGIN_X_UM", "WCS_MACHINE_ORIGIN_Y_UM", "WCS_MACHINE_ORIGIN_Z_UM",
    "WCS_MACHINE_XY_ROTATION_MDEG", "REFERENCE_SURFACE", "SAFE_Z_UM",
    "PROGRAM_ENTRY_MACHINE_X_UM", "PROGRAM_ENTRY_MACHINE_Y_UM", "G53_TOOL_CHANGE_PATH",
    "G53_TOOL_CHANGE_CLEARANCE_EVIDENCE_SHA256", "WCS_OFFSETS_EVIDENCE_SHA256",
    "G52_G92_OFFSET_RESET_POLICY", "G52_G92_OFFSET_RESET_EVIDENCE_SHA256",
    "FEED_SPINDLE_OVERRIDE_POLICY", "FEED_SPINDLE_OVERRIDE_EVIDENCE_SHA256",
    "EXTERNAL_AXIS_OFFSET_POLICY", "EXTERNAL_AXIS_OFFSET_EVIDENCE_SHA256",
    "HOMING_PREFLIGHT_POLICY", "HOMING_PREFLIGHT_EVIDENCE_SHA256", "PROGRAM_RESTART_POLICY",
    "PROGRAM_RESTART_EVIDENCE_SHA256", "M6_TOOL_TABLE_POLICY", "M6_TOOL_TABLE_EVIDENCE_SHA256",
    "M6_WCS_TABLE_POLICY", "M6_WCS_TABLE_EVIDENCE_SHA256",
    "METRIC_XYZ_IDENTITY_KINEMATICS_POLICY", "METRIC_XYZ_IDENTITY_KINEMATICS_EVIDENCE_SHA256",
    "EXACTLY_THREE_JOINTS_VERIFIED", "SPINDLE_AT_SPEED_POLICY", "SPINDLE_FEEDBACK_SOURCE",
    "SPINDLE_AT_SPEED_TOLERANCE_PPM", "SPINDLE_AT_SPEED_EVIDENCE_SHA256",
    "CONTINUOUS_SPINDLE_SPEED_INTERLOCK_POLICY",
    "CONTINUOUS_SPINDLE_SPEED_INTERLOCK_EVIDENCE_SHA256", "SPINDLE_DWELL_ROLE", "FIXTURE",
    "FIXTURE_SHA256", "TOOL_ID", "CONTROLLER_TOOL_NUMBER", "LENGTH_OFFSET_NUMBER",
    "EXPECTED_LENGTH_OFFSET_X_UM", "EXPECTED_LENGTH_OFFSET_Y_UM",
    "EXPECTED_LENGTH_OFFSET_Z_UM", "TOOL_TABLE_EVIDENCE_SHA256", "OPERATION_ID"]

/-- `[A-Za-z0-9._:@+\-]`. -/
def isCommentChar (c : Char) : Bool :=
  c.isAlphanum || c == '.' || c == '_' || c == ':' || c == '@' || c == '+' || c == '-'

/-- A full match of `_DYNAMIC_COMMENT`; neither keys nor values contain an equals sign. -/
def isDynamicComment (line : List Char) : Bool :=
  match line with
  | '(' :: rest =>
    match rest.dropWhile (· != '=') with
    | _ :: value =>
      value.getLast? = some ')' && !value.dropLast.isEmpty && value.dropLast.all isCommentChar &&
        dynamicCommentKeys.contains (String.ofList (rest.takeWhile (· != '=')))
    | [] => false
  | _ => false

/-! ## The identity header -/

/-- The machine XY position at which a program enters: its first move under the offsets. -/
def entryMachineXUm (setup : BoundSetup) (tool : ProductionToolBinding)
    (first : ProductionMove) : Int :=
  setup.machineWcsOrigin.xUm + first.xUm + tool.expectedLengthOffsetXUm

def entryMachineYUm (setup : BoundSetup) (tool : ProductionToolBinding)
    (first : ProductionMove) : Int :=
  setup.machineWcsOrigin.yUm + first.yUm + tool.expectedLengthOffsetYUm

section
variable (env : FingerprintEnv) (safe : String → String) (doc : ProductionToolpathDocument)
  (program : ProductionProgram) (profile : LinuxCNCProductionMachineProfile)
  (setup : BoundSetup) (tool : ProductionToolBinding) (first : ProductionMove)

/-- The keys and values of the header lines of a program.  The validator and the postprocessor
    list the same lines; the postprocessor passes its identities through `_safe_comment`. -/
def identityEntries : List (String × List Char) :=
  let ctx := doc.executionContext
  [("DESIGN_HASH", doc.designHash.toList),
    ("TOOLPATH_DOCUMENT_SHA256", (env.documentFingerprint doc).toList),
    ("MACHINE_PROFILE", versioned ctx.machineProfileId ctx.machineProfileVersion),
    ("MACHINE_PROFILE_SHA256", (env.machineProfileFingerprint doc).toList),
    ("LINUXCNC_PRODUCTION_PROFILE", versioned profile.profileId profile.version),
    ("LINUXCNC_PRODUCTION_PROFILE_SHA256", (env.configSha256 profile).toList),
    ("LINUXCNC_RUNTIME_CONTRACT_SHA256", (env.runtimeContractSha256 profile).toList),
    ("POSTPROCESSOR",
      versioned linuxcncProductionPostprocessorId linuxcncProductionPostprocessorVersion),
    ("PRODUCTION_PARSER", productionGcodeParserVersion.toList),
    ("PRODUCTION_SAFETY_VALIDATOR", productionGcodeSafetyValidatorVersion.toList),
    ("PROGRAM_ID", (safe program.programId).toList),
    ("RUN_ORDER", intText program.runOrder),
    ("SETUP_ID", (safe program.setupId).toList),
    ("STOCK_ID", (safe setup.stockId).toList),
    ("SHEET_INDEX", intText setup.sheetIndex),
    ("SETUP_SIDE", setup.side.value.toList),
    ("SOURCE_MATERIAL_ID", (safe setup.sourceMaterialId).toList),
    ("SOURCE_MATERIAL_VERSION", (safe setup.sourceMaterialVersion).toList),
    ("ACTUAL_MATERIAL_ID", (safe setup.materialId).toList),
    ("ACTUAL_MATERIAL_VERSION", (safe setup.materialVersion).toList),
    ("MATERIAL_EVIDENCE_ID", (safe setup.materialEvidenceId).toList),
    ("MATERIAL_EVIDENCE_VERSION", (safe setup.materialEvidenceVersion).toList),
    ("MATERIAL_EVIDENCE_SHA256", setup.materialEvidenceSha256.toList),
    ("STOCK_THICKNESS_UM", intText setup.stockThicknessUm),
    ("SETUP_WCS", (wcsText setup.wcs).toList),
    ("WCS_MACHINE_ORIGIN_X_UM", intText setup.machineWcsOrigin.xUm),
    ("WCS_MACHINE_ORIGIN_Y_UM", intText setup.machineWcsOrigin.yUm),
    ("WCS_MACHINE_ORIGIN_Z_UM", intText setup.machineWcsZ0Um),
    ("WCS_MACHINE_XY_ROTATION_MDEG", intText 0),
    ("REFERENCE_SURFACE", stockTopZ0Reference.toList),
    ("SAFE_Z_UM", intText setup.safeZUm),
    ("PROGRAM_ENTRY_MACHINE_X_UM", intText (entryMachineXUm setup tool first)),
    ("PROGRAM_ENTRY_MACHINE_Y_UM", intText (entryMachineYUm setup tool first)),
    ("G53_TOOL_CHANGE_PATH", g53ToolChangePathComplete.toList),
    ("G53_TOOL_CHANGE_CLEARANCE_EVIDENCE_SHA256",
      profile.g53ToolChangePathClearanceEvidenceSha256.toList),
    ("WCS_OFFSETS_EVIDENCE_SHA256", profile.wcsOffsetsEvidenceSha256.toList),
    ("G52_G92_OFFSET_RESET_POLICY", g52G92OffsetResetPolicy.toList),
    ("G52_G92_OFFSET_RESET_EVIDENCE_SHA256", profile.g52G92OffsetResetEvidenceSha256.toList),
    ("FEED_SPINDLE_OVERRIDE_POLICY", feedSpindleOverridePolicy.toList),
    ("FEED_SPINDLE_OVERRIDE_EVIDENCE_SHA256", profile.feedSpindleOverrideEvidenceSha256.toList),
    ("EXTERNAL_AXIS_OFFSET_POLICY", externalAxisOffsetPolicy.toList),
    ("EXTERNAL_AXIS_OFFSET_EVIDENCE_SHA256", profile.externalAxisOffsetEvidenceSha256.toList),
    ("HOMING_PREFLIGHT_POLICY", homingPreflightPolicy.toList),
    ("HOMING_PREFLIGHT_EVIDENCE_SHA256", profile.homingPreflightEvidenceSha256.toList),
    ("PROGRAM_RESTART_POLICY", programRestartPolicy.toList),
    ("PROGRAM_RESTART_EVIDENCE_SHA256", profile.programRestartEvidenceSha256.toList),
    ("M6_TOOL_TABLE_POLICY", m6ToolTablePolicy.toList),
    ("M6_TOOL_TABLE_EVIDENCE_SHA256", profile.m6ToolTableEvidenceSha256.toList),
    ("M6_WCS_TABLE_POLICY", m6WcsTablePolicy.toList),
    ("M6_WCS_TABLE_EVIDENCE_SHA256", profile.m6WcsTableEvidenceSha256.toList),
    ("METRIC_XYZ_IDENTITY_KINEMATICS_POLICY", metricXyzIdentityKinematicsPolicy.toList),
    ("METRIC_XYZ_IDENTITY_KINEMATICS_EVIDENCE_SHA256",
      profile.metricXyzIdentityKinematicsEvidenceSha256.toList),
    ("EXACTLY_THREE_JOINTS_VERIFIED", "TRUE".toList),
    ("SPINDLE_AT_SPEED_POLICY", spindleAtSpeedPolicy.toList),
    ("SPINDLE_FEEDBACK_SOURCE", profile.spindleFeedbackSource.toList),
    ("SPINDLE_AT_SPEED_TOLERANCE_PPM", intText profile.spindleAtSpeedTolerancePpm),
    ("SPINDLE_AT_SPEED_EVIDENCE_SHA256", profile.spindleAtSpeedEvidenceSha256.toList),
    ("CONTINUOUS_SPINDLE_SPEED_INTERLOCK_POLICY", continuousSpindleSpeedInterlockPolicy.toList),
    ("CONTINUOUS_SPINDLE_SPEED_INTERLOCK_EVIDENCE_SHA256",
      profile.continuousSpindleSpeedInterlockEvidenceSha256.toList),
    ("SPINDLE_DWELL_ROLE", spindleDwellRole.toList),
    ("FIXTURE", versioned setup.fixtureId setup.fixtureVersion),
    ("FIXTURE_SHA256", setup.fixtureSha256.toList),
    ("TOOL_ID", versioned (safe program.toolId) (safe program.toolVersion)),
    ("CONTROLLER_TOOL_NUMBER", intText tool.controllerToolNumber),
    ("LENGTH_OFFSET_NUMBER", intText tool.lengthOffsetNumber),
    ("EXPECTED_LENGTH_OFFSET_X_UM", intText tool.expectedLengthOffsetXUm),
    ("EXPECTED_LENGTH_OFFSET_Y_UM", intText tool.expectedLengthOffsetYUm),
    ("EXPECTED_LENGTH_OFFSET_Z_UM", intText tool.expectedLengthOffsetZUm),
    ("TOOL_TABLE_EVIDENCE_SHA256", tool.toolTableEvidenceSha256.toList)]

def identityHeader : List (List Char) :=
  ['%'] :: staticComments.map String.toList ++
    (identityEntries env safe doc program profile setup tool first).map fun (key, value) =>
      comment key value

end

/-- The operation ids in the order of the moves, each where it starts. -/
def operationStarts (previous : String) : List ProductionMove → List String
  | [] => []
  | m :: rest =>
    if m.operationId = previous then operationStarts previous rest
    else m.operationId :: operationStarts m.operationId rest

/-! ## Lexical form -/

/-- The stripped lines of a text that are not blank. -/
def nonblankLines (text : List Char) : List (List Char) :=
  ((textLines text).map stripBlanks).filter fun l => !l.isEmpty

/-- The checks of `_require_canonical_lexical_form` on one line. -/
def requireCanonicalLine (line : List Char) (number : Nat) : Except String Unit := do
  require (line.length ≤ linuxcncFileMaxLineBytes)
    ("production program command exceeds LinuxCNC file line limit at line " ++ toString number)
  require (!line.contains ';') "semicolon comments are forbidden in production output"
  if line.contains '(' || line.contains ')' then
    require (isDynamicComment line || staticComments.contains (String.ofList line))
      "production program contains a non-canonical comment"
  else
    require (line.all fun c => !c.isLower)
      "production executable words must use canonical uppercase"

/-- `_require_canonical_lexical_form`. -/
def requireCanonicalLexicalForm (text : List Char) : Except String Unit := do
  require (!text.contains '\r' && text.getLast? = some '\n')
    "production program must use LF lines and one terminal newline"
  require (text.all fun c => c = '\n' || isPrintable c)
    "production program requires printable ASCII and LF separators"
  require ((textLines text).all fun l => !l.isEmpty && l = stripBlanks l)
    "production program contains blank or padded lines"
  forEach (fun p => requireCanonicalLine p.1 p.2) ((textLines text).zipIdx 1)

/-- `_require_percent_envelope`. -/
def requirePercentEnvelope (text : List Char) : Except String Unit :=
  let lines := nonblankLines text
  require (2 ≤ lines.length && lines.head? = some ['%'] && lines.getLast? = some ['%'] &&
      (lines.zipIdx.filter fun p => p.1 = ['%']).map Prod.snd = [0, lines.length - 1])
    "production program requires one canonical percent envelope"

/-- The marker check of `parse_production_program`. -/
def requireMarker (text : List Char) (marker : String) : Except String Unit :=
  require (((textLines text).filter fun l => stripBlanks l = marker.toList).length = 1)
    ("production program requires exactly one " ++ marker)

/-- `_require_identity_header`. -/
def requireIdentityHeader (text : List Char) (header : List (List Char))
    (program : ProductionProgram) : Except String Unit := do
  let lines := nonblankLines text
  require (lines.take header.length = header)
    "production program identity header does not match its toolpath plan"
  let operations := (operationStarts "" program.moves).map fun id => comment "OPERATION_ID" id.toList
  require ((lines.filter fun l => l.head? = some '(') = header.tail ++ operations)
    "production program comments do not exactly match its immutable plan"

/-- `_require_operation_comment_sequence`: the text between prefix and closing bracket. -/
def requireOperationCommentSequence (text : List Char) (program : ProductionProgram) :
    Except String Unit := do
  let start := "(OPERATION_ID=".toList
  let actual := ((textLines text).filter fun l => start.isPrefixOf l).map fun l =>
    let id := l.drop start.length
    if id.getLast? = some ')' then id.dropLast else id
  require (actual = (operationStarts "" program.moves).map String.toList)
    "operation comments do not match immutable move order"

end Custombuild.Postprocessors
