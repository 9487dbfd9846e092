/-
  The three published schemas: manufacturing intent v1, operations v2 and supplier handoff v3.
  Source: `custombuild_manufacturing/quality.py`, `manufacturing_intent_json_schema`,
  `operations_json_schema` and `supplier_handoff_json_schema`.

  The digest of the operations schema that the supplier handoff fixes is a parameter.
-/
import Custombuild.Manufacturing.SchemaAgreement

namespace Custombuild.Manufacturing.Quality

open Custombuild.Lib Custombuild.Lib.JsonSchema

/-! ## Patterns -/

def lowerHex : Regex := .chars [('a', 'f'), ('0', '9')]

def digits : Regex := .repeated (.chars [('0', '9')]) 1 none

def text (s : String) : Regex := .literal s.toList

def sequence : List Regex → Regex
  | [] => text ""
  | [r] => r
  | r :: rs => .seq r (sequence rs)

/-- `^[a-f0-9]{64}$` -/
def sha256Pattern : Regex := .anchored (.repeated lowerHex 64 (some 64))

/-- `^G5[4-9]$` -/
def wcsPattern : Regex := .anchored (sequence [text "G5", .chars [('4', '9')]])

/-- `[A-Za-z0-9][A-Za-z0-9._:-]` with the second class repeated up to `most` times. -/
def identifier (most : Nat) : Regex :=
  .seq (.chars [('A', 'Z'), ('a', 'z'), ('0', '9')])
    (.repeated (.chars [('A', 'Z'), ('a', 'z'), ('0', '9'), ('.', '.'), ('_', '_'), (':', ':'),
      ('-', '-')]) 0 (some most))

/-- `^[A-Za-z0-9][A-Za-z0-9._:-]{0,255}$` -/
def canonicalIdPattern : Regex := .anchored (identifier 255)

def probeMethodPattern : Regex :=
  .anchored (.alt (text "EXTERNAL_COORDINATE_REGISTRATION_REQUIRED")
    (sequence
      [text "DECLARED_COORDINATE_REGISTRATION;",
        text "DECLARATION_AUTHORITY=CLIENT_DECLARED;",
        text "METHOD=", identifier 63, text ";",
        text "METHOD_VERSION=", identifier 63, text ";",
        text "PIN_DIAMETER_UM=", digits, text ";POSITION_TOLERANCE_UM=", digits, text ";",
        text "STOCK_XY_UM=", digits, text ",", digits,
        .repeated (sequence [text "|", digits, text ",", digits]) 1 none, text ";",
        text "EXTERNAL_SETUP_VERIFICATION_REQUIRED"]))

/-! ## Forms of rules -/

def leaf (own : Keywords) : Rule := .keywords own [] .always [] .always

def fixed (value : Json) : Rule := leaf { constant := some value }

def fixedText (value : String) : Rule := fixed (.str value)

def fixedTexts (values : List String) : Rule := fixed (.arr (values.map .str))

def oneOf (values : List String) : Rule := leaf { enum := some (values.map .str) }

def nullOr (values : List String) : Rule := leaf { enum := some (.null :: values.map .str) }

def typed (types : List JsonType) : Rule := leaf { types := some types }

def integerFrom (minimum : Int) : Rule :=
  leaf { types := some [.integer], minimum := some minimum }

def nullableIntegerFrom (minimum : Int) : Rule :=
  leaf { types := some [.integer, .null], minimum := some minimum }

/-- An object of exactly these properties, all of them required. -/
def closedObject (properties : List (String × Rule)) : Rule :=
  .keywords { types := some [.object], required := properties.map Prod.fst } properties .never []
    .always

def arrayOf (items : Rule) (own : Keywords := {}) : Rule :=
  .keywords { own with types := some [.array] } [] .always [] items

def uniqueArrayOf (items : Rule) (own : Keywords := {}) : Rule :=
  arrayOf items { own with uniqueItems := true }

def nonEmptyString : Rule := .ref "nonEmptyString"

def sha256 : Rule := .ref "sha256"

def canonicalId : Rule := .ref "canonicalId"

def sha256Definition : Rule := leaf { types := some [.string], pattern := some sha256Pattern }

def pointDefinition : Rule :=
  closedObject [("x_um", typed [.integer]), ("y_um", typed [.integer])]

def rectangleUm : Rule :=
  closedObject
    [("x_um", typed [.integer]), ("y_um", typed [.integer]), ("width_um", integerFrom 1),
      ("height_um", integerFrom 1)]

/-! ## Manufacturing intent -/

def dimensionsUm : Rule :=
  closedObject [("u", integerFrom 1), ("v", integerFrom 1), ("thickness", integerFrom 1)]

def axis : Rule := oneOf ["x", "y", "z"]

def featureProperties : List (String × Rule) :=
  [("feature_id", nonEmptyString),
    ("kind", oneOf ["COUNTERSINK", "DRILL", "DRILL_PATTERN", "ENGRAVE", "GROOVE",
      "INNER_CONTOUR", "LABEL", "OUTER_CONTOUR", "POCKET", "RABBET"]),
    ("side", oneOf ["A", "B"]),
    ("coordinate_reference", fixedText "PART_LOCAL_UV_FROM_FINISHED_OUTLINE_LOWER_LEFT"),
    ("x_um", typed [.integer]),
    ("y_um", typed [.integer]),
    ("depth_um", integerFrom 0),
    ("diameter_um", nullableIntegerFrom 0),
    ("width_um", nullableIntegerFrom 0),
    ("length_um", nullableIntegerFrom 0),
    ("radius_um", nullableIntegerFrom 0),
    ("pattern_count", integerFrom 1),
    ("pitch_um", nullableIntegerFrom 0),
    ("pattern_points_um", arrayOf (.ref "point") { minItems := some 1 }),
    ("through", typed [.boolean]),
    ("nominal_bounds_um", rectangleUm),
    ("cutter_envelope_um", rectangleUm),
    ("corner_strategy", typed [.string, .null]),
    ("corner_relief_radius_um", nullableIntegerFrom 0),
    ("open_end_reliefs", arrayOf (typed [.string])),
    ("tolerance_um", nullableIntegerFrom 0),
    ("tolerance_status", oneOf ["DECLARED_IN_DESIGN", "EXTERNAL_TOLERANCE_REQUIRED"]),
    ("fit_clearance_um", nullableIntegerFrom 0),
    ("metadata", typed [.object])]

def intentPart : Rule :=
  closedObject
    [("part_id", nonEmptyString),
      ("name", nonEmptyString),
      ("quantity", integerFrom 1),
      ("material", closedObject [("id", nonEmptyString), ("version", nonEmptyString)]),
      ("finished_dimensions_um", dimensionsUm),
      ("raw_blank_dimensions_um", dimensionsUm),
      ("axis_mapping",
        closedObject [("u_axis", axis), ("v_axis", axis), ("thickness_axis", axis)]),
      ("grain_direction", typed [.string]),
      ("allow_rotation", typed [.boolean]),
      ("edge_bands", arrayOf (typed [.object])),
      ("metadata", typed [.object]),
      ("features", arrayOf (closedObject featureProperties))]

def manufacturingIntentJsonSchema : Schema where
  root := closedObject
    [("schema_version", fixedText "custombuild.manufacturing-intent.v1"),
      ("document_identity",
        closedObject
          [("project_id", nonEmptyString), ("revision", nonEmptyString), ("design_hash", sha256),
            ("parts_sha256", sha256)]),
      ("document_purpose", fixedText "MACHINE_NEUTRAL_DESIGN_INTENT"),
      ("release_scope", fixedText "DESIGN_REVIEW"),
      ("physical_cutting_authorized", fixed (.bool false)),
      ("units", fixed (.obj
        [("stored_coordinates", .str "integer_micrometres"),
          ("exchange_drawings", .str "millimetres")])),
      ("coordinate_contract", fixed (.obj
        [("part_datum", .str "FINISHED_OUTLINE_LOWER_LEFT"),
          ("part_axes", .str "LOCAL_UV_AS_DECLARED_BY_AXIS_MAPPING"),
          ("side_semantics", .str ("A_OR_B_IDENTIFIES_THE_SOURCE_FACE; " ++
            "NO_MACHINE_FLIP_OR_MIRROR_TRANSFORM_IS_IMPLIED"))])),
      ("supplier_boundary",
        closedObject
          [("executable_toolpaths_included", fixed (.bool false)),
            ("machine_coordinates_included", fixed (.bool false)),
            ("feeds_speeds_authorized", fixed (.bool false)),
            ("fixture_wcs_authorized", fixed (.bool false)),
            ("required_action", nonEmptyString)]),
      ("external_decisions",
        closedObject
          [("unspecified_tolerance_feature_ids", .ref "uniqueStringArray"),
            ("unresolved_edge_application_ids", .ref "uniqueStringArray"),
            ("always_required",
              uniqueArrayOf nonEmptyString { minItems := some 4, maxItems := some 4 })]),
      ("parts", arrayOf intentPart { minItems := some 1 })]
  definitions :=
    [("nonEmptyString", leaf { types := some [.string], minLength := some 1 }),
      ("sha256", sha256Definition),
      ("point", pointDefinition),
      ("uniqueStringArray", uniqueArrayOf nonEmptyString)]

/-! ## Operations -/

def operationKinds : Rule :=
  oneOf ["CONTOUR", "COUNTERSINK", "DRILL", "ENGRAVE", "GROOVE", "POCKET"]

def setupProperties : List (String × Rule) :=
  [("setup_id", canonicalId),
    ("stock_id", canonicalId),
    ("material_id", canonicalId),
    ("material_version", nonEmptyString),
    ("sheet_index", integerFrom 0),
    ("side", oneOf ["A", "B"]),
    ("wcs", leaf { types := some [.string], pattern := some wcsPattern }),
    ("origin", .ref "point"),
    ("stock_width_um", integerFrom 1),
    ("stock_height_um", integerFrom 1),
    ("stock_thickness_um", integerFrom 1),
    ("safe_z_um", integerFrom 1),
    ("reference_surface", fixedText "EXTERNAL_STOCK_TOP_MEASUREMENT_REQUIRED"),
    ("orientation", oneOf
      ["A_SIDE_UP; STOCK_ORIGIN_AT_LOWER_LEFT",
        "FLIP_STOCK_ABOUT_X_AXIS; MACHINE_Y=STOCK_HEIGHT-DESIGN_Y"]),
    ("fixture", fixedText "EXTERNAL_FIXTURE_PLAN_REQUIRED; DECLARED_KEEP_OUT_ZONES_ONLY"),
    ("keep_out_zones", arrayOf rectangleUm),
    ("tool_ids", uniqueArrayOf canonicalId { minItems := some 1 }),
    ("probe_method", leaf
      { types := some [.string], maxLength := some 4096, pattern := some probeMethodPattern }),
    ("operator_steps", arrayOf nonEmptyString { minItems := some 4, maxItems := some 4 })]

def operationProperties : List (String × Rule) :=
  [("operation_id", canonicalId),
    ("setup_id", canonicalId),
    ("part_id", canonicalId),
    ("instance_id", canonicalId),
    ("feature_id", canonicalId),
    ("kind", operationKinds),
    ("side", oneOf ["A", "B"]),
    ("tool_id", canonicalId),
    ("x_um", integerFrom 0),
    ("y_um", integerFrom 0),
    ("depth_um", integerFrom 1),
    ("diameter_um", nullableIntegerFrom 1),
    ("width_um", nullableIntegerFrom 1),
    ("length_um", nullableIntegerFrom 1),
    ("cutter_envelope_x_um", nullableIntegerFrom 0),
    ("cutter_envelope_y_um", nullableIntegerFrom 0),
    ("cutter_envelope_width_um", nullableIntegerFrom 1),
    ("cutter_envelope_length_um", nullableIntegerFrom 1),
    ("stepdown_um", integerFrom 1),
    ("stepover_ppm", leaf
      { types := some [.integer, .null], minimum := some 1, maximum := some 1000000 }),
    ("through", typed [.boolean]),
    ("source_rotation_90", typed [.boolean]),
    ("compensation", nullOr ["CENTER", "INSIDE", "OUTSIDE"]),
    ("holding_strategy", nullOr ["TABS_OR_ONION_SKIN_REQUIRES_SETUP_APPROVAL"]),
    ("corner_strategy", nullOr ["dogbone-v1", "dogbone-v2"]),
    ("corner_relief_radius_um", nullableIntegerFrom 1),
    ("open_end_reliefs", uniqueArrayOf (oneOf ["u_min", "u_max", "v_min", "v_max"])),
    ("tolerance_um", integerFrom 0),
    ("fit_clearance_um", integerFrom 0)]

def toolProperties : List (String × Rule) :=
  [("tool_id", canonicalId),
    ("name", nonEmptyString),
    ("diameter_um", integerFrom 1),
    ("cutting_length_um", integerFrom 1),
    ("supported_operations", uniqueArrayOf operationKinds { minItems := some 1 }),
    ("spindle_rpm", integerFrom 1),
    ("feed_um_min", integerFrom 1),
    ("plunge_um_min", integerFrom 1),
    ("measured_diameter_um", nullableIntegerFrom 1),
    ("runout_um", integerFrom 0),
    ("version", nonEmptyString)]

def operationsJsonSchema : Schema where
  root := closedObject
    [("schema_version", fixedText "custombuild.operations.v2"),
      ("design_hash", sha256),
      ("machine_profile_id", canonicalId),
      ("machine_profile_version", nonEmptyString),
      ("setups", arrayOf (closedObject setupProperties)),
      ("operations", arrayOf (closedObject operationProperties)),
      ("mode", fixedText "VALIDATION"),
      ("tool_catalog_version", nonEmptyString),
      ("tool_catalog_fingerprint", sha256),
      ("tools", arrayOf (closedObject toolProperties))]
  definitions :=
    [("nonEmptyString",
        leaf { types := some [.string], minLength := some 1, maxLength := some 4096 }),
      ("canonicalId", leaf { types := some [.string], pattern := some canonicalIdPattern }),
      ("sha256", sha256Definition),
      ("point", pointDefinition)]

/-! ## Supplier handoff -/

/-- The identifier, the question and the evidence that answers it. -/
def supplierAcceptanceQuestions : List (String × String × String) :=
  [("Q01_IMPORT_AND_UNITS",
      "Can the shop import the supplied STEP and side-specific DXF files in " ++
        "millimetres and reproduce every part, feature side and local datum without " ++
        "repair?",
      "Import report with measured bounding boxes and a list of any repaired " ++
        "entities."),
    ("Q02_MATERIAL_AND_STOCK",
      "Will the supplied material grade, batch, actual thickness, grain direction " ++
        "and sheet condition match the bound design and stock assumptions?",
      "Supplier SKU, batch certificate, measured thickness and grain/face mapping."),
    ("Q03_MACHINE_AND_TRAVEL",
      "Has the shop selected a calibrated machine whose usable travel and controller " ++
        "semantics cover every bound stock, setup and feature?",
      "Machine identity, calibration status and usable-envelope check."),
    ("Q04_FIXTURE_WCS_AND_KEEP_OUT",
      "Has the shop independently approved fixture, clamp, spoilboard, WCS/origin, " ++
        "safe Z, keep-out zones and any two-sided registration method, including " ++
        "rechecking every CLIENT_DECLARED value in validation/stock-selection.json and " ++
        "validation/generation-plan.json?",
      "Signed setup plan and collision-reviewed machine simulation."),
    ("Q05_TOOLS_AND_CUTTING_DATA",
      "Has every selected cutter been matched by version, measured diameter, runout, " ++
        "cutting length and compatible shop-approved feeds, speeds and entry strategy?",
      "Tool preset report and approved cutting-data record."),
    ("Q06_TOLERANCE_AND_FIT",
      "Are every declared tolerance and fit clearance manufacturable, and have all " ++
        "fields marked EXTERNAL_TOLERANCE_REQUIRED been resolved in writing?",
      "Marked-up drawing or signed tolerance matrix."),
    ("Q07_EXECUTABLE_CAM",
      "Has the shop generated, simulated and independently reviewed its own " ++
        "executable CAM from this machine-neutral intent rather than treating " ++
        "validation artifacts as code?",
      "Shop CAM revision, simulation evidence and independent reviewer approval."),
    ("Q08_FIRST_ARTICLE_AND_RELEASE",
      "Will an air-cut/coupon and measured first article pass before batch " ++
        "production, with nonconformities stopping release?",
      "Completed measurement plan and named production-release approval."),
    ("Q09_CONSTRUCTION_DECISIONS",
      "Has a qualified furniture constructor resolved and approved every named " ++
        "structural or retention decision independently of the CNC shop's " ++
        "manufacturability review?",
      "Revision-bound construction decision and structural/retention evidence."),
    ("Q10_ADJACENT_RELIEF_AND_MATERIAL_WEB",
      "For every pair of adjacent grooves, pockets or corner reliefs, has the shop " ++
        "checked the exact cutter-envelope clearance using actual cutter diameter and " ++
        "runout, calibrated machine accuracy, chip-out allowance and the residual " ++
        "material web rather than treating nominal geometry as robust clearance?",
      "CAM interference report plus coupon/first-article measurements of the " ++
        "residual material web; zero or tolerance-consumed clearance requires a " ++
        "reviewed strategy change and is never accepted by this handoff.")]

def supplierHandoffManifestContextFields : List String :=
  ["project_id", "revision", "design_hash", "app_version", "engine_version",
    "template_version", "domain_template_version", "template_capability_version",
    "template_capability_registry_version", "template_id", "template_capability_fingerprint",
    "template_capability", "rule_version", "material_versions", "joint_version",
    "machine_profile", "postprocessor_version", "generation_context_hash",
    "production_engine_context", "artifact_schema_version", "cad_status", "release_scope",
    "machine_use", "physical_cutting_authorized", "approved_assumptions", "warnings",
    "overrides", "external_evidence", "source_provenance"]

def artifactEntry : Rule :=
  closedObject
    [("path", nonEmptyString), ("media_type", nonEmptyString), ("role", nonEmptyString),
      ("size_bytes", integerFrom 0), ("sha256", sha256)]

/-- The questions are fixed, one for each place; the answers are open. -/
def questionRule (entry : String × String × String) : Rule :=
  closedObject
    [("question_id", fixedText entry.1),
      ("question", fixedText entry.2.1),
      ("required_evidence", fixedText entry.2.2),
      ("answer", typed [.string, .null]),
      ("answered_by", typed [.string, .null]),
      ("answered_at", typed [.string, .null]),
      ("evidence_reference", typed [.string, .null]),
      ("status", fixedText "UNANSWERED")]

def jsonSchemaDraft202012 : String := "https://json-schema.org/draft/2020-12/schema"

def operationsJsonSchemaPath : String := "schemas/operations.v2.schema.json"

def packageContract (operationsSchemaSha256 : String) : Rule :=
  closedObject
    [("release_scope", fixedText "DESIGN_REVIEW"),
      ("machine_use", fixedText "VALIDATION_ONLY"),
      ("physical_cutting_authorized", fixed (.bool false)),
      ("signature_status", fixedText "UNSIGNED"),
      ("publisher_authenticity_provided", fixed (.bool false)),
      ("authenticity_boundary", nonEmptyString),
      ("manifest_path", fixedText "manifest.json"),
      ("checksum_algorithm", fixedText "SHA-256"),
      ("authoritative_inventory", fixedText "manifest.json.artifacts"),
      ("inventory_fields",
        fixedTexts ["path", "media_type", "role", "size_bytes", "sha256"]),
      ("inventory_scope", fixedText
        "ALL_PAYLOAD_FILES; MANIFEST_JSON_EXCLUDED_TO_AVOID_RECURSIVE_HASHING"),
      ("machine_neutral_operations_contract",
        closedObject
          [("document_path", fixedText "cam/operations.json"),
            ("document_schema_version", fixedText "custombuild.operations.v2"),
            ("json_schema_path", fixedText operationsJsonSchemaPath),
            ("json_schema_draft", fixedText jsonSchemaDraft202012),
            ("json_schema_sha256", fixedText operationsSchemaSha256),
            ("purpose", fixedText "MACHINE_NEUTRAL_VALIDATION_ONLY"),
            ("executable_cam_provided", fixed (.bool false)),
            ("physical_cutting_authorized", fixed (.bool false))])]

/-- Other properties are allowed beside these. -/
def supplierStages : Rule :=
  let stages : List (String × Bool) :=
    [("available_for_quote_review", true), ("available_for_geometry_review", true),
      ("available_for_cam_intake_review", true), ("shop_review_required", true),
      ("manufacturing_approval_granted", false), ("cut_authorized", false)]
  .keywords { types := some [.object], required := stages.map Prod.fst }
    (stages.map fun stage => (stage.1, fixed (.bool stage.2))) .always [] .always

def nullableSha256 : Rule :=
  leaf { types := some [.string, .null], pattern := some sha256Pattern }

def operationBinding (operationsSchemaSha256 : String) : Rule :=
  closedObject
    [("status", oneOf ["NOT_GENERATED", "MACHINE_NEUTRAL_VALIDATION_ONLY"]),
      ("document_path", nullOr ["cam/operations.json"]),
      ("document_sha256", nullableSha256),
      ("schema_version", nullOr ["custombuild.operations.v2"]),
      ("json_schema_path", fixedText operationsJsonSchemaPath),
      ("json_schema_draft", fixedText jsonSchemaDraft202012),
      ("json_schema_sha256", fixedText operationsSchemaSha256),
      ("mode", nullOr ["VALIDATION"]),
      ("tool_catalog_version", typed [.string, .null]),
      ("tool_catalog_fingerprint", nullableSha256),
      ("setups", arrayOf (typed [.object])),
      ("selected_tools", arrayOf (typed [.object]))]

def supplierHandoffJsonSchema (operationsSchemaSha256 : String) : Schema where
  root := closedObject
    [("schema_version", fixedText "custombuild.supplier-handoff.v3"),
      ("package_identity",
        closedObject
          [("project_id", nonEmptyString), ("revision", nonEmptyString),
            ("design_hash", sha256)]),
      ("package_contract", packageContract operationsSchemaSha256),
      ("manifest_context_binding",
        closedObject
          [("scope", nonEmptyString),
            ("excluded_fields", uniqueArrayOf nonEmptyString),
            ("field_names", fixedTexts supplierHandoffManifestContextFields),
            ("manifest_context_sha256", sha256),
            ("context", typed [.object])]),
      ("payload_inventory_binding",
        closedObject
          [("scope", nonEmptyString),
            ("excluded_paths", fixedTexts ["manifest.json", "shop/supplier-handoff.json"]),
            ("artifact_count", integerFrom 1),
            ("payload_inventory_sha256", sha256),
            ("artifacts", arrayOf artifactEntry { minItems := some 1 })]),
      ("readiness", .ref "object"),
      ("dfm_review_warnings", arrayOf (typed [.object])),
      ("supplier_stages", supplierStages),
      ("unresolved_inputs_and_decisions", arrayOf (typed [.object])),
      ("known_unresolved_decisions", arrayOf (typed [.object])),
      ("selected_validation_machine_profile", .ref "object"),
      ("stock_assumptions", .ref "object"),
      ("workshop_declaration_boundary",
        closedObject
          [("stock_declaration_authorities", uniqueArrayOf nonEmptyString),
            ("registration_authorities_in_operations",
              uniqueArrayOf (fixedText "CLIENT_DECLARED")),
            ("physical_verification_provided", fixed (.bool false)),
            ("cut_authorization_granted", fixed (.bool false)),
            ("purpose", fixedText "DETERMINISTIC_VALIDATION_INPUT_ONLY")]),
      ("operation_binding", operationBinding operationsSchemaSha256),
      ("shop_acceptance_questions",
        .keywords { types := some [.array], minItems := some 10, maxItems := some 10 } [] .always
          (supplierAcceptanceQuestions.map questionRule) .never),
      ("acceptance_rule", nonEmptyString)]
  definitions :=
    [("nonEmptyString", leaf { types := some [.string], minLength := some 1 }),
      ("sha256", sha256Definition),
      ("object", typed [.object])]

/-- The three published schemas. -/
def publishedSchemas (operationsSchemaSha256 : String) : List Schema :=
  [manufacturingIntentJsonSchema, operationsJsonSchema,
    supplierHandoffJsonSchema operationsSchemaSha256]

theorem intent_isProper : schemaIsProper manufacturingIntentJsonSchema = true := by
  decide +kernel

theorem operations_isProper : schemaIsProper operationsJsonSchema = true := by
  decide +kernel

theorem handoff_isProper (operationsSchemaSha256 : String) :
    schemaIsProper (supplierHandoffJsonSchema operationsSchemaSha256) = true := by
  rfl

example : (publishedSchemas "").length = 3 := by decide +kernel

/-- On each published schema the checker and the schema agree exactly on the documents that write
    no flag as a number, or are invalid also with the flags themselves. -/
theorem published_schemas_agree_iff (operationsSchemaSha256 : String) (schema : Schema)
    (hschema : schema ∈ publishedSchemas operationsSchemaSha256) (v : Json)
    (hv : v.integral = true) (hdepth : v.depth ≤ 20) :
    (validateJsonSchemaInstance v schema = .ok () ↔ schema.Accepts v) ↔
      withFlags schema.definitions schema.root v = v ∨
        ¬schema.Accepts (withFlags schema.definitions schema.root v) := by
  refine agree_iff ?_ hv hdepth
  simp only [publishedSchemas, List.mem_cons, List.not_mem_nil, or_false] at hschema
  rcases hschema with rfl | rfl | rfl
  · exact intent_isProper
  · exact operations_isProper
  · exact handoff_isProper operationsSchemaSha256

/-! ## A number in place of a safety flag -/

namespace NumberForFlag

def digest : String := "00000000000000000000000000000000000000000000000000000000deadbeef"

def dimensions : Json := .obj [("u", .num 300000 0), ("v", .num 200000 0), ("thickness", .num 18000 0)]

def part : Json :=
  .obj
    [("part_id", .str "shelf-1"), ("name", .str "Shelf"), ("quantity", .num 1 0),
      ("material", .obj [("id", .str "mdf"), ("version", .str "1")]),
      ("finished_dimensions_um", dimensions), ("raw_blank_dimensions_um", dimensions),
      ("axis_mapping",
        .obj [("u_axis", .str "x"), ("v_axis", .str "y"), ("thickness_axis", .str "z")]),
      ("grain_direction", .str "u"), ("allow_rotation", .bool false), ("edge_bands", .arr []),
      ("metadata", .obj []), ("features", .arr [])]

/-- An intent that authorizes no cutting, the flag written as the given value. -/
def intent (authorized : Json) : Json :=
  .obj
    [("schema_version", .str "custombuild.manufacturing-intent.v1"),
      ("document_identity", .obj
        [("project_id", .str "project"), ("revision", .str "1"), ("design_hash", .str digest),
          ("parts_sha256", .str digest)]),
      ("document_purpose", .str "MACHINE_NEUTRAL_DESIGN_INTENT"),
      ("release_scope", .str "DESIGN_REVIEW"),
      ("physical_cutting_authorized", authorized),
      ("units", .obj
        [("stored_coordinates", .str "integer_micrometres"),
          ("exchange_drawings", .str "millimetres")]),
      ("coordinate_contract", .obj
        [("part_datum", .str "FINISHED_OUTLINE_LOWER_LEFT"),
          ("part_axes", .str "LOCAL_UV_AS_DECLARED_BY_AXIS_MAPPING"),
          ("side_semantics", .str ("A_OR_B_IDENTIFIES_THE_SOURCE_FACE; " ++
            "NO_MACHINE_FLIP_OR_MIRROR_TRANSFORM_IS_IMPLIED"))]),
      ("supplier_boundary", .obj
        [("executable_toolpaths_included", .bool false),
          ("machine_coordinates_included", .bool false),
          ("feeds_speeds_authorized", .bool false), ("fixture_wcs_authorized", .bool false),
          ("required_action", .str "REVIEW")]),
      ("external_decisions", .obj
        [("unspecified_tolerance_feature_ids", .arr []),
          ("unresolved_edge_application_ids", .arr []),
          ("always_required", .arr [.str "a", .str "b", .str "c", .str "d"])]),
      ("parts", .arr [part])]

theorem intent_integral : (intent (.num 0 0)).integral = true := by decide +kernel

theorem intent_depth : (intent (.num 0 0)).depth ≤ 20 := by decide +kernel

theorem intent_withFlags : withFlags manufacturingIntentJsonSchema.definitions
    manufacturingIntentJsonSchema.root (intent (.num 0 0)) = intent (.bool false) := by
  rfl

theorem number_isOk :
    validateJsonSchemaInstance (intent (.num 0 0)) manufacturingIntentJsonSchema = .ok () := by
  decide +kernel

/-- An intent with `0` for the flag `false` is accepted, and is not an instance of the schema. -/
theorem number_for_flag_disagrees : (intent (.num 0 0)).integral = true ∧
    (intent (.num 0 0)).depth ≤ 20 ∧
    validateJsonSchemaInstance (intent (.num 0 0)) manufacturingIntentJsonSchema = .ok () ∧
    ¬manufacturingIntentJsonSchema.Accepts (intent (.num 0 0)) := by
  refine ⟨intent_integral, intent_depth, number_isOk, fun h => ?_⟩
  have hsame := withFlags_of_valid (by decide) h
  rw [intent_withFlags] at hsame
  simp [intent] at hsame

theorem published_schemas_agree_iff_intent :
    (validateJsonSchemaInstance (intent (.num 0 0)) manufacturingIntentJsonSchema = .ok () ↔
        manufacturingIntentJsonSchema.Accepts (intent (.num 0 0))) ↔
      withFlags manufacturingIntentJsonSchema.definitions manufacturingIntentJsonSchema.root
          (intent (.num 0 0)) = intent (.num 0 0) ∨
        ¬manufacturingIntentJsonSchema.Accepts (withFlags manufacturingIntentJsonSchema.definitions
          manufacturingIntentJsonSchema.root (intent (.num 0 0))) :=
  published_schemas_agree_iff digest manufacturingIntentJsonSchema (List.mem_cons_self) _
    intent_integral intent_depth

end NumberForFlag

end Custombuild.Manufacturing.Quality
