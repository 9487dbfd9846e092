/-
  The texts of the pocket run.  Its header is checked once, key by key; a text with this header is
  then accepted when the lines behind it are.
-/
import Custombuild.Postprocessors.Emitter
import Custombuild.Postprocessors.Lines

namespace Custombuild.Postprocessors

open Custombuild.Lib Custombuild.Manufacturing Custombuild.Cam

/-! ## Evaluated checks -/

/-- `CleanLine`, to be evaluated. -/
def isCleanLine (line : List Char) : Bool :=
  line.all isPrintable && !line.isEmpty && stripBlanks line == line &&
    (requireCanonicalLine line 0).isOk

theorem cleanLine_of_isCleanLine {line : List Char} (h : isCleanLine line = true) :
    CleanLine line := by
  simp only [isCleanLine, Bool.and_eq_true, List.all_eq_true, Bool.not_eq_true', beq_iff_eq] at h
  obtain ⟨⟨⟨hprintable, hne⟩, hstripped⟩, hcanonical⟩ := h
  obtain ⟨⟨⟩, hcanonical⟩ := exists_eq_ok hcanonical
  exact ⟨hprintable, by simpa using hne, hstripped, requireCanonicalLine_congr hcanonical⟩

/-- `CodeLines`, to be evaluated. -/
def isCode (program : ProductionProgram) (code : List (List Char)) : Bool :=
  code.all isCleanLine && code.getLast? == some ['%'] && !(code.dropLast.contains ['%']) &&
    (markers.all fun marker => !(code.contains marker.toList)) &&
    (code.filter fun line => line.head? = some '(') == operationComments program &&
    (code.filter fun line => operationStart.isPrefixOf line).map operationName ==
      (operationStarts "" program.moves).map String.toList

theorem codeLines_of_isCode {program : ProductionProgram} {code : List (List Char)}
    (h : isCode program code = true) : CodeLines program code := by
  simp only [isCode, Bool.and_eq_true, List.all_eq_true, Bool.not_eq_true', beq_iff_eq] at h
  obtain ⟨⟨⟨⟨⟨hclean, hlast⟩, hbody⟩, hmarkers⟩, hcomments⟩, hoperations⟩ := h
  refine ⟨fun line hline => cleanLine_of_isCleanLine (hclean line hline),
    ⟨code.dropLast, ?_, by simpa using hbody⟩, fun marker hmarker => ?_, hcomments, hoperations⟩
  · exact (List.dropLast_append_getLast? _ hlast).symm
  · simpa using hmarkers marker hmarker

theorem asciiText_encoded {text : List Char} (h : ∀ c ∈ text, c.toNat < 128) :
    asciiText (.bytes (text.map fun c => UInt8.ofNat c.toNat)) = .ok text := by
  have hbyte : ∀ c ∈ text, (UInt8.ofNat c.toNat).toNat = c.toNat := by
    intro c hc
    rw [UInt8.toNat_ofNat']
    exact Nat.mod_eq_of_lt (Nat.lt_trans (h c hc) (by decide))
  unfold asciiText
  rw [bind_eq_ok]
  refine ⟨(), ?_, ?_⟩
  · rw [require_eq_ok, List.all_eq_true]
    intro b hb
    obtain ⟨c, hc, rfl⟩ := List.mem_map.mp hb
    rw [decide_eq_true_eq, UInt8.lt_iff_toNat_lt, hbyte c hc]
    exact h c hc
  · show Except.ok _ = _
    rw [List.map_map]
    congr 1
    conv_rhs => rw [← List.map_id text]
    refine List.map_congr_left fun c hc => ?_
    rw [Function.comp, hbyte c hc, Char.ofNat_toNat]
    rfl

theorem CleanLines.ascii {lines : List (List Char)} (h : CleanLines lines) :
    ∀ c ∈ joinLines lines, c.toNat < 128 := by
  intro c hc
  rcases h.chars c hc with rfl | hprintable
  · decide
  · simp only [isPrintable, Bool.and_eq_true, decide_eq_true_eq] at hprintable
    have := hprintable.2
    rw [Char.le_def, UInt32.le_iff_toNat_le] at this
    exact Nat.lt_of_le_of_lt this (by decide)

/-! ## The header -/

namespace PocketRun

def first : ProductionMove := move 1 .rapid .position 20000 30000 15000 none

/-- The header lines behind the percent sign. -/
def headerComments : List (List Char) :=
  (identityHeader env id document program profile PanelJob.boundSetup PanelJob.routerBinding
    first).tail

theorem headerComments_headed : Headed headerComments := by
  refine headed_append ?_
  unfold identityEntries
  rw [toList_eq_charsOf]
  decide +kernel

/-- What the postprocessor makes of the identities of the run. -/
theorem header_safe :
    identityHeader env safeComment document program profile PanelJob.boundSetup
      PanelJob.routerBinding first = ['%'] :: headerComments := by
  have hids : ∀ text ∈ [program.programId, program.setupId, PanelJob.boundSetup.stockId,
      PanelJob.boundSetup.sourceMaterialId, PanelJob.boundSetup.sourceMaterialVersion,
      PanelJob.boundSetup.materialId, PanelJob.boundSetup.materialVersion,
      PanelJob.boundSetup.materialEvidenceId, PanelJob.boundSetup.materialEvidenceVersion,
      program.toolId, program.toolVersion], safeComment text = text := by decide +kernel
  simp only [List.forall_mem_cons] at hids
  obtain ⟨h₁, h₂, h₃, h₄, h₅, h₆, h₇, h₈, h₉, h₁₀, h₁₁, -⟩ := hids
  unfold headerComments identityHeader identityEntries
  simp only [h₁, h₂, h₃, h₄, h₅, h₆, h₇, h₈, h₉, h₁₀, h₁₁]
  rfl

/-! ## The lines behind the header -/

def fixed : FixedLines :=
  fixedLines profile PanelJob.boundSetup PanelJob.routerBinding first 12000

/-- Preamble, body and trailer of the run. -/
def codeLines : Except String (List (List Char)) := do
  let preamble ← preambleText fixed
  let body ← moveLines "" program.moves
  return preamble ++ body ++ trailerText fixed

/-- The text of the header and some lines. -/
def textOf (code : List (List Char)) : List Char := joinLines ((['%'] :: headerComments) ++ code)

theorem programText_eq {code : List (List Char)} (h : codeLines = .ok code) :
    programText env profile document program = .ok (textOf code) := by
  simp only [codeLines, bind_eq_ok] at h
  obtain ⟨preamble, hpreamble, body, hbody, hcode⟩ := h
  cases hcode
  have hrecipes : (program.recipeIds.mapM document.executionContext.recipeById).any (fun recipes =>
      onlyOne (recipes.map CuttingRecipe.spindleRpm).dedup == some 12000) = true := by
    rfl
  obtain ⟨recipes, hrecipes, hrpm⟩ := (Option.any_eq_true _ _).mp hrecipes
  unfold programText
  simp only [bind_eq_ok, require_eq_ok, demand_eq_ok]
  refine ⟨PanelJob.boundSetup, by rfl, PanelJob.routerBinding, by rfl,
    recipes, hrecipes, 12000, beq_iff_eq.mp hrpm, (), by rfl, (), by rfl,
    first, by rfl, preamble, hpreamble, body, hbody, ?_⟩
  rw [header_safe, List.append_assoc, List.append_assoc, ← List.append_assoc preamble]
  rfl

/-- The text is accepted when its lines behind the header are. -/
theorem validate_of_code {payload : Payload} {code : List (List Char)} {lines : List ParsedLine}
    {moves : List ParsedProductionMove} (hpayload : asciiText payload = .ok (textOf code))
    (hcode : CodeLines program code)
    (hparse : parseLines (headerComments.length + 2) (code ++ [[]]) = .ok lines)
    (hne : lines ≠ []) (hwords : forEach requireWhitelistedLine lines = .ok ())
    (hmoves : validateLines document program PanelJob.boundSetup PanelJob.routerBinding fixed lines =
      .ok moves) :
    ∃ parsed, validateProductionProgram env document profile payload program = .ok parsed ∧
      parsed.lines = lines := by
  have hheader := headerComments_headed
  refine ⟨{
    lines := lines
    moves := moves
    wcs := PanelJob.boundSetup.wcs
    controllerToolNumber := PanelJob.routerBinding.controllerToolNumber
    lengthOffsetNumber := PanelJob.routerBinding.lengthOffsetNumber
    spindleRpm := 12000
    spindleSpinupMs := profile.spindleSpinupMs
    productionMachineProfileSha256 := env.configSha256 profile }, ?_, rfl⟩
  unfold validateProductionProgram
  simp only [bind_eq_ok, require_eq_ok, demand_eq_ok]
  exact ⟨(), by rfl, (), by rfl, PanelJob.boundSetup, by rfl,
    PanelJob.routerBinding, by rfl, (), by rfl, (), by rfl,
    12000, by rfl, textOf code, hpayload, lines,
    hheader.parse hcode hparse hne hwords, first, rfl, (), hheader.identity hcode, (),
    hheader.operations_ok hcode, (), by rfl, moves, hmoves, rfl⟩

/-- The checks of lines behind the header, to be evaluated, and one of what is read of them. -/
def isAccepted (final : List ParsedLine → Bool) (code : List (List Char)) : Bool :=
  isCode program code &&
    okAnd (parseLines (headerComments.length + 2) (code ++ [[]])) fun lines =>
      !lines.isEmpty && (forEach requireWhitelistedLine lines).isOk &&
        (validateLines document program PanelJob.boundSetup PanelJob.routerBinding fixed lines).isOk &&
        final lines

theorem exists_accepted {payload : Payload} {code : List (List Char)}
    {final : List ParsedLine → Bool} (h : isAccepted final code = true)
    (hpayload : asciiText payload = .ok (textOf code)) :
    ∃ parsed, validateProductionProgram env document profile payload program = .ok parsed ∧
      final parsed.lines = true := by
  obtain ⟨hcode, hread⟩ := (Bool.and_eq_true_iff).mp h
  obtain ⟨lines, hparse, hlines⟩ := exists_of_okAnd hread
  simp only [Bool.and_eq_true, Bool.not_eq_true'] at hlines
  obtain ⟨⟨⟨hne, hwords⟩, hmoves⟩, hfinal⟩ := hlines
  obtain ⟨⟨⟩, hwords⟩ := exists_eq_ok hwords
  obtain ⟨moves, hmoves⟩ := exists_eq_ok hmoves
  obtain ⟨parsed, hparsed, heq⟩ := validate_of_code hpayload (codeLines_of_isCode hcode) hparse
    (by simpa using hne) hwords hmoves
  exact ⟨parsed, hparsed, by rw [heq, hfinal]⟩

theorem ascii_textOf {code : List (List Char)} (h : CodeLines program code) :
    ∀ c ∈ textOf code, c.toNat < 128 :=
  (headerComments_headed.clean h).ascii

theorem asciiText_textOf {code : List (List Char)} (h : CodeLines program code) :
    asciiText (.text (textOf code)) = .ok (textOf code) := by
  have hascii : ((textOf code).all fun c => c.toNat < 128) = true := by
    simpa using ascii_textOf h
  show (require _ _ >>= fun _ => _) = _
  rw [bind_eq_ok]
  exact ⟨(), require_eq_ok.mpr hascii, rfl⟩

/-- What is written of the run. -/
def outputOf (content : List UInt8) : ProductionMachineProgram :=
  { filename := filenameOf env program
    programId := program.programId
    runOrder := program.runOrder
    setupId := program.setupId
    toolId := program.toolId
    controller := document.executionContext.controllerId
    controllerVersion := document.executionContext.controllerVersion
    postprocessorId := linuxcncProductionPostprocessorId
    postprocessorVersion := linuxcncProductionPostprocessorVersion
    sourceToolpathsSha256 := env.documentFingerprint document
    productionMachineProfileSha256 := env.configSha256 profile
    content := content }

theorem check_outputOf (byte : UInt8) (content : List UInt8) :
    (outputOf (byte :: content)).check = .ok () := by
  show (outputOf [0]).check = .ok ()
  rfl

/-- The postprocessor writes the run where its lines are accepted. -/
theorem generate_ok {code : List (List Char)} {final : List ParsedLine → Bool}
    (hcode : codeLines = .ok code) (h : isAccepted final code = true) :
    ∃ outputs, generate env profile document = .ok outputs := by
  have hlines := codeLines_of_isCode ((Bool.and_eq_true_iff).mp h).1
  have hascii : ((textOf code).all fun c => c.toNat < 128) = true := by
    simpa using ascii_textOf hlines
  obtain ⟨parsed, hparsed, -⟩ := exists_accepted h (asciiText_encoded (ascii_textOf hlines))
  generalize houtput : outputOf ((textOf code).map fun c => UInt8.ofNat c.toNat) = output
  refine ⟨[output], ?_⟩
  unfold generate
  simp only [bind_eq_ok, require_eq_ok]
  refine ⟨(), by decide +kernel, [output], ?_, (), by subst houtput; rfl, rfl⟩
  show generatePrograms env profile document [] [program] = _
  simp only [generatePrograms, generateProgram, bind_eq_ok, require_eq_ok]
  refine ⟨output, ⟨_, programText_eq hcode, _, ?_, (), rfl, parsed, hparsed, (), ?_, ?_⟩, [], rfl,
    rfl⟩
  · simp only [encodeAscii, bind_eq_ok, require_eq_ok]
    exact ⟨(), hascii, rfl⟩
  · exact check_outputOf _ _
  · exact congrArg Except.ok houtput

example : headerComments.length = 73 := by decide +kernel

end PocketRun

end Custombuild.Postprocessors
