/-
  The feature schedule of a part drawing: the notes of every feature, split over pages.  Read back
  without the titles of the continuations, the pages hold exactly the notes of the features
  (`note_pages_exact`).
  Source: `feature_note_lines` and `_note_pages` of `custombuild_worker.part_drawings`.

  A countersink has no name in the schedule, so its look-up raises; the drawing exporter refuses
  such a part before its schedule is made.
-/
import Custombuild.Lib.Checked
import Custombuild.Manufacturing.Model
import Custombuild.Worker.NoteText

namespace Custombuild.Worker

open Custombuild.Lib Custombuild.Manufacturing

/-! ## The notes of a feature -/

/-- `_KINDS` -/
def kindName : FeatureKind → Option String
  | .drill => some "Hål"
  | .drillPattern => some "Hålmönster"
  | .countersink => none
  | .pocket => some "Ficka"
  | .groove => some "Spår"
  | .rabbet => some "Fals"
  | .innerContour => some "Innerkontur"
  | .outerContour => some "Ytterkontur"
  | .engrave => some "Gravering"
  | .label => some "Märkning"

def cornerStrategyText : Option CornerStrategy → String
  | none => ""
  | some .dogboneV1 => "dogbone-v1"
  | some .dogboneV2 => "dogbone-v2"
  | some (.unsupported name) => name

def sourceEdgeText : SourceEdge → String
  | .uMin => "u_min"
  | .uMax => "u_max"
  | .vMin => "v_min"
  | .vMax => "v_max"
  | .unsupported name => name

/-- The kinds whose centres are listed. -/
def isDrilling (kind : FeatureKind) : Bool := kind = .drill || kind = .drillPattern

def centreText (point : Point2D) : String := umToMm point.xUm ++ "/" ++ umToMm point.yUm

/-- The line with every drilling centre. -/
def centresText (feature : ManufacturingFeature) : String :=
  "Hålcentrum U/V (mm): " ++ String.intercalate "; " (feature.points.map centreText)

/-- The dimensions that the feature has. -/
def dimensionTexts (feature : ManufacturingFeature) : List String :=
  ([("Diameter", feature.diameterUm), ("Bredd U", feature.widthUm), ("Längd V", feature.lengthUm),
    ("Radie", feature.radiusUm)].filterMap fun entry =>
      entry.2.map fun value => entry.1 ++ " " ++ umToMm value) ++
    ["Djup " ++ umToMm feature.depthUm]

/-- The lines of a feature before they are wrapped. -/
def featureNoteTexts (feature : ManufacturingFeature) : List String :=
  let centre := isDrilling feature.kind
  let tolerance :=
    if feature.toleranceUm > 0 then "+/- " ++ umToMm feature.toleranceUm ++ " mm"
    else "EJ ANGIVEN - ska fastställas"
  let strategy := cornerStrategyText feature.cornerStrategy
  let openEnds := String.intercalate ", " (feature.openEndReliefs.map sourceEdgeText)
  ["U " ++ umToMm feature.xUm ++ " / V " ++ umToMm feature.yUm ++ " mm" ++
      (if centre then " - första hålets centrum" else " - nedre vänstra hörnet"),
    String.intercalate " | " (dimensionTexts feature) ++ " mm" ++
      (if feature.through then " | Genomgående" else ""),
    "Tolerans: " ++ tolerance ++ " | Passningsspel: " ++ umToMm feature.fitClearanceUm ++ " mm"] ++
  (if strategy ≠ "" then
    ["Hörnstrategi: " ++ strategy ++ " | Avlastningsradie: " ++
      umToMm (feature.cornerReliefRadiusUm.getD 0) ++ " mm | Öppna ändar: " ++
      (if openEnds ≠ "" then openEnds else "inga")]
  else []) ++
  (if feature.kind = .drillPattern then
    ["Antal hål: " ++ toString feature.patternCount ++ " | Delning: " ++
      umToMm (feature.pitchUm.getD 0) ++ " mm"]
  else []) ++
  (if centre then [centresText feature] else [])

/-- `NOTE_WIDTH`: an A4 page without its margins, in points. -/
def noteWidth : ℚ := 5952755905511812 / 10 ^ 13 - 2 * 36

def noteLinesPerPage : Nat := 25

structure FeatureNote where
  number : Nat
  feature : ManufacturingFeature
  lines : List String

/-- `f"F{number:02d}  "` -/
def noteMark (number : Nat) : String := "F" ++ zeroPadded 2 number ++ "  "

def continuationTitle (number : Nat) : String := noteMark number ++ "Fortsättning"

section Schedule

variable (charWidth : Char → ℚ)

/-- `feature_note_lines` -/
def featureNoteLines (feature : ManufacturingFeature) : List String :=
  (featureNoteTexts feature).flatMap (wrap charWidth noteWidth)

/-- The heading and the notes of a feature whose kind has a name. -/
def noteLines (number : Nat) (feature : ManufacturingFeature) (kind : String) : List String :=
  wrap charWidth noteWidth (noteMark number ++ kind ++ "  |  " ++ feature.featureId) ++
    featureNoteLines charWidth feature

end Schedule

/-! ## Pages -/

/-- Closed pages, and the page that is filled. -/
structure PageState where
  pages : List (List FeatureNote)
  current : List FeatureNote
  used : Nat

/-- The title of a fragment. -/
def noteTitle (number : Nat) (continued : Bool) : List String :=
  if continued then [continuationTitle number] else []

/-- Lines that are left on the page, below a title and a separator. -/
def noteCapacity (used number : Nat) (continued : Bool) : Int :=
  noteLinesPerPage - used - (noteTitle number continued).length - 1

theorem length_noteTitle_le (number : Nat) (continued : Bool) :
    (noteTitle number continued).length ≤ 1 := by
  cases continued <;> simp [noteTitle]

/-- The loop over the lines of one feature.  A page is closed only when it holds something, so the
    loop ends. -/
def placeNote (number : Nat) (feature : ManufacturingFeature) (remaining : List String)
    (continued : Bool) (state : PageState) : PageState :=
  if remaining = [] then state
  else if noteCapacity state.used number continued < min 4 remaining.length then
    placeNote number feature remaining continued ⟨state.pages ++ [state.current], [], 0⟩
  else
    let capacity := (noteCapacity state.used number continued).toNat
    let lines := noteTitle number continued ++ remaining.take capacity
    placeNote number feature (remaining.drop capacity) true
      ⟨state.pages, state.current ++ [⟨number, feature, lines⟩], state.used + (lines.length + 1)⟩
termination_by (remaining.length, state.used)
decreasing_by
  · rename_i hfull
    have htitle := length_noteTitle_le number continued
    have hused : 0 < state.used := by
      simp only [noteCapacity, noteLinesPerPage] at hfull
      omega
    exact Prod.Lex.right _ hused
  · rename_i hne hroom
    have hpos : 0 < remaining.length := List.length_pos_iff.mpr hne
    refine Prod.Lex.left _ _ ?_
    rw [List.length_drop]
    omega

/-- The loop over the numbered features. -/
def placeFeatures (charWidth : Char → ℚ) :
    List (ManufacturingFeature × Nat) → PageState → Except String PageState
  | [], state => .ok state
  | (feature, number) :: rest, state => do
    let kind ← demand (kindName feature.kind) "KeyError: COUNTERSINK"
    placeFeatures charWidth rest
      (placeNote number feature (noteLines charWidth number feature kind) false state)

/-- The pages at the end; without features there is one, which is empty. -/
def PageState.close (state : PageState) : List (List FeatureNote) :=
  if state.current ≠ [] ∨ state.pages = [] then state.pages ++ [state.current] else state.pages

/-- `_note_pages` -/
def notePages (charWidth : Char → ℚ) (features : List ManufacturingFeature) :
    Except String (List (List FeatureNote)) := do
  let state ← placeFeatures charWidth (features.zipIdx 1) ⟨[], [], 0⟩
  return state.close

/-! ## Reading the pages back -/

/-- The lines of a fragment without the title of a continuation. -/
def FeatureNote.untitled (note : FeatureNote) : List String :=
  match note.lines with
  | [] => []
  | title :: body => if title = continuationTitle note.number then body else title :: body

/-- A fragment continues the note before it when it has its number, and else begins a note. -/
def readNote (read : List FeatureNote) (note : FeatureNote) : List FeatureNote :=
  match read.getLast? with
  | some last =>
    if last.number = note.number then
      read.dropLast ++ [{ last with lines := last.lines ++ note.untitled }]
    else read ++ [note]
  | none => read ++ [note]

/-- The notes of the fragments, in order. -/
def readNotes (notes : List FeatureNote) : List FeatureNote := notes.foldl readNote []

/-- Lines and separators of a page. -/
def pageFill (page : List FeatureNote) : Nat := (page.map fun note => note.lines.length + 1).sum

/-! ## The fragments of one feature -/

/-- The fragments of a note: parts of its lines that are not empty, each under a title unless the
    note begins with it. -/
inductive Fragments (number : Nat) (feature : ManufacturingFeature) :
    Bool → List String → List FeatureNote → Prop
  | done {continued : Bool} : Fragments number feature continued [] []
  | fragment {continued : Bool} {body rest : List String} {notes : List FeatureNote}
      (hbody : body ≠ []) (hrest : Fragments number feature true rest notes) :
      Fragments number feature continued (body ++ rest)
        (⟨number, feature, noteTitle number continued ++ body⟩ :: notes)

section Reading

variable {number : Nat} {feature : ManufacturingFeature}

theorem readNote_new {read : List FeatureNote} {note : FeatureNote}
    (h : ∀ last ∈ read.getLast?, last.number ≠ note.number) :
    readNote read note = read ++ [note] := by
  unfold readNote
  split
  · rename_i last hlast
    rw [if_neg (h last hlast)]
  · rfl

theorem readNote_continued {read : List FeatureNote} {last : FeatureNote} (body : List String)
    (h : last.number = number) :
    readNote (read ++ [last]) ⟨number, feature, noteTitle number true ++ body⟩ =
      read ++ [{ last with lines := last.lines ++ body }] := by
  have huntitled : FeatureNote.untitled ⟨number, feature, noteTitle number true ++ body⟩ = body :=
    if_pos rfl
  unfold readNote
  rw [List.getLast?_concat]
  simp only
  rw [if_pos h, huntitled, List.dropLast_concat]

/-- Fragments of a note that has begun are read into it. -/
theorem Fragments.read_continued {lines : List String} {notes : List FeatureNote}
    (h : Fragments number feature true lines notes) {read : List FeatureNote} {last : FeatureNote}
    (hlast : last.number = number) :
    notes.foldl readNote (read ++ [last]) =
      read ++ [{ last with lines := last.lines ++ lines }] := by
  generalize hcontinued : true = continued at h
  induction h generalizing last with
  | done => simp
  | @fragment _ body rest notes _ _ ih =>
    subst hcontinued
    rw [List.foldl_cons, readNote_continued body hlast]
    refine (ih ?_ rfl).trans ?_
    · exact hlast
    · rw [List.append_assoc]

/-- The fragments of a whole note are read as that note. -/
theorem Fragments.read_new {lines : List String} {notes : List FeatureNote}
    (h : Fragments number feature false lines notes) (hlines : lines ≠ [])
    {read : List FeatureNote} (hread : ∀ last ∈ read.getLast?, last.number ≠ number) :
    notes.foldl readNote read = read ++ [⟨number, feature, lines⟩] := by
  cases h with
  | done => exact absurd rfl hlines
  | fragment _ hrest =>
    rw [List.foldl_cons, readNote_new hread, hrest.read_continued rfl]
    rfl

end Reading

/-! ## The pages that are filled -/

/-- The fragments of the pages so far. -/
def PageState.notes (state : PageState) : List FeatureNote := state.pages.flatten ++ state.current

/-- Closed pages hold something, and no page holds more than fits. -/
structure PageState.Sound (state : PageState) : Prop where
  used_eq : state.used = pageFill state.current
  used_le : state.used ≤ noteLinesPerPage
  pages_fit : ∀ page ∈ state.pages, page ≠ [] ∧ pageFill page ≤ noteLinesPerPage

theorem pageFill_append (page : List FeatureNote) (note : FeatureNote) :
    pageFill (page ++ [note]) = pageFill page + (note.lines.length + 1) := by
  simp [pageFill]

/-- One feature: its fragments come behind the pages, which stay sound. -/
theorem placeNote_spec (number : Nat) (feature : ManufacturingFeature) (remaining : List String)
    (continued : Bool) {state : PageState} (h : state.Sound) :
    (placeNote number feature remaining continued state).Sound ∧
      ∃ notes, (placeNote number feature remaining continued state).notes = state.notes ++ notes ∧
        Fragments number feature continued remaining notes := by
  fun_induction placeNote number feature remaining continued state with
  | case1 continued state => exact ⟨h, [], by simp, .done⟩
  | case2 remaining continued state hne hfull ih =>
    have htitle := length_noteTitle_le number continued
    have hpos : 0 < state.used := by
      simp only [noteCapacity, noteLinesPerPage] at hfull
      omega
    have hcurrent : state.current ≠ [] := by
      intro hempty
      rw [h.used_eq, hempty] at hpos
      exact absurd hpos (Nat.lt_irrefl 0)
    have hclosed : PageState.Sound ⟨state.pages ++ [state.current], [], 0⟩ := by
      refine ⟨rfl, Nat.zero_le _, ?_⟩
      intro page hpage
      rcases List.mem_append.mp hpage with hpage | hpage
      · exact h.pages_fit page hpage
      · rw [List.mem_singleton.mp hpage]
        exact ⟨hcurrent, h.used_eq ▸ h.used_le⟩
    obtain ⟨hsound, notes, hnotes, hfragments⟩ := ih hclosed
    refine ⟨hsound, notes, ?_, hfragments⟩
    rw [hnotes]
    simp [PageState.notes]
  | case3 remaining continued state hne hroom capacity lines ih =>
    have hlength : 0 < remaining.length := List.length_pos_iff.mpr hne
    have hcapacity : (capacity : Int) = noteCapacity state.used number continued := by
      show (((noteCapacity state.used number continued).toNat : Nat) : Int) = _
      omega
    have hpos : 0 < capacity := by omega
    have hlines : lines.length ≤ (noteTitle number continued).length + capacity := by
      show (noteTitle number continued ++ remaining.take capacity).length ≤ _
      rw [List.length_append, List.length_take]
      omega
    have hplaced : PageState.Sound ⟨state.pages, state.current ++ [⟨number, feature, lines⟩],
        state.used + (lines.length + 1)⟩ := by
      refine ⟨?_, ?_, h.pages_fit⟩
      · rw [pageFill_append, ← h.used_eq]
      · simp only [noteCapacity] at hcapacity
        show state.used + (lines.length + 1) ≤ noteLinesPerPage
        omega
    obtain ⟨hsound, notes, hnotes, hfragments⟩ := ih hplaced
    refine ⟨hsound, ⟨number, feature, lines⟩ :: notes, ?_, ?_⟩
    · rw [hnotes]
      simp [PageState.notes]
    · have hbody : remaining.take capacity ≠ [] := by
        intro hempty
        have := congrArg List.length hempty
        rw [List.length_take, List.length_nil] at this
        omega
      have hfragment : Fragments number feature continued _ (⟨number, feature, lines⟩ :: notes) :=
        .fragment hbody hfragments
      rwa [List.take_append_drop] at hfragment

/-! ## All features -/

section Features

variable (charWidth : Char → ℚ)

/-- The whole note of a numbered feature. -/
def wholeNote (entry : ManufacturingFeature × Nat) : FeatureNote :=
  ⟨entry.2, entry.1, noteLines charWidth entry.2 entry.1 ((kindName entry.1.kind).getD "")⟩

theorem noteLines_ne_nil (number : Nat) (feature : ManufacturingFeature) (kind : String) :
    noteLines charWidth number feature kind ≠ [] := by
  intro hnil
  refine wrap_ne_nil ?_ (List.append_eq_nil_iff.mp hnil).1
  intro hempty
  have := congrArg String.toList hempty
  simp [noteMark] at this

theorem exists_kindName {kind : FeatureKind} (h : kind ≠ .countersink) :
    ∃ name, kindName kind = some name := by
  cases kind <;> first | exact absurd rfl h | exact ⟨_, rfl⟩

/-- All features: the pages stay sound, and read back they hold the whole notes in order. -/
theorem placeFeatures_spec {features : List ManufacturingFeature} (first : Nat) {state : PageState}
    (hkinds : ∀ feature ∈ features, feature.kind ≠ .countersink) (h : state.Sound)
    (hread : ∀ last ∈ (readNotes state.notes).getLast?, last.number < first) :
    ∃ result, placeFeatures charWidth (features.zipIdx first) state = .ok result ∧
      result.Sound ∧ readNotes result.notes =
        readNotes state.notes ++ (features.zipIdx first).map (wholeNote charWidth) := by
  induction features generalizing first state with
  | nil => exact ⟨state, rfl, h, by simp⟩
  | cons feature features ih =>
    obtain ⟨hkind, hkinds⟩ := List.forall_mem_cons.mp hkinds
    obtain ⟨name, hname⟩ := exists_kindName hkind
    have hlines := noteLines_ne_nil charWidth first feature name
    obtain ⟨hsound, notes, hnotes, hfragments⟩ := placeNote_spec first feature
      (noteLines charWidth first feature name) false h
    have hplaced : readNotes (placeNote first feature (noteLines charWidth first feature name) false
        state).notes = readNotes state.notes ++ [wholeNote charWidth (feature, first)] := by
      have hfolded : readNotes (state.notes ++ notes) =
          notes.foldl readNote (readNotes state.notes) := List.foldl_append ..
      rw [hnotes, hfolded, hfragments.read_new hlines fun last hlast =>
        Nat.ne_of_lt (hread last hlast), wholeNote, hname]
      rfl
    have hlast : ∀ last ∈ (readNotes (placeNote first feature
        (noteLines charWidth first feature name) false state).notes).getLast?,
        last.number < first + 1 := by
      rw [hplaced, List.getLast?_concat]
      intro last hlast
      obtain rfl := Option.some.inj hlast
      exact Nat.lt_succ_self first
    obtain ⟨result, hresult, hsound', hnotes'⟩ := ih (first + 1) hkinds hsound hlast
    refine ⟨result, ?_, hsound', ?_⟩
    · rw [List.zipIdx_cons, placeFeatures, hname]
      exact hresult
    · rw [hnotes', hplaced, List.zipIdx_cons, List.map_cons, List.append_assoc,
        List.singleton_append]

end Features

/-! ## The last page -/

theorem flatten_close (state : PageState) : state.close.flatten = state.notes := by
  unfold PageState.close PageState.notes
  split
  · rw [List.flatten_append, List.flatten_singleton]
  · rename_i hempty
    rw [not_or, not_not] at hempty
    rw [hempty.1, List.append_nil]

theorem PageState.Sound.close_fit {state : PageState} (h : state.Sound) :
    ∀ page ∈ state.close, pageFill page ≤ noteLinesPerPage := by
  intro page hpage
  unfold PageState.close at hpage
  split at hpage
  · rcases List.mem_append.mp hpage with hpage | hpage
    · exact (h.pages_fit page hpage).2
    · rw [List.mem_singleton.mp hpage, ← h.used_eq]
      exact h.used_le
  · exact (h.pages_fit page hpage).2

/-- A page is empty only where nothing was placed. -/
theorem PageState.Sound.notes_of_empty {state : PageState} (h : state.Sound)
    (hempty : [] ∈ state.close) : state.notes = [] := by
  have hpages : [] ∉ state.pages := fun hmem => (h.pages_fit [] hmem).1 rfl
  unfold PageState.close at hempty
  split at hempty
  · rename_i hlast
    rcases List.mem_append.mp hempty with hmem | hmem
    · exact absurd hmem hpages
    · have hcurrent : state.current = [] := (List.mem_singleton.mp hmem).symm
      have hnone : state.pages = [] := hlast.resolve_left (not_not.mpr hcurrent)
      rw [PageState.notes, hnone, hcurrent]
      rfl
  · exact absurd hempty hpages

/-! ## The schedule -/

/-- The drilling centres of a feature are as many as its holes, and no two are the same. -/
theorem points_nodup (feature : ManufacturingFeature) :
    feature.points.length = feature.patternCount ∧ feature.points.Nodup := by
  unfold ManufacturingFeature.points
  split
  · rename_i hone
    exact ⟨by rw [hone]; rfl, List.nodup_singleton _⟩
  · rename_i hmany
    refine ⟨by rw [List.length_map, List.length_range], ?_⟩
    obtain ⟨pitch, hpitch, hpos⟩ := feature.pitch_pos (by have := feature.count_pos; omega)
    rw [Option.mem_def.mp hpitch]
    refine List.Nodup.map (fun i j hij => ?_) List.nodup_range
    have hx : feature.xUm + (i : Int) * pitch = feature.xUm + (j : Int) * pitch :=
      congrArg Point2D.xUm hij
    have := Int.eq_of_mul_eq_mul_right (Int.ne_of_gt hpos) (Int.add_left_cancel hx)
    omega

/-- The schedule of features without a countersink: its fragments read back are the notes of the
    features in order; every page fits, and none is empty unless there are no features; the last
    line of a drilling feature lists each of its centres once; and what is wrapped is the text,
    line by line within the width. -/
theorem note_pages_exact {charWidth : Char → ℚ}
    (hchar : ∀ c, 3 / 2 ≤ charWidth c ∧ charWidth c ≤ 9) {features : List ManufacturingFeature}
    (hkinds : ∀ feature ∈ features, feature.kind ≠ .countersink) :
    (∃ pages, notePages charWidth features = .ok pages ∧
      readNotes pages.flatten = (features.zipIdx 1).map (wholeNote charWidth) ∧
      (∀ page ∈ pages, pageFill page ≤ noteLinesPerPage) ∧ ([] ∈ pages → features = [])) ∧
    (∀ feature ∈ features, isDrilling feature.kind = true →
      (featureNoteTexts feature).getLast? = some (centresText feature) ∧
        feature.points.length = feature.patternCount ∧ feature.points.Nodup) ∧
    ∀ text, rejoin ((wrap charWidth noteWidth text).map String.toList)
        (wrapBreaks charWidth noteWidth text) = text.toList ∧
      (wrapBreaks charWidth noteWidth text).length =
        (wrap charWidth noteWidth text).length - 1 ∧
      ∀ line ∈ wrap charWidth noteWidth text, stringWidth charWidth line.toList ≤ noteWidth := by
  refine ⟨?_, ?_, ?_⟩
  · have hstart : PageState.Sound ⟨[], [], 0⟩ := ⟨rfl, Nat.zero_le _, by simp⟩
    obtain ⟨result, hresult, hsound, hnotes⟩ := placeFeatures_spec charWidth 1 hkinds hstart
      (by simp [PageState.notes, readNotes])
    refine ⟨result.close, ?_, ?_, hsound.close_fit, ?_⟩
    · rw [notePages, hresult]
      rfl
    · rw [flatten_close, hnotes]
      rfl
    · intro hempty
      rw [hsound.notes_of_empty hempty] at hnotes
      have hnone := List.append_eq_nil_iff.mp hnotes.symm
      exact List.zipIdx_eq_nil_iff.mp (List.map_eq_nil_iff.mp hnone.2)
  · intro feature _ hdrilling
    refine ⟨?_, points_nodup feature⟩
    simp only [featureNoteTexts, hdrilling, if_true]
    exact List.getLast?_concat
  · intro text
    exact ⟨rejoin_wrap text, length_wrapBreaks text,
      wrap_fits hchar (by norm_num [noteWidth]) text⟩

/-! ## A countersink and a row of holes -/

namespace Shelf

/-- The widths of Helvetica at eight points, for the characters of the texts below. -/
def helvetica (c : Char) : ℚ :=
  8 / 1000 * match c with
    | 'i' | 'j' | 'l' => 222
    | '|' => 260
    | ' ' | '.' | ',' | ':' | ';' | '/' | 'I' | 'f' | 't' => 278
    | '(' | ')' | '-' | 'r' => 333
    | 'c' | 'k' | 's' | 'v' | 'x' | 'y' | 'z' | 'J' => 500
    | '+' => 584
    | 'F' | 'T' | 'Z' => 611
    | 'A' | 'B' | 'E' | 'K' | 'P' | 'S' | 'V' | 'X' | 'Y' => 667
    | 'C' | 'D' | 'H' | 'N' | 'R' | 'U' | 'w' => 722
    | 'G' | 'O' | 'Q' => 778
    | 'M' | 'm' => 833
    | 'W' => 944
    | _ => 556

theorem helvetica_bounds (c : Char) : 3 / 2 ≤ helvetica c ∧ helvetica c ≤ 9 := by
  unfold helvetica
  split <;> norm_num

theorem countersink_depth_pos : (0 : Int) < 3000 := by decide

theorem countersink_dims_pos :
    ∀ d ∈ [some 8000, none, none, none], ∀ v ∈ d, (0 : Int) < v := by decide

def countersink : ManufacturingFeature where
  featureId := "screw-head"
  partId := "shelf"
  kind := .countersink
  side := .a
  xUm := 20000
  yUm := 20000
  depthUm := 3000
  diameterUm := some 8000
  depth_pos := countersink_depth_pos
  dims_pos := countersink_dims_pos

def pinRow : ManufacturingFeature where
  featureId := "shelf-pins"
  partId := "shelf"
  kind := .drillPattern
  side := .a
  xUm := 37000
  yUm := 64000
  depthUm := 12000
  diameterUm := some 5000
  patternCount := 3
  pitchUm := some 32000

/-- A countersink has no schedule. -/
theorem note_pages_countersink : ¬ ∃ pages, notePages helvetica [countersink] = .ok pages := by
  rintro ⟨pages, hpages⟩
  cases hpages

theorem note_pages_exact_pins :
    (∃ pages, notePages helvetica [pinRow] = .ok pages ∧
      readNotes pages.flatten = ([pinRow].zipIdx 1).map (wholeNote helvetica) ∧
      (∀ page ∈ pages, pageFill page ≤ noteLinesPerPage) ∧ ([] ∈ pages → [pinRow] = [])) ∧
    (∀ feature ∈ [pinRow], isDrilling feature.kind = true →
      (featureNoteTexts feature).getLast? = some (centresText feature) ∧
        feature.points.length = feature.patternCount ∧ feature.points.Nodup) ∧
    ∀ text, rejoin ((wrap helvetica noteWidth text).map String.toList)
        (wrapBreaks helvetica noteWidth text) = text.toList ∧
      (wrapBreaks helvetica noteWidth text).length =
        (wrap helvetica noteWidth text).length - 1 ∧
      ∀ line ∈ wrap helvetica noteWidth text, stringWidth helvetica line.toList ≤ noteWidth :=
  note_pages_exact helvetica_bounds (by
    intro feature hfeature
    rw [List.mem_singleton.mp hfeature]
    decide)

end Shelf

end Custombuild.Worker
