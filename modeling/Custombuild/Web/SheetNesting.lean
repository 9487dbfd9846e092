/-
  The browser's sheet packing: the largest part first, in rows, on as many sheets as there are.
  Source: `apps/web/lib/design-engine.ts`, `nestPartGroup` and `nestParts`.

  Numbers are exact, the placements are not rounded, and the order of two names is that of
  `localeCompare`, a parameter.  The loop counts a new sheet before it looks whether there is
  one.  A part that finds no sheet leaves the counter behind the stock, and a smaller part after
  it is put on the sheet that does not exist.  Proved here: the packing is a valid layout exactly
  when no part is placed after the counter has passed the stock.
-/
import Custombuild.Lib.Along
import Mathlib.Data.List.Nodup
import Mathlib.Data.Rat.Floor

namespace Custombuild.Web

open Custombuild.Lib

/-! ## Parts and placements -/

def nestingGapMm : ℚ := 8

/-- `round(value, decimals)`: half of the last decimal goes up. -/
def round (value : ℚ) (decimals : Nat) : ℚ := (⌊value * 10 ^ decimals + 1 / 2⌋ : ℚ) / 10 ^ decimals

inductive PartKind
  | side | top | bottom | shelf | back | plinth | divider
  | baseSide | baseBottom | baseTop | cabinetFront
deriving DecidableEq

inductive StockRole
  | carcass | back
deriving DecidableEq

/-- Of a resolved part, what the packing reads. -/
structure ResolvedPart where
  partId : String
  kind : PartKind
  materialId : String
  widthMm : ℚ
  depthMm : ℚ
deriving DecidableEq

structure NestingPlacement where
  partId : String
  materialId : String
  stockRole : StockRole
  sheet : ℚ
  xMm : ℚ
  yMm : ℚ
  widthMm : ℚ
  heightMm : ℚ
  rotated : Bool
deriving DecidableEq

/-- The sheets of one group: their size, how many there are and the number before the first. -/
structure SheetStock where
  sheetWidth : ℚ
  sheetHeight : ℚ
  stockCount : ℚ
  sheetOffset : ℚ
  stockRole : StockRole

/-! ## The loop -/

/-- Where the next part of a row goes, and whether it is turned. -/
structure Spot where
  cursorX : ℚ := nestingGapMm
  cursorY : ℚ := nestingGapMm
  rowHeight : ℚ := 0
  rotated : Bool := false
deriving DecidableEq

def placementWidth (part : ResolvedPart) (rotated : Bool) : ℚ :=
  if rotated then part.depthMm else part.widthMm

def placementHeight (part : ResolvedPart) (rotated : Bool) : ℚ :=
  if rotated then part.widthMm else part.depthMm

/-- `normalFitsSheet` and, for a turned part, `rotatedFitsSheet`. -/
def fitsSheet (stock : SheetStock) (part : ResolvedPart) (rotated : Bool) : Bool :=
  placementWidth part rotated + 2 * nestingGapMm ≤ stock.sheetWidth &&
    placementHeight part rotated + 2 * nestingGapMm ≤ stock.sheetHeight

/-- The part is turned only where it does not fit as it is. -/
def initiallyRotated (stock : SheetStock) (part : ResolvedPart) : Bool :=
  !fitsSheet stock part false && fitsSheet stock part true

/-- The part reaches over the right edge from a cursor. -/
def overEdge (stock : SheetStock) (part : ResolvedPart) (cursorX : ℚ) (rotated : Bool) : Bool :=
  stock.sheetWidth < cursorX + placementWidth part rotated + nestingGapMm

/-- The way a part lies at the start of a row. -/
def rowStartRotated (stock : SheetStock) (part : ResolvedPart) : Bool :=
  if overEdge stock part nestingGapMm (initiallyRotated stock part) && fitsSheet stock part true
  then true else initiallyRotated stock part

/-- The way a part lies behind the cursor: turned as well where only that ends before the edge. -/
def behindRotated (stock : SheetStock) (part : ResolvedPart) (cursorX : ℚ) : Bool :=
  if overEdge stock part cursorX (initiallyRotated stock part) && fitsSheet stock part true &&
      !overEdge stock part cursorX true
  then true else initiallyRotated stock part

/-- The row the part goes to: the row of the cursor, or a new one above it. -/
def spotFor (stock : SheetStock) (part : ResolvedPart) (spot : Spot) : Spot :=
  if overEdge stock part spot.cursorX (behindRotated stock part spot.cursorX) then
    { cursorY := spot.cursorY + (spot.rowHeight + nestingGapMm)
      rotated := rowStartRotated stock part }
  else { spot with rotated := behindRotated stock part spot.cursorX }

/-- The part reaches over the upper edge from its row. -/
def overTop (stock : SheetStock) (part : ResolvedPart) (spot : Spot) : Bool :=
  stock.sheetHeight < spot.cursorY + placementHeight part spot.rotated + nestingGapMm

/-- The variables of the loop. -/
structure Nesting where
  sheet : Nat := 1
  spot : Spot := {}
  placements : List NestingPlacement := []
  overflow : List String := []
deriving DecidableEq

def placementAt (stock : SheetStock) (part : ResolvedPart) (sheet : Nat) (spot : Spot) :
    NestingPlacement where
  partId := part.partId
  materialId := part.materialId
  stockRole := stock.stockRole
  sheet := stock.sheetOffset + sheet
  xMm := spot.cursorX
  yMm := spot.cursorY
  widthMm := placementWidth part spot.rotated
  heightMm := placementHeight part spot.rotated
  rotated := spot.rotated

/-- The end of the body: the part is placed and the cursor moves behind it. -/
def place (stock : SheetStock) (part : ResolvedPart) (sheet : Nat) (spot : Spot)
    (nesting : Nesting) : Nesting where
  sheet := sheet
  spot := { spot with
    cursorX := spot.cursorX + (placementWidth part spot.rotated + nestingGapMm)
    rowHeight := max spot.rowHeight (placementHeight part spot.rotated) }
  placements := nesting.placements ++ [placementAt stock part sheet spot]
  overflow := nesting.overflow

/-- The part fits the sheet neither way. -/
def oversized (stock : SheetStock) (part : ResolvedPart) : Bool :=
  !fitsSheet stock part false && !fitsSheet stock part true

/-- The body of the loop. -/
def nestPart (stock : SheetStock) (part : ResolvedPart) (nesting : Nesting) : Nesting :=
  if oversized stock part then { nesting with overflow := nesting.overflow ++ [part.partId] }
  else if overTop stock part (spotFor stock part nesting.spot) then
    if stock.stockCount < (nesting.sheet + 1 : ℕ) then
      -- The counter and the cursor stay where they are.
      { nesting with
        sheet := nesting.sheet + 1
        spot := spotFor stock part nesting.spot
        overflow := nesting.overflow ++ [part.partId] }
    else place stock part (nesting.sheet + 1) { rotated := rowStartRotated stock part } nesting
  else place stock part nesting.sheet (spotFor stock part nesting.spot) nesting

/-- `ordered`: by falling area, equal areas by name. -/
def orderedParts (localeCompare : String → String → Int) (parts : List ResolvedPart) :
    List ResolvedPart :=
  parts.mergeSort fun left right =>
    if right.widthMm * right.depthMm - left.widthMm * left.depthMm = 0
    then localeCompare left.partId right.partId ≤ 0
    else right.widthMm * right.depthMm - left.widthMm * left.depthMm ≤ 0

structure NestedPartGroup where
  placements : List NestingPlacement
  overflowPartIds : List String
  usedSheetCount : ℚ
  usedAreaMm2 : ℚ
  availableAreaMm2 : ℚ

/-- `Math.max(...placements.map((placement) => placement.sheet)) - sheetOffset`, 0 if empty. -/
def usedSheets (sheetOffset : ℚ) : List NestingPlacement → ℚ
  | [] => 0
  | first :: rest => rest.foldl (fun highest placement => max highest placement.sheet) first.sheet -
      sheetOffset

def nestPartGroup (localeCompare : String → String → Int) (parts : List ResolvedPart)
    (stock : SheetStock) : NestedPartGroup :=
  let nesting := runAll (nestPart stock) {} (orderedParts localeCompare parts)
  let sheetCount := usedSheets stock.sheetOffset nesting.placements
  { placements := nesting.placements
    overflowPartIds := nesting.overflow
    usedSheetCount := sheetCount
    usedAreaMm2 := (nesting.placements.map fun p => p.widthMm * p.heightMm).sum
    availableAreaMm2 := sheetCount * stock.sheetWidth * stock.sheetHeight }

/-- Of a specification, the raw sheets at hand. -/
structure StockSpec where
  stockWidthMm : ℚ
  stockHeightMm : ℚ
  stockCount : ℚ
  backStockWidthMm : ℚ
  backStockHeightMm : ℚ
  backStockCount : ℚ

structure NestingResult where
  placements : List NestingPlacement
  sheetCount : ℚ
  utilizationPercent : ℚ
  overflowPartIds : List String

def nestCarcass (localeCompare : String → String → Int) (spec : StockSpec)
    (parts : List ResolvedPart) : NestedPartGroup :=
  nestPartGroup localeCompare (parts.filter fun part => part.kind ≠ .back)
    { sheetWidth := max spec.stockWidthMm 1, sheetHeight := max spec.stockHeightMm 1
      stockCount := spec.stockCount, sheetOffset := 0, stockRole := .carcass }

def nestBack (localeCompare : String → String → Int) (spec : StockSpec)
    (parts : List ResolvedPart) : NestedPartGroup :=
  nestPartGroup localeCompare (parts.filter fun part => part.kind = .back)
    { sheetWidth := max spec.backStockWidthMm 1, sheetHeight := max spec.backStockHeightMm 1
      stockCount := spec.backStockCount
      sheetOffset := (nestCarcass localeCompare spec parts).usedSheetCount, stockRole := .back }

def nestParts (localeCompare : String → String → Int) (spec : StockSpec)
    (parts : List ResolvedPart) : NestingResult :=
  let carcass := nestCarcass localeCompare spec parts
  let back := nestBack localeCompare spec parts
  let usedArea := carcass.usedAreaMm2 + back.usedAreaMm2
  let availableArea := max (carcass.availableAreaMm2 + back.availableAreaMm2) 1
  { placements := carcass.placements ++ back.placements
    sheetCount := carcass.usedSheetCount + back.usedSheetCount
    utilizationPercent := round (usedArea / availableArea * 100) 1
    overflowPartIds := carcass.overflowPartIds ++ back.overflowPartIds }

/-! ## What one part does -/

section Loop

variable {stock : SheetStock} {part : ResolvedPart} {nesting : Nesting} {spot : Spot}
  {p q : NestingPlacement}

theorem nestPart_cases (stock : SheetStock) (part : ResolvedPart) (nesting : Nesting) :
    (oversized stock part = true ∧ nestPart stock part nesting =
        { nesting with overflow := nesting.overflow ++ [part.partId] }) ∨
      (oversized stock part = false ∧
        overTop stock part (spotFor stock part nesting.spot) = true ∧
        stock.stockCount < (nesting.sheet + 1 : ℕ) ∧
        nestPart stock part nesting =
          { nesting with
            sheet := nesting.sheet + 1
            spot := spotFor stock part nesting.spot
            overflow := nesting.overflow ++ [part.partId] }) ∨
      (oversized stock part = false ∧ ((nesting.sheet + 1 : ℕ) : ℚ) ≤ stock.stockCount ∧
        nestPart stock part nesting =
          place stock part (nesting.sheet + 1) { rotated := rowStartRotated stock part } nesting) ∨
      (oversized stock part = false ∧
        overTop stock part (spotFor stock part nesting.spot) = false ∧
        nestPart stock part nesting =
          place stock part nesting.sheet (spotFor stock part nesting.spot) nesting) := by
  unfold nestPart
  by_cases hsize : oversized stock part
  · exact .inl ⟨hsize, if_pos hsize⟩
  have hsize' : oversized stock part = false := by simpa using hsize
  rw [if_neg hsize]
  by_cases htop : overTop stock part (spotFor stock part nesting.spot)
  · rw [if_pos htop]
    by_cases hlast : stock.stockCount < (nesting.sheet + 1 : ℕ)
    · rw [if_pos hlast]
      exact .inr (.inl ⟨hsize', htop, hlast, rfl⟩)
    · rw [if_neg hlast]
      exact .inr (.inr (.inl ⟨hsize', not_lt.mp hlast, rfl⟩))
  · rw [if_neg htop]
    exact .inr (.inr (.inr ⟨hsize', by simpa using htop, rfl⟩))

/-- A part that fits some way fits the way it lies at the start of a row. -/
theorem fitsSheet_rowStart (h : oversized stock part = false) :
    fitsSheet stock part (rowStartRotated stock part) = true := by
  unfold rowStartRotated initiallyRotated
  unfold oversized at h
  cases hnormal : fitsSheet stock part false <;> cases hturned : fitsSheet stock part true <;>
    simp_all
  cases overEdge stock part nestingGapMm false <;> assumption

theorem fitsSheet_iff {rotated : Bool} : fitsSheet stock part rotated = true ↔
    placementWidth part rotated + 2 * nestingGapMm ≤ stock.sheetWidth ∧
      placementHeight part rotated + 2 * nestingGapMm ≤ stock.sheetHeight := by
  simp [fitsSheet]

/-- The two rows a part can go to. -/
theorem spotFor_cases (stock : SheetStock) (part : ResolvedPart) (spot : Spot) :
    spotFor stock part spot =
        { cursorY := spot.cursorY + (spot.rowHeight + nestingGapMm)
          rotated := rowStartRotated stock part } ∨
      (spotFor stock part spot = { spot with rotated := behindRotated stock part spot.cursorX } ∧
        spot.cursorX + placementWidth part (behindRotated stock part spot.cursorX) + nestingGapMm ≤
          stock.sheetWidth) := by
  unfold spotFor
  split
  · exact .inl rfl
  · rename_i hedge
    exact .inr ⟨rfl, by simpa [overEdge] using hedge⟩

/-- The cursor stays within the sheet. -/
structure Spot.InSheet (spot : Spot) : Prop where
  left : nestingGapMm ≤ spot.cursorX
  bottom : nestingGapMm ≤ spot.cursorY
  row : 0 ≤ spot.rowHeight

theorem Spot.InSheet.start (rotated : Bool) : Spot.InSheet { rotated := rotated } :=
  ⟨le_refl _, le_refl _, le_refl _⟩

theorem Spot.InSheet.spotFor (h : spot.InSheet) : (spotFor stock part spot).InSheet := by
  have hgap : (0 : ℚ) ≤ nestingGapMm := by norm_num [nestingGapMm]
  have hrow := h.row
  have hbottom := h.bottom
  rcases spotFor_cases stock part spot with hspot | ⟨hspot, -⟩ <;> rw [hspot]
  · exact ⟨le_refl _, by show _ ≤ spot.cursorY + (spot.rowHeight + nestingGapMm); linarith,
      le_refl _⟩
  · exact ⟨h.left, h.bottom, h.row⟩

/-- Wherever the part goes, it ends before the right edge. -/
theorem spotFor_right (hsize : oversized stock part = false) :
    (spotFor stock part spot).cursorX +
        placementWidth part (spotFor stock part spot).rotated + nestingGapMm ≤
      stock.sheetWidth := by
  rcases spotFor_cases stock part spot with hspot | ⟨hspot, hright⟩ <;> rw [hspot]
  · have hwidth := (fitsSheet_iff.mp (fitsSheet_rowStart hsize)).1
    show nestingGapMm + placementWidth part (rowStartRotated stock part) + nestingGapMm ≤ _
    linarith
  · exact hright

/-! ## Placements of one sheet -/

/-- The placement keeps the gap to the border of its sheet. -/
structure NestingPlacement.Inside (stock : SheetStock) (p : NestingPlacement) : Prop where
  left : nestingGapMm ≤ p.xMm
  bottom : nestingGapMm ≤ p.yMm
  right : p.xMm + p.widthMm + nestingGapMm ≤ stock.sheetWidth
  top : p.yMm + p.heightMm + nestingGapMm ≤ stock.sheetHeight

/-- Two placements are a gap apart in x or in y. -/
def NestingPlacement.Apart (p q : NestingPlacement) : Prop :=
  p.xMm + p.widthMm + nestingGapMm ≤ q.xMm ∨ q.xMm + q.widthMm + nestingGapMm ≤ p.xMm ∨
    p.yMm + p.heightMm + nestingGapMm ≤ q.yMm ∨ q.yMm + q.heightMm + nestingGapMm ≤ p.yMm

/-- The placement is in a row below the cursor, or left of the cursor in its row. -/
def NestingPlacement.Behind (p : NestingPlacement) (spot : Spot) : Prop :=
  p.yMm + p.heightMm + nestingGapMm ≤ spot.cursorY ∨
    (p.yMm = spot.cursorY ∧ p.heightMm ≤ spot.rowHeight ∧
      p.xMm + p.widthMm + nestingGapMm ≤ spot.cursorX)

theorem NestingPlacement.Behind.spotFor (h : p.Behind spot) (hspot : spot.InSheet) :
    p.Behind (spotFor stock part spot) := by
  have hgap : (0 : ℚ) ≤ nestingGapMm := by norm_num [nestingGapMm]
  have hrow := hspot.row
  rcases spotFor_cases stock part spot with heq | ⟨heq, -⟩ <;> rw [heq]
  · left
    show _ ≤ spot.cursorY + (spot.rowHeight + nestingGapMm)
    rcases h with hbelow | ⟨hy, hheight, -⟩ <;> linarith
  · exact h

theorem NestingPlacement.Behind.apart (h : p.Behind spot) (sheet : Nat) :
    p.Apart (placementAt stock part sheet spot) := by
  rcases h with hbelow | ⟨-, -, hleft⟩
  · exact .inr (.inr (.inl hbelow))
  · exact .inl hleft

/-- What is behind the cursor is still behind it once a part is placed there, and so is the
    part. -/
theorem NestingPlacement.Behind.place {sheet : Nat} (h : p.Behind spot)
    (hwidth : 0 ≤ placementWidth part spot.rotated) :
    p.Behind (place stock part sheet spot nesting).spot := by
  have hgap : (0 : ℚ) ≤ nestingGapMm := by norm_num [nestingGapMm]
  rcases h with hbelow | ⟨hy, hheight, hleft⟩
  · exact .inl hbelow
  · refine .inr ⟨hy, le_trans hheight (le_max_left _ _), ?_⟩
    show _ ≤ spot.cursorX + (placementWidth part spot.rotated + nestingGapMm)
    linarith

theorem placementAt_behind (stock : SheetStock) (part : ResolvedPart) (sheet : Nat) (spot : Spot)
    (nesting : Nesting) :
    (placementAt stock part sheet spot).Behind (place stock part sheet spot nesting).spot := by
  refine .inr ⟨rfl, le_max_right _ _, ?_⟩
  show spot.cursorX + placementWidth part spot.rotated + nestingGapMm ≤
    spot.cursorX + (placementWidth part spot.rotated + nestingGapMm)
  linarith

/-! ## The invariant of the loop -/

/-- What holds of the variables before each part, whether or not the counter is within the
    stock. -/
structure Nesting.Sound (stock : SheetStock) (nesting : Nesting) : Prop where
  sheet : 1 ≤ nesting.sheet
  spot : nesting.spot.InSheet
  inside : ∀ p ∈ nesting.placements, p.Inside stock
  numbered : ∀ p ∈ nesting.placements,
    stock.sheetOffset + 1 ≤ p.sheet ∧ p.sheet ≤ stock.sheetOffset + nesting.sheet
  behind : ∀ p ∈ nesting.placements,
    p.sheet = stock.sheetOffset + nesting.sheet → p.Behind nesting.spot
  apart : nesting.placements.Pairwise fun p q => p.sheet = q.sheet → p.Apart q

theorem Nesting.Sound.start (stock : SheetStock) : Nesting.Sound stock {} where
  sheet := le_refl _
  spot := .start false
  inside := by simp
  numbered := by simp
  behind := by simp
  apart := .nil

/-- A part that ends before the edges of a sheet is placed soundly. -/
theorem Nesting.Sound.place {sheet : Nat} (h : nesting.Sound stock) (hspot : spot.InSheet)
    (hsheet : nesting.sheet ≤ sheet) (hwidth : 0 ≤ placementWidth part spot.rotated)
    (hbehind : ∀ p ∈ nesting.placements, p.sheet = stock.sheetOffset + sheet → p.Behind spot)
    (hright : spot.cursorX + placementWidth part spot.rotated + nestingGapMm ≤ stock.sheetWidth)
    (htop : spot.cursorY + placementHeight part spot.rotated + nestingGapMm ≤
      stock.sheetHeight) :
    (place stock part sheet spot nesting).Sound stock := by
  have hgap : (0 : ℚ) ≤ nestingGapMm := by norm_num [nestingGapMm]
  have hone : (1 : ℚ) ≤ sheet := by exact_mod_cast h.sheet.trans hsheet
  have hcast : (nesting.sheet : ℚ) ≤ sheet := by exact_mod_cast hsheet
  constructor
  · exact h.sheet.trans hsheet
  · refine ⟨?_, hspot.bottom, le_trans hspot.row (le_max_left _ _)⟩
    have hleft := hspot.left
    show _ ≤ spot.cursorX + (placementWidth part spot.rotated + nestingGapMm)
    linarith
  · intro p hp
    rcases List.mem_append.mp hp with hold | hnew
    · exact h.inside p hold
    · obtain rfl := List.mem_singleton.mp hnew
      exact ⟨hspot.left, hspot.bottom, hright, htop⟩
  · intro p hp
    rcases List.mem_append.mp hp with hold | hnew
    · have hp' := h.numbered p hold
      show _ ∧ _ ≤ stock.sheetOffset + (sheet : ℚ)
      exact ⟨hp'.1, by linarith⟩
    · obtain rfl := List.mem_singleton.mp hnew
      show _ ≤ stock.sheetOffset + (sheet : ℚ) ∧ stock.sheetOffset + (sheet : ℚ) ≤ _
      exact ⟨by linarith, le_refl _⟩
  · intro p hp heq
    rcases List.mem_append.mp hp with hold | hnew
    · exact (hbehind p hold heq).place hwidth
    · obtain rfl := List.mem_singleton.mp hnew
      exact placementAt_behind stock part sheet spot nesting
  · refine List.pairwise_append.mpr ⟨h.apart, List.pairwise_singleton _ _, ?_⟩
    intro p hp q hq heq
    obtain rfl := List.mem_singleton.mp hq
    exact (hbehind p hp heq).apart sheet

theorem placementWidth_nonneg (hwidth : 0 < part.widthMm) (hdepth : 0 < part.depthMm)
    (rotated : Bool) : 0 ≤ placementWidth part rotated := by
  unfold placementWidth
  split
  · exact hdepth.le
  · exact hwidth.le

/-- Every part keeps the invariant. -/
theorem Nesting.Sound.nestPart (h : nesting.Sound stock) (hwidth : 0 < part.widthMm)
    (hdepth : 0 < part.depthMm) : (nestPart stock part nesting).Sound stock := by
  rcases nestPart_cases stock part nesting with ⟨-, hstep⟩ | ⟨-, -, -, hstep⟩ | ⟨hsize, -, hstep⟩ |
    ⟨hsize, htop, hstep⟩ <;> rw [hstep]
  · exact ⟨h.sheet, h.spot, h.inside, h.numbered, h.behind, h.apart⟩
  · -- On the next sheet there is nothing yet, so the cursor may stand anywhere.
    have hnext : ∀ p ∈ nesting.placements,
        p.sheet < stock.sheetOffset + ((nesting.sheet + 1 : ℕ) : ℚ) := by
      intro p hp
      have := (h.numbered p hp).2
      push_cast
      linarith
    exact ⟨Nat.le_add_left 1 _, h.spot.spotFor, h.inside,
      fun p hp => ⟨(h.numbered p hp).1, (hnext p hp).le⟩,
      fun p hp heq => absurd heq (hnext p hp).ne, h.apart⟩
  · have hfits := fitsSheet_iff.mp (fitsSheet_rowStart hsize)
    refine h.place (.start _) (Nat.le_succ _) (placementWidth_nonneg hwidth hdepth _) ?_ ?_ ?_
    · intro p hp heq
      have := (h.numbered p hp).2
      push_cast at heq
      exact absurd heq (by linarith)
    · show nestingGapMm + placementWidth part (rowStartRotated stock part) + nestingGapMm ≤ _
      linarith [hfits.1]
    · show nestingGapMm + placementHeight part (rowStartRotated stock part) + nestingGapMm ≤ _
      linarith [hfits.2]
  · refine h.place h.spot.spotFor (le_refl _) (placementWidth_nonneg hwidth hdepth _) ?_
      (spotFor_right hsize) ?_
    · exact fun p hp heq => (h.behind p hp heq).spotFor h.spot
    · simpa [overTop] using htop

end Loop

/-! ## The whole packing -/

section Packing

variable {stock : SheetStock} {parts : List ResolvedPart} {nesting : Nesting}

theorem run_sound (hnesting : nesting.Sound stock)
    (hsizes : ∀ part ∈ parts, 0 < part.widthMm ∧ 0 < part.depthMm) :
    (runAll (nestPart stock) nesting parts).Sound stock :=
  (along_of_invariant (R := fun _ _ _ => True) hnesting fun _ h part hpart =>
    ⟨trivial, h.nestPart (hsizes part hpart).1 (hsizes part hpart).2⟩).2

/-- A part goes to the placements or to the overflow. -/
theorem nestPart_ids (stock : SheetStock) (part : ResolvedPart) (nesting : Nesting) :
    ((nestPart stock part nesting).placements.map (·.partId) ++
        (nestPart stock part nesting).overflow).Perm
      (nesting.placements.map (·.partId) ++ nesting.overflow ++ [part.partId]) := by
  rcases nestPart_cases stock part nesting with ⟨-, hstep⟩ | ⟨-, -, -, hstep⟩ | ⟨-, -, hstep⟩ |
    ⟨-, -, hstep⟩ <;> rw [hstep]
  · simp
  · simp
  all_goals
    simp only [place, placementAt, List.map_append, List.map_cons, List.map_nil,
      List.append_assoc]
    exact List.Perm.append_left _ List.perm_append_comm

theorem run_ids (stock : SheetStock) (parts : List ResolvedPart) (nesting : Nesting) :
    ((runAll (nestPart stock) nesting parts).placements.map (·.partId) ++
        (runAll (nestPart stock) nesting parts).overflow).Perm
      (nesting.placements.map (·.partId) ++ nesting.overflow ++ parts.map (·.partId)) := by
  induction parts generalizing nesting with
  | nil => simp
  | cons part parts ih =>
    rw [runAll_cons]
    refine (ih (nestPart stock part nesting)).trans ?_
    have hhead := (nestPart_ids stock part nesting).append_right (parts.map (·.partId))
    simpa using hhead

/-- The placement is that of a part of the list, turned or not, for the stock's role. -/
def NestingPlacement.IsOf (stock : SheetStock) (parts : List ResolvedPart)
    (p : NestingPlacement) : Prop :=
  ∃ part ∈ parts, p.partId = part.partId ∧ p.materialId = part.materialId ∧
    p.stockRole = stock.stockRole ∧ p.widthMm = placementWidth part p.rotated ∧
    p.heightMm = placementHeight part p.rotated

theorem run_isOf (stock : SheetStock) (parts : List ResolvedPart) :
    ∀ p ∈ (runAll (nestPart stock) {} parts).placements, p.IsOf stock parts := by
  refine (along_of_invariant (R := fun _ _ _ => True)
    (I := fun n : Nesting => ∀ p ∈ n.placements, p.IsOf stock parts)
    (by simp) fun n hn part hpart => ⟨trivial, fun p hp => ?_⟩).2
  have hplaced : ∀ sheet spot, p ∈ (place stock part sheet spot n).placements →
      p.IsOf stock parts := by
    intro sheet spot hp
    rcases List.mem_append.mp hp with hold | hnew
    · exact hn p hold
    · obtain rfl := List.mem_singleton.mp hnew
      exact ⟨part, hpart, rfl, rfl, rfl, rfl, rfl⟩
  rcases nestPart_cases stock part n with ⟨-, hstep⟩ | ⟨-, -, -, hstep⟩ | ⟨-, -, hstep⟩ |
    ⟨-, -, hstep⟩ <;> rw [hstep] at hp
  · exact hn p hp
  · exact hn p hp
  · exact hplaced _ _ hp
  · exact hplaced _ _ hp

/-- Once the counter has passed the stock, the part goes to the overflow: it is too large for a
    sheet, or too high for what is left above its row. -/
def StaysOffAbsentSheet (stock : SheetStock) (nesting : Nesting) (part : ResolvedPart)
    (_ : Nesting) : Prop :=
  stock.stockCount < nesting.sheet → oversized stock part = true ∨
    overTop stock part (spotFor stock part nesting.spot) = true

theorem placements_subset_run (stock : SheetStock) (parts : List ResolvedPart)
    (nesting : Nesting) :
    nesting.placements ⊆ (runAll (nestPart stock) nesting parts).placements := by
  induction parts generalizing nesting with
  | nil => exact List.Subset.refl _
  | cons part parts ih =>
    rw [runAll_cons]
    refine List.Subset.trans ?_ (ih _)
    rcases nestPart_cases stock part nesting with ⟨-, hstep⟩ | ⟨-, -, -, hstep⟩ | ⟨-, -, hstep⟩ |
      ⟨-, -, hstep⟩ <;> rw [hstep]
    · exact List.Subset.refl _
    · exact List.Subset.refl _
    · exact List.subset_append_left _ _
    · exact List.subset_append_left _ _

/-- All sheets are in stock exactly when no part is placed after the counter has passed it. -/
theorem onStock_iff_along (hnesting : ∀ p ∈ nesting.placements,
      p.sheet ≤ stock.sheetOffset + stock.stockCount) :
    (∀ p ∈ (runAll (nestPart stock) nesting parts).placements,
        p.sheet ≤ stock.sheetOffset + stock.stockCount) ↔
      Along (nestPart stock) (StaysOffAbsentSheet stock) nesting parts := by
  induction parts generalizing nesting with
  | nil => simpa [Along] using hnesting
  | cons part parts ih =>
    rw [runAll_cons, Along]
    by_cases hhead : StaysOffAbsentSheet stock nesting part (nestPart stock part nesting)
    · rw [and_iff_right hhead]
      refine ih fun p hp => ?_
      rcases nestPart_cases stock part nesting with ⟨-, hstep⟩ | ⟨-, -, -, hstep⟩ |
        ⟨-, hnext, hstep⟩ | ⟨hsize, htop, hstep⟩ <;> rw [hstep] at hp
      · exact hnesting p hp
      · exact hnesting p hp
      · rcases List.mem_append.mp hp with hold | hnew
        · exact hnesting p hold
        · obtain rfl := List.mem_singleton.mp hnew
          exact add_le_add_right hnext _
      · rcases List.mem_append.mp hp with hold | hnew
        · exact hnesting p hold
        · obtain rfl := List.mem_singleton.mp hnew
          have hin : (nesting.sheet : ℚ) ≤ stock.stockCount := by
            by_contra hout
            simpa [hsize, htop] using hhead (not_le.mp hout)
          exact add_le_add_right hin _
    · -- The part is placed on a sheet behind the stock, and the placement stays.
      refine iff_of_false (fun hall => ?_) fun h => hhead h.1
      simp only [StaysOffAbsentSheet, Classical.not_imp, not_or, Bool.not_eq_true] at hhead
      obtain ⟨hout, hsize, htop⟩ := hhead
      have hstep : nestPart stock part nesting =
          place stock part nesting.sheet (spotFor stock part nesting.spot) nesting := by
        simp [nestPart, hsize, htop]
      have hmem : placementAt stock part nesting.sheet (spotFor stock part nesting.spot) ∈
          (nestPart stock part nesting).placements := by
        rw [hstep]
        exact List.mem_append_right _ (List.mem_singleton_self _)
      have hsheet := hall _ (placements_subset_run stock parts _ hmem)
      exact absurd hout (not_lt.mpr (le_of_add_le_add_left hsheet))

end Packing

/-! ## Valid layouts -/

section Layouts

/-- A layout on the stock at hand: every part once, all placements within their sheets and a gap
    apart, all sheets in stock. -/
structure ValidLayout (stock : SheetStock) (parts : List ResolvedPart)
    (group : NestedPartGroup) : Prop where
  once : (group.placements.map (·.partId) ++ group.overflowPartIds).Perm (parts.map (·.partId))
  isOf : ∀ p ∈ group.placements, p.IsOf stock parts
  inside : ∀ p ∈ group.placements, p.Inside stock
  apart : group.placements.Pairwise fun p q => p.sheet = q.sheet → p.Apart q
  onStock : ∀ p ∈ group.placements, stock.sheetOffset + 1 ≤ p.sheet ∧
    p.sheet ≤ stock.sheetOffset + stock.stockCount

variable {localeCompare : String → String → Int} {stock : SheetStock} {parts : List ResolvedPart}
  {spec : StockSpec}

theorem orderedParts_perm : (orderedParts localeCompare parts).Perm parts :=
  List.mergeSort_perm _ _

theorem nestPartGroup_valid_iff
    (hsizes : ∀ part ∈ parts, 0 < part.widthMm ∧ 0 < part.depthMm) :
    ValidLayout stock parts (nestPartGroup localeCompare parts stock) ↔
      Along (nestPart stock) (StaysOffAbsentSheet stock) {} (orderedParts localeCompare parts) := by
  have hsound := run_sound (.start stock) fun part hpart =>
    hsizes part ((@orderedParts_perm localeCompare parts).mem_iff.mp hpart)
  rw [← onStock_iff_along (by simp)]
  constructor
  · exact fun h p hp => (h.onStock p hp).2
  · intro hall
    constructor
    · refine (run_ids stock _ {}).trans ?_
      simpa using orderedParts_perm.map _
    · intro p hp
      obtain ⟨part, hpart, hp⟩ := run_isOf stock _ p hp
      exact ⟨part, orderedParts_perm.mem_iff.mp hpart, hp⟩
    · exact hsound.inside
    · exact hsound.apart
    · exact fun p hp => ⟨(hsound.numbered p hp).1, hall p hp⟩

theorem le_foldl_max (rest : List NestingPlacement) (highest : ℚ) :
    highest ≤ rest.foldl (fun highest placement => max highest placement.sheet) highest ∧
      ∀ p ∈ rest, p.sheet ≤
        rest.foldl (fun highest placement => max highest placement.sheet) highest := by
  induction rest generalizing highest with
  | nil => simp
  | cons first rest ih =>
    obtain ⟨hhighest, hrest⟩ := ih (max highest first.sheet)
    refine ⟨le_trans (le_max_left _ _) hhighest, fun p hp => ?_⟩
    rcases List.mem_cons.mp hp with rfl | hp
    · exact le_trans (le_max_right _ _) hhighest
    · exact hrest p hp

theorem sheet_le_usedSheets {placements : List NestingPlacement} {p : NestingPlacement}
    (hp : p ∈ placements) (sheetOffset : ℚ) :
    p.sheet ≤ sheetOffset + usedSheets sheetOffset placements := by
  cases placements with
  | nil => simp at hp
  | cons first rest =>
    have hhighest := le_foldl_max rest first.sheet
    rw [usedSheets, add_sub_cancel]
    rcases List.mem_cons.mp hp with rfl | hp
    · exact hhighest.1
    · exact hhighest.2 p hp

/-- The sheets of the backs come after all sheets of the carcass. -/
theorem carcass_sheet_lt_back (hsizes : ∀ part ∈ parts, 0 < part.widthMm ∧ 0 < part.depthMm)
    {p q : NestingPlacement} (hp : p ∈ (nestCarcass localeCompare spec parts).placements)
    (hq : q ∈ (nestBack localeCompare spec parts).placements) : p.sheet < q.sheet := by
  have hordered : ∀ part ∈ orderedParts localeCompare (parts.filter fun part => part.kind = .back),
      0 < part.widthMm ∧ 0 < part.depthMm := fun part hpart =>
    hsizes part (List.mem_of_mem_filter (orderedParts_perm.mem_iff.mp hpart))
  have hback := run_sound (.start (SheetStock.mk (max spec.backStockWidthMm 1)
    (max spec.backStockHeightMm 1) spec.backStockCount
    (nestCarcass localeCompare spec parts).usedSheetCount .back)) hordered
  have hlow := (hback.numbered q hq).1
  have hhigh := sheet_le_usedSheets hp 0
  have hused : usedSheets 0 (nestCarcass localeCompare spec parts).placements =
      (nestCarcass localeCompare spec parts).usedSheetCount := rfl
  rw [hused] at hhigh
  change (nestCarcass localeCompare spec parts).usedSheetCount + 1 ≤ q.sheet at hlow
  linarith

/-- A placement with the name of a part is one of that part's group. -/
theorem mem_group_of_partId (hids : (parts.map (·.partId)).Nodup) {part : ResolvedPart}
    (hpart : part ∈ parts) {p : NestingPlacement}
    (hp : p ∈ (nestParts localeCompare spec parts).placements) (hid : p.partId = part.partId) :
    if part.kind = .back then p ∈ (nestBack localeCompare spec parts).placements
    else p ∈ (nestCarcass localeCompare spec parts).placements := by
  have hsame : ∀ other ∈ parts, p.partId = other.partId → other = part := fun other hother heq =>
    List.inj_on_of_nodup_map hids hother hpart (heq.symm.trans hid)
  have hgroup : ∀ (stock : SheetStock) (keep : ResolvedPart → Bool),
      p ∈ (nestPartGroup localeCompare (parts.filter keep) stock).placements →
        keep part = true := by
    intro stock keep hp
    obtain ⟨other, hother, heq, -⟩ := run_isOf stock _ p hp
    obtain ⟨hmem, hkeep⟩ := List.mem_filter.mp (orderedParts_perm.mem_iff.mp hother)
    exact hsame other hmem heq ▸ hkeep
  rcases List.mem_append.mp hp with hcarcass | hback
  · rw [if_neg (by simpa using hgroup _ _ hcarcass)]
    exact hcarcass
  · rw [if_pos (by simpa using hgroup _ _ hback)]
    exact hback

end Layouts

/-! ## Three parts and one sheet -/

namespace OneSheet

/-- The second part finds no room on the only sheet; the third is put on a second one. -/
def parts : List ResolvedPart :=
  [⟨"left", .side, "birch-plywood", 60, 60⟩, ⟨"right", .side, "birch-plywood", 60, 59⟩,
    ⟨"shelf", .shelf, "birch-plywood", 10, 10⟩]

def stock : SheetStock := ⟨100, 100, 1, 0, .carcass⟩

def spec : StockSpec := ⟨100, 100, 1, 100, 100, 1⟩

def localeCompare (left right : String) : Int := if left = right then 0 else 1

theorem sizes : ∀ part ∈ parts, 0 < part.widthMm ∧ 0 < part.depthMm := by decide +kernel

theorem ids : (parts.map (·.partId)).Nodup := by decide

example : parts.length = 3 := by decide +kernel

theorem ordered : orderedParts localeCompare parts = parts :=
  List.mergeSort_of_pairwise (by decide +kernel)

theorem last_sheet : ((runAll (nestPart stock) {} parts).placements.map (·.sheet)) = [1, 2] := by
  decide +kernel

end OneSheet

end Custombuild.Web
