/-
  The checks of the declared two-sided registrations before nesting.
  Source: `pipeline.py`, the first loop of `build_production_bundle`.  An error is the text of its
  `ProductionBlockedError`; the stock identities are unique when the loop is reached.
-/
import Custombuild.Manufacturing.Operations

namespace Custombuild.Manufacturing

open Custombuild.Lib

/-- One pin footprint on a stock. -/
def checkFootprint (stock : StockSheet) (footprint : Rect) : Except String Unit := do
  require (Rect.contains ⟨0, 0, stock.widthUm, stock.heightUm⟩ footprint)
    "two-sided registration pin footprint lies outside stock"
  require (!stock.defectZones.any fun zone => footprint.intersects zone 0)
    "two-sided registration pin footprint intersects a defect zone"
  require (!stock.clampZones.any fun zone => footprint.intersects zone 0)
    "two-sided registration pin footprint intersects a fixture keep-out"

/-- One registration of a sheet of a stock. -/
def checkSheetRegistration (stock : StockSheet) (entry : Int × TwoSidedRegistration) :
    Except String Unit := do
  require (0 ≤ entry.1 && entry.1 < stock.quantity)
    "two-sided registration sheet identity is invalid"
  forEach (checkFootprint stock) (registrationPinKeepOutRectangles entry.2)

/-- The registrations by stock and by sheet. -/
def checkTwoSidedRegistrations (stocks : List StockSheet)
    (registrations : List (String × List (Int × TwoSidedRegistration))) : Except String Unit :=
  forEach (fun entry : String × List (Int × TwoSidedRegistration) => do
    let stock ← demand (stocks.find? fun stock => stock.stockId = entry.1)
      "two-sided registration references unknown stock"
    forEach (checkSheetRegistration stock) entry.2) registrations

theorem checkFootprint_eq_ok {stock : StockSheet} {footprint : Rect} {u : Unit} :
    checkFootprint stock footprint = .ok u ↔
      Rect.contains ⟨0, 0, stock.widthUm, stock.heightUm⟩ footprint = true ∧
        ∀ zone ∈ stock.defectZones ++ stock.clampZones, footprint.intersects zone 0 = false := by
  simp only [checkFootprint, bind_eq_ok, require_eq_ok, exists_const, Bool.not_eq_true',
    List.any_eq_false, Bool.not_eq_true, List.forall_mem_append]

theorem checkTwoSidedRegistrations_eq_ok {stocks : List StockSheet}
    {registrations : List (String × List (Int × TwoSidedRegistration))} {u : Unit} :
    checkTwoSidedRegistrations stocks registrations = .ok u ↔ ∀ entry ∈ registrations,
      ∃ stock, stocks.find? (fun stock => stock.stockId = entry.1) = some stock ∧
        ∀ sheet ∈ entry.2, (0 ≤ sheet.1 ∧ sheet.1 < stock.quantity) ∧
          ∀ footprint ∈ registrationPinKeepOutRectangles sheet.2,
            checkFootprint stock footprint = .ok () := by
  simp only [checkTwoSidedRegistrations, checkSheetRegistration, forEach_eq_ok, bind_eq_ok,
    demand_eq_ok, require_eq_ok, exists_const, Bool.and_eq_true, decide_eq_true_eq]

/-- The stock of an identity that no other one has. -/
theorem find_stock {stocks : List StockSheet} {stock : StockSheet} (h : stock ∈ stocks)
    (hids : (stocks.map StockSheet.stockId).Nodup) :
    stocks.find? (fun other => other.stockId = stock.stockId) = some stock := by
  cases hfound : stocks.find? fun other => other.stockId = stock.stockId with
  | none =>
    exact absurd (List.find?_eq_none.mp hfound stock h) (by simp)
  | some other =>
    have hother := List.find?_some hfound
    rw [decide_eq_true_eq] at hother
    rw [List.inj_on_of_nodup_map hids (List.mem_of_find?_eq_some hfound) h hother]

end Custombuild.Manufacturing
