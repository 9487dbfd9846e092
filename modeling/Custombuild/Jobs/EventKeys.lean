/-
  The texts of event keys.  A key is a tag, a colon and its fields, and neither tags nor UUIDs
  contain a colon, so that two keys with one text are the same key.
-/
import Custombuild.Jobs.Model
import Custombuild.Lib.Names

namespace Custombuild.Jobs

open Custombuild.Lib

theorem uuid_eq_of_toList {u v : Uuid} (h : u.text.toList = v.text.toList) : u = v := by
  obtain ⟨text, _⟩ := u
  obtain ⟨text', _⟩ := v
  obtain rfl : text = text' := String.toList_inj.mp h
  rfl

namespace EventKey

/-- The text before the first colon. -/
def tag : EventKey → String
  | requested _ => "generation"
  | manualRetry _ => "generation-manual-retry"
  | evidenceRepair _ _ => "generation-evidence-repair"
  | retry _ _ => "generation-retry"
  | recovery _ _ => "generation-recovery"
  | deliveryWatchdog _ => "generation-delivery-watchdog"

def fields : EventKey → List Char
  | requested job => job.text.toList
  | manualRetry nonce => nonce.text.toList
  | evidenceRepair job nonce => job.text.toList ++ ':' :: nonce.text.toList
  | retry job attempts => job.text.toList ++ ':' :: (toString attempts).toList
  | recovery job attempts => job.text.toList ++ ':' :: (toString attempts).toList
  | deliveryWatchdog job => job.text.toList

theorem toList_text (key : EventKey) : key.text.toList = key.tag.toList ++ ':' :: key.fields := by
  have hcolon : ":".toList = [':'] := String.toList_ofList
  have hsplit : ∀ tag rest : String, (tag ++ ":" ++ rest).toList =
      tag.toList ++ ':' :: rest.toList := by
    intro tag rest
    rw [String.toList_append, String.toList_append, hcolon, List.append_assoc,
      List.singleton_append]
  cases key with
  | requested job =>
    have htag : "generation:" = "generation" ++ ":" := by decide +kernel
    show ("generation:" ++ job.text).toList = _
    rw [htag, hsplit]
    rfl
  | manualRetry nonce =>
    have htag : "generation-manual-retry:" = "generation-manual-retry" ++ ":" := by
      decide +kernel
    show ("generation-manual-retry:" ++ nonce.text).toList = _
    rw [htag, hsplit]
    rfl
  | evidenceRepair job nonce =>
    have htag : "generation-evidence-repair:" = "generation-evidence-repair" ++ ":" := by
      decide +kernel
    show ("generation-evidence-repair:" ++ job.text ++ ":" ++ nonce.text).toList = _
    rw [htag, String.append_assoc, String.append_assoc, hsplit, ← String.append_assoc,
      hsplit]
    rfl
  | retry job attempts =>
    have htag : "generation-retry:" = "generation-retry" ++ ":" := by decide +kernel
    show ("generation-retry:" ++ job.text ++ ":" ++ toString attempts).toList = _
    rw [htag, String.append_assoc, String.append_assoc, hsplit, ← String.append_assoc,
      hsplit]
    rfl
  | recovery job attempts =>
    have htag : "generation-recovery:" = "generation-recovery" ++ ":" := by decide +kernel
    show ("generation-recovery:" ++ job.text ++ ":" ++ toString attempts).toList = _
    rw [htag, String.append_assoc, String.append_assoc, hsplit, ← String.append_assoc,
      hsplit]
    rfl
  | deliveryWatchdog job =>
    have htag : "generation-delivery-watchdog:" = "generation-delivery-watchdog" ++ ":" := by
      decide +kernel
    show ("generation-delivery-watchdog:" ++ job.text).toList = _
    rw [htag, hsplit]
    rfl

theorem colon_notMem_tag (key : EventKey) : ':' ∉ key.tag.toList := by
  cases key <;> (rw [tag]; decide +kernel)

def tagLength : EventKey → Nat
  | requested _ => 10
  | manualRetry _ => 23
  | evidenceRepair _ _ => 26
  | retry _ _ => 16
  | recovery _ _ => 19
  | deliveryWatchdog _ => 28

/-- The tags differ in length. -/
theorem length_tag (key : EventKey) : key.tag.toList.length = key.tagLength := by
  cases key <;> (rw [tag, tagLength]; decide +kernel)

/-- Two keys with one text are the same key. -/
theorem text_inj {key key' : EventKey} (h : key.text = key'.text) : key = key' := by
  have hlist : key.tag.toList ++ ':' :: key.fields = key'.tag.toList ++ ':' :: key'.fields := by
    rw [← toList_text, ← toList_text, h]
  obtain ⟨htag, hfields⟩ := append_cons_inj (colon_notMem_tag key) (colon_notMem_tag key') hlist
  have hlength : key.tagLength = key'.tagLength := by rw [← length_tag, ← length_tag, htag]
  cases key <;> cases key' <;>
    first | (simp [tagLength] at hlength; done) | skip
  case requested.requested job job' => rw [uuid_eq_of_toList hfields]
  case manualRetry.manualRetry nonce nonce' => rw [uuid_eq_of_toList hfields]
  case evidenceRepair.evidenceRepair job nonce job' nonce' =>
    obtain ⟨hjob, hnonce⟩ := append_cons_inj job.colon_notMem job'.colon_notMem hfields
    rw [uuid_eq_of_toList hjob, uuid_eq_of_toList hnonce]
  case retry.retry job attempts job' attempts' =>
    obtain ⟨hjob, hattempts⟩ := append_cons_inj job.colon_notMem job'.colon_notMem hfields
    rw [uuid_eq_of_toList hjob, natText_inj hattempts]
  case recovery.recovery job attempts job' attempts' =>
    obtain ⟨hjob, hattempts⟩ := append_cons_inj job.colon_notMem job'.colon_notMem hfields
    rw [uuid_eq_of_toList hjob, natText_inj hattempts]
  case deliveryWatchdog.deliveryWatchdog job job' => rw [uuid_eq_of_toList hfields]

end EventKey

end Custombuild.Jobs
