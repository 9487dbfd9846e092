/-
  Regular expressions as a matcher that lists what may be left of the text, with the anchors of
  the two dialects: one in which the end anchor also stands before a final line feed, and one in
  which it does not.  On an expression anchored on both sides, matching the whole text in the
  first dialect and finding a match in the second are the same.
-/
import Mathlib.Data.List.Infix

namespace Custombuild.Lib

inductive Regex where
  /-- One character of a class, given by its ranges. -/
  | chars (ranges : List (Char × Char))
  | seq (first second : Regex)
  | alt (left right : Regex)
  /-- Between `least` and `most` times; without an upper bound when `most` is `none`. -/
  | repeated (body : Regex) (least : Nat) (most : Option Nat)
  /-- `^` -/
  | textStart
  /-- `$` -/
  | textEnd

namespace Regex

/-- The class of the ranges contains the character. -/
def inRanges (ranges : List (Char × Char)) (c : Char) : Bool :=
  ranges.any fun range => range.1 ≤ c && c ≤ range.2

/-- One character after the other. -/
def literal : List Char → Regex
  | [] => .repeated (.chars []) 0 (some 0)
  | [c] => .chars [(c, c)]
  | c :: cs => .seq (.chars [(c, c)]) (literal cs)

/-- What may be left of the text after `count` matches of `rests`. -/
def iterate (rests : List Char → List (List Char)) : Nat → List Char → List (List Char)
  | 0, cs => [cs]
  | count + 1, cs => (rests cs).flatMap (iterate rests count)

/-- What may be left of a text of which `cs` is still to be read.  `whole` is the length of the
    text, and `atEnd` says where the end anchor stands.  Without an upper bound a repetition is
    tried once for every character left beyond its least number. -/
def rests (atEnd : List Char → Bool) (whole : Nat) : Regex → List Char → List (List Char)
  | chars _, [] => []
  | chars ranges, c :: cs => if inRanges ranges c then [cs] else []
  | seq first second, cs => (rests atEnd whole first cs).flatMap (rests atEnd whole second)
  | alt left right, cs => rests atEnd whole left cs ++ rests atEnd whole right cs
  | repeated body least most, cs =>
    (List.range' least (most.getD (least + cs.length) + 1 - least)).flatMap fun count =>
      iterate (rests atEnd whole body) count cs
  | textStart, cs => if cs.length = whole then [cs] else []
  | textEnd, cs => if atEnd cs then [cs] else []

/-- The end anchor of Python: at the end, and before a line feed that ends the text. -/
def endsOrLineFeed (cs : List Char) : Bool := cs.isEmpty || cs == ['\n']

/-- `re.fullmatch` -/
def fullmatch (r : Regex) (text : String) : Bool :=
  (rests endsOrLineFeed text.toList.length r text.toList).any List.isEmpty

/-- A match anywhere in the text, the end anchor only at its end. -/
def search (r : Regex) (text : String) : Bool :=
  text.toList.tails.any fun cs => !(rests List.isEmpty text.toList.length r cs).isEmpty

/-- Neither anchor occurs. -/
def anchorFree : Regex → Bool
  | chars _ => true
  | seq first second => anchorFree first && anchorFree second
  | alt left right => anchorFree left && anchorFree right
  | repeated body _ _ => anchorFree body
  | textStart => false
  | textEnd => false

/-- `^body$` -/
def anchored (body : Regex) : Regex := .seq .textStart (.seq body .textEnd)

def isAnchored : Regex → Bool
  | seq textStart (seq body textEnd) => anchorFree body
  | _ => false

theorem exists_of_isAnchored {r : Regex} (h : isAnchored r = true) :
    ∃ body, anchorFree body = true ∧ r = anchored body := by
  unfold isAnchored at h
  split at h
  · exact ⟨_, h, rfl⟩
  · cases h

/-- Without anchors it does not matter where the text begins and ends. -/
theorem rests_of_anchorFree {r : Regex} (h : anchorFree r = true) (atEnd atEnd' : List Char → Bool)
    (whole whole' : Nat) : rests atEnd whole r = rests atEnd' whole' r := by
  induction r with
  | chars ranges =>
    funext cs
    cases cs <;> simp only [rests]
  | seq first second ihfirst ihsecond =>
    rw [anchorFree, Bool.and_eq_true] at h
    funext cs
    rw [rests, rests, ihfirst h.1, ihsecond h.2]
  | alt left right ihleft ihright =>
    rw [anchorFree, Bool.and_eq_true] at h
    funext cs
    rw [rests, rests, ihleft h.1, ihright h.2]
  | repeated body least most ih =>
    funext cs
    rw [rests, rests, ih h]
  | textStart => cases h
  | textEnd => cases h

/-- The whole text matches an anchored expression when its body can leave nothing. -/
theorem fullmatch_anchored {body : Regex} (h : anchorFree body = true) (text : String) :
    fullmatch (anchored body) text = true ↔
      [] ∈ rests List.isEmpty text.toList.length body text.toList := by
  simp only [fullmatch, anchored, rests, if_true, List.flatMap_cons, List.flatMap_nil,
    List.append_nil, List.any_eq_true, List.mem_flatMap, List.isEmpty_iff]
  rw [rests_of_anchorFree h endsOrLineFeed List.isEmpty _ text.toList.length]
  constructor
  · rintro ⟨rest, ⟨cs, hcs, hrest⟩, rfl⟩
    split at hrest
    · rwa [List.mem_singleton.mp hrest]
    · cases hrest
  · exact fun hnil => ⟨[], ⟨[], hnil, by simp [endsOrLineFeed]⟩, rfl⟩

theorem search_anchored (body : Regex) (text : String) :
    search (anchored body) text = true ↔
      [] ∈ rests List.isEmpty text.toList.length body text.toList := by
  simp only [search, anchored, rests, List.any_eq_true, List.mem_tails, Bool.not_eq_true',
    ← Bool.not_eq_true, List.isEmpty_iff]
  constructor
  · rintro ⟨cs, hsuffix, hmatch⟩
    by_cases hstart : cs.length = text.toList.length
    · obtain rfl := hsuffix.eq_of_length hstart
      rw [if_pos hstart, List.flatMap_cons, List.flatMap_nil, List.append_nil] at hmatch
      obtain ⟨rest, hrest⟩ := List.exists_mem_of_ne_nil _ hmatch
      obtain ⟨left, hleft, hend⟩ := List.mem_flatMap.mp hrest
      split at hend
      · rename_i hnil
        rwa [← hnil]
      · cases hend
    · simp [hstart] at hmatch
  · intro hnil
    refine ⟨text.toList, List.suffix_refl _, ?_⟩
    rw [if_pos rfl, List.flatMap_cons, List.flatMap_nil, List.append_nil]
    exact List.ne_nil_of_mem (List.mem_flatMap.mpr
      ⟨[], hnil, List.mem_singleton_self ([] : List Char)⟩)

theorem fullmatch_eq_search {r : Regex} (h : isAnchored r = true) (text : String) :
    fullmatch r text = search r text := by
  obtain ⟨body, hbody, rfl⟩ := exists_of_isAnchored h
  rw [Bool.eq_iff_iff, fullmatch_anchored hbody, search_anchored]

end Regex

end Custombuild.Lib
