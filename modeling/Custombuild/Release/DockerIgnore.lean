/-
  The ignore rules of the source manifest, and the reading of the same rules that Docker documents.
  Source: `scripts/source_manifest.py`, `DockerIgnore`.

  A path is the list of its segments.  `fnmatch.fnmatchcase` follows its documentation.
-/
import Mathlib.Data.List.Infix
import Custombuild.Lib.Checked
import Custombuild.Manufacturing.Model

namespace Custombuild.Release

open Custombuild.Lib
open Custombuild.Manufacturing (isSpaceChar)

abbrev Segment := List Char
abbrev Path := List Segment

/-! ## `fnmatchcase` -/

/-- A token of a pattern for one segment; a set holds the ranges of its class. -/
inductive Glob
  | star
  | any
  | one (c : Char)
  | set (negated : Bool) (ranges : List (Char × Char))
deriving DecidableEq

/-- The body of a class after its bracket, and what follows the class: a bracket that closes it
    stands neither first nor after a leading exclamation mark. -/
def classBody (text : List Char) : Option (Bool × List Char × List Char) :=
  let negated := text.head? = some '!'
  let body := if negated then text.tail else text
  let first := body.take 1
  let after := body.drop 1
  match after.span (fun c => c ≠ ']') with
  | (_, []) => none
  | (inside, _ :: rest) => some (negated, first ++ inside, rest)

/-- The ranges of a class body; a character alone is a range of itself. -/
def classRanges : List Char → List (Char × Char)
  | low :: '-' :: high :: rest => (low, high) :: classRanges rest
  | c :: rest => (c, c) :: classRanges rest
  | [] => []

/-- The tokens of a pattern; the fuel is its length. -/
def globTokens : Nat → List Char → List Glob
  | 0, _ => []
  | _, [] => []
  | fuel + 1, '*' :: rest => .star :: globTokens fuel rest
  | fuel + 1, '?' :: rest => .any :: globTokens fuel rest
  | fuel + 1, '[' :: rest =>
    match classBody rest with
    | some (negated, body, rest) => .set negated (classRanges body) :: globTokens fuel rest
    | none => .one '[' :: globTokens fuel rest
  | fuel + 1, c :: rest => .one c :: globTokens fuel rest

/-- Whether a token other than a star takes a character. -/
def Glob.takes (c : Char) : Glob → Bool
  | .star => false
  | .any => true
  | .one d => c = d
  | .set negated ranges => (ranges.any fun range => range.1 ≤ c && c ≤ range.2) != negated

def matchTokens : List Glob → List Char → Bool
  | [], name => name.isEmpty
  | .star :: tokens, name => name.tails.any (matchTokens tokens)
  | _ :: _, [] => false
  | token :: tokens, c :: name => token.takes c && matchTokens tokens name

def fnmatchcase (name pattern : List Char) : Bool :=
  matchTokens (globTokens pattern.length pattern) name

/-! ## Rules -/

structure IgnoreRule where
  pattern : List Char
  negated : Bool
  directoryOnly : Bool
  anchored : Bool
deriving DecidableEq

/-- `PurePosixPath(text).parts` of a text without a leading slash. -/
def pathParts (text : List Char) : Path :=
  (text.splitOnP (fun c => c = '/')).filter fun part => !part.isEmpty && part ≠ ['.']

def IgnoreRule.parts (rule : IgnoreRule) : Path := pathParts rule.pattern

/-- The characters at which `str.splitlines` ends a line. -/
def isLineBreak (c : Char) : Bool :=
  let n := c.toNat
  (10 ≤ n && n ≤ 13) || (28 ≤ n && n ≤ 30) || n == 0x85 || n == 0x2028 || n == 0x2029

def rstrip (line : List Char) : List Char := (line.reverse.dropWhile isSpaceChar).reverse

def stripSlashes (line : List Char) : List Char :=
  ((line.dropWhile (fun c => c = '/')).reverse.dropWhile (fun c => c = '/')).reverse

/-- The rule of a line, if it has one. -/
def readRule (rawLine : List Char) : Except String (Option IgnoreRule) := do
  let line := rstrip rawLine
  if line.isEmpty || line = ['.'] || line.head? = some '#' then return none
  let negated := decide (line.head? = some '!')
  let line := if negated || "\\!".toList.isPrefixOf line then line.tail else line
  let escapedComment := "\\#".toList.isPrefixOf line
  if !escapedComment && line.head? = some '#' then return none
  let line := if escapedComment then line.tail else line
  let line := line.map fun c => if c = '\\' then '/' else c
  let pattern := stripSlashes line
  if pattern.isEmpty then return none
  require (!(pathParts pattern).contains "..".toList)
    (".dockerignore pattern escapes the context: " ++ String.ofList rawLine)
  return some {
    pattern
    negated
    directoryOnly := line.getLast? = some '/'
    anchored := line.head? = some '/' }

/-- `DockerIgnore(source).rules`; an empty line has no rule, so a line break of two characters may
    end two lines. -/
def readRules (source : List Char) : Except String (List IgnoreRule) :=
  (collect readRule (source.splitOnP isLineBreak)).map fun rules => rules.filterMap id

def hasNegation (rules : List IgnoreRule) : Bool := rules.any IgnoreRule.negated

/-! ## Matching -/

/-- `_match_segments`: two stars take any number of segments. -/
def matchSegments : Path → Path → Bool
  | [], path => path.isEmpty
  | part :: pattern, path =>
    if part = "**".toList then path.tails.any (matchSegments pattern)
    else match path with
      | [] => false
      | name :: path => fnmatchcase name part && matchSegments pattern path

/-- The rule has no slash inside and none in front: it is matched with the last segment. -/
def IgnoreRule.isBasename (rule : IgnoreRule) : Bool :=
  !rule.pattern.contains '/' && !rule.anchored

/-- `_matches_rule` of a path that is a directory or not. -/
def matchesRule (candidate : Path × Bool) (rule : IgnoreRule) : Bool :=
  if rule.directoryOnly && !candidate.2 then false
  else if rule.isBasename then
    match candidate.1.getLast? with
    | some name => fnmatchcase name rule.pattern
    | none => false
  else matchSegments rule.parts candidate.1

/-- The path and its ancestors, from the first segment on; an ancestor is a directory. -/
def candidates (path : Path) (isDir : Bool) : List (Path × Bool) :=
  (List.range path.length).map fun n => (path.take (n + 1), decide (n + 1 < path.length) || isDir)

/-- The inner loop of `is_ignored`. -/
def ruleLoop (rules : List IgnoreRule) (candidate : Path × Bool) (ignored : Bool) : Bool :=
  rules.foldl (fun ignored rule =>
    if matchesRule candidate rule then !rule.negated else ignored) ignored

/-- `is_ignored` -/
def isIgnored (rules : List IgnoreRule) (path : Path) (isDir : Bool) : Bool :=
  (candidates path isDir).foldl (fun ignored candidate => ruleLoop rules candidate ignored) false

/-! ## What Docker documents -/

/-- A pattern is rooted at the context. -/
def IgnoreRule.rooted (rule : IgnoreRule) (path : Path) : Bool := matchSegments rule.parts path

/-- A pattern applies to a path when it matches the path or one of its ancestors. -/
def IgnoreRule.applies (rule : IgnoreRule) (path : Path) : Bool :=
  (candidates path false).any fun candidate => rule.rooted candidate.1

/-- The last pattern that applies decides. -/
def dockerIgnores (rules : List IgnoreRule) (path : Path) : Bool :=
  rules.foldl (fun ignored rule => if rule.applies path then !rule.negated else ignored) false

/-! ## The last match of a loop -/

section Loop

variable {α : Type} {matched verdict : α → Bool} {l : List α}

/-- A loop that keeps the verdict of every match ends with that of the last one. -/
theorem foldl_last_eq_true {start : Bool} :
    l.foldl (fun acc x => if matched x then verdict x else acc) start = true ↔
      (∃ before x after, l = before ++ x :: after ∧ matched x = true ∧ verdict x = true ∧
        ∀ y ∈ after, matched y = false) ∨ (start = true ∧ ∀ y ∈ l, matched y = false) := by
  induction l generalizing start with
  | nil => simp
  | cons head tail ih =>
    rw [List.foldl_cons, ih]
    constructor
    · rintro (⟨before, x, after, rfl, hmatched, hverdict, hafter⟩ | ⟨hstart, htail⟩)
      · exact .inl ⟨head :: before, x, after, rfl, hmatched, hverdict, hafter⟩
      · by_cases hhead : matched head = true
        · rw [if_pos hhead] at hstart
          exact .inl ⟨[], head, tail, rfl, hhead, hstart, htail⟩
        · rw [if_neg hhead] at hstart
          refine .inr ⟨hstart, fun y hy => ?_⟩
          rcases List.mem_cons.mp hy with rfl | hy
          · exact eq_false_of_ne_true hhead
          · exact htail y hy
    · rintro (⟨before, x, after, hsplit, hmatched, hverdict, hafter⟩ | ⟨hstart, hall⟩)
      · cases before with
        | nil =>
          obtain ⟨rfl, rfl⟩ := List.cons.inj hsplit
          exact .inr ⟨by rw [if_pos hmatched]; exact hverdict, hafter⟩
        | cons first before =>
          obtain ⟨rfl, rfl⟩ := List.cons.inj hsplit
          exact .inl ⟨before, x, after, rfl, hmatched, hverdict, hafter⟩
      · have hhead := hall head List.mem_cons_self
        refine .inr ⟨?_, fun y hy => hall y (List.mem_cons_of_mem _ hy)⟩
        rw [hhead, if_neg Bool.false_ne_true]
        exact hstart

/-- Once something matches, the loop forgets how it started. -/
theorem foldl_last_start {start : Bool} :
    l.foldl (fun acc x => if matched x then verdict x else acc) start =
      if l.any matched then l.foldl (fun acc x => if matched x then verdict x else acc) false
      else start := by
  induction l generalizing start with
  | nil => rfl
  | cons head tail ih =>
    simp only [List.foldl_cons, List.any_cons]
    by_cases hhead : matched head = true
    · simp only [hhead, if_true, Bool.true_or]
    · simp only [hhead, if_false, Bool.false_or, Bool.false_eq_true]
      exact ih

/-- Where something matches, something matches last. -/
theorem foldl_last_split (h : l.any matched = true) :
    ∃ before x after, l = before ++ x :: after ∧ matched x = true ∧
      ∀ y ∈ after, matched y = false := by
  induction l with
  | nil => cases h
  | cons head tail ih =>
    by_cases htail : tail.any matched = true
    · obtain ⟨before, x, after, rfl, hx, hafter⟩ := ih htail
      exact ⟨head :: before, x, after, rfl, hx, hafter⟩
    · have hnone : ∀ y ∈ tail, matched y = false := by
        simpa using htail
      rw [List.any_cons, eq_false_of_ne_true htail, Bool.or_false] at h
      exact ⟨[], head, tail, rfl, h, hnone⟩

/-- A match whose verdict holds, with no other verdict among the matches, decides. -/
theorem foldl_last_of_mem (hverdict : ∀ y ∈ l, matched y = true → verdict y = true) {x : α}
    (hx : x ∈ l) (hmatched : matched x = true) {start : Bool} :
    l.foldl (fun acc x => if matched x then verdict x else acc) start = true := by
  rw [foldl_last_start, if_pos (List.any_eq_true.mpr ⟨x, hx, hmatched⟩)]
  induction l with
  | nil => cases hx
  | cons head tail ih =>
    rw [List.foldl_cons, foldl_last_start]
    split
    · rename_i hany
      obtain ⟨y, hy, hmatchedY⟩ := List.any_eq_true.mp hany
      have htail : ∀ z ∈ tail, matched z = true → verdict z = true := fun z hz =>
        hverdict z (List.mem_cons_of_mem _ hz)
      rcases List.mem_cons.mp hx with rfl | hx
      · have hsplit := foldl_last_split hany
        obtain ⟨before, z, after, rfl, hz, hafter⟩ := hsplit
        exact foldl_last_eq_true.mpr (.inl ⟨before, z, after, rfl, hz,
          htail z (List.mem_append_right _ List.mem_cons_self) hz, hafter⟩)
      · exact ih htail hx
    · rename_i hany
      rcases List.mem_cons.mp hx with rfl | hx
      · rw [if_pos hmatched]
        exact hverdict _ List.mem_cons_self hmatched
      · exact absurd (List.any_eq_true.mpr ⟨x, hx, hmatched⟩) hany

end Loop

/-! ## The rule that decides -/

/-- A rule decides over a path: it matches a candidate, no later rule does, and no rule matches a
    longer candidate. -/
structure Decides (rules : List IgnoreRule) (path : Path) (isDir : Bool) (candidate : Path × Bool)
    (rule : IgnoreRule) (after : List IgnoreRule) : Prop where
  split : ∃ before, rules = before ++ rule :: after
  longer : ∃ shorter longer, candidates path isDir = shorter ++ candidate :: longer ∧
    ∀ other ∈ longer, rules.any (matchesRule other) = false
  matched : matchesRule candidate rule = true
  last : ∀ other ∈ after, matchesRule candidate other = false

variable {rules : List IgnoreRule} {path : Path} {isDir : Bool}

/-- A candidate decides where a rule matches it, whatever the shorter ones said. -/
theorem isIgnored_eq_foldl : isIgnored rules path isDir =
    (candidates path isDir).foldl (fun ignored candidate =>
      if rules.any (matchesRule candidate) then ruleLoop rules candidate false else ignored)
      false := by
  unfold isIgnored
  congr 1
  funext ignored candidate
  exact foldl_last_start

theorem isIgnored_iff : isIgnored rules path isDir = true ↔ ∃ candidate rule after,
    Decides rules path isDir candidate rule after ∧ rule.negated = false := by
  rw [isIgnored_eq_foldl, foldl_last_eq_true]
  constructor
  · rintro (⟨shorter, candidate, longer, hsplit, -, hverdict, hlonger⟩ | ⟨hfalse, -⟩)
    · rw [ruleLoop, foldl_last_eq_true] at hverdict
      rcases hverdict with ⟨before, rule, after, hrules, hmatched, hnegated, hafter⟩ | ⟨hfalse, -⟩
      · exact ⟨candidate, rule, after, ⟨⟨before, hrules⟩, ⟨shorter, longer, hsplit, hlonger⟩, hmatched,
          hafter⟩, by simpa using hnegated⟩
      · cases hfalse
    · cases hfalse
  · rintro ⟨candidate, rule, after, ⟨⟨before, hrules⟩, ⟨shorter, longer, hsplit, hlonger⟩, hmatched,
      hafter⟩, hnegated⟩
    have hmem : rule ∈ rules := by
      rw [hrules]
      exact List.mem_append_right _ List.mem_cons_self
    refine .inl ⟨shorter, candidate, longer, hsplit, List.any_eq_true.mpr ⟨rule, hmem, hmatched⟩, ?_,
      hlonger⟩
    rw [ruleLoop, foldl_last_eq_true]
    exact .inl ⟨before, rule, after, hrules, hmatched, by rw [hnegated]; rfl, hafter⟩

/-- A rule that matches a candidate is rooted there, or has no slash. -/
theorem rooted_of_matchesRule {candidate : Path × Bool} {rule : IgnoreRule}
    (h : matchesRule candidate rule = true) :
    rule.isBasename = true ∨ rule.rooted candidate.1 = true := by
  unfold matchesRule at h
  split at h
  · cases h
  · split at h
    · rename_i hbasename
      exact .inl hbasename
    · exact .inr h

/-- How the rules can exclude a path that Docker keeps: a pattern without a slash decides below the
    root, or a later negation of the file applies to the path and does not decide. -/
def Misread (path : Path) (candidate : Path × Bool) (rule : IgnoreRule) (after : List IgnoreRule) :
    Prop :=
  (rule.isBasename = true ∧ rule.rooted candidate.1 = false) ∨
    ∃ other ∈ after, other.negated = true ∧ other.applies path = true

/-- Docker excludes every path over which an exclusion decides in one of these ways. -/
def NotMisread (rules : List IgnoreRule) (path : Path) : Prop :=
  ∀ candidate rule after, Decides rules path false candidate rule after → rule.negated = false →
    Misread path candidate rule after → dockerIgnores rules path = true

/-- An exclusion that decides as Docker reads it excludes for Docker. -/
theorem dockerIgnores_of_decides {candidate : Path × Bool} {rule : IgnoreRule}
    {after : List IgnoreRule} (h : Decides rules path false candidate rule after)
    (hnegated : rule.negated = false) (hread : ¬ Misread path candidate rule after) :
    dockerIgnores rules path = true := by
  simp only [Misread, not_or, not_and, not_exists] at hread
  obtain ⟨hrooted, hafter⟩ := hread
  obtain ⟨⟨before, hrules⟩, ⟨shorter, longer, hsplit, -⟩, hmatched, -⟩ := h
  have hroot : rule.rooted candidate.1 = true := by
    rcases rooted_of_matchesRule hmatched with hbasename | hroot
    · exact Bool.not_eq_false _ ▸ hrooted hbasename
    · exact hroot
  have happlies : rule.applies path = true := by
    refine List.any_eq_true.mpr ⟨candidate, ?_, hroot⟩
    rw [hsplit]
    exact List.mem_append_right _ List.mem_cons_self
  rw [dockerIgnores, hrules, List.foldl_append]
  have hverdict : ∀ other ∈ rule :: after, other.applies path = true → (!other.negated) = true := by
    intro other hother happlies
    rcases List.mem_cons.mp hother with rfl | hother
    · rw [hnegated]
      rfl
    · rw [Bool.not_eq_true']
      exact eq_false_of_ne_true fun hneg => hafter other hother hneg happlies
  exact foldl_last_of_mem hverdict List.mem_cons_self happlies

/-- The rules keep what Docker keeps of a path exactly when the path is not misread. -/
theorem keeps_iff : (dockerIgnores rules path = false → isIgnored rules path false = false) ↔
    NotMisread rules path := by
  constructor
  · intro hkeeps candidate rule after hdecides hnegated _
    by_contra hdocker
    have hignored := isIgnored_iff.mpr ⟨candidate, rule, after, hdecides, hnegated⟩
    rw [hkeeps (eq_false_of_ne_true hdocker)] at hignored
    cases hignored
  · intro hread hdocker
    by_contra hignored
    obtain ⟨candidate, rule, after, hdecides, hnegated⟩ :=
      isIgnored_iff.mp (Bool.not_eq_false _ ▸ hignored)
    by_cases hmisread : Misread path candidate rule after
    · rw [hread candidate rule after hdecides hnegated hmisread] at hdocker
      cases hdocker
    · rw [dockerIgnores_of_decides hdecides hnegated hmisread] at hdocker
      cases hdocker

/-- Without negations one match is enough. -/
theorem isIgnored_of_match (hnegation : hasNegation rules = false) {candidate : Path × Bool}
    {rule : IgnoreRule} (hcandidate : candidate ∈ candidates path isDir) (hrule : rule ∈ rules)
    (hmatched : matchesRule candidate rule = true) : isIgnored rules path isDir = true := by
  have hpositive : ∀ other ∈ rules, other.negated = false := by
    intro other hother
    by_contra hneg
    have hany : hasNegation rules = true :=
      List.any_eq_true.mpr ⟨other, hother, Bool.not_eq_false _ ▸ hneg⟩
    rw [hany] at hnegation
    cases hnegation
  have hverdict : ∀ other, rules.any (matchesRule other) = true →
      ruleLoop rules other false = true := by
    intro other hany
    obtain ⟨found, hfound, hmatch⟩ := List.any_eq_true.mp hany
    refine foldl_last_of_mem (fun r hr _ => ?_) hfound hmatch
    rw [hpositive r hr]
    rfl
  rw [isIgnored_eq_foldl]
  exact foldl_last_of_mem (fun other _ hany => hverdict other hany) hcandidate
    (List.any_eq_true.mpr ⟨rule, hrule, hmatched⟩)

/-- Below a directory that is excluded everything is, when there is no negation. -/
theorem isIgnored_below (hnegation : hasNegation rules = false)
    (h : isIgnored rules path true = true) {below : Path} (hbelow : below ≠ []) :
    isIgnored rules (path ++ below) isDir = true := by
  obtain ⟨candidate, rule, after, ⟨⟨before, hrules⟩, ⟨shorter, longer, hsplit, -⟩, hmatched, -⟩, -⟩ :=
    isIgnored_iff.mp h
  have hrule : rule ∈ rules := by
    rw [hrules]
    exact List.mem_append_right _ List.mem_cons_self
  have hcandidate : candidate ∈ candidates path true := by
    rw [hsplit]
    exact List.mem_append_right _ List.mem_cons_self
  obtain ⟨n, hn, rfl⟩ := List.mem_map.mp hcandidate
  rw [List.mem_range] at hn
  have hlength := List.length_pos_of_ne_nil hbelow
  refine isIgnored_of_match hnegation (List.mem_map.mpr ⟨n, ?_, ?_⟩) hrule hmatched
  · rw [List.mem_range, List.length_append]
    omega
  · rw [List.take_append_of_le_length (by omega), List.length_append, Bool.or_true,
      decide_eq_true (by omega), Bool.true_or]

end Custombuild.Release
