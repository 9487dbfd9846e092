/-
  Dictionaries: lists of entries no two of which share a key, in the order in which the keys
  came.  What a dictionary holds is read through `get`; two dictionaries with the same keys
  have the same size.
-/
import Mathlib.Data.List.Nodup
import Mathlib.Data.List.Perm.Subperm

namespace Custombuild.Lib

structure Dict (κ ν : Type) where
  entries : List (κ × ν)
  unique : (entries.map Prod.fst).Nodup

namespace Dict

variable {κ ν : Type}

def empty : Dict κ ν := ⟨[], List.nodup_nil⟩

def keys (d : Dict κ ν) : List κ := d.entries.map Prod.fst

def size (d : Dict κ ν) : Nat := d.entries.length

/-- The entries that meet a condition. -/
def filter (p : κ → ν → Bool) (d : Dict κ ν) : Dict κ ν :=
  ⟨d.entries.filter fun entry => p entry.1 entry.2, d.unique.sublist (List.filter_sublist.map _)⟩

section Decidable

variable [DecidableEq κ]

def get (d : Dict κ ν) (k : κ) : Option ν :=
  (d.entries.find? fun entry => entry.1 == k).map Prod.snd

/-- Without the entry of a key. -/
def pop (d : Dict κ ν) (k : κ) : Dict κ ν := d.filter fun k' _ => k' != k

/-- A new entry comes last; an old one is replaced where it stands. -/
def set (d : Dict κ ν) (k : κ) (v : ν) : Dict κ ν where
  entries := if (d.get k).isSome then
      d.entries.map fun entry => if entry.1 == k then (k, v) else entry
    else d.entries ++ [(k, v)]
  unique := by
    split
    · have hkeys : (d.entries.map fun entry => if entry.1 == k then (k, v) else entry).map Prod.fst =
          d.entries.map Prod.fst := by
        rw [List.map_map]
        refine List.map_congr_left fun entry _ => ?_
        simp only [Function.comp_apply]
        split
        · rename_i hkey
          exact (beq_iff_eq.mp hkey).symm
        · rfl
      rw [hkeys]
      exact d.unique
    · rename_i hnone
      rw [List.map_append, List.nodup_append]
      refine ⟨d.unique, by simp, ?_⟩
      intro key hkey key' hkey' heq
      obtain ⟨entry, hentry, rfl⟩ := List.mem_map.mp hkey
      obtain rfl : key' = k := by simpa using hkey'
      have hfound : ¬(d.entries.find? fun e => e.1 == entry.1).isSome := by
        rw [heq]
        simpa [get] using hnone
      exact hfound (List.find?_isSome.mpr ⟨entry, hentry, by simp⟩)

variable {d : Dict κ ν} {k k' : κ} {v : ν}

theorem get_eq_some : d.get k = some v ↔ (k, v) ∈ d.entries := by
  unfold get
  constructor
  · intro h
    obtain ⟨entry, hfound, rfl⟩ := Option.map_eq_some_iff.mp h
    have hkey : entry.1 = k := by simpa using List.find?_some hfound
    rw [← hkey]
    exact List.mem_of_find?_eq_some hfound
  · intro h
    cases hfound : d.entries.find? fun entry => entry.1 == k with
    | none => simpa using List.find?_eq_none.mp hfound _ h
    | some entry =>
      have hkey : entry.1 = k := by simpa using List.find?_some hfound
      have hsame := List.inj_on_of_nodup_map d.unique (List.mem_of_find?_eq_some hfound) h hkey
      rw [hsame]
      rfl

theorem mem_keys : k ∈ d.keys ↔ ∃ v, d.get k = some v := by
  simp [keys, get_eq_some]

@[simp] theorem get_empty : (empty : Dict κ ν).get k = none := rfl

theorem get_filter {p : κ → ν → Bool} : (d.filter p).get k = (d.get k).filter (p k) := by
  ext v
  rw [Option.filter_eq_some_iff, get_eq_some, get_eq_some, filter, List.mem_filter]

theorem get_pop : (d.pop k).get k' = if k' = k then none else d.get k' := by
  unfold pop
  rw [get_filter]
  by_cases hkey : k' = k
  · rw [if_pos hkey, Option.filter_eq_none_iff]
    simp [hkey]
  · rw [if_neg hkey]
    cases d.get k' with
    | none => rfl
    | some v => simp [hkey]

theorem get_set : (d.set k v).get k' = if k' = k then some v else d.get k' := by
  ext w
  rw [get_eq_some]
  unfold set
  simp only
  split
  · rename_i hsome
    obtain ⟨old, hold⟩ := Option.isSome_iff_exists.mp hsome
    rw [List.mem_map]
    by_cases hkey : k' = k
    · subst hkey
      rw [if_pos rfl]
      constructor
      · rintro ⟨entry, hentry, heq⟩
        by_cases hentryKey : entry.1 = k'
        · simp only [hentryKey, beq_self_eq_true, if_true, Prod.mk.injEq] at heq
          rw [heq.2]
        · rw [if_neg (by simpa using hentryKey)] at heq
          exact absurd (congrArg Prod.fst heq) hentryKey
      · intro hw
        cases hw
        exact ⟨(k', old), get_eq_some.mp hold, by simp⟩
    · rw [if_neg hkey, get_eq_some]
      constructor
      · rintro ⟨entry, hentry, heq⟩
        by_cases hentryKey : entry.1 = k
        · rw [if_pos (by simpa using hentryKey)] at heq
          exact absurd (congrArg Prod.fst heq).symm hkey
        · rw [if_neg (by simpa using hentryKey)] at heq
          rwa [← heq]
      · intro hmem
        exact ⟨(k', w), hmem, by simp [hkey]⟩
  · rename_i hnone
    have habsent : d.get k = none := by simpa using hnone
    rw [List.mem_append, List.mem_singleton, Prod.mk.injEq, ← get_eq_some]
    by_cases hkey : k' = k
    · subst hkey
      simp [habsent, eq_comm]
    · simp [hkey]

/-- `setdefault`: the first value of a key stays. -/
def setDefault (d : Dict κ ν) (k : κ) (v : ν) : Dict κ ν :=
  if (d.get k).isSome then d else d.set k v

theorem get_setDefault_of_some (h : d.get k = some v) {w : ν} :
    (d.setDefault k' w).get k = some v := by
  unfold setDefault
  split
  · exact h
  · next hnone =>
    rw [get_set]
    split
    · next hkey =>
      rw [← hkey, h] at hnone
      exact absurd rfl hnone
    · exact h

/-! ## Sizes -/

theorem size_le_of_keys {ν' : Type} {d' : Dict κ ν'}
    (h : ∀ k v, d.get k = some v → ∃ v', d'.get k = some v') : d.size ≤ d'.size := by
  have hsubset : d.keys ⊆ d'.keys := by
    intro k hk
    obtain ⟨v, hv⟩ := mem_keys.mp hk
    exact mem_keys.mpr (h k v hv)
  simpa [keys, size] using (List.subperm_of_subset d.unique hsubset).length_le

theorem size_set_le : (d.set k v).size ≤ d.size + 1 := by
  unfold set size
  simp only
  split
  · simp
  · simp

end Decidable

end Dict

end Custombuild.Lib
