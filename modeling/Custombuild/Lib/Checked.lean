/-
  Computations that may raise: `Except`, with a check, a loop that only checks and a loop
  that collects results.  Each has one lemma saying exactly when it returns, so that a
  proof about a run that returned never unfolds the loop.
-/
import Mathlib.Data.List.Nodup

namespace Custombuild.Lib

variable {ε α β : Type}

/-- A sequence of two computations returns exactly when both do. -/
theorem bind_eq_ok {first : Except ε α} {next : α → Except ε β} {result : β} :
    (first >>= next) = .ok result ↔ ∃ a, first = .ok a ∧ next a = .ok result := by
  cases first <;> simp [bind, Except.bind]

/-- A renamed error returns exactly what was returned. -/
theorem mapError_eq_ok {ε' : Type} {first : Except ε α} {rename : ε → ε'} {result : α} :
    first.mapError rename = .ok result ↔ first = .ok result := by
  cases first <;> simp [Except.mapError]

theorem exists_eq_ok {x : Except ε α} (h : x.isOk = true) : ∃ a, x = .ok a := by
  cases x with
  | error e => simp [Except.isOk, Except.toBool] at h
  | ok a => exact ⟨a, rfl⟩

/-- The computation returns a value with a property that can be evaluated. -/
def okAnd (x : Except ε α) (p : α → Bool) : Bool :=
  match x with
  | .ok a => p a
  | .error _ => false

theorem exists_of_okAnd {x : Except ε α} {p : α → Bool} (h : okAnd x p = true) :
    ∃ a, x = .ok a ∧ p a = true := by
  cases x with
  | error e => cases h
  | ok a => exact ⟨a, rfl, h⟩

/-- Raise `err` unless the condition holds. -/
def require (cond : Bool) (err : ε) : Except ε Unit :=
  if cond then .ok () else .error err

@[simp] theorem require_eq_ok {cond : Bool} {err : ε} {u : Unit} :
    require cond err = .ok u ↔ cond = true := by
  unfold require
  split <;> simp_all

/-- Unwrap an optional value, raising `err` when it is missing. -/
def demand (value : Option α) (err : ε) : Except ε α :=
  match value with
  | some a => .ok a
  | none => .error err

@[simp] theorem demand_eq_ok {value : Option α} {err : ε} {a : α} :
    demand value err = .ok a ↔ value = some a := by
  cases value <;> simp [demand]

/-- Run a check on every element in order; the first failure is raised. -/
def forEach (f : α → Except ε Unit) : List α → Except ε Unit
  | [] => .ok ()
  | a :: l => f a >>= fun _ => forEach f l

theorem forEach_eq_ok {f : α → Except ε Unit} {l : List α} {u : Unit} :
    forEach f l = .ok u ↔ ∀ a ∈ l, f a = .ok () := by
  induction l with
  | nil => simp [forEach]
  | cons a l ih =>
    simp only [forEach, bind_eq_ok, ih, List.forall_mem_cons]
    constructor
    · rintro ⟨⟨⟩, ha, hl⟩
      exact ⟨ha, hl⟩
    · rintro ⟨ha, hl⟩
      exact ⟨(), ha, hl⟩

/-- Collect the results of `f` in order; the first failure is raised. -/
def collect (f : α → Except ε β) : List α → Except ε (List β)
  | [] => .ok []
  | a :: l => f a >>= fun b => collect f l >>= fun bs => .ok (b :: bs)

theorem collect_eq_ok {f : α → Except ε β} {l : List α} {bs : List β} :
    collect f l = .ok bs ↔ List.Forall₂ (fun a b => f a = .ok b) l bs := by
  induction l generalizing bs with
  | nil => cases bs <;> simp [collect]
  | cons a l ih =>
    cases bs with
    | nil => simp [collect, bind_eq_ok]
    | cons b bs => simp [collect, bind_eq_ok, ih]

/-- When every result is given by a total function, so is the whole collection. -/
theorem collect_eq_map {f : α → Except ε β} {g : α → β} (hf : ∀ a b, f a = .ok b → b = g a)
    {l : List α} {bs : List β} (h : collect f l = .ok bs) : bs = l.map g := by
  induction l generalizing bs with
  | nil => simp_all [collect]
  | cons a l ih =>
    simp only [collect, bind_eq_ok, Except.ok.injEq] at h
    obtain ⟨b, hb, bs', hbs', rfl⟩ := h
    rw [List.map_cons, hf a b hb, ih hbs']

theorem collect_length {f : α → Except ε β} {l : List α} {bs : List β}
    (h : collect f l = .ok bs) : bs.length = l.length :=
  (collect_eq_ok.mp h).length_eq.symm

/-- Every collected result comes from an element, in particular from a member. -/
theorem mem_of_collect {f : α → Except ε β} {l : List α} {bs : List β}
    (h : collect f l = .ok bs) {b : β} (hb : b ∈ bs) : ∃ a ∈ l, f a = .ok b := by
  induction l generalizing bs with
  | nil => simp_all [collect]
  | cons a l ih =>
    simp only [collect, bind_eq_ok, Except.ok.injEq] at h
    obtain ⟨b', hb', bs', hbs', rfl⟩ := h
    rcases List.mem_cons.mp hb with rfl | hb
    · exact ⟨a, by simp, hb'⟩
    · obtain ⟨a', ha', hf⟩ := ih hbs' hb
      exact ⟨a', by simp [ha'], hf⟩

/-- Every element of the input has a collected result. -/
theorem collect_mem {f : α → Except ε β} {l : List α} {bs : List β}
    (h : collect f l = .ok bs) {a : α} (ha : a ∈ l) : ∃ b ∈ bs, f a = .ok b := by
  induction l generalizing bs with
  | nil => simp at ha
  | cons a' l ih =>
    simp only [collect, bind_eq_ok, Except.ok.injEq] at h
    obtain ⟨b', hb', bs', hbs', rfl⟩ := h
    rcases List.mem_cons.mp ha with rfl | ha
    · exact ⟨b', by simp, hb'⟩
    · obtain ⟨b, hb, hf⟩ := ih hbs' ha
      exact ⟨b, by simp [hb], hf⟩

/-- A column of the collected results, read off the elements. -/
theorem map_of_collect {γ : Type} {f : α → Except ε β} {g : β → γ} {h : α → γ} {l : List α}
    {bs : List β} (hbs : collect f l = .ok bs) (hf : ∀ a ∈ l, ∀ b, f a = .ok b → g b = h a) :
    bs.map g = l.map h := by
  induction l generalizing bs with
  | nil =>
    cases hbs
    rfl
  | cons a l ih =>
    simp only [collect, bind_eq_ok, Except.ok.injEq] at hbs
    obtain ⟨b, hb, bs', hbs', rfl⟩ := hbs
    rw [List.map_cons, List.map_cons, hf a List.mem_cons_self b hb,
      ih hbs' fun a' ha' => hf a' (List.mem_cons_of_mem _ ha')]

/-- A collection returns when every element does. -/
theorem exists_collect {f : α → Except ε β} {l : List α} (h : ∀ a ∈ l, ∃ b, f a = .ok b) :
    ∃ bs, collect f l = .ok bs := by
  induction l with
  | nil => exact ⟨[], rfl⟩
  | cons a l ih =>
    obtain ⟨b, hb⟩ := h a List.mem_cons_self
    obtain ⟨bs, hbs⟩ := ih fun a' ha' => h a' (List.mem_cons_of_mem _ ha')
    refine ⟨b :: bs, ?_⟩
    rw [collect, hb]
    simp [bind, Except.bind, hbs]

/-- A loop with a state that may raise: what every turn keeps holds at its end. -/
theorem foldlM_keeps {σ : Type} {f : σ → α → Except ε σ} {I : σ → Prop} {l : List α} {s r : σ}
    (h : l.foldlM f s = .ok r) (hs : I s)
    (hstep : ∀ s s', ∀ a ∈ l, f s a = .ok s' → I s → I s') : I r := by
  induction l generalizing s with
  | nil =>
    cases h
    exact hs
  | cons a l ih =>
    rw [List.foldlM_cons, bind_eq_ok] at h
    obtain ⟨s', hfirst, hrest⟩ := h
    exact ih hrest (hstep s s' a List.mem_cons_self hfirst hs) fun t t' b hb =>
      hstep t t' b (List.mem_cons_of_mem _ hb)

/-- Every element had its turn, under the invariant, and what its turn leads to is still there
    at the end. -/
theorem foldlM_turn {σ : Type} {f : σ → α → Except ε σ} {I : σ → Prop} {Q : α → σ → Prop}
    {l : List α} {s r : σ} (h : l.foldlM f s = .ok r) (hs : I s)
    (hstep : ∀ s s', ∀ a ∈ l, f s a = .ok s' → I s → I s' ∧ Q a s')
    (hkeep : ∀ s s', ∀ a ∈ l, f s a = .ok s' → I s → ∀ b, Q b s → Q b s') {a : α} (ha : a ∈ l) :
    Q a r := by
  induction l generalizing s with
  | nil => cases ha
  | cons b l ih =>
    rw [List.foldlM_cons, bind_eq_ok] at h
    obtain ⟨s', hfirst, hrest⟩ := h
    obtain ⟨hs', hQ⟩ := hstep s s' b List.mem_cons_self hfirst hs
    rcases List.mem_cons.mp ha with rfl | ha
    · have hboth : I r ∧ Q a r := foldlM_keeps (I := fun t => I t ∧ Q a t) hrest ⟨hs', hQ⟩
        fun t t' c hc hturn ht => ⟨(hstep t t' c (List.mem_cons_of_mem _ hc) hturn ht.1).1,
          hkeep t t' c (List.mem_cons_of_mem _ hc) hturn ht.1 a ht.2⟩
      exact hboth.2
    · exact ih hrest hs' (fun t t' c hc => hstep t t' c (List.mem_cons_of_mem _ hc))
        (fun t t' c hc => hkeep t t' c (List.mem_cons_of_mem _ hc)) ha

/-- A loop whose turns return whatever those of another do returns what the other does. -/
theorem foldlM_mono {σ : Type} {f g : σ → α → Except ε σ}
    (hturn : ∀ s a s', f s a = .ok s' → g s a = .ok s') {l : List α} {s r : σ}
    (h : l.foldlM f s = .ok r) : l.foldlM g s = .ok r := by
  induction l generalizing s with
  | nil => exact h
  | cons a l ih =>
    rw [List.foldlM_cons, bind_eq_ok] at h ⊢
    obtain ⟨s', hfirst, hrest⟩ := h
    exact ⟨s', hturn s a s' hfirst, ih hrest⟩

/-- Every key of a successful lookup of many keys was found. -/
theorem exists_of_mapM {f : α → Option β} {l : List α} {bs : List β} (h : l.mapM f = some bs)
    {a : α} (ha : a ∈ l) : ∃ b ∈ bs, f a = some b := by
  induction l generalizing bs with
  | nil => cases ha
  | cons a' l ih =>
    rw [List.mapM_cons] at h
    simp only [Option.bind_eq_bind, Option.bind_eq_some_iff, Option.pure_def,
      Option.some.injEq] at h
    obtain ⟨b', hb', bs', hbs', rfl⟩ := h
    rcases List.mem_cons.mp ha with rfl | ha
    · exact ⟨b', by simp, hb'⟩
    · obtain ⟨b, hb, hf⟩ := ih hbs' ha
      exact ⟨b, by simp [hb], hf⟩

/-- A lookup by a key that no two elements share finds the element itself. -/
theorem find_of_nodup {κ : Type} {key : α → κ} {l : List α} {a : α} {p : α → Bool}
    (hnodup : (l.map key).Nodup) (ha : a ∈ l) (hp : ∀ b, p b = true ↔ key b = key a) :
    l.find? p = some a := by
  cases hf : l.find? p with
  | none => exact absurd ((hp a).mpr rfl) (List.find?_eq_none.mp hf a ha)
  | some b =>
    have hkey : key b = key a := (hp b).mp (List.find?_some hf)
    rw [List.inj_on_of_nodup_map hnodup (List.mem_of_find?_eq_some hf) ha hkey]

end Custombuild.Lib
