import Mathlib.Data.List.Infix

/-!
# Reading a concatenation back

A text made of fields and separators, without any escaping, determines its fields only if
they keep clear of the separators.

Two cases are treated.  A field in front of a separator is determined if it does not contain
the separator, provided that the first letter of the separator does not recur in it
(`append_separator_inj`).  A list of assignments `key e value`, joined by a letter `c`, is
determined if no key contains either letter and no value has an `e` after a `c`
(`joined_inj`): a value may well contain `c`, since what follows it is then not read as an
assignment.
-/

namespace GrpcPhp.Lib

variable {α : Type*}

/-! ## One separator -/

/-- A field that does not contain the separator after it does not reach into it either. -/
theorem eq_nil_of_append_separator {c : α} {cs a r r' : List α} (hc : c ∉ cs)
    (h : c :: cs ++ r = a ++ (c :: cs ++ r')) (ha : ¬ c :: cs <:+: a) : a = [] := by
  cases a with
  | nil => rfl
  | cons x a =>
      obtain ⟨rfl, htail⟩ : c = x ∧ cs ++ r = a ++ (c :: cs ++ r') := by simpa using h
      rcases List.append_eq_append_iff.mp htail with ⟨b, rfl, -⟩ | ⟨b, rfl, hb⟩
      · exact absurd ⟨[], b, by simp⟩ ha
      · -- the separator starts again inside of itself
        cases b with
        | nil => exact absurd ⟨[], [], by simp⟩ ha
        | cons y b =>
            obtain ⟨rfl, -⟩ : c = y ∧ _ := by simpa using hb
            simp at hc

/-- The text in front of a separator, and the text after it. -/
theorem append_separator_inj {c : α} {cs t t' r r' : List α} (hc : c ∉ cs)
    (ht : ¬ c :: cs <:+: t) (ht' : ¬ c :: cs <:+: t')
    (h : t ++ (c :: cs ++ r) = t' ++ (c :: cs ++ r')) : t = t' ∧ r = r' := by
  rcases List.append_eq_append_iff.mp h with ⟨a, rfl, ha⟩ | ⟨a, rfl, ha⟩
  · obtain rfl := eq_nil_of_append_separator hc ha fun hin ↦
      ht' (hin.trans (List.suffix_append t a).isInfix)
    simpa using ha
  · obtain rfl := eq_nil_of_append_separator hc ha fun hin ↦
      ht (hin.trans (List.suffix_append t' a).isInfix)
    simpa [eq_comm] using ha

/-- The same for a single letter. -/
theorem append_letter_inj {c : α} {t t' r r' : List α} (ht : c ∉ t) (ht' : c ∉ t')
    (h : t ++ c :: r = t' ++ c :: r') : t = t' ∧ r = r' := by
  have hone : t ++ (c :: [] ++ r) = t' ++ (c :: [] ++ r') := h
  refine append_separator_inj List.not_mem_nil ?_ ?_ hone
  · exact fun hin ↦ ht (hin.subset List.mem_cons_self)
  · exact fun hin ↦ ht' (hin.subset List.mem_cons_self)

/-! ## Joined assignments -/

/-- The text of an assignment. -/
def assignment (e : α) (p : List α × List α) : List α := p.1 ++ e :: p.2

/-- The assignments after the first one, each behind a `c`. -/
def trailing (c e : α) (ps : List (List α × List α)) : List α :=
  ps.flatMap fun p ↦ c :: assignment e p

/-- Joining is the first text followed by the others. -/
theorem intercalate_cons (c : α) (x : List α) (xs : List (List α)) :
    [c].intercalate (x :: xs) = x ++ xs.flatMap (c :: ·) := by
  induction xs generalizing x with
  | nil => simp
  | cons y xs ih => rw [List.intercalate_cons_cons, ih]; simp

variable {c e : α} {p q : List α × List α} {ps ps' : List (List α × List α)}

/-- What follows the first assignment starts with a `c`. -/
theorem head_trailing {x : α} {r : List α} (h : trailing c e ps = x :: r) : x = c := by
  cases ps with
  | nil => simp [trailing] at h
  | cons q ps => simpa [trailing, eq_comm] using (List.cons.inj h).1

variable [DecidableEq α]

/-- The key of an assignment contains no separator, and its value no `e` after a `c`. -/
structure Separated (c e : α) (p : List α × List α) : Prop where
  key_c : c ∉ p.1
  key_e : e ∉ p.1
  value : e ∉ p.2.dropWhile (· ≠ c)

/-- What follows a `c` in the value has no `e`. -/
theorem Separated.not_mem {a b : List α} (h : Separated c e p) (hv : p.2 = a ++ c :: b) :
    e ∉ b := by
  intro hb
  apply h.value
  rw [hv]
  clear hv
  induction a with
  | nil => simp [hb]
  | cons x a ih =>
      by_cases hx : x = c
      · simp [hx, hb]
      · simpa [hx] using ih

/-- A value does not reach into the assignments behind it. -/
theorem eq_nil_of_value_append {v a : List α} (hce : c ≠ e) (hp : Separated c e p)
    (hv : p.2 = v ++ a) (hps : ∀ q ∈ ps, Separated c e q)
    (h : trailing c e ps = a ++ trailing c e ps') : a = [] := by
  cases a with
  | nil => rfl
  | cons x a =>
      cases ps with
      | nil => simp [trailing] at h
      | cons q ps =>
          obtain ⟨rfl, htail⟩ : c = x ∧ q.1 ++ e :: (q.2 ++ trailing c e ps)
              = a ++ trailing c e ps' := by simpa [trailing, assignment] using h
          have he : e ∉ a := hp.not_mem hv
          have hq := hps q List.mem_cons_self
          -- the first `e` is the one of the assignment `q`, so that `a` ends before it
          rcases List.append_eq_append_iff.mp htail with ⟨b, rfl, hb⟩ | ⟨b, hkey, hb⟩
          · cases b with
            | nil => exact absurd (head_trailing hb.symm).symm hce
            | cons y b =>
                obtain ⟨rfl, -⟩ := List.cons.inj hb
                simp at he
          · cases b with
            | nil => exact absurd (head_trailing hb).symm hce
            | cons y b =>
                obtain rfl := head_trailing hb
                exact absurd (by simp [hkey]) hq.key_c

/-- The values of two assignments with the same key, and what follows them. -/
theorem value_append_inj (hce : c ≠ e) (hp : Separated c e p) (hq : Separated c e q)
    (hps : ∀ p ∈ ps, Separated c e p) (hps' : ∀ p ∈ ps', Separated c e p)
    (h : p.2 ++ trailing c e ps = q.2 ++ trailing c e ps') :
    p.2 = q.2 ∧ trailing c e ps = trailing c e ps' := by
  rcases List.append_eq_append_iff.mp h with ⟨a, hv, ha⟩ | ⟨a, hv, ha⟩
  · obtain rfl := eq_nil_of_value_append hce hq hv hps ha
    exact ⟨by simpa using hv.symm, by simpa using ha⟩
  · obtain rfl := eq_nil_of_value_append hce hp hv hps' ha
    exact ⟨by simpa using hv, by simpa using ha.symm⟩

/-- The assignments behind the first one are determined by their text. -/
theorem trailing_inj (hce : c ≠ e) (hps : ∀ p ∈ ps, Separated c e p)
    (hps' : ∀ p ∈ ps', Separated c e p) (h : trailing c e ps = trailing c e ps') : ps = ps' := by
  induction ps generalizing ps' with
  | nil =>
      cases ps' with
      | nil => rfl
      | cons q ps' => simp [trailing] at h
  | cons p ps ih =>
      cases ps' with
      | nil => simp [trailing] at h
      | cons q ps' =>
          have hp := hps p List.mem_cons_self
          have hq := hps' q List.mem_cons_self
          have hps := fun p hp ↦ hps p (List.mem_cons_of_mem _ hp)
          have hps' := fun p hp ↦ hps' p (List.mem_cons_of_mem _ hp)
          have htext : p.1 ++ e :: (p.2 ++ trailing c e ps)
              = q.1 ++ e :: (q.2 ++ trailing c e ps') := by simpa [trailing, assignment] using h
          obtain ⟨hkey, hrest⟩ := append_letter_inj hp.key_e hq.key_e htext
          obtain ⟨hvalue, htrailing⟩ := value_append_inj hce hp hq hps hps' hrest
          rw [Prod.ext hkey hvalue, ih hps hps' htrailing]

/-- **Joined assignments are determined by their text.** -/
theorem joined_inj (hce : c ≠ e) (hps : ∀ p ∈ ps, Separated c e p)
    (hps' : ∀ p ∈ ps', Separated c e p)
    (h : [c].intercalate (ps.map (assignment e)) = [c].intercalate (ps'.map (assignment e))) :
    ps = ps' := by
  have htrailing : ∀ ps : List (List α × List α),
      ps ≠ [] → c :: [c].intercalate (ps.map (assignment e)) = trailing c e ps := by
    rintro (_ | ⟨p, ps⟩) hne
    · exact absurd rfl hne
    · simp [intercalate_cons, trailing, List.flatMap_map]
  have hlength : ∀ ps : List (List α × List α),
      [c].intercalate (ps.map (assignment e)) = [] → ps = [] := by
    rintro (_ | ⟨p, ps⟩) hnil
    · rfl
    · simp [intercalate_cons, assignment] at hnil
  by_cases hnil : ps = []
  · subst hnil
    exact (hlength ps' (by simpa using h.symm)).symm
  · have hnil' : ps' ≠ [] := fun hnil' ↦ hnil (hlength ps (by simpa [hnil'] using h))
    refine trailing_inj hce hps hps' ?_
    rw [← htrailing ps hnil, ← htrailing ps' hnil', h]

end GrpcPhp.Lib
