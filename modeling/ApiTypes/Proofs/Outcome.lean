import Mathlib.Data.List.Forall2
import Mathlib.Tactic.Common

/-!
# Outcomes

An outcome is a value or an error.  `Outcome.flatCollect visit list` is the outcome of
joining the lists that `visit` gives for the members of a list: the first error that a
member gives, or else all lists in order.  `Outcome.forall₂_of_flatCollect` compares what is
collected with a list that is put together from the same members without any errors.

`Outcome.error? x` is the error of `x`, if it is one.  The error of outcomes one after another is
the first one that any of them has.

`Outcome.AgreesUnless P x y` says that `x` and `y` are the same outcome unless `x` is an
error that satisfies `P`.  With no such error it is equality, and with all errors it says
that a value of `x` is one of `y`.  It is kept by whatever outcomes are put together from
others.
-/

namespace ApiTypes.Outcome

variable {ε δ α β γ : Type}

theorem map_eq_ok_iff {f : α → β} {x : Except ε α} {b : β} :
  x.map f = .ok b ↔ ∃ a, x = .ok a ∧ f a = b
  := by
  cases x <;> simp [Except.map]

theorem map_eq_error_iff {f : α → β} {x : Except ε α} {e : ε} :
  x.map f = .error e ↔ x = .error e
  := by
  cases x <;> simp [Except.map]

theorem mapError_eq_ok_iff {f : ε → δ} {x : Except ε α} {a : α} :
  x.mapError f = .ok a ↔ x = .ok a
  := by
  cases x <;> simp [Except.mapError]

theorem bind_eq_ok_iff {x : Except ε α} {next : α → Except ε β} {b : β} :
  x >>= next = .ok b ↔ ∃ a, x = .ok a ∧ next a = .ok b
  := by
  cases x <;> simp [bind, Except.bind]

theorem fmap_eq_ok_iff {f : α → β} {x : Except ε α} {b : β} :
  f <$> x = .ok b ↔ ∃ a, x = .ok a ∧ f a = b
  := map_eq_ok_iff

/-- An outcome is an error exactly if it is no value. -/
theorem not_exists_ok_iff {x : Except ε α} :
  (¬ ∃ a, x = .ok a) ↔ ∃ e, x = .error e
  := by
  cases x <;> simp

theorem map_id (x : Except ε α) :
  (x.map fun a => a) = x
  := by
  cases x <;> rfl

theorem map_map (x : Except ε α) (f : α → β) (g : β → γ) :
  (x.map f).map g = x.map fun a => g (f a)
  := by
  cases x <;> rfl

theorem map_fmap (x : Except ε α) (f : α → β) (g : β → γ) :
  (f <$> x).map g = (fun a => g (f a)) <$> x
  := by
  cases x <;> rfl

theorem bind_ok (x : Except ε α) (f : α → β) :
  (x >>= fun a => .ok (f a)) = x.map f
  := by
  cases x <;> rfl

/-! ### Joining lists -/

/-- The lists for the members of a list, joined in order, or the first error. -/
def flatCollect (visit : α → Except ε (List β)) : List α → Except ε (List β)
  | [] => .ok []
  | a :: rest => do
    let found ← visit a
    let more ← flatCollect visit rest
    return found ++ more

@[simp]
theorem flatCollect_nil (visit : α → Except ε (List β)) :
  flatCollect visit [] = .ok []
  := rfl

theorem flatCollect_singleton (visit : α → Except ε (List β)) (a : α) :
  flatCollect visit [a] = visit a
  := by
  cases h : visit a <;> simp [flatCollect, h, bind, Except.bind, pure, Except.pure]

theorem flatCollect_cons_eq_ok_iff
    {visit : α → Except ε (List β)} {a : α} {rest : List α} {found : List β} :
  flatCollect visit (a :: rest) = .ok found
    ↔ ∃ first more, visit a = .ok first ∧ flatCollect visit rest = .ok more
        ∧ first ++ more = found
  := by
  cases h : visit a with
  | error e => simp [flatCollect, h, bind, Except.bind]
  | ok first =>
    cases hrest : flatCollect visit rest with
    | error e => simp [flatCollect, h, hrest, bind, Except.bind]
    | ok more => simp [flatCollect, h, hrest, bind, Except.bind, pure, Except.pure]

theorem flatCollect_cons_eq_error_iff
    {visit : α → Except ε (List β)} {a : α} {rest : List α} {e : ε} :
  flatCollect visit (a :: rest) = .error e
    ↔ visit a = .error e ∨ (∃ first, visit a = .ok first) ∧ flatCollect visit rest = .error e
  := by
  cases h : visit a with
  | error e' => simp [flatCollect, h, bind, Except.bind]
  | ok first =>
    cases hrest : flatCollect visit rest with
    | error e' => simp [flatCollect, h, hrest, bind, Except.bind]
    | ok more => simp [flatCollect, h, hrest, bind, Except.bind, pure, Except.pure]

theorem flatCollect_append (visit : α → Except ε (List β)) (before after : List α) :
  flatCollect visit (before ++ after) =
    flatCollect visit before >>= fun first => (flatCollect visit after).map (first ++ ·)
  := by
  induction before with
  | nil => cases h : flatCollect visit after <;> simp [h, bind, Except.bind, Except.map]
  | cons a rest ih =>
    simp only [List.cons_append, flatCollect, ih]
    cases visit a with
    | error e => rfl
    | ok found =>
      cases flatCollect visit rest with
      | error e => rfl
      | ok more =>
        cases flatCollect visit after <;>
          simp [bind, Except.bind, Except.map, pure, Except.pure]

theorem flatCollect_append_eq_ok_iff
    {visit : α → Except ε (List β)} {before after : List α} {found : List β} :
  flatCollect visit (before ++ after) = .ok found
    ↔ ∃ first more, flatCollect visit before = .ok first ∧ flatCollect visit after = .ok more
        ∧ first ++ more = found
  := by
  rw [flatCollect_append]
  cases flatCollect visit before with
  | error e => simp [bind, Except.bind]
  | ok first => simp [bind, Except.bind, map_eq_ok_iff]

theorem flatCollect_map (visit : β → Except ε (List γ)) (f : α → β) (list : List α) :
  flatCollect visit (list.map f) = flatCollect (fun a => visit (f a)) list
  := by
  induction list with
  | nil => rfl
  | cons a rest ih => simp only [List.map_cons, flatCollect, ih]

/-- Lists that are collected of lists are joined. -/
theorem flatCollect_flatMap (visit : β → Except ε (List γ)) (pick : α → List β) (list : List α) :
  flatCollect visit (list.flatMap pick) = flatCollect (fun a => flatCollect visit (pick a)) list
  := by
  induction list with
  | nil => rfl
  | cons a rest ih =>
    rw [List.flatMap_cons, flatCollect_append, flatCollect, ih]
    rfl

/-- Members that give nothing may be left out. -/
theorem flatCollect_filter {visit : α → Except ε (List β)} {keep : α → Bool} {list : List α}
    (h : ∀ a ∈ list, keep a = false → visit a = .ok []) :
  flatCollect visit (list.filter keep) = flatCollect visit list
  := by
  induction list with
  | nil => rfl
  | cons a rest ih =>
    obtain ⟨ha, hrest⟩ := List.forall_mem_cons.mp h
    cases hkeep : keep a with
    | true =>
      rw [List.filter_cons_of_pos hkeep, flatCollect, flatCollect, ih hrest]
    | false =>
      rw [List.filter_cons_of_neg (by simp [hkeep]), flatCollect, ha hkeep, ih hrest]
      cases flatCollect visit rest <;> rfl

/-- What is collected of values that are computed for the members of a list. -/
theorem flatCollect_map_eq_ok_iff
    {visit : α → Except ε γ} {f : γ → List β} {list : List α} {found : List β} :
  flatCollect (fun a => (visit a).map f) list = .ok found
    ↔ ∃ values, List.Forall₂ (fun a value => visit a = .ok value) list values
        ∧ values.flatMap f = found
  := by
  induction list generalizing found with
  | nil => simp [List.forall₂_nil_left_iff]
  | cons a rest ih =>
    simp only [flatCollect_cons_eq_ok_iff, map_eq_ok_iff, ih, List.forall₂_cons_left_iff]
    constructor
    · rintro ⟨_, _, ⟨value, hvalue, rfl⟩, ⟨values, hvalues, rfl⟩, rfl⟩
      use value :: values, ⟨value, values, hvalue, hvalues, rfl⟩
      apply List.flatMap_cons
    · rintro ⟨_, ⟨value, values, hvalue, hvalues, rfl⟩, rfl⟩
      use f value, values.flatMap f, ⟨value, hvalue, rfl⟩, ⟨values, hvalues, rfl⟩
      apply List.flatMap_cons.symm

/-- What is collected are the lists for the members, joined. -/
theorem flatCollect_eq_ok_iff
    {visit : α → Except ε (List β)} {list : List α} {found : List β} :
  flatCollect visit list = .ok found
    ↔ ∃ lists, List.Forall₂ (fun a first => visit a = .ok first) list lists
        ∧ lists.flatten = found
  := by
  have hvisit : visit = fun a => (visit a).map fun first => first := by simp only [map_id]
  rw [hvisit, flatCollect_map_eq_ok_iff]
  simp only [map_id, List.flatMap_id']

/-- What is collected corresponds member by member to a list that is put together in the same
way. -/
theorem forall₂_of_flatCollect
    {visit : α → Except ε (List β)} {list : List α} {found : List β} {R : γ → β → Prop}
    {pick : α → List γ} (h : flatCollect visit list = .ok found)
    (hvisit : ∀ a ∈ list, ∀ first, visit a = .ok first → List.Forall₂ R (pick a) first) :
  List.Forall₂ R (list.flatMap pick) found
  := by
  induction list generalizing found with
  | nil =>
    obtain rfl : [] = found := by simpa using h
    apply List.Forall₂.nil
  | cons a rest ih =>
    obtain ⟨first, more, ha, hrest, rfl⟩ := flatCollect_cons_eq_ok_iff.mp h
    rw [List.flatMap_cons]
    apply List.rel_append
    · apply hvisit a List.mem_cons_self first ha
    · apply ih hrest fun b hb => hvisit b (List.mem_cons_of_mem a hb)

/-- The same is collected of two lists when their members correspond and give the same. -/
theorem flatCollect_eq_of_forall₂
    {visit : α → Except ε (List γ)} {other : β → Except ε (List γ)} {list : List α}
    {others : List β} (h : List.Forall₂ (fun a b => visit a = other b) list others) :
  flatCollect visit list = flatCollect other others
  := by
  induction h with
  | nil => rfl
  | cons hfirst _ ih => rw [flatCollect, flatCollect, hfirst, ih]

/-- When what every member gives is changed one by one, so is what is collected of the list. -/
theorem flatCollect_zipWith
    {visit other : α → Except ε (List β)} {list : List α} {found : List β} {pick : α → List γ}
    {change : γ → β → β} (h : flatCollect visit list = .ok found)
    (hvisit : ∀ a ∈ list, ∀ first, visit a = .ok first →
      (pick a).length = first.length ∧ other a = .ok (List.zipWith change (pick a) first)) :
  flatCollect other list = .ok (List.zipWith change (list.flatMap pick) found)
  := by
  induction list generalizing found with
  | nil => simp
  | cons a rest ih =>
    obtain ⟨hmember, hmembers⟩ := List.forall_mem_cons.mp hvisit
    obtain ⟨first, more, ha, hrest, rfl⟩ := flatCollect_cons_eq_ok_iff.mp h
    obtain ⟨hlength, hother⟩ := hmember first ha
    rw [List.flatMap_cons, List.zipWith_append hlength]
    apply flatCollect_cons_eq_ok_iff.mpr
    exact ⟨_, _, hother, ih hrest hmembers, rfl⟩

/-- Every member of a list that is collected without an error gives a list. -/
theorem exists_ok_of_flatCollect_eq_ok
    {visit : α → Except ε (List β)} {list : List α} {found : List β}
    (h : flatCollect visit list = .ok found) {a : α} (ha : a ∈ list) :
  ∃ first, visit a = .ok first
  := by
  induction list generalizing found with
  | nil => simp at ha
  | cons b rest ih =>
    obtain ⟨first, more, hb, hrest, -⟩ := flatCollect_cons_eq_ok_iff.mp h
    rcases List.mem_cons.mp ha with rfl | ha
    · use first
    · apply ih hrest ha

/-- What is collected comes from the members of the list. -/
theorem exists_mem_of_mem_flatCollect
    {visit : α → Except ε (List β)} {list : List α} {found : List β}
    (h : flatCollect visit list = .ok found) {b : β} (hb : b ∈ found) :
  ∃ a ∈ list, ∃ first, visit a = .ok first ∧ b ∈ first
  := by
  induction list generalizing found with
  | nil =>
    obtain rfl : [] = found := by simpa using h
    simp at hb
  | cons a rest ih =>
    obtain ⟨first, more, ha, hrest, rfl⟩ := flatCollect_cons_eq_ok_iff.mp h
    rcases List.mem_append.mp hb with hb | hb
    · use a, List.mem_cons_self, first
    · obtain ⟨c, hc, hfound⟩ := ih hrest hb
      use c, List.mem_cons_of_mem a hc

/-- An error that ends the collection comes from a member of the list. -/
theorem exists_of_flatCollect_eq_error
    {visit : α → Except ε (List β)} {list : List α} {e : ε}
    (h : flatCollect visit list = .error e) :
  ∃ a ∈ list, visit a = .error e
  := by
  induction list with
  | nil => simp at h
  | cons a rest ih =>
    rcases flatCollect_cons_eq_error_iff.mp h with ha | ⟨-, hrest⟩
    · use a, List.mem_cons_self
    · obtain ⟨b, hb, hfound⟩ := ih hrest
      use b, List.mem_cons_of_mem a hb

/-! ### Errors -/

/-- The error of an outcome, if it is one. -/
def error? : Except ε α → Option ε
  | .ok _ => none
  | .error e => some e

@[simp]
theorem error?_ok (a : α) :
  error? (.ok a : Except ε α) = none
  := rfl

@[simp]
theorem error?_error (e : ε) :
  error? (.error e : Except ε α) = some e
  := rfl

theorem error?_eq_none_iff {x : Except ε α} :
  error? x = none ↔ ∃ a, x = .ok a
  := by
  cases x <;> simp

theorem error?_eq_some_iff {x : Except ε α} {e : ε} :
  error? x = some e ↔ x = .error e
  := by
  cases x <;> simp

@[simp]
theorem error?_mapError (f : ε → δ) (x : Except ε α) :
  error? (x.mapError f) = (error? x).map f
  := by
  cases x <;> rfl

@[simp]
theorem ok_bind (a : α) (next : α → Except ε β) :
  (.ok a >>= next) = next a
  := rfl

@[simp]
theorem error_bind (e : ε) (next : α → Except ε β) :
  (.error e >>= next) = .error e
  := rfl

/-- The error of one outcome after another is the first one's, or else the other's. -/
theorem error?_bind {x : Except ε α} {next : α → Except ε β} {rest : Option ε}
    (h : ∀ a, x = .ok a → error? (next a) = rest) :
  error? (x >>= next) = (error? x).or rest
  := by
  cases x with
  | error e => rfl
  | ok a => apply h a rfl

@[simp]
theorem error?_bind_ok (x : Except ε α) (f : α → β) :
  error? (x >>= fun a => .ok (f a)) = error? x
  := by
  cases x <;> rfl

theorem findSome?_cons (found? : α → Option β) (a : α) (rest : List α) :
  (a :: rest).findSome? found? = (found? a).or (rest.findSome? found?)
  := by
  rw [List.findSome?_cons]
  cases found? a <;> rfl

/-- The error of a list that is collected is the first one found in a list that is put together
in the same way. -/
theorem error?_flatCollect
    {visit : α → Except ε (List β)} {list : List α} {pick : α → List γ} {found? : γ → Option ε}
    (h : ∀ a ∈ list, error? (visit a) = (pick a).findSome? found?) :
  error? (flatCollect visit list) = (list.flatMap pick).findSome? found?
  := by
  induction list with
  | nil => rfl
  | cons a rest ih =>
    obtain ⟨ha, hrest⟩ := List.forall_mem_cons.mp h
    rw [List.flatMap_cons, List.findSome?_append, ← ha, ← ih hrest]
    apply error?_bind
    intro found _
    apply error?_bind_ok

/-- The error of a list that is collected is the one of a member that comes after none with an
error. -/
theorem flatCollect_eq_error_iff
    {visit : α → Except ε (List β)} {list : List α} {e : ε} :
  flatCollect visit list = .error e
    ↔ ∃ before a after, list = before ++ a :: after
        ∧ (∀ b ∈ before, ∃ first, visit b = .ok first) ∧ visit a = .error e
  := by
  have hvisit : ∀ a ∈ list, error? (visit a) = [a].findSome? fun a => error? (visit a) := by
    intro a _
    rw [findSome?_cons, List.findSome?_nil, Option.or_none]
  rw [← error?_eq_some_iff, error?_flatCollect hvisit, List.flatMap_singleton',
    List.findSome?_eq_some_iff]
  simp only [error?_eq_some_iff, error?_eq_none_iff]
  constructor
  · rintro ⟨before, a, after, hlist, ha, hbefore⟩
    use before, a, after
  · rintro ⟨before, a, after, hlist, hbefore, ha⟩
    use before, a, after

/-! ### Agreement -/

/-- Two outcomes are the same unless the first is an error that satisfies `P`. -/
def AgreesUnless (P : ε → Prop) (x y : Except ε α) : Prop :=
  x = y ∨ ∃ e, P e ∧ x = .error e

namespace AgreesUnless

variable {P : ε → Prop}

theorem refl (x : Except ε α) : AgreesUnless P x x := .inl rfl

theorem ok {x y : Except ε α} (h : AgreesUnless P x y) {a : α} (hx : x = .ok a) :
  y = .ok a
  := by
  rcases h with rfl | ⟨e, -, he⟩
  · apply hx
  · simp [hx] at he

/-- Outcomes that agree unless something impossible happens are the same. -/
theorem eq {x y : Except ε α} (h : AgreesUnless (fun _ => False) x y) :
  x = y
  := by
  rcases h with h | ⟨_, himpossible, -⟩
  · apply h
  · apply himpossible.elim

/-- An outcome agrees with another up to any error when its value is one of the other. -/
theorem of_ok {x y : Except ε α} (h : ∀ a, x = .ok a → y = .ok a) :
  AgreesUnless (fun _ => True) x y
  := by
  cases x with
  | error e =>
    right
    use e
  | ok a =>
    left
    rw [h a rfl]

theorem map {x y : Except ε α} (h : AgreesUnless P x y) (f : α → β) :
  AgreesUnless P (x.map f) (y.map f)
  := by
  rcases h with rfl | ⟨e, he, rfl⟩
  · apply refl
  · right
    use e, he
    rfl

theorem bind
    {x y : Except ε α} (h : AgreesUnless P x y) {f g : α → Except ε β}
    (hfg : ∀ a, x = .ok a → AgreesUnless P (f a) (g a)) :
  AgreesUnless P (x >>= f) (y >>= g)
  := by
  rcases h with rfl | ⟨e, he, rfl⟩
  · cases x with
    | error e => apply refl
    | ok a => apply hfg a rfl
  · right
    use e, he
    rfl

theorem flatCollect
    {visit other : α → Except ε (List β)} {list : List α}
    (h : ∀ a ∈ list, AgreesUnless P (visit a) (other a)) :
  AgreesUnless P (Outcome.flatCollect visit list) (Outcome.flatCollect other list)
  := by
  induction list with
  | nil => apply refl
  | cons a rest ih =>
    apply bind (h a List.mem_cons_self)
    intro found _
    apply bind (ih fun b hb => h b (List.mem_cons_of_mem a hb))
    intro more _
    apply refl

end AgreesUnless

/-- What is collected stays the same when the members of the list still give their lists. -/
theorem flatCollect_eq_ok_of_forall
    {visit other : α → Except ε (List β)} {list : List α} {found : List β}
    (h : ∀ a ∈ list, ∀ first, visit a = .ok first → other a = .ok first)
    (hfound : flatCollect visit list = .ok found) :
  flatCollect other list = .ok found
  := by
  have hagree := AgreesUnless.flatCollect fun a ha => AgreesUnless.of_ok (h a ha)
  apply hagree.ok hfound

theorem flatCollect_eq_ok_iff_of_forall
    {visit other : α → Except ε (List β)} {list : List α} {found : List β}
    (h : ∀ a ∈ list, ∀ first, visit a = .ok first ↔ other a = .ok first) :
  flatCollect visit list = .ok found ↔ flatCollect other list = .ok found
  := by
  constructor
  · apply flatCollect_eq_ok_of_forall fun a ha first => (h a ha first).mp
  · apply flatCollect_eq_ok_of_forall fun a ha first => (h a ha first).mpr

end ApiTypes.Outcome
