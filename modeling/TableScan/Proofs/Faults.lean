import Mathlib.Data.List.Forall2

/-!
Computations that may fail, told by what they succeed on and by the fault that they fail with on all
else. A computation made of parts fails with the fault of the part that fails first, and one that goes
through a list with the fault of the first element that has one.
-/

namespace TableScan

variable {α β δ ε : Type}

/-- The first element of a list that is at fault, with its fault. All elements before it are valid. -/
inductive FirstFault (valid : α → Prop) (fault : α → ε → Prop) : List α → ε → Prop
  | here {item : α} {rest : List α} {e : ε} :
      fault item e → FirstFault valid fault (item :: rest) e
  | later {item : α} {rest : List α} {e : ε} :
      valid item → FirstFault valid fault rest e → FirstFault valid fault (item :: rest) e

namespace FirstFault

variable {valid : α → Prop} {fault : α → ε → Prop} {item : α} {items rest : List α} {e : ε}

theorem not_nil : ¬FirstFault valid fault [] e := nofun

theorem cons_iff :
    FirstFault valid fault (item :: rest) e ↔
      fault item e ∨ valid item ∧ FirstFault valid fault rest e := by
  constructor
  · intro h
    cases h with
    | here hf => exact .inl hf
    | later hv hr => exact .inr ⟨hv, hr⟩
  · rintro (hf | ⟨hv, hr⟩)
    · exact .here hf
    · exact .later hv hr

theorem singleton_iff : FirstFault valid fault [item] e ↔ fault item e := by
  simp [cons_iff, not_nil]

theorem append_iff :
    FirstFault valid fault (items ++ rest) e ↔
      FirstFault valid fault items e ∨
        (∀ item ∈ items, valid item) ∧ FirstFault valid fault rest e := by
  induction items with
  | nil => simp [not_nil]
  | cons item items ih =>
    rw [List.cons_append, cons_iff, cons_iff, ih, List.forall_mem_cons]
    tauto

/-- Among the first numbers, the one at fault is the least. -/
theorem range_iff {valid : Nat → Prop} {fault : Nat → ε → Prop} {n : Nat} :
    FirstFault valid fault (List.range n) e ↔
      ∃ i < n, (∀ earlier < i, valid earlier) ∧ fault i e := by
  induction n with
  | zero => simp [not_nil]
  | succ n ih =>
    rw [List.range_succ, append_iff, singleton_iff, ih]
    simp only [List.mem_range]
    constructor
    · rintro (⟨i, hi, hfirst, hfault⟩ | ⟨hfirst, hfault⟩)
      · exact ⟨i, Nat.lt_succ_of_lt hi, hfirst, hfault⟩
      · exact ⟨n, Nat.lt_succ_self n, hfirst, hfault⟩
    · rintro ⟨i, hi, hfirst, hfault⟩
      rcases Nat.lt_succ_iff_lt_or_eq.mp hi with hlt | rfl
      · exact .inl ⟨i, hlt, hfirst, hfault⟩
      · exact .inr ⟨hfirst, hfault⟩

/-- Where faults are those of the elements that are not valid, one is found if there is one. -/
theorem exists_iff (h : ∀ item, (∃ e, fault item e) ↔ ¬valid item) :
    (∃ e, FirstFault valid fault items e) ↔ ∃ item ∈ items, ¬valid item := by
  induction items with
  | nil => simp [not_nil]
  | cons item items ih =>
    simp only [cons_iff, exists_or, exists_and_left, ih, h, List.exists_mem_cons_iff]
    tauto

end FirstFault

/-- A computation that succeeds went through its first part. -/
theorem ok_of_bind {x : Except ε α} {f : α → Except ε β} {b : β}
    (h : (x >>= f) = .ok b) : ∃ a, x = .ok a ∧ f a = .ok b := by
  cases x with
  | error e => cases h
  | ok a => exact ⟨a, rfl, h⟩

theorem ok_of_map {x : Except ε α} {f : α → β} {b : β} (h : x.map f = .ok b) :
    ∃ a, x = .ok a ∧ f a = b := by
  cases x with
  | error e => cases h
  | ok a => exact ⟨a, rfl, Except.ok.inj h⟩

theorem mapError_eq_ok_iff {x : Except ε α} {f : ε → δ} {a : α} :
    x.mapError f = .ok a ↔ x = .ok a := by
  cases x with
  | error e => exact iff_of_false nofun nofun
  | ok b => simp [Except.mapError]

/-- A computation over a list that succeeds does so on each element. -/
theorem forall₂_of_mapM {f : α → Except ε β} {items : List α} {results : List β}
    (h : items.mapM f = .ok results) :
    List.Forall₂ (fun item result => f item = .ok result) items results := by
  induction items generalizing results with
  | nil =>
    cases h
    exact .nil
  | cons item items ih =>
    rw [List.mapM_cons] at h
    obtain ⟨result, hresult, h⟩ := ok_of_bind h
    obtain ⟨others, hothers, h⟩ := ok_of_bind h
    cases h
    exact .cons hresult (ih hothers)

/-! ## Failing -/

theorem exists_ok_iff {x : Except ε α} : (∃ a, x = .ok a) ↔ ¬∃ e, x = .error e := by
  cases x with
  | error e => simp
  | ok a => simp

/-- A chain fails in its first part, or in the part after it. -/
theorem bind_eq_error_iff {x : Except ε α} {f : α → Except ε β} {e : ε} :
    (x >>= f) = .error e ↔ x = .error e ∨ ∃ a, x = .ok a ∧ f a = .error e := by
  constructor
  · intro h
    cases x with
    | error d =>
      cases h
      exact .inl rfl
    | ok a => exact .inr ⟨a, rfl, h⟩
  · rintro (rfl | ⟨a, rfl, h⟩)
    · rfl
    · exact h

theorem map_eq_error_iff {x : Except ε α} {f : α → β} {e : ε} :
    x.map f = .error e ↔ x = .error e := by
  cases x with
  | error d => simp [Except.map]
  | ok a => exact iff_of_false nofun nofun

theorem mapError_eq_error_iff {x : Except ε α} {f : ε → δ} {d : δ} :
    x.mapError f = .error d ↔ ∃ e, x = .error e ∧ d = f e := by
  cases x with
  | error e => simp [Except.mapError, eq_comm]
  | ok a => simp [Except.mapError]

/-- A computation that goes through a list fails where it first fails on an element. -/
theorem mapM_eq_error_iff {f : α → Except ε β} {items : List α} {e : ε} :
    items.mapM f = .error e ↔
      FirstFault (fun item => ∃ b, f item = .ok b) (fun item e => f item = .error e) items e := by
  induction items with
  | nil => exact iff_of_false nofun FirstFault.not_nil
  | cons item items ih =>
    rw [List.mapM_cons, bind_eq_error_iff, FirstFault.cons_iff, ← ih]
    have hrest (b : β) : (items.mapM f >>= fun others => pure (b :: others)) = .error e ↔
        items.mapM f = .error e := map_eq_error_iff
    simp only [hrest, exists_and_right]

/-- A computation that goes through the first numbers starts with the first of them. -/
theorem mapM_range_succ (f : Nat → Except ε β) (n : Nat) :
    (List.range (n + 1)).mapM f =
      f 0 >>= fun b => ((List.range n).mapM fun i => f (i + 1)) >>= fun others =>
        pure (b :: others) := by
  rw [List.range_succ_eq_map, List.mapM_cons, List.mapM_map]
  rfl

theorem mapM_congr {f g : α → Except ε β} {items : List α} (h : ∀ item ∈ items, f item = g item) :
    items.mapM f = items.mapM g := by
  induction items with
  | nil => rfl
  | cons item items ih =>
    obtain ⟨hitem, hrest⟩ := List.forall_mem_cons.mp h
    rw [List.mapM_cons, List.mapM_cons, hitem, ih hrest]

/-! ## Checks -/

/-- A computation that succeeds with a result on all that is valid, and fails with a fault on all that
is not. -/
structure Checks (x : Except ε α) (valid : Prop) (result : α) (fault : ε → Prop) : Prop where
  ok : valid → x = .ok result
  error : ∀ e, fault e → x = .error e
  decides : valid ∨ ∃ e, fault e

namespace Checks

variable {x : Except ε α} {valid : Prop} {result : α} {fault : ε → Prop}

theorem of_valid (hv : valid) (hx : x = .ok result) (hfault : ∀ e, ¬fault e) :
    Checks x valid result fault where
  ok _ := hx
  error e he := absurd he (hfault e)
  decides := .inl hv

theorem of_fault {e : ε} (hv : ¬valid) (hx : x = .error e) (hfault : ∀ d, fault d ↔ d = e) :
    Checks x valid result fault where
  ok h := absurd h hv
  error d hd := by
    rw [(hfault d).mp hd]
    exact hx
  decides := .inr ⟨e, (hfault e).mpr rfl⟩

theorem ok_iff (h : Checks x valid result fault) {a : α} : x = .ok a ↔ valid ∧ a = result := by
  constructor
  · intro hx
    rcases h.decides with hv | ⟨e, he⟩
    · exact ⟨hv, Except.ok.inj (hx.symm.trans (h.ok hv))⟩
    · cases hx.symm.trans (h.error e he)
  · rintro ⟨hv, rfl⟩
    exact h.ok hv

theorem error_iff (h : Checks x valid result fault) {e : ε} : x = .error e ↔ fault e := by
  constructor
  · intro hx
    rcases h.decides with hv | ⟨e', he⟩
    · cases hx.symm.trans (h.ok hv)
    · cases hx.symm.trans (h.error e' he)
      exact he
  · exact h.error e

/-- What is valid is what has no fault. -/
theorem valid_iff (h : Checks x valid result fault) : valid ↔ ∀ e, ¬fault e := by
  constructor
  · intro hv e he
    cases (h.ok hv).symm.trans (h.error e he)
  · intro hfault
    exact h.decides.resolve_right (not_exists.mpr hfault)

/-- What is valid and the faults of all else leave nothing open. -/
theorem unique (h : Checks x valid result fault) {y : Except ε α}
    (h' : Checks y valid result fault) : x = y := by
  rcases h.decides with hv | ⟨e, he⟩
  · rw [h.ok hv, h'.ok hv]
  · rw [h.error e he, h'.error e he]

theorem of_iff (h : Checks x valid result fault) {valid' : Prop} {fault' : ε → Prop}
    (hvalid : valid' ↔ valid) (hfault : ∀ e, fault' e ↔ fault e) :
    Checks x valid' result fault' where
  ok hv := h.ok (hvalid.mp hv)
  error e he := h.error e ((hfault e).mp he)
  decides := by
    rcases h.decides with hv | ⟨e, he⟩
    · exact .inl (hvalid.mpr hv)
    · exact .inr ⟨e, (hfault e).mpr he⟩

theorem map (h : Checks x valid result fault) (f : α → β) :
    Checks (x.map f) valid (f result) fault where
  ok hv := by
    rw [h.ok hv]
    rfl
  error e he := by
    rw [h.error e he]
    rfl
  decides := h.decides

theorem mapError (h : Checks x valid result fault) (f : ε → δ) :
    Checks (x.mapError f) valid result fun d => ∃ e, fault e ∧ d = f e where
  ok hv := by
    rw [h.ok hv]
    rfl
  error := by
    rintro _ ⟨e, he, rfl⟩
    rw [h.error e he]
    rfl
  decides := by
    rcases h.decides with hv | ⟨e, he⟩
    · exact .inl hv
    · exact .inr ⟨f e, e, he, rfl⟩

/-- What a first check lets through is checked again. -/
theorem bind (h : Checks x valid result fault) {f : α → Except ε β} {valid' : Prop} {result' : β}
    {fault' : ε → Prop} (h' : valid → Checks (f result) valid' result' fault') :
    Checks (x >>= f) (valid ∧ valid') result' fun e => fault e ∨ valid ∧ fault' e where
  ok := by
    rintro ⟨hv, hv'⟩
    rw [h.ok hv]
    exact (h' hv).ok hv'
  error := by
    rintro e (he | ⟨hv, he⟩)
    · rw [h.error e he]
      rfl
    · rw [h.ok hv]
      exact (h' hv).error e he
  decides := by
    rcases h.decides with hv | ⟨e, he⟩
    · rcases (h' hv).decides with hv' | ⟨e, he⟩
      · exact .inl ⟨hv, hv'⟩
      · exact .inr ⟨e, .inr ⟨hv, he⟩⟩
    · exact .inr ⟨e, .inl he⟩

theorem mapM {f : α → Except ε β} {valid : α → Prop} {result : α → β} {fault : α → ε → Prop}
    (h : ∀ item, Checks (f item) (valid item) (result item) (fault item)) (items : List α) :
    Checks (items.mapM f) (∀ item ∈ items, valid item) (items.map result)
      (FirstFault valid fault items) := by
  induction items with
  | nil => exact ⟨fun _ => rfl, nofun, .inl (List.forall_mem_nil _)⟩
  | cons item items ih =>
    rw [List.mapM_cons]
    have hrest : Checks (items.mapM f >>= fun others => pure (result item :: others))
        (∀ item ∈ items, valid item) ((item :: items).map result) (FirstFault valid fault items) :=
      ih.map (result item :: ·)
    refine ((h item).bind fun _ => hrest).of_iff ?_ fun e => ?_
    · exact List.forall_mem_cons
    · exact FirstFault.cons_iff

end Checks

end TableScan
