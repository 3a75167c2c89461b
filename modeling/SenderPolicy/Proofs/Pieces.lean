import Mathlib.Data.List.Forall2
import SenderPolicy.Text.Blank

/-! Texts that are read piece by piece: what holds of each character of ASCII, what joined pieces are cut to, the first place
where a text is cut, and when a whole list can be read. -/

namespace SenderPolicy

/-- What a table of ASCII tells holds of each of its characters. -/
theorem Text.forall_ascii {p : Char → Prop} (table : ∀ n : Fin 128, p (Char.ofNat n.val)) {c : Char} (ascii : c.toNat < 128) :
    p c := by
  have entry := table ⟨c.toNat, ascii⟩
  rwa [Char.ofNat_toNat] at entry

/-! ### Cutting -/

namespace Text

variable {p : Char → Bool}

theorem pieces_append_cons {c : Char} (hc : p c = true) (s t : List Char) :
    pieces p (s ++ c :: t) = pieces p s ++ pieces p t := by
  induction s with
  | nil => simp [pieces, hc]
  | cons d s ih =>
    rw [List.cons_append, pieces, pieces, ih]
    split
    · rfl
    · obtain ⟨first, rest, h⟩ := List.exists_cons_of_ne_nil (pieces_ne_nil p s)
      rw [h]
      rfl

theorem pieces_of_forall_not {s : List Char} (h : ∀ c ∈ s, p c = false) : pieces p s = [s] := by
  induction s with
  | nil => rfl
  | cons c s ih =>
    rw [pieces, if_neg (by simp [h c List.mem_cons_self]), ih fun d hd => h d (List.mem_cons_of_mem _ hd)]
    rfl

/-- Cutting at a separator gives back what has been joined with it, or a single empty piece if there is
nothing. -/
theorem pieces_joined {c : Char} (hc : p c = true) : ∀ {parts : List (List Char)},
    (∀ part ∈ parts, ∀ d ∈ part, p d = false) → pieces p (joined [c] parts) = if parts = [] then [[]] else parts
  | [], _ => rfl
  | [part], h => pieces_of_forall_not (h part List.mem_cons_self)
  | part :: next :: rest, h => by
    rw [show joined [c] (part :: next :: rest) = part ++ c :: joined [c] (next :: rest) by simp [joined],
      pieces_append_cons hc, pieces_of_forall_not (h part List.mem_cons_self),
      pieces_joined hc fun part hp => h part (List.mem_cons_of_mem _ hp)]
    rfl

theorem pieces_of_not_mem {c : Char} {s : List Char} (h : c ∉ s) : pieces (· == c) s = [s] :=
  pieces_of_forall_not fun _ hd => beq_false_of_ne fun same => h (same ▸ hd)

theorem pieces_joined_of_not_mem {c : Char} {parts : List (List Char)} (h : ∀ part ∈ parts, c ∉ part) (ne : parts ≠ []) :
    pieces (· == c) (joined [c] parts) = parts := by
  have apart : ∀ part ∈ parts, ∀ d ∈ part, (d == c) = false := fun part hp _ hd =>
    beq_false_of_ne fun same => h part hp (same ▸ hd)
  exact (pieces_joined (p := (· == c)) (beq_self_eq_true c) apart).trans (if_neg ne)

/-- To cut a text at a separator and to join the pieces with it changes nothing. -/
theorem joined_pieces {c : Char} (hp : ∀ d, p d = true → d = c) (s : List Char) : joined [c] (pieces p s) = s := by
  induction s with
  | nil => rfl
  | cons d s ih =>
    obtain ⟨first, rest, h⟩ := List.exists_cons_of_ne_nil (pieces_ne_nil p s)
    rw [pieces]
    rw [h] at ih ⊢
    split
    · rename_i hd
      rw [hp d hd]
      show [] ++ [c] ++ joined [c] (first :: rest) = _
      rw [ih]
      rfl
    · rw [List.modifyHead_cons]
      cases rest with
      | nil => exact congrArg (d :: ·) ih
      | cons next rest => exact congrArg (d :: ·) ih

/-- The pieces hold the characters of the text that are no separators. -/
theorem exists_mem_pieces_iff {c : Char} {s : List Char} : (∃ part ∈ pieces p s, c ∈ part) ↔ c ∈ s ∧ p c = false := by
  induction s with
  | nil => simp [pieces]
  | cons d s ih =>
    rw [pieces, List.mem_cons, or_and_right]
    split
    · rename_i hd
      have other : ¬(c = d ∧ p c = false) := by
        rintro ⟨rfl, hc⟩
        exact absurd hd (by simp [hc])
      rw [List.exists_mem_cons_iff, ih, or_iff_right List.not_mem_nil, or_iff_right other]
    · rename_i hd
      obtain ⟨first, rest, h⟩ := List.exists_cons_of_ne_nil (pieces_ne_nil p s)
      rw [h, List.exists_mem_cons_iff] at ih
      rw [h, List.modifyHead_cons, List.exists_mem_cons_iff, List.mem_cons, or_assoc, ih]
      refine or_congr_left ⟨?_, And.left⟩
      rintro rfl
      exact ⟨rfl, Bool.eq_false_iff.mpr hd⟩

/-- No piece holds a separator. -/
theorem not_of_mem_pieces {s part : List Char} (h : part ∈ pieces p s) : ∀ c ∈ part, p c = false := fun _ hc =>
  (exists_mem_pieces_iff.mp ⟨part, h, hc⟩).2

/-- Joined pieces by the last of them. -/
theorem joined_concat (separator : List Char) (front : List (List Char)) (last : List Char) :
    joined separator (front ++ [last]) = front.flatMap (· ++ separator) ++ last := by
  induction front with
  | nil => rfl
  | cons part front ih =>
    obtain ⟨next, rest, hr⟩ : ∃ next rest, front ++ [last] = next :: rest := List.exists_cons_of_ne_nil (by simp)
    rw [List.cons_append, hr, joined, ← hr, ih]
    · simp
    · exact nofun

/-! ### The first occurrence of a character -/

section
variable {c : Char} {s : List Char}

theorem cutFirst_of_not_mem (h : c ∉ s) : cutFirst c s = none := by
  induction s with
  | nil => rfl
  | cons d s ih =>
    rw [List.mem_cons, not_or] at h
    rw [cutFirst, if_neg (Ne.symm h.1), ih h.2]
    rfl

theorem cutFirst_append {before after : List Char} (h : c ∉ before) : cutFirst c (before ++ c :: after) = some (before, after) := by
  induction before with
  | nil => simp [cutFirst]
  | cons d before ih =>
    rw [List.mem_cons, not_or] at h
    rw [List.cons_append, cutFirst, if_neg (Ne.symm h.1), ih h.2]
    rfl

theorem mem_of_cutFirst {d : Char} {before after : List Char} (h : cutFirst d s = some (before, after)) (hc : c ∈ after) :
    c ∈ s := by
  induction s generalizing before after with
  | nil => cases h
  | cons e s ih =>
    rw [cutFirst] at h
    split at h
    · cases h
      exact List.mem_cons_of_mem _ hc
    · obtain ⟨⟨before', after'⟩, hs, hr⟩ := Option.map_eq_some_iff.mp h
      cases hr
      exact List.mem_cons_of_mem _ (ih hs hc)

end

/-! ### The first occurrence of a text -/

section
variable {part s : List Char} {n : Nat}

/-- The position of a text is the first one at which it stands. -/
theorem positionOf_some (h : positionOf part s = some n) : part <+: s.drop n ∧ ∀ i < n, ¬ part <+: s.drop i := by
  induction s generalizing n with
  | nil =>
    rw [positionOf] at h
    split at h
    · rename_i empty
      cases h
      exact ⟨List.isEmpty_iff.mp empty ▸ List.nil_prefix, fun _ => nofun⟩
    · cases h
  | cons c s ih =>
    rw [positionOf] at h
    split at h
    · rename_i here
      cases h
      exact ⟨List.isPrefixOf_iff_prefix.mp here, fun _ => nofun⟩
    · rename_i elsewhere
      obtain ⟨k, hk, rfl⟩ := Option.map_eq_some_iff.mp h
      obtain ⟨stands, first⟩ := ih hk
      refine ⟨stands, fun i hi => ?_⟩
      cases i with
      | zero => exact mt List.isPrefixOf_iff_prefix.mpr elsewhere
      | succ i => exact first i (Nat.lt_of_succ_lt_succ hi)

/-- A text that stands somewhere has a position, at that place or before it. -/
theorem exists_positionOf (part before after : List Char) :
    ∃ n ≤ before.length, positionOf part (before ++ part ++ after) = some n := by
  induction before with
  | nil =>
    refine ⟨0, Nat.zero_le _, ?_⟩
    rw [List.nil_append]
    cases hs : part ++ after with
    | nil => rw [positionOf, if_pos (List.isEmpty_iff.mpr (List.append_eq_nil_iff.mp hs).1)]
    | cons c rest => rw [positionOf, if_pos (List.isPrefixOf_iff_prefix.mpr (hs ▸ List.prefix_append ..))]
  | cons c before ih =>
    obtain ⟨n, hn, found⟩ := ih
    rw [List.cons_append, List.cons_append, positionOf]
    split
    · exact ⟨0, Nat.zero_le _, rfl⟩
    · exact ⟨n + 1, Nat.succ_le_succ hn, by rw [found]; rfl⟩

/-- A text that has been put in can be taken out again. -/
theorem take_append_drop_insertedAt (h : n ≤ s.length) (part : List Char) :
    (insertedAt n part s).take n ++ (insertedAt n part s).drop (n + part.length) = s := by
  have length : (s.take n).length = n := List.length_take_of_le h
  unfold insertedAt
  rw [List.append_assoc, List.take_left' length, ← List.drop_drop, List.drop_left' length, List.drop_left, List.take_append_drop]

end

end Text

/-! ### Related lists -/

theorem exists_forall₂_iff {α β : Type} {R : α → β → Prop} {xs : List α} :
    (∃ ys, List.Forall₂ R xs ys) ↔ ∀ x ∈ xs, ∃ y, R x y := by
  induction xs with
  | nil => exact ⟨fun _ _ => nofun, fun _ => ⟨[], .nil⟩⟩
  | cons x xs ih =>
    rw [List.forall_mem_cons, ← ih]
    constructor
    · rintro ⟨_, h⟩
      cases h with
      | cons hxy h => exact ⟨⟨_, hxy⟩, _, h⟩
    · rintro ⟨⟨y, hxy⟩, ys, h⟩
      exact ⟨y :: ys, .cons hxy h⟩

theorem exists_of_forall₂ {α β : Type} {R : α → β → Prop} {xs : List α} {ys : List β} (h : List.Forall₂ R xs ys) {y : β}
    (hy : y ∈ ys) : ∃ x ∈ xs, R x y := by
  induction h with
  | nil => cases hy
  | cons hxy _ ih =>
    rcases List.mem_cons.mp hy with rfl | hy
    · exact ⟨_, .head _, hxy⟩
    · obtain ⟨x, hx, h⟩ := ih hy
      exact ⟨x, .tail _ hx, h⟩

/-! ### Tables -/

theorem mem_of_lookup {α β : Type} [BEq α] [LawfulBEq α] {table : List (α × β)} {key : α} {value : β}
    (h : table.lookup key = some value) : (key, value) ∈ table := by
  obtain ⟨before, after, rfl, -⟩ := List.lookup_eq_some_iff.mp h
  exact List.mem_append_right _ List.mem_cons_self

/-! ### Reading one after the other, and all -/

section
variable {ε α β : Type} {f : α → Except ε β}

theorem bind_ok_iff {r : Except ε α} {b : β} : (r >>= f) = .ok b ↔ ∃ a, r = .ok a ∧ f a = .ok b := by
  cases r <;> simp [bind, Except.bind]

theorem bind_error_iff {r : Except ε α} {e : ε} : (r >>= f) = .error e ↔ r = .error e ∨ ∃ a, r = .ok a ∧ f a = .error e := by
  cases r <;> simp [bind, Except.bind]

theorem map_ok_iff {r : Except ε α} {g : α → β} {b : β} : r.map g = .ok b ↔ ∃ a, r = .ok a ∧ g a = b := by
  cases r <;> simp [Except.map]

theorem map_error_iff {r : Except ε α} {g : α → β} {e : ε} : r.map g = .error e ↔ r = .error e := by
  cases r <;> simp [Except.map]

theorem mapM_ok_iff {xs : List α} {ys : List β} : xs.mapM f = .ok ys ↔ List.Forall₂ (fun x y => f x = .ok y) xs ys := by
  induction xs generalizing ys with
  | nil =>
    constructor
    · rintro ⟨⟩
      exact .nil
    · rintro ⟨⟩
      rfl
  | cons x xs ih =>
    rw [List.mapM_cons, List.forall₂_cons_left_iff]
    cases hx : f x with
    | error e => simp [bind, Except.bind]
    | ok y =>
      cases hxs : xs.mapM f with
      | error e => simp [bind, Except.bind, ← ih, hxs]
      | ok rest => simp [bind, Except.bind, pure, Except.pure, ← ih, hxs, eq_comm]

theorem exists_ok_of_mapM {xs : List α} {ys : List β} (h : xs.mapM f = .ok ys) : ∀ x ∈ xs, ∃ y ∈ ys, f x = .ok y := by
  induction mapM_ok_iff.mp h with
  | nil => exact fun x hx => absurd hx List.not_mem_nil
  | cons hxy hrest ih =>
    intro x hx
    rcases List.mem_cons.mp hx with rfl | hx
    · exact ⟨_, List.mem_cons_self, hxy⟩
    · obtain ⟨y, hy, h⟩ := ih (mapM_ok_iff.mpr hrest) x hx
      exact ⟨y, List.mem_cons_of_mem _ hy, h⟩

theorem exists_of_mem_mapM {xs : List α} {ys : List β} (h : xs.mapM f = .ok ys) : ∀ y ∈ ys, ∃ x ∈ xs, f x = .ok y := by
  induction mapM_ok_iff.mp h with
  | nil => exact fun y hy => absurd hy List.not_mem_nil
  | cons hxy hrest ih =>
    intro y hy
    rcases List.mem_cons.mp hy with rfl | hy
    · exact ⟨_, List.mem_cons_self, hxy⟩
    · obtain ⟨x, hx, h⟩ := ih (mapM_ok_iff.mpr hrest) y hy
      exact ⟨x, List.mem_cons_of_mem _ hx, h⟩

/-- If not all can be read, there is a first that cannot. -/
theorem exists_first_error_of_mapM {xs : List α} {e : ε} (h : xs.mapM f = .error e) :
    ∃ before x after, xs = before ++ x :: after ∧ (∀ y ∈ before, ∃ b, f y = .ok b) ∧ f x = .error e := by
  induction xs with
  | nil => cases h
  | cons x xs ih =>
    rw [List.mapM_cons] at h
    cases hx : f x with
    | error e' =>
      rw [hx] at h
      cases h
      exact ⟨[], x, xs, rfl, fun _ => nofun, hx⟩
    | ok y =>
      cases hxs : xs.mapM f with
      | error e' =>
        rw [hx, hxs] at h
        cases h
        obtain ⟨before, x', after, rfl, read, hx'⟩ := ih hxs
        exact ⟨x :: before, x', after, rfl, List.forall_mem_cons.mpr ⟨⟨y, hx⟩, read⟩, hx'⟩
      | ok ys =>
        rw [hx, hxs] at h
        cases h

theorem exists_error_of_mapM {xs : List α} {e : ε} (h : xs.mapM f = .error e) : ∃ x ∈ xs, f x = .error e := by
  obtain ⟨before, x, after, rfl, -, hx⟩ := exists_first_error_of_mapM h
  exact ⟨x, List.mem_append_right _ List.mem_cons_self, hx⟩

end

end SenderPolicy
