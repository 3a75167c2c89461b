import Mathlib.Data.List.Nodup
import SenderPolicy.Address.Printer
import SenderPolicy.Proofs.Pieces

/-! The shortest text of an address reads as its bits. Between colons it has the groups in hexadecimal digits,
apart from one run of zeros, and the reader fills the gap up with just these. A text with a percent sign, as a
scoped address has, never reads as groups. -/

namespace SenderPolicy

open Text

/-! ### Digits -/

namespace Text

variable {base : Nat} (hb : 1 < base)
include hb

theorem exists_digit_of_mem_toDigits {n : Nat} :
    ∀ c ∈ Nat.toDigits base n, ∃ d < base, c = Nat.digitChar d := by
  induction n using Nat.strongRecOn with
  | _ n ih =>
    rw [Nat.toDigits_eq_if hb]
    intro c hc
    split at hc
    · rename_i h
      exact ⟨n, h, List.mem_singleton.mp hc⟩
    · rcases List.mem_append.mp hc with hc | hc
      · exact ih (n / base) (Nat.div_lt_self (by omega) hb) c hc
      · exact ⟨n % base, Nat.mod_lt _ (by omega), List.mem_singleton.mp hc⟩

/-- The digits of a number give it back, if each of them has its value. -/
theorem foldl_toDigits {value : Char → Option Nat} (hv : ∀ d < base, value (Nat.digitChar d) = some d) (n : Nat) :
    ((Nat.toDigits base n).filterMap value).foldl (fun n d => base * n + d) 0 = n := by
  induction n using Nat.strongRecOn with
  | _ n ih =>
    rw [Nat.toDigits_eq_if hb]
    split
    · rename_i h
      simp [hv n h]
    · rw [List.filterMap_append, List.foldl_append, ih (n / base) (Nat.div_lt_self (by omega) hb), List.filterMap_cons,
        hv _ (Nat.mod_lt n (by omega))]
      exact Nat.div_add_mod n base

end Text

namespace Address

/-! ### Hexadecimal groups -/

theorem hexDigit?_digitChar : ∀ d < 16, hexDigit? (Nat.digitChar d) = some d := by decide

theorem hexadecimal_one (n : Nat) : hexadecimal 1 n = Nat.toDigits 16 n := by
  have : 0 < (Nat.toDigits 16 n).length := Nat.length_toDigits_pos
  show List.replicate (1 - (Nat.toDigits 16 n).length) '0' ++ Nat.toDigits 16 n = _
  rw [show 1 - (Nat.toDigits 16 n).length = 0 by omega]
  rfl

theorem hexDigit?_of_mem_toDigits {n : Nat} : ∀ c ∈ Nat.toDigits 16 n, (hexDigit? c).isSome := by
  intro c hc
  obtain ⟨d, hd, rfl⟩ := exists_digit_of_mem_toDigits (by decide) c hc
  rw [hexDigit?_digitChar d hd]
  rfl

theorem readGroup_hexadecimal {n : Nat} (h : n < 65536) : readGroup (hexadecimal 1 n) = .ok n := by
  have digits : (Nat.toDigits 16 n).all (hexDigit? · |>.isSome) = true :=
    List.all_eq_true.mpr hexDigit?_of_mem_toDigits
  have short : (Nat.toDigits 16 n).length ≤ 4 := (Nat.length_toDigits_le_iff (by decide) (by decide)).mpr h
  unfold readGroup
  rw [hexadecimal_one, digits, if_neg (by simp), if_neg (by omega), foldl_toDigits (by decide) hexDigit?_digitChar]

theorem mem_hexadecimal {n : Nat} {c : Char} (h : c ∈ hexadecimal 1 n) : c ≠ ':' ∧ c ≠ '.' := by
  rw [hexadecimal_one] at h
  have digit := hexDigit?_of_mem_toDigits c h
  constructor <;>
  · rintro rfl
    simp [hexDigit?] at digit

theorem hexadecimal_ne_nil (n : Nat) : hexadecimal 1 n ≠ [] := by
  rw [hexadecimal_one]
  exact Nat.toDigits_ne_nil

/-! ### Groups -/

theorem length_groups (bits : BitVec 128) : (groups bits).length = 8 := by simp [groups]

theorem lt_of_mem_groups {bits : BitVec 128} : ∀ group ∈ groups bits, group < 65536 := by
  intro group h
  obtain ⟨i, -, rfl⟩ := List.mem_map.mp h
  exact Nat.mod_lt _ (by decide)

theorem foldl_range_groups (bits : BitVec 128) : ∀ k ≤ 8,
    ((List.range k).map fun i => bits.toNat >>> (16 * (7 - i)) % 65536).foldl (fun n group => 65536 * n + group) 0 =
      bits.toNat >>> (16 * (8 - k))
  | 0, _ => (Nat.shiftRight_eq_zero _ _ bits.isLt).symm
  | k + 1, h => by
    rw [List.range_succ, List.map_append, List.foldl_append, foldl_range_groups bits k (by omega),
      show 16 * (8 - k) = 16 * (7 - k) + 16 by omega, show 8 - (k + 1) = 7 - k by omega, Nat.shiftRight_add]
    simp only [List.map_cons, List.map_nil, List.foldl_cons, List.foldl_nil]
    rw [Nat.shiftRight_eq_div_pow _ 16]
    exact Nat.div_add_mod (bits.toNat >>> (16 * (7 - k))) 65536

theorem foldl_groups (bits : BitVec 128) : (groups bits).foldl (fun n group => 65536 * n + group) 0 = bits.toNat :=
  foldl_range_groups bits 8 (by decide)

/-! ### The gap -/

/-- Groups that are all zero, from a start on. -/
structure ZeroRun (groups : List Nat) (run : Nat × Nat) : Prop where
  fits : run.1 + run.2 ≤ groups.length
  zeros : (groups.drop run.1).take run.2 = List.replicate run.2 0

theorem zeroRun_longest (groups : List Nat) : ZeroRun groups (longestZeroRun groups) := by
  unfold longestZeroRun
  refine List.foldlRecOn _ _ ⟨Nat.zero_le _, by simp⟩ fun best hb i hi => ?_
  have hi := List.mem_range.mp hi
  dsimp only
  split
  · refine ⟨?_, ?_⟩
    · have := (List.takeWhile_prefix (· == 0) (l := groups.drop i)).length_le
      rw [List.length_drop] at this
      dsimp only
      omega
    · dsimp only
      rw [← List.prefix_iff_eq_take.mp (List.takeWhile_prefix _), List.eq_replicate_iff]
      exact ⟨rfl, fun group hg => beq_iff_eq.mp (List.all_eq_true.mp List.all_takeWhile group hg)⟩
  · exact hb

theorem ZeroRun.groups_eq {groups : List Nat} {run : Nat × Nat} (h : ZeroRun groups run) :
    groups.take run.1 ++ List.replicate run.2 0 ++ groups.drop (run.1 + run.2) = groups := by
  rw [← h.zeros, ← List.drop_drop, List.append_assoc, List.take_append_drop, List.take_append_drop]

theorem gaps_eq_nil {parts : List (List Char)} (h : ∀ part ∈ parts, part ≠ []) : gaps parts = [] := by
  refine List.filter_eq_nil_iff.mpr fun i hi => ?_
  have hi := List.mem_range.mp hi
  have := h parts[i] (List.getElem_mem hi)
  simp [List.getElem?_eq_getElem hi, this]

/-- The parts to which some parts are cut that may be none. -/
def orBlank (parts : List (List Char)) : List (List Char) := if parts = [] then [[]] else parts

theorem orBlank_ne_nil (parts : List (List Char)) : orBlank parts ≠ [] := by
  unfold orBlank
  split <;> simp_all

theorem ne_nil_of_mem_orBlank {parts : List (List Char)} (h : ∀ part ∈ parts, part ≠ []) (hl : 1 < (orBlank parts).length) :
    ∀ part ∈ orBlank parts, part ≠ [] := by
  unfold orBlank at hl ⊢
  split at hl
  · simp at hl
  · rename_i hp
    rw [if_neg hp]
    exact h

/-- The only gap is the one between the parts in front of it and those behind it. -/
theorem gaps_orBlank {front back : List (List Char)} (hf : ∀ part ∈ front, part ≠ []) (hb : ∀ part ∈ back, part ≠ []) :
    gaps (orBlank front ++ [] :: orBlank back) = [(orBlank front).length] := by
  have some : 0 < (orBlank front).length := List.length_pos_iff.mpr (orBlank_ne_nil front)
  have some' : 0 < (orBlank back).length := List.length_pos_iff.mpr (orBlank_ne_nil back)
  have full := ne_nil_of_mem_orBlank hf
  have full' := ne_nil_of_mem_orBlank hb
  -- a gap is an empty part that is neither the first nor the last, and blanks stand only there
  generalize orBlank front = front at some full
  generalize orBlank back = back at some' full'
  have only : ∀ i < (front ++ [] :: back).length,
      (0 < i && i + 1 < (front ++ [] :: back).length && ((front ++ [] :: back)[i]?.getD []).isEmpty) =
        (i == front.length) := by
    intro i hi
    rw [List.length_append, List.length_cons] at hi ⊢
    rcases Nat.lt_trichotomy i front.length with h | rfl | h
    · rw [List.getElem?_append_left h, List.getElem?_eq_getElem h, beq_false_of_ne (Nat.ne_of_lt h)]
      by_cases h0 : 0 < i
      · simp [full (by omega) front[i] (List.getElem_mem h)]
      · simp [h0]
    · simp [some, some']
    · obtain ⟨j, rfl⟩ : ∃ j, i = front.length + (j + 1) := ⟨i - front.length - 1, by omega⟩
      have hj : j < back.length := by omega
      rw [List.getElem?_append_right (by omega), Nat.add_sub_cancel_left, List.getElem?_cons_succ,
        List.getElem?_eq_getElem hj, beq_false_of_ne (by omega)]
      by_cases last : j + 1 < back.length
      · simp [full' (by omega) back[j] (List.getElem_mem hj)]
      · simp only [Bool.and_eq_false_iff, decide_eq_false_iff_not]
        exact .inl (.inr (by omega))
  unfold gaps
  rw [List.filter_congr fun i hi => only i (List.mem_range.mp hi), List.filter_beq,
    List.count_eq_one_of_mem List.nodup_range (List.mem_range.mpr (by simp))]
  rfl

theorem filledGap_orBlank {front back : List (List Char)} (hf : ∀ part ∈ front, part ≠ [])
    (hb : ∀ part ∈ back, part ≠ []) (h : front.length + back.length ≤ 7) :
    filledGap (orBlank front ++ [] :: orBlank back) (orBlank front).length =
      .ok (front ++ List.replicate (8 - (front.length + back.length)) ['0'] ++ back) := by
  have opens : (orBlank front).head?.any (·.isEmpty) = front.isEmpty := by
    cases front with
    | nil => rfl
    | cons part rest => simpa [orBlank] using hf part List.mem_cons_self
  have closes : (orBlank back).getLast?.any (·.isEmpty) = back.isEmpty := by
    by_cases hn : back = []
    · rw [hn]
      rfl
    · rw [orBlank, if_neg hn, List.getLast?_eq_some_getLast hn, List.isEmpty_eq_false_iff.mpr hn]
      simpa using hb _ (List.getLast_mem hn)
  have high : (orBlank front ++ [] :: orBlank back).take (orBlank front).length = orBlank front := by simp
  have low : (orBlank front ++ [] :: orBlank back).drop ((orBlank front).length + 1) = orBlank back := by
    simp [List.drop_append]
  have unopened : (if front.isEmpty then [] else orBlank front) = front := by
    cases front <;> rfl
  have unclosed : (if back.isEmpty then [] else orBlank back) = back := by
    cases back <;> rfl
  have single : (front.isEmpty && decide ((orBlank front).length > 1)) = false := by
    cases front <;> rfl
  have single' : (back.isEmpty && decide ((orBlank back).length > 1)) = false := by
    cases back <;> rfl
  unfold filledGap
  dsimp only
  -- a blank end always stands alone, so no part is lost with it
  rw [high, low, opens, closes, single, single', unopened, unclosed, if_neg (by simp), if_neg (by simp), if_neg (by omega)]

/-! ### Reading what is printed -/

theorem mem_texts {groups : List Nat} : ∀ part ∈ groups.map (hexadecimal 1), part ≠ [] ∧ ∀ c ∈ part, c ≠ ':' ∧ c ≠ '.' := by
  intro part h
  obtain ⟨group, -, rfl⟩ := List.mem_map.mp h
  exact ⟨hexadecimal_ne_nil group, fun c hc => mem_hexadecimal hc⟩

theorem pieces_joined_texts (groups : List Nat) :
    pieces (· == ':') (joined [':'] (groups.map (hexadecimal 1))) = orBlank (groups.map (hexadecimal 1)) :=
  pieces_joined rfl fun part hp c hc => beq_false_of_ne ((mem_texts part hp).2 c hc).1

/-- The parts of the shortest text: all groups, or those in front of the longest run of zeros and those behind it. -/
theorem pieces_compressed (bits : BitVec 128) :
    pieces (· == ':') (compressed bits) = (groups bits).map (hexadecimal 1) ∨
      ∃ front back, front.length + back.length ≤ 6 ∧
        front ++ List.replicate (8 - (front.length + back.length)) 0 ++ back = groups bits ∧
        pieces (· == ':') (compressed bits) =
          orBlank (front.map (hexadecimal 1)) ++ [] :: orBlank (back.map (hexadecimal 1)) := by
  obtain ⟨fits, zeros⟩ := zeroRun_longest (groups bits)
  have whole := (zeroRun_longest (groups bits)).groups_eq
  unfold compressed
  generalize longestZeroRun (groups bits) = run at fits zeros whole
  obtain ⟨start, length⟩ := run
  rw [length_groups] at fits
  dsimp only at fits whole ⊢
  split
  · left
    rw [pieces_joined_texts, orBlank, if_neg]
    intro h
    have := congrArg List.length h
    simp [length_groups] at this
  · right
    refine ⟨(groups bits).take start, (groups bits).drop (start + length), ?_, ?_, ?_⟩
    · rw [List.length_take, List.length_drop, length_groups]
      omega
    · rw [List.length_take, List.length_drop, length_groups, show 8 - (min start 8 + (8 - (start + length))) = length by omega]
      exact whole
    · -- two colons stand behind each other, so a blank part is between them
      rw [← List.map_take, ← List.map_drop, List.append_assoc]
      show pieces _ (_ ++ ':' :: ([] ++ ':' :: _)) = _
      rw [pieces_append_cons rfl, pieces_joined_texts]
      exact congrArg _ ((pieces_append_cons rfl [] _).trans (congrArg ([[]] ++ ·) (pieces_joined_texts _)))

theorem eightParts_compressed (bits : BitVec 128) :
    eightParts (pieces (· == ':') (compressed bits)) = .ok ((groups bits).map (hexadecimal 1)) := by
  have texts : ∀ groups : List Nat, ∀ part ∈ groups.map (hexadecimal 1), part ≠ [] := fun _ part hp => (mem_texts part hp).1
  rcases pieces_compressed bits with h | ⟨front, back, few, whole, h⟩
  · have length : ((groups bits).map (hexadecimal 1)).length = 8 := by rw [List.length_map, length_groups]
    have nonempty := texts (groups bits)
    rw [h]
    generalize (groups bits).map (hexadecimal 1) = parts at length nonempty
    have ne : parts ≠ [] := by
      rintro rfl
      cases length
    unfold eightParts
    rw [gaps_eq_nil nonempty, List.head?_eq_some_head ne, List.getLast?_eq_some_getLast ne]
    simp [length, nonempty _ (List.head_mem ne), nonempty _ (List.getLast_mem ne)]
  · unfold eightParts
    rw [h, gaps_orBlank (texts front) (texts back)]
    dsimp only
    rw [filledGap_orBlank (texts front) (texts back) (by rw [List.length_map, List.length_map]; omega), ← whole]
    simp [show hexadecimal 1 0 = ['0'] by decide]

theorem mapM_readGroup : ∀ {groups : List Nat}, (∀ group ∈ groups, group < 65536) →
    (groups.map (hexadecimal 1)).mapM readGroup = .ok groups
  | [], _ => rfl
  | group :: rest, h => by
    rw [List.map_cons, List.mapM_cons, readGroup_hexadecimal (h group List.mem_cons_self),
      mapM_readGroup fun other ho => h other (List.mem_cons_of_mem _ ho)]
    rfl

theorem orBlank_length (parts : List (List Char)) :
    0 < (orBlank parts).length ∧ (orBlank parts).length ≤ parts.length + 1 := by
  unfold orBlank
  split
  · simp
  · rename_i h
    exact ⟨List.length_pos_iff.mpr h, Nat.le_succ _⟩

theorem parts_compressed (bits : BitVec 128) :
    3 ≤ (pieces (· == ':') (compressed bits)).length ∧ (pieces (· == ':') (compressed bits)).length ≤ 9 ∧
      ∀ part ∈ pieces (· == ':') (compressed bits), part.contains '.' = false := by
  have undotted : ∀ groups : List Nat, ∀ part ∈ orBlank (groups.map (hexadecimal 1)), part.contains '.' = false := by
    intro groups part hp
    unfold orBlank at hp
    split at hp
    · rw [List.mem_singleton.mp hp]
      rfl
    · exact Bool.eq_false_iff.mpr fun h => ((mem_texts part hp).2 '.' (List.contains_iff_mem.mp h)).2 rfl
  rcases pieces_compressed bits with h | ⟨front, back, few, -, h⟩
  · have length : ((groups bits).map (hexadecimal 1)).length = 8 := by rw [List.length_map, length_groups]
    have ne : (groups bits).map (hexadecimal 1) ≠ [] := by
      intro hn
      rw [hn] at length
      cases length
    have all := undotted (groups bits)
    rw [orBlank, if_neg ne] at all
    rw [h, length]
    exact ⟨by decide, by decide, all⟩
  · have hf := orBlank_length (front.map (hexadecimal 1))
    have hb := orBlank_length (back.map (hexadecimal 1))
    rw [List.length_map] at hf hb
    rw [h, List.length_append, List.length_cons]
    refine ⟨by omega, by omega, fun part hp => ?_⟩
    rcases List.mem_append.mp hp with hp | hp
    · exact undotted front part hp
    · rcases List.mem_cons.mp hp with rfl | hp
      · rfl
      · exact undotted back part hp

/-- The shortest text of an address reads as its bits. -/
theorem readGroups_compressed (bits : BitVec 128) : readGroups (compressed bits) = .ok bits := by
  obtain ⟨many, few, undotted⟩ := parts_compressed bits
  have eight := eightParts_compressed bits
  have nonempty : (compressed bits).isEmpty = false := by
    cases h : compressed bits with
    | nil =>
      rw [h] at many
      exact absurd many (by decide)
    | cons c rest => rfl
  unfold readGroups
  rw [nonempty]
  generalize pieces (· == ':') (compressed bits) = parts at many few undotted eight
  have ne : parts ≠ [] := by
    rintro rfl
    exact absurd many (by decide)
  have tail : withoutDottedTail parts = .ok parts := by
    unfold withoutDottedTail
    rw [List.getLast?_eq_some_getLast ne]
    dsimp only
    rw [undotted _ (List.getLast_mem ne)]
    rfl
  have read : readParts parts = .ok bits := by
    unfold readParts
    rw [if_neg (by omega), tail]
    dsimp only [bind, Except.bind]
    rw [if_neg (by omega), eight]
    dsimp only
    rw [mapM_readGroup lt_of_mem_groups]
    dsimp only
    rw [foldl_groups, BitVec.ofNat_toNat, BitVec.setWidth_eq]
    rfl
  rw [read]
  rfl

/-! ### Scoped addresses -/

theorem all_asciiDigit_of_readOctet {s : List Char} {n : Nat} (h : readOctet s = .ok n) :
    s.all (asciiDigit? · |>.isSome) = true := by
  unfold readOctet at h
  split at h
  · cases h
  · split at h
    · cases h
    · rename_i hd
      simpa only [Bool.not_eq_true', Bool.not_eq_false] using hd

theorem all_hexDigit_of_readGroup {s : List Char} {n : Nat} (h : readGroup s = .ok n) :
    s.all (hexDigit? · |>.isSome) = true := by
  unfold readGroup at h
  split at h
  · cases h
  · rename_i hd
    simpa only [Bool.not_eq_true', Bool.not_eq_false] using hd

theorem mem_of_readDotted {s : List Char} {bits : BitVec 32} (h : readDotted s = .ok bits) :
    ∀ c ∈ s, c = '.' ∨ (asciiDigit? c).isSome := by
  intro c hc
  refine or_iff_not_imp_left.mpr fun dot => ?_
  obtain ⟨octet, hm, hc⟩ := exists_mem_pieces_iff (p := (· == '.')).mpr ⟨hc, beq_false_of_ne dot⟩
  unfold readDotted at h
  dsimp only at h
  split at h
  · cases h
  · split at h
    · cases h
    · split at h
      · cases h
      · rename_i values hv
        obtain ⟨n, -, hn⟩ := exists_ok_of_mapM hv octet hm
        exact List.all_eq_true.mp (all_asciiDigit_of_readOctet hn) c hc

theorem percent_not_mem_of_readDotted {s : List Char} {bits : BitVec 32} (h : readDotted s = .ok bits) : '%' ∉ s := fun hp =>
  absurd (mem_of_readDotted h '%' hp) (by decide)

theorem percent_mem_withoutDottedTail {parts parts' : List (List Char)} (h : withoutDottedTail parts = .ok parts')
    {part : List Char} (hm : part ∈ parts) (hc : '%' ∈ part) : part ∈ parts' := by
  unfold withoutDottedTail at h
  have ne : parts ≠ [] := List.ne_nil_of_mem hm
  rw [List.getLast?_eq_some_getLast ne] at h
  dsimp only at h
  split at h
  · split at h
    · cases h
    · rename_i bits hd
      cases h
      rw [← List.dropLast_append_getLast ne, List.mem_append, List.mem_singleton] at hm
      rcases hm with hm | rfl
      · exact List.mem_append_left _ hm
      · exact absurd hc (percent_not_mem_of_readDotted hd)
  · cases h
    exact hm

/-- A part that is not blank is kept where a blank end is dropped, since that end stands alone. -/
theorem mem_unless_blank {parts : List (List Char)} {edge : Option (List Char)} (he : ∀ part ∈ edge, part ∈ parts)
    (h : ¬ (edge.any (·.isEmpty) && decide (parts.length > 1)) = true) {part : List Char} (hm : part ∈ parts)
    (hne : part ≠ []) : part ∈ if edge.any (·.isEmpty) then [] else parts := by
  split
  · rename_i blank
    cases edge with
    | none => cases blank
    | some last =>
      have short : parts.length ≤ 1 := by
        rw [blank] at h
        simpa using h
      have hl := he last rfl
      obtain ⟨only, rfl⟩ : ∃ only, parts = [only] :=
        List.length_eq_one_iff.mp (Nat.le_antisymm short (List.length_pos_of_mem hm))
      rw [List.mem_singleton] at hm hl
      rw [hm, ← hl] at hne
      exact absurd (List.isEmpty_iff.mp blank) hne
  · exact hm

theorem mem_filledGap {parts parts' : List (List Char)} {gap : Nat} (h : filledGap parts gap = .ok parts')
    (hg : parts[gap]?.getD [] = []) {part : List Char} (hm : part ∈ parts) (hne : part ≠ []) : part ∈ parts' := by
  have sides : part ∈ parts.take gap ∨ part ∈ parts.drop (gap + 1) := by
    obtain ⟨i, hi, rfl⟩ := List.mem_iff_getElem.mp hm
    rcases Nat.lt_trichotomy i gap with hlt | rfl | hlt
    · exact .inl (List.mem_take_iff_getElem.mpr ⟨i, by omega, rfl⟩)
    · rw [List.getElem?_eq_getElem hi] at hg
      exact absurd hg hne
    · refine .inr (List.mem_drop_iff_getElem.mpr ⟨i - (gap + 1), by omega, ?_⟩)
      simp [show gap + 1 + (i - (gap + 1)) = i by omega]
  unfold filledGap at h
  generalize parts.take gap = high at h sides
  generalize parts.drop (gap + 1) = low at h sides
  dsimp only at h
  by_cases opens : (high.head?.any (·.isEmpty) && decide (high.length > 1)) = true
  · rw [if_pos opens] at h
    cases h
  rw [if_neg opens] at h
  by_cases closes : (low.getLast?.any (·.isEmpty) && decide (low.length > 1)) = true
  · rw [if_pos closes] at h
    cases h
  rw [if_neg closes] at h
  have kept : part ∈ (if high.head?.any (·.isEmpty) then [] else high) ∨
      part ∈ (if low.getLast?.any (·.isEmpty) then [] else low) := by
    rcases sides with hp | hp
    · exact .inl (mem_unless_blank (fun _ => List.mem_of_mem_head?) opens hp hne)
    · exact .inr (mem_unless_blank (fun _ => List.mem_of_mem_getLast?) closes hp hne)
  generalize (if high.head?.any (·.isEmpty) then [] else high) = high' at h kept
  generalize (if low.getLast?.any (·.isEmpty) then [] else low) = low' at h kept
  split at h
  · cases h
  · cases h
    rcases kept with hp | hp
    · exact List.mem_append_left _ (List.mem_append_left _ hp)
    · exact List.mem_append_right _ hp

theorem mem_eightParts {parts parts' : List (List Char)} (h : eightParts parts = .ok parts') {part : List Char}
    (hm : part ∈ parts) (hne : part ≠ []) : part ∈ parts' := by
  unfold eightParts at h
  split at h
  · split at h
    · cases h
    · split at h
      · cases h
      · split at h
        · cases h
        · cases h
          exact hm
  · rename_i gap hg
    refine mem_filledGap h ?_ hm hne
    have := (List.mem_filter.mp (hg ▸ List.mem_singleton_self gap : gap ∈ gaps parts)).2
    simp only [Bool.and_eq_true, List.isEmpty_iff] at this
    exact this.2
  · cases h

theorem readParts_of_percent {parts : List (List Char)} {part : List Char} (hm : part ∈ parts) (hc : '%' ∈ part) :
    ∃ e, readParts parts = .error e := by
  unfold readParts
  split
  · exact ⟨_, rfl⟩
  · dsimp only
    cases ht : withoutDottedTail parts with
    | error e => exact ⟨e, rfl⟩
    | ok parts' =>
      dsimp only [bind, Except.bind]
      split
      · exact ⟨_, rfl⟩
      · cases h8 : eightParts parts' with
        | error e => exact ⟨e, rfl⟩
        | ok groups =>
          dsimp only
          split
          · exact ⟨_, rfl⟩
          · rename_i values hv
            have kept := mem_eightParts h8 (percent_mem_withoutDottedTail ht hm hc) (List.ne_nil_of_mem hc)
            obtain ⟨n, -, hn⟩ := exists_ok_of_mapM hv part kept
            exact absurd (List.all_eq_true.mp (all_hexDigit_of_readGroup hn) '%' hc) (by decide)

theorem readGroups_of_percent {s : List Char} (h : '%' ∈ s) : ∃ e, readGroups s = .error e := by
  obtain ⟨part, hm, hc⟩ := exists_mem_pieces_iff (p := (· == ':')).mpr ⟨h, rfl⟩
  obtain ⟨e, he⟩ := readParts_of_percent hm hc
  unfold readGroups
  rw [he]
  split <;> exact ⟨_, rfl⟩

/-- The address has a scope, which names a link. -/
def IsScoped : Address → Prop
  | v6 _ (some _) => True
  | _ => False

/-- Macros write the hexadecimal digits of an address without a scope. -/
theorem macroText_unscoped (bits : BitVec 128) :
    (v6 bits none).macroText = .ok (String.ofList (joined ['.'] ((nibbles bits).map ([·])))) := by
  have read : readGroups (v6 bits none).text.toList = .ok bits := by
    rw [text, String.toList_ofList]
    exact readGroups_compressed bits
  simp [macroText, read, Except.map]

/-- Macros can write every address but a scoped one. -/
theorem macroText_error_iff {address : Address} : (∃ e, address.macroText = .error e) ↔ address.IsScoped := by
  rcases address with bits | ⟨bits, _ | scope⟩
  · simp [macroText, IsScoped]
  · simp [macroText_unscoped, IsScoped]
  · obtain ⟨e, he⟩ : ∃ e, readGroups (v6 bits (some scope)).text.toList = .error e := by
      refine readGroups_of_percent ?_
      rw [text, String.toList_ofList]
      exact List.mem_append_right _ List.mem_cons_self
    simp [macroText, IsScoped, he, Except.map]

/-! ### Whole addresses -/

theorem readOctet_toString : ∀ octet < 256, readOctet (toString octet).toList = .ok octet := by decide +kernel

theorem lt_of_mem_octets {bits : BitVec 32} : ∀ octet ∈ octets bits, octet < 256 := by
  have := bits.isLt
  simp only [octets, List.mem_cons, List.not_mem_nil, or_false, forall_eq_or_imp, forall_eq]
  omega

theorem foldl_octets (bits : BitVec 32) : (octets bits).foldl (fun n octet => 256 * n + octet) 0 = bits.toNat := by
  simp only [octets, List.foldl_cons, List.foldl_nil]
  omega

theorem mapM_readOctet {octets : List Nat} (h : ∀ octet ∈ octets, octet < 256) :
    (octets.map fun octet => (toString octet).toList).mapM readOctet = .ok octets := by
  rw [mapM_ok_iff, List.forall₂_map_left_iff, List.forall₂_same]
  exact fun octet ho => readOctet_toString octet (h octet ho)

theorem dot_not_mem_octet {bits : BitVec 32} : ∀ octet ∈ (octets bits).map fun octet => (toString octet).toList, '.' ∉ octet := by
  intro part hp dot
  obtain ⟨octet, ho, rfl⟩ := List.mem_map.mp hp
  have digits := all_asciiDigit_of_readOctet (readOctet_toString octet (lt_of_mem_octets octet ho))
  exact absurd (List.all_eq_true.mp digits '.' dot) (by decide)

/-- Four octets between dots read as the bits that they are printed from. -/
theorem readDotted_dotted (bits : BitVec 32) : readDotted (dotted bits) = .ok bits := by
  have cut : pieces (· == '.') (dotted bits) = (octets bits).map fun octet => (toString octet).toList :=
    pieces_joined_of_not_mem dot_not_mem_octet (List.cons_ne_nil _ _)
  have nonempty : (dotted bits).isEmpty = false := by
    cases h : dotted bits with
    | nil =>
      rw [h] at cut
      exact absurd (congrArg List.length cut) (by simp [pieces, octets])
    | cons c rest => rfl
  unfold readDotted
  dsimp only
  rw [nonempty, cut, mapM_readOctet lt_of_mem_octets, if_neg (by simp), if_neg (by simp [octets])]
  dsimp only
  rw [foldl_octets, BitVec.ofNat_toNat, BitVec.setWidth_eq]

theorem colon_mem_compressed (bits : BitVec 128) : ':' ∈ compressed bits := by
  by_contra absent
  have single : pieces (· == ':') (compressed bits) = [compressed bits] := pieces_of_not_mem absent
  have many := (parts_compressed bits).1
  rw [single, List.length_singleton] at many
  exact absurd many (by decide)

/-- Groups are printed in hexadecimal digits, with colons between them. -/
theorem mem_compressed {bits : BitVec 128} {c : Char} (h : c ∈ compressed bits) : c = ':' ∨ (hexDigit? c).isSome := by
  refine or_iff_not_imp_left.mpr fun colon => ?_
  obtain ⟨part, hm, hc⟩ := exists_mem_pieces_iff (p := (· == ':')).mpr ⟨h, beq_false_of_ne colon⟩
  have digits : ∀ groups : List Nat, ∀ part ∈ orBlank (groups.map (hexadecimal 1)), c ∈ part → (hexDigit? c).isSome := by
    intro groups part hp hc
    unfold orBlank at hp
    split at hp
    · rw [List.mem_singleton.mp hp] at hc
      cases hc
    · obtain ⟨group, -, rfl⟩ := List.mem_map.mp hp
      rw [hexadecimal_one] at hc
      exact hexDigit?_of_mem_toDigits c hc
  rcases pieces_compressed bits with h | ⟨front, back, -, -, h⟩
  · rw [h] at hm
    obtain ⟨group, -, rfl⟩ := List.mem_map.mp hm
    rw [hexadecimal_one] at hc
    exact hexDigit?_of_mem_toDigits c hc
  · rw [h] at hm
    rcases List.mem_append.mp hm with hm | hm
    · exact digits front part hm hc
    · rcases List.mem_cons.mp hm with rfl | hm
      · cases hc
      · exact digits back part hm hc

theorem percent_not_mem_compressed (bits : BitVec 128) : '%' ∉ compressed bits := fun h =>
  (mem_compressed h).elim (by decide) (by decide)

/-- Groups are never read as octets, whatever follows them. -/
theorem readDotted_of_colon {s : List Char} (h : ':' ∈ s) : ∃ e, readDotted s = .error e := by
  cases hr : readDotted s with
  | error e => exact ⟨e, rfl⟩
  | ok bits => exact absurd (mem_of_readDotted hr ':' h) (by decide)

/-- A scope that is read stands behind a percent sign, holds no other, and is not empty. -/
theorem scope_of_readScoped {s : List Char} {bits : BitVec 128} {scope : String}
    (h : readScoped s = some (v6 bits (some scope))) :
    scope.toList.isEmpty = false ∧ scope.toList.contains '%' = false ∧ ∀ c ∈ scope.toList, c ∈ s := by
  unfold readScoped at h
  split at h
  · obtain ⟨_, -, h⟩ := Option.map_eq_some_iff.mp h
    cases h
  · rename_i groups tail hcut
    split at h
    · cases h
    · rename_i proper
      obtain ⟨_, -, h⟩ := Option.map_eq_some_iff.mp h
      cases h
      rw [String.toList_ofList]
      rw [Bool.or_eq_true, not_or, Bool.not_eq_true, Bool.not_eq_true] at proper
      exact ⟨proper.1, proper.2, fun c hc => mem_of_cutFirst hcut hc⟩

theorem slash_not_mem_compressed (bits : BitVec 128) : '/' ∉ compressed bits := fun h =>
  (mem_compressed h).elim (by decide) (by decide)

theorem slash_not_mem_dotted (bits : BitVec 32) : '/' ∉ dotted bits := fun h =>
  absurd (mem_of_readDotted (readDotted_dotted bits) '/' h) (by decide)

/-- A text with a colon writes groups if it writes an address. -/
theorem ofChars?_of_colon {s : List Char} (colon : ':' ∈ s) (slash : '/' ∉ s) : ofChars? s = readScoped s := by
  obtain ⟨e, he⟩ := readDotted_of_colon colon
  unfold ofChars?
  rw [if_neg (mt List.contains_iff_mem.mp slash), he]

theorem readScoped_of_ofText? {s : String} {bits : BitVec 128} {scope : Option String} (h : ofText? s = some (v6 bits scope)) :
    readScoped s.toList = some (v6 bits scope) := by
  unfold ofText? ofChars? at h
  split at h
  · cases h
  · split at h
    · cases h
    · exact h

theorem slash_not_mem_of_ofText? {s : String} {address : Address} (h : ofText? s = some address) : '/' ∉ s.toList := by
  unfold ofText? ofChars? at h
  split at h
  · cases h
  · rename_i unslashed
    exact mt List.contains_iff_mem.mpr unslashed

/-- The text of an address without a scope writes the address. -/
theorem ofText?_text_of_unscoped {address : Address} (h : ¬ address.IsScoped) : ofText? address.text = some address := by
  unfold ofText?
  rcases address with bits | ⟨bits, _ | scope⟩
  · unfold ofChars?
    rw [text, String.toList_ofList, if_neg (mt List.contains_iff_mem.mp (slash_not_mem_dotted bits)), readDotted_dotted]
  · rw [text, String.toList_ofList, ofChars?_of_colon (colon_mem_compressed bits) (slash_not_mem_compressed bits), readScoped,
      cutFirst_of_not_mem (percent_not_mem_compressed bits), readGroups_compressed]
    rfl
  · exact absurd trivial h

/-- Whatever address a text writes, its own text writes it too. -/
theorem ofText?_text {s : String} {address : Address} (h : ofText? s = some address) : ofText? address.text = some address := by
  rcases address with bits | ⟨bits, _ | scope⟩
  · exact ofText?_text_of_unscoped nofun
  · exact ofText?_text_of_unscoped nofun
  · obtain ⟨nonempty, single, held⟩ := scope_of_readScoped (readScoped_of_ofText? h)
    have colon : ':' ∈ compressed bits ++ '%' :: scope.toList := List.mem_append_left _ (colon_mem_compressed bits)
    have slash : '/' ∉ compressed bits ++ '%' :: scope.toList := by
      rw [List.mem_append, List.mem_cons]
      rintro (slash | slash | slash)
      · exact slash_not_mem_compressed bits slash
      · exact absurd slash (by decide)
      · exact slash_not_mem_of_ofText? h (held '/' slash)
    unfold ofText?
    rw [text, String.toList_ofList, ofChars?_of_colon colon slash, readScoped, cutFirst_append (percent_not_mem_compressed bits)]
    dsimp only
    rw [readGroups_compressed, nonempty, single, String.ofList_toList]
    rfl

end Address

end SenderPolicy
