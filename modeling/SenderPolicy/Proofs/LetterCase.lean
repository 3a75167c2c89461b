import SenderPolicy.Proofs.Accepted
import SenderPolicy.Proofs.Printed

/-! Texts up to letter case. Whether a text writes an address or is a domain name does not depend on the case of the letters
of ASCII in it, and names of ASCII that differ in nothing else are asked for under one name. -/

namespace SenderPolicy

open Text

namespace Text

/-- The text with the letters of ASCII in lower case. -/
def lowered (s : List Char) : List Char := s.map Char.toLower

/-- Two texts that differ at most in the case of letters of ASCII. -/
def Recased (s t : String) : Prop := lowered s.toList = lowered t.toList

/-- A character of ASCII. -/
def IsAscii (c : Char) : Prop := c.toNat < 128

instance (s t : String) : Decidable (Recased s t) := inferInstanceAs (Decidable (_ = _))

instance (c : Char) : Decidable (IsAscii c) := inferInstanceAs (Decidable (_ < _))

/-! ### Characters -/

/-- What does not tell the cases of letters apart in ASCII never does. -/
theorem apply_toLower {α : Type} (f : Char → α) (table : ∀ n : Fin 128, f (Char.ofNat n).toLower = f (Char.ofNat n))
    (c : Char) : f c.toLower = f c := by
  by_cases ascii : c.toNat < 128
  · exact forall_ascii (p := fun c => f c.toLower = f c) table ascii
  · rw [toLower_of_not_ascii ascii]

theorem isAlpha_toLower (c : Char) : c.toLower.isAlpha = c.isAlpha := apply_toLower Char.isAlpha (by decide) c

theorem hexDigit?_toLower (c : Char) : Address.hexDigit? c.toLower = Address.hexDigit? c :=
  apply_toLower Address.hexDigit? (by decide) c

theorem asciiDigit?_toLower (c : Char) : asciiDigit? c.toLower = asciiDigit? c :=
  apply_toLower asciiDigit? (by decide) c

theorem toLower_of_asciiDigit {c : Char} (h : (asciiDigit? c).isSome) : c.toLower = c := by
  by_cases ascii : c.toNat < 128
  · exact forall_ascii (p := fun c => (asciiDigit? c).isSome → c.toLower = c) (by decide) ascii h
  · exact toLower_of_not_ascii ascii

/-- Case is a matter of letters. -/
theorem toLower_of_not_isAlpha {c : Char} (h : c.isAlpha = false) : c.toLower = c := by
  by_cases ascii : c.toNat < 128
  · exact forall_ascii (p := fun c => c.isAlpha = false → c.toLower = c) (by decide) ascii h
  · exact toLower_of_not_ascii ascii

theorem toLower_eq_iff {c d : Char} (h : d.isAlpha = false) : c.toLower = d ↔ c = d := by
  constructor
  · rintro rfl
    rw [toLower_of_not_isAlpha (by rwa [isAlpha_toLower] at h)]
  · rintro rfl
    exact toLower_of_not_isAlpha h

theorem beq_toLower {d : Char} (h : d.isAlpha = false) (c : Char) : (c.toLower == d) = (c == d) := by
  rw [Bool.eq_iff_iff, beq_iff_eq, beq_iff_eq, toLower_eq_iff h]

/-- Characters of one lower case are the same or letters. -/
theorem eq_or_isAlpha_of_toLower_eq {c d : Char} (h : c.toLower = d.toLower) : c = d ∨ c.isAlpha ∧ d.isAlpha := by
  have same : c.isAlpha = d.isAlpha := by rw [← isAlpha_toLower c, h, isAlpha_toLower]
  cases hd : d.isAlpha with
  | true => exact .inr ⟨same.trans hd, rfl⟩
  | false =>
    rw [toLower_of_not_isAlpha hd, toLower_eq_iff hd] at h
    exact .inl h

/-! ### Cutting -/

section
variable {p : Char → Bool} {f : Char → Char} {c : Char}

theorem pieces_map (h : ∀ c, p (f c) = p c) (s : List Char) : pieces p (s.map f) = (pieces p s).map (List.map f) := by
  induction s with
  | nil => rfl
  | cons c s ih =>
    rw [List.map_cons, pieces, pieces, h, ih]
    split
    · rfl
    · obtain ⟨first, rest, hs⟩ := List.exists_cons_of_ne_nil (pieces_ne_nil p s)
      rw [hs]
      rfl

theorem dropTrailing_map (h : ∀ c, p (f c) = p c) (s : List Char) : dropTrailing p (s.map f) = (dropTrailing p s).map f := by
  unfold dropTrailing
  rw [← List.map_reverse, List.dropWhile_map, List.map_reverse, show p ∘ f = p from funext h]

theorem cutFirst_map (h : ∀ d, f d = c ↔ d = c) (s : List Char) :
    cutFirst c (s.map f) = (cutFirst c s).map fun (before, after) => (before.map f, after.map f) := by
  induction s with
  | nil => rfl
  | cons d s ih =>
    rw [List.map_cons, cutFirst, cutFirst, ih]
    by_cases hd : d = c
    · rw [if_pos hd, if_pos ((h d).mpr hd)]
      rfl
    · rw [if_neg hd, if_neg (mt (h d).mp hd)]
      cases cutFirst c s <;> rfl

theorem contains_map (h : ∀ d, f d = c ↔ d = c) (s : List Char) : (s.map f).contains c = s.contains c := by
  rw [Bool.eq_iff_iff, List.contains_iff_mem, List.contains_iff_mem, List.mem_map]
  exact ⟨fun ⟨d, hd, same⟩ => (h d).mp same ▸ hd, fun hc => ⟨c, hc, (h c).mpr rfl⟩⟩

theorem isEmpty_map (s : List Char) : (s.map f).isEmpty = s.isEmpty := by cases s <;> rfl

end

/-- If reading single elements does not look at the case of letters, neither does reading all of them. -/
theorem toOption_mapM_lowered {ε β : Type} {f : List Char → Except ε β}
    (h : ∀ s, (f (lowered s)).toOption = (f s).toOption) (parts : List (List Char)) :
    ((parts.map lowered).mapM f).toOption = (parts.mapM f).toOption := by
  induction parts with
  | nil => rfl
  | cons s parts ih =>
    rw [List.map_cons, List.mapM_cons, List.mapM_cons]
    have head := h s
    cases hs : f s <;> cases hl : f (lowered s) <;> rw [hs, hl] at head <;> cases head
    · rfl
    · cases hp : parts.mapM f <;> cases hq : (parts.map lowered).mapM f <;> rw [hp, hq] at ih <;> cases ih <;> rfl

theorem toOption_bind_lowered {ε β : Type} {x y : Except ε (List (List Char))} {f : List (List Char) → Except ε β}
    (h : x.toOption = y.toOption.map (List.map lowered)) (hf : ∀ parts, (f (parts.map lowered)).toOption = (f parts).toOption) :
    (x >>= f).toOption = (y >>= f).toOption := by
  cases x <;> cases y <;> cases h
  · rfl
  · exact hf _

theorem lowered_eq_self {s : List Char} (h : ∀ c ∈ s, c.toLower = c) : lowered s = s :=
  (List.map_congr_left h).trans (List.map_id s)

theorem lowered_hexadecimal (width n : Nat) : lowered (hexadecimal width n) = hexadecimal width n := by
  have digits : ∀ d < 16, (Nat.digitChar d).toLower = Nat.digitChar d := by decide
  refine lowered_eq_self fun c hc => ?_
  obtain ⟨d, hd, rfl⟩ := exists_digit_of_mem_hexadecimal hc
  exact digits d hd

end Text

/-! ### Addresses -/

namespace Address

theorem readOctet_lowered (s : List Char) : (readOctet (lowered s)).toOption = (readOctet s).toOption := by
  have digits : (lowered s).all (asciiDigit? · |>.isSome) = s.all (asciiDigit? · |>.isSome) := by
    unfold lowered
    rw [List.all_map]
    exact congrArg s.all (funext fun c => by rw [Function.comp_apply, asciiDigit?_toLower])
  cases hd : s.all (asciiDigit? · |>.isSome) with
  | true =>
    -- there are no letters in it
    have same : lowered s = s := lowered_eq_self fun c hc => toLower_of_asciiDigit (List.all_eq_true.mp hd c hc)
    rw [same]
  | false =>
    rw [hd] at digits
    unfold readOctet
    rw [hd, digits]
    simp only [Bool.not_false, if_true]
    split <;> split <;> rfl

theorem readDotted_lowered (s : List Char) : (readDotted (lowered s)).toOption = (readDotted s).toOption := by
  have octets : pieces (· == '.') (lowered s) = (pieces (· == '.') s).map lowered :=
    pieces_map (beq_toLower (by decide)) s
  have read := toOption_mapM_lowered readOctet_lowered (pieces (· == '.') s)
  unfold readDotted
  dsimp only
  rw [octets, List.length_map, show (lowered s).isEmpty = s.isEmpty from isEmpty_map s]
  split
  · rfl
  · split
    · rfl
    · cases ho : (pieces (· == '.') s).mapM readOctet <;> cases hl : ((pieces (· == '.') s).map lowered).mapM readOctet <;>
        rw [ho, hl] at read <;> cases read <;> rfl

theorem readGroup_lowered (s : List Char) : (readGroup (lowered s)).toOption = (readGroup s).toOption := by
  have digit : hexDigit? ∘ Char.toLower = hexDigit? := funext hexDigit?_toLower
  have digits : (lowered s).all (hexDigit? · |>.isSome) = s.all (hexDigit? · |>.isSome) := by
    unfold lowered
    rw [List.all_map]
    exact congrArg s.all (funext fun c => by rw [Function.comp_apply, hexDigit?_toLower])
  unfold readGroup
  rw [digits, show (lowered s).length = s.length from List.length_map _,
    show (lowered s).filterMap hexDigit? = s.filterMap hexDigit? by unfold lowered; rw [List.filterMap_map, digit]]
  split
  · rfl
  · split <;> rfl

theorem withoutDottedTail_lowered (parts : List (List Char)) :
    (withoutDottedTail (parts.map lowered)).toOption = (withoutDottedTail parts).toOption.map (List.map lowered) := by
  unfold withoutDottedTail
  rw [List.getLast?_map]
  cases parts.getLast? with
  | none => rfl
  | some tail =>
    dsimp only [Option.map_some]
    rw [show (lowered tail).contains '.' = tail.contains '.' from contains_map (fun d => toLower_eq_iff (by decide)) tail]
    split
    · have read := readDotted_lowered tail
      cases hr : readDotted tail <;> cases hl : readDotted (lowered tail) <;> rw [hr, hl] at read <;> cases read
      · rfl
      · simp [Except.toOption, lowered_hexadecimal]
    · rfl

theorem gaps_lowered (parts : List (List Char)) : gaps (parts.map lowered) = gaps parts := by
  unfold gaps
  rw [List.length_map]
  refine List.filter_congr fun i _ => ?_
  rw [List.getElem?_map]
  cases parts[i]? with
  | none => rfl
  | some part =>
    simp only [Option.map_some, Option.getD_some]
    rw [show (lowered part).isEmpty = part.isEmpty from isEmpty_map part]

theorem any_isEmpty_lowered (part : Option (List Char)) : (part.map lowered).any (·.isEmpty) = part.any (·.isEmpty) := by
  cases part with
  | none => rfl
  | some part => exact isEmpty_map part

theorem filledGap_lowered (parts : List (List Char)) (gap : Nat) :
    (filledGap (parts.map lowered) gap).toOption = (filledGap parts gap).toOption.map (List.map lowered) := by
  unfold filledGap
  simp only [← List.map_take, ← List.map_drop, List.head?_map, List.getLast?_map, any_isEmpty_lowered, List.length_map]
  generalize parts.take gap = high
  generalize parts.drop (gap + 1) = low
  generalize high.head?.any (·.isEmpty) = opens
  generalize low.getLast?.any (·.isEmpty) = closes
  have kept : ∀ (edge : Bool) (parts : List (List Char)),
      (if edge then [] else parts.map lowered) = (if edge then [] else parts).map lowered := fun edge parts => by
    cases edge <;> rfl
  simp only [kept, List.length_map]
  split
  · rfl
  · split
    · rfl
    · generalize (if opens then [] else high) = high
      generalize (if closes then [] else low) = low
      split
      · rfl
      · simp [Except.toOption, show lowered ['0'] = ['0'] by decide]

theorem eightParts_lowered (parts : List (List Char)) :
    (eightParts (parts.map lowered)).toOption = (eightParts parts).toOption.map (List.map lowered) := by
  unfold eightParts
  rw [gaps_lowered]
  split
  · rw [List.length_map, List.head?_map, List.getLast?_map, any_isEmpty_lowered, any_isEmpty_lowered]
    split
    · rfl
    · split
      · rfl
      · split <;> rfl
  · exact filledGap_lowered parts _
  · rfl

theorem readParts_lowered (parts : List (List Char)) : (readParts (parts.map lowered)).toOption = (readParts parts).toOption := by
  unfold readParts
  rw [List.length_map]
  split
  · rfl
  · refine toOption_bind_lowered (withoutDottedTail_lowered parts) fun parts => ?_
    rw [List.length_map]
    split
    · rfl
    · refine toOption_bind_lowered (eightParts_lowered parts) fun groups => ?_
      have read := toOption_mapM_lowered readGroup_lowered groups
      cases hg : groups.mapM readGroup <;> cases hl : (groups.map lowered).mapM readGroup <;> rw [hg, hl] at read <;>
        cases read <;> rfl

theorem readGroups_lowered (s : List Char) : (readGroups (lowered s)).toOption = (readGroups s).toOption := by
  have parts : pieces (· == ':') (lowered s) = (pieces (· == ':') s).map lowered :=
    pieces_map (beq_toLower (by decide)) s
  have read := readParts_lowered (pieces (· == ':') s)
  unfold readGroups
  rw [parts, show (lowered s).isEmpty = s.isEmpty from isEmpty_map s]
  split
  · rfl
  · cases hp : readParts (pieces (· == ':') s) <;> cases hl : readParts ((pieces (· == ':') s).map lowered) <;>
      rw [hp, hl] at read <;> cases read <;> rfl

/-- Whether a text writes an address does not depend on the case of its letters; they may stand in the scope, too. -/
theorem isAddress_lowered (s : List Char) : isAddress (lowered s) = isAddress s := by
  have dotted := readDotted_lowered s
  have slash : (lowered s).contains '/' = s.contains '/' := contains_map (fun d => toLower_eq_iff (by decide)) s
  have withScope : (readScoped (lowered s)).isSome = (readScoped s).isSome := by
    unfold readScoped
    rw [show cutFirst '%' (lowered s) = _ from cutFirst_map (fun d => toLower_eq_iff (by decide)) s]
    cases cutFirst '%' s with
    | none => simp only [Option.map_none, readGroups_lowered]
    | some cut =>
      obtain ⟨groups, scope⟩ := cut
      have percent : (lowered scope).contains '%' = scope.contains '%' :=
        contains_map (fun d => toLower_eq_iff (by decide)) scope
      have read := readGroups_lowered groups
      dsimp only [Option.map_some]
      rw [show (scope.map Char.toLower).isEmpty = scope.isEmpty from isEmpty_map scope,
        show (scope.map Char.toLower).contains '%' = scope.contains '%' from percent]
      split
      · rfl
      · rw [Option.isSome_map, Option.isSome_map]
        exact congrArg Option.isSome read
  unfold isAddress ofChars?
  rw [slash]
  split
  · rfl
  · cases hd : readDotted s <;> cases hl : readDotted (lowered s) <;> rw [hd, hl] at dotted <;> cases dotted
    · exact withScope
    · rfl

end Address

/-! ### Names -/

namespace Domain

theorem getLast?_lowered {s : List Char} {c : Char} (h : c.isAlpha = false) :
    (lowered s).getLast? = some c ↔ s.getLast? = some c := by
  unfold lowered
  rw [List.getLast?_map, Option.map_eq_some_iff]
  simp [toLower_eq_iff h]

theorem withoutFinalDot_lowered (s : List Char) : withoutFinalDot (lowered s) = lowered (withoutFinalDot s) := by
  have dot : (lowered s).getLast? = some '.' ↔ s.getLast? = some '.' := getLast?_lowered (by decide)
  unfold withoutFinalDot
  by_cases h : s.getLast? = some '.'
  · rw [if_pos h, if_pos (dot.mpr h)]
    exact List.map_dropLast.symm
  · rw [if_neg h, if_neg (mt dot.mp h)]

theorem hasLabels_lowered (s : List Char) : hasLabels (lowered s) = hasLabels s := by
  have labels : pieces (· == '.') (lowered (withoutFinalDot s)) = (pieces (· == '.') (withoutFinalDot s)).map lowered :=
    pieces_map (beq_toLower (by decide)) _
  unfold hasLabels
  dsimp only
  rw [withoutFinalDot_lowered, labels, List.length_map, List.all_map]
  simp only [Function.comp_def, lowered, List.length_map]

/-- Whether a text is a domain name does not depend on the case of its letters. -/
theorem isValid_lowered (d : String) : isValid (String.ofList (lowered d.toList)) = isValid d := by
  have length : (lowered d.toList).length = d.toList.length := List.length_map _
  have lineEnd : ((lowered d.toList).getLast? == some '\n') = (d.toList.getLast? == some '\n') := by
    rw [Bool.eq_iff_iff, beq_iff_eq, beq_iff_eq]
    exact getLast?_lowered (by decide)
  have dots : dropTrailing (· == '.') (lowered d.toList) = lowered (dropTrailing (· == '.') d.toList) :=
    dropTrailing_map (beq_toLower (by decide)) _
  have line : (lowered d.toList).dropLast = lowered d.toList.dropLast := List.map_dropLast.symm
  unfold isValid hasLabelsUpToLineEnd
  rw [String.toList_ofList]
  dsimp only
  rw [length, lineEnd, dots, line, hasLabels_lowered, hasLabels_lowered, Address.isAddress_lowered]

theorem isValid_recased {d d' : String} (h : Recased d d') : isValid d = isValid d' := by
  rw [← isValid_lowered d, ← isValid_lowered d', h]

end Domain

/-! ### Texts of ASCII -/

section
variable {s t : String}

theorem lower_of_ascii (h : MadeOf IsAscii s) : lower s = String.ofList (lowered s.toList) := by
  have chars : ∀ (l before : List Char), (∀ c ∈ l, IsAscii c) → lowerFrom before l = lowered l := by
    intro l
    induction l with
    | nil => exact fun _ _ => rfl
    | cons c l ih =>
      intro before hl
      rw [lowerFrom, lowerChar_of_ascii (hl c List.mem_cons_self), ih _ fun d hd => hl d (List.mem_cons_of_mem _ hd)]
      rfl
  unfold lower
  rw [chars _ _ h]

theorem isAscii_toLower {c : Char} (h : IsAscii c) : IsAscii c.toLower :=
  forall_ascii (p := fun c => IsAscii c.toLower) (by decide) h

theorem ascii_lower (h : MadeOf IsAscii s) : MadeOf IsAscii (lower s) := by
  rw [lower_of_ascii h, madeOf_ofList]
  intro c hc
  obtain ⟨d, hd, rfl⟩ := List.mem_map.mp hc
  exact isAscii_toLower (h d hd)

theorem composed_of_ascii {l : List Char} (h : ∀ c ∈ l, IsAscii c) : composed l = l := by
  have low : l.all (·.toNat < 0x300) = true := List.all_eq_true.mpr fun c hc => by
    have : c.toNat < 128 := h c hc
    rw [decide_eq_true_eq]
    omega
  unfold composed
  rw [if_pos low]

theorem normalized_of_ascii (h : MadeOf IsAscii s) : Domain.normalized s = lower s := by
  have wide : s.toList.filter (!Domain.isZeroWidth ·) = s.toList := List.filter_eq_self.mpr fun c hc => by
    have ascii : c.toNat < 128 := h c hc
    unfold Domain.isZeroWidth
    simp
    omega
  unfold Domain.normalized
  rw [composed_of_ascii h, wide, String.ofList_toList]

theorem Text.Recased.lower (h : Recased s t) (hs : MadeOf IsAscii s) (ht : MadeOf IsAscii t) : lower s = lower t := by
  rw [lower_of_ascii hs, lower_of_ascii ht, h]

/-- Names of ASCII that differ in nothing but letter case are asked for under one name. -/
theorem Text.Recased.normalized (h : Recased s t) (hs : MadeOf IsAscii s) (ht : MadeOf IsAscii t) :
    Domain.normalized s = Domain.normalized t := by
  rw [normalized_of_ascii hs, normalized_of_ascii ht, h.lower hs ht]

theorem recased_lower (h : MadeOf IsAscii s) : Recased (lower s) s := by
  have twice : ∀ c : Char, c.toLower.toLower = c.toLower := apply_toLower Char.toLower (by decide)
  unfold Recased
  simp [lower_of_ascii h, lowered, Function.comp_def, twice]

/-- The name under which a name of ASCII is asked for is asked for as it is. -/
theorem normalized_normalized (h : MadeOf IsAscii s) : Domain.normalized (Domain.normalized s) = Domain.normalized s := by
  rw [normalized_of_ascii h]
  exact ((recased_lower h).normalized (ascii_lower h) h).trans (normalized_of_ascii h)

end

end SenderPolicy
