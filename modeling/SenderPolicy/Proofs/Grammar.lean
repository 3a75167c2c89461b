import SenderPolicy.Proofs.Pattern
import SenderPolicy.Proofs.Words

/-! The grammar of records. Reading a record cuts it into words, while its grammar is one for a scanner, which takes a
term off the front of the text, skips white space and goes on. Both agree on every text, so the words of a record that
can be read one by one never fail the grammar, and a record is read if and only if it has the version and all its
words are read. -/

namespace SenderPolicy

open Text Pattern

variable {s t w : List Char} {c : Char}

/-! ### The scanner -/

namespace Pattern

/-- What may stand behind a mechanism: a value behind a colon or a slash, or nothing, up to the end of the word. -/
def valuePart : Pattern := seq (optional (seq (one fun c => c == ':' || c == '/') (run (!isBlank ·)))) wordEnd

/-- A mechanism with what stands behind it. -/
def mechanismPart : Pattern := seq (anyOf (Mechanism.known.map fun m => folded m.name.toList)) valuePart

/-- A directive: a mechanism behind a sign or none. -/
def directive : Pattern := seq (optional (one (['+', '-', '~', '?'].contains ·))) mechanismPart

/-- A modifier: a name that starts with a letter, an equals sign and anything but white space. -/
def modifier : Pattern := seq (one isFoldedLetter) (seq (run isNameChar) (seq (one (· == '=')) (run (!isBlank ·))))

/-- The version as a word of its own. -/
def versionTag : Pattern := seq (exactly Record.version.toList) wordEnd

/-- What the longer of the matches of two patterns leaves. -/
def longer? (first second : Pattern) (s : List Char) : Option (List Char) :=
  match first.leaves? s, second.leaves? s with
  | some rest, some rest' => some (if rest'.length < rest.length then rest' else rest)
  | some rest, none => some rest
  | none, rest => rest

theorem length_of_longer? {first second : Pattern} {rest : List Char} (hf : 0 < first.minLength)
    (hs : 0 < second.minLength) (h : longer? first second s = some rest) : rest.length < s.length := by
  have shorter : first.leaves? s = some rest ∨ second.leaves? s = some rest := by
    unfold longer? at h
    split at h
    · split at h <;> simp_all
    · simp_all
    · exact .inr h
  rcases shorter with h | h
  · have taken := length_of_leaves? h
    omega
  · have taken := length_of_leaves? h
    omega

end Pattern

namespace Record

theorem length_of_scan {left : List Char} (hs : s.dropWhile isBlank = t) (ht : longer? directive modifier t = some left) :
    left.length < s.length := by
  have taken := length_of_longer? (by decide) (by decide) ht
  have dropped := (List.dropWhile_suffix isBlank (l := s)).length_le
  rw [hs] at dropped
  omega

/-- Takes terms off a text until nothing but white space is left, and tells whether that succeeds. -/
def scansTerms (s : List Char) : Bool :=
  match hs : s.dropWhile isBlank with
  | [] => true
  | c :: rest => match ht : longer? directive modifier (c :: rest) with
    | none => false
    | some left =>
      have : left.length < s.length := length_of_scan hs ht
      scansTerms left
termination_by s.length

/-- Scans a text for a version and terms, and tells whether that succeeds. -/
def scans (s : List Char) : Bool := (versionTag.leaves? (s.dropWhile isBlank)).any scansTerms

/-- Whether a word has the shape of a term. -/
def fits (word : List Char) : Bool := hasDirectiveShape word || hasModifierShape word

end Record

/-! ### The shape of terms -/

theorem hasModifierShape_cons (c : Char) (s : List Char) :
    hasModifierShape (c :: s) = (isFoldedLetter c && (s.dropWhile isNameChar).head? == some '=') := by
  rw [hasModifierShape, nameAt, show (c :: s).head?.any isFoldedLetter = isFoldedLetter c from rfl]
  by_cases letter : isFoldedLetter c = true
  · have own : isNameChar c = true := by simp [isNameChar, letter]
    rw [if_pos letter, letter, Bool.true_and, List.dropWhile_cons, if_pos own]
    split
    · rename_i hr
      rw [hr]
      rfl
    · rename_i other
      cases hr : s.dropWhile isNameChar with
      | nil => rfl
      | cons d rest =>
        have unlike : d ≠ '=' := by
          rintro rfl
          exact other rest hr
        simp [unlike]
  · rw [if_neg letter]
    simp [letter]

/-- Whether a text starts with a mechanism that may end there. -/
def Mechanism.startsWord (m : Mechanism) (s : List Char) : Bool :=
  match takeFolded m.name.toList s with
  | some (_, rest) => rest.isEmpty || rest.head? == some ':' || rest.head? == some '/'
  | none => false

/-- Whether a text starts with some mechanism that may end there. -/
def startsMechanism (s : List Char) : Bool := Mechanism.known.any (·.startsWord s)

theorem hasDirectiveShape_eq (s : List Char) : hasDirectiveShape s = startsMechanism (signAt s).2 := rfl

/-- No mechanism starts with a sign. -/
theorem startsMechanism_sign {c : Char} (hc : c ∈ ['+', '-', '~', '?']) (s : List Char) :
    startsMechanism (c :: s) = false := by
  have heads : ∀ c ∈ ['+', '-', '~', '?'], (Mechanism.known.all (·.name.toList.head?.any (!foldsTo · c))) = true :=
    List.all_eq_true.mp (by decide)
  refine List.any_eq_false.mpr fun m hm => ?_
  have head := List.all_eq_true.mp (heads c hc) m hm
  unfold Mechanism.startsWord
  cases hl : m.name.toList with
  | nil =>
    rw [hl] at head
    cases head
  | cons letter word =>
    rw [hl] at head
    have other : ¬ foldsTo letter c = true := by simpa using head
    rw [takeFolded, if_neg other]
    exact Bool.false_ne_true

/-! ### Terms in front of white space -/

section
variable (hn : ∀ c ∈ w, isBlank c = false) (ht : t.head?.all isBlank = true)
include hn ht

/-- Anything but white space runs to the end of the word. -/
theorem dropWhile_word : (w ++ t).dropWhile (!isBlank ·) = t := by
  rw [List.dropWhile_append_of_pos fun c hc => by simp [hn c hc]]
  cases t with
  | nil => rfl
  | cons b t => simp_all

theorem leaves?_valuePart :
    valuePart.leaves? (w ++ t) = if w.isEmpty || w.head? == some ':' || w.head? == some '/' then some t else none := by
  have separator : ∀ b, isBlank b = true → (b == ':' || b == '/') = false := by
    intro b hb
    rw [Bool.or_eq_false_iff, beq_eq_false_iff_ne, beq_eq_false_iff_ne]
    exact ⟨fun h => by simp [h, isBlank] at hb, fun h => by simp [h, isBlank] at hb⟩
  have ended : wordEnd.leaves? t = some t := by rw [leaves?_wordEnd, if_pos ht]
  rw [valuePart, Pattern.optional, leaves?_seq_either, leaves?_seq_empty, leaves?_seq_seq]
  cases w with
  | nil =>
    cases t with
    | nil => rfl
    | cons b t =>
      rw [List.nil_append, leaves?_seq_one_cons, separator b (by simpa using ht), ended]
      rfl
  | cons c w =>
    have inside : wordEnd.leaves? (c :: w ++ t) = none := by
      rw [leaves?_wordEnd, if_neg (by simp [hn c (.head _)])]
    have behind : (seq (run (!isBlank ·)) wordEnd).leaves? (w ++ t) = some t := by
      rw [leaves?_seq_run, dropWhile_word (fun c hc => hn c (.tail _ hc)) ht, ended]
      intro d rest hd
      rw [leaves?_wordEnd, if_neg (by simpa using hd)]
    rw [inside, List.cons_append, leaves?_seq_one_cons, behind]
    by_cases hc : c = ':' ∨ c = '/'
    · rcases hc with rfl | rfl <;> rfl
    · rw [not_or] at hc
      simp [hc.1, hc.2]

theorem leaves?_mechanismPart : mechanismPart.leaves? (w ++ t) = if startsMechanism w then some t else none := by
  have step : ∀ m ∈ Mechanism.known, (seq (folded m.name.toList) valuePart).leaves? (w ++ t) =
      if m.startsWord w then some t else none := by
    intro m hm
    have named : ∀ letter ∈ m.name.toList, ∀ c, foldsTo letter c = true → isNameChar c = true :=
      fun letter hl c => isNameChar_of_foldsTo hm hl
    rw [leaves?_seq_folded, takeFolded_append named ht, Mechanism.startsWord]
    rcases hf : takeFolded m.name.toList w with _ | ⟨taken, rest⟩
    · rfl
    · obtain ⟨rfl, -⟩ := isNameChar_of_takeFolded named hf
      exact leaves?_valuePart (fun c hc => hn c (List.mem_append_right _ hc)) ht
  rw [mechanismPart, leaves?_seq_anyOf, List.findSome?_map, startsMechanism]
  generalize Mechanism.known = known at step
  induction known with
  | nil => rfl
  | cons m known ih =>
    rw [List.findSome?_cons, Function.comp_apply, step m (.head _), List.any_cons, ih fun m hm => step m (.tail _ hm)]
    cases m.startsWord w <;> rfl

/-- A directive is taken off a text up to the end of the first word, if that has its shape. -/
theorem leaves?_directive (hw : w ≠ []) :
    directive.leaves? (w ++ t) = if hasDirectiveShape w then some t else none := by
  rw [hasDirectiveShape_eq, directive, Pattern.optional, leaves?_seq_either, leaves?_seq_empty, leaves?_mechanismPart hn ht]
  cases w with
  | nil => exact absurd rfl hw
  | cons c w =>
    have later : ∀ d ∈ w, isBlank d = false := fun d hd => hn d (.tail _ hd)
    rw [List.cons_append, leaves?_seq_one_cons, leaves?_mechanismPart later ht, signAt]
    split
    · rename_i sign
      -- without taking the sign there is no match
      rw [startsMechanism_sign (List.contains_iff_mem.mp sign)]
      cases startsMechanism w <;> rfl
    · rfl

/-- A modifier is taken off a text up to the end of the first word, if that has its shape. -/
theorem leaves?_modifier (hw : w ≠ []) :
    modifier.leaves? (w ++ t) = if hasModifierShape w then some t else none := by
  have unlike : ∀ c rest, c ≠ '=' → (seq (one (· == '=')) (run (!isBlank ·))).leaves? (c :: rest) = none := by
    intro c rest hc
    rw [leaves?_seq_one_cons, if_neg (by simpa using hc)]
  have named : ∀ c rest, isNameChar c = true → (seq (one (· == '=')) (run (!isBlank ·))).leaves? (c :: rest) = none := by
    intro c rest hc
    refine unlike c rest ?_
    rintro rfl
    exact absurd hc (by decide)
  cases w with
  | nil => exact absurd rfl hw
  | cons c w =>
    rw [hasModifierShape_cons, modifier, List.cons_append, leaves?_seq_one_cons, leaves?_seq_run named]
    by_cases letter : isFoldedLetter c = true
    · rw [if_pos letter, letter, Bool.true_and, List.dropWhile_append]
      cases hr : w.dropWhile isNameChar with
      | nil =>
        -- the name runs to the end of the word
        cases t with
        | nil => rfl
        | cons b t =>
          have blank : isBlank b = true := by simpa using ht
          have stops : ¬ isNameChar b = true := fun hb => by simp [isBlank_of_isNameChar hb] at blank
          rw [List.isEmpty_nil, if_pos rfl, List.dropWhile_cons, if_neg stops, unlike]
          · rfl
          · rintro rfl
            exact absurd blank (by decide)
      | cons d rest =>
        have inside : ∀ e ∈ rest, isBlank e = false := fun e he =>
          hn e (.tail _ ((List.dropWhile_suffix isNameChar).subset (hr ▸ List.mem_cons_of_mem d he)))
        rw [List.isEmpty_cons, if_neg nofun, List.cons_append]
        by_cases hd : d = '='
        · subst hd
          rw [leaves?_seq_one_cons, leaves?_run, dropWhile_word inside ht]
          rfl
        · rw [unlike d _ hd, if_neg (by simpa using hd)]
    · rw [if_neg letter, if_neg (by simp [letter])]

/-- The scanner takes the first word of a text, if it has the shape of a term. -/
theorem longer?_word (hw : w ≠ []) :
    longer? directive modifier (w ++ t) = if Record.fits w then some t else none := by
  rw [longer?, leaves?_directive hn ht hw, leaves?_modifier hn ht hw, Record.fits]
  cases hasDirectiveShape w <;> cases hasModifierShape w <;> simp

end

/-! ### Both passes over a record -/

namespace Record

/-- The scanner accepts a text if and only if all its words have the shape of terms. -/
theorem scansTerms_eq (s : List Char) : scansTerms s = (words s).all fits := by
  fun_induction scansTerms s with
  | case1 s hs =>
    rw [← words_dropWhile, hs]
    rfl
  | case2 s c rest hs hl =>
    obtain ⟨w, t, hwt, hw, hn, ht, found⟩ := exists_word_of_dropWhile hs
    rw [hwt, longer?_word hn ht hw] at hl
    rw [found, List.all_cons]
    split at hl
    · cases hl
    · simp_all
  | case3 s c rest hs left hl _ ih =>
    obtain ⟨w, t, hwt, hw, hn, ht, found⟩ := exists_word_of_dropWhile hs
    rw [hwt, longer?_word hn ht hw] at hl
    rw [found, List.all_cons, ih]
    split at hl
    · cases hl
      simp_all
    · cases hl

/-- A text has the version if and only if that is followed by white space or by nothing. -/
theorem hasVersion_iff : hasVersion s = true ↔ ∃ rest, s = version.toList ++ rest ∧ rest.head?.all isBlank = true := by
  unfold hasVersion
  rw [Bool.and_eq_true, List.isPrefixOf_iff_prefix]
  constructor
  · rintro ⟨⟨rest, rfl⟩, h⟩
    exact ⟨rest, rfl, h⟩
  · rintro ⟨rest, rfl, h⟩
    exact ⟨List.prefix_append .., h⟩

/-- The terms of a text that has the version are the words behind it. -/
theorem map_snd_placedTerms (rest : List Char) : (placedTerms (version.toList ++ rest)).map (·.2) = words rest := by
  unfold placedTerms
  rw [map_snd_placedWords]
  rfl

theorem misfit?_eq_none_iff :
    misfit? s = none ↔ ∃ rest, s = version.toList ++ rest ∧ rest.head?.all isBlank = true ∧ (words rest).all fits = true := by
  unfold misfit?
  cases hv : hasVersion s with
  | false =>
    refine ⟨nofun, ?_⟩
    rintro ⟨rest, hs, ht, -⟩
    rw [hasVersion_iff.mpr ⟨rest, hs, ht⟩] at hv
    cases hv
  | true =>
    obtain ⟨rest, rfl, ht⟩ := hasVersion_iff.mp hv
    have placed : (placedTerms (version.toList ++ rest)).all (fun p => fits p.2) = (words rest).all fits := by
      rw [← map_snd_placedTerms, List.all_map]
      rfl
    simp only [Bool.not_true, Bool.false_eq_true, ↓reduceIte, Option.map_eq_none_iff, List.find?_eq_none]
    constructor
    · intro h
      refine ⟨rest, rfl, ht, ?_⟩
      rw [← placed, List.all_eq_true]
      intro p hp
      by_contra unfit
      exact h p hp (by simpa [fits] using unfit)
    · rintro ⟨rest', hs, -, h⟩
      obtain rfl := List.append_cancel_left hs
      rw [← placed, List.all_eq_true] at h
      exact fun p hp unfit => by
        have fit := h p hp
        simp_all [fits]

/-- The scanner accepts a record if and only if the record has no misfit. -/
theorem scans_unquoted (record : String) :
    scans (unquoted record).toList = (misfit? (unquoted record).toList).isNone := by
  have trimmed : (unquoted record).toList.dropWhile isBlank = (unquoted record).toList := by
    unfold unquoted
    rw [String.toList_ofList]
    generalize (if record.toList.head? = some '"' then _ else _ : List Char) = text
    have head := head_stripped isBlank text
    cases hs : stripped isBlank text with
    | nil => rfl
    | cons c rest =>
      rw [hs] at head
      rw [List.dropWhile_cons, if_neg (by simpa using head)]
  generalize (unquoted record).toList = s at trimmed
  rw [Bool.eq_iff_iff, Option.isNone_iff_eq_none, misfit?_eq_none_iff, scans, trimmed, versionTag, leaves?_seq_exactly]
  constructor
  · intro h
    split at h
    · rename_i hv
      obtain ⟨rest, rfl⟩ := List.isPrefixOf_iff_prefix.mp hv
      rw [leaves?_wordEnd, List.drop_left] at h
      split at h
      · rename_i ht
        rw [Option.any_some, scansTerms_eq] at h
        exact ⟨rest, rfl, ht, h⟩
      · cases h
    · cases h
  · rintro ⟨rest, rfl, ht, h⟩
    rw [if_pos (List.isPrefixOf_iff_prefix.mpr (List.prefix_append ..)), List.drop_left, leaves?_wordEnd, if_pos ht,
      Option.any_some, scansTerms_eq]
    exact h

end Record

/-! ### Words that are read -/

/-- A directive ends behind its mechanism, or goes on with a colon or a slash. -/
theorem ends_or_head?_of_valueAt {separator : Separator} {value : String} (h : valueAt s = some (separator, value)) :
    s = [] ∨ s = ['\n'] ∨ s.head? = some ':' ∨ s.head? = some '/' := by
  rcases valueAt_some h with ⟨-, -, hs⟩ | ⟨rest, line, ⟨-, rfl⟩ | ⟨-, rfl⟩, -, -⟩
  · exact hs.imp_right .inl
  · exact .inr (.inr (.inl rfl))
  · exact .inr (.inr (.inr rfl))

/-- A word that is read as a directive has the shape of one. -/
theorem hasDirectiveShape_of_ofText? (hn : ∀ c ∈ w, isBlank c = false) {d : Directive}
    (h : Directive.ofText? (String.ofList w) = some d) : hasDirectiveShape w = true := by
  obtain ⟨name, hm, -⟩ := Directive.ofText?_some h
  rw [String.toList_ofList] at hm
  obtain ⟨m, known, taken, rest, ht, -, hv⟩ := mechanismAt_some hm
  have named : ∀ letter ∈ m.name.toList, ∀ c, foldsTo letter c = true → isNameChar c = true :=
    fun letter hl c => isNameChar_of_foldsTo known hl
  obtain ⟨whole, -⟩ := isNameChar_of_takeFolded named ht
  have solid : ∀ c ∈ rest, isBlank c = false := fun c hc =>
    hn c (mem_of_signAt (whole ▸ List.mem_append_right _ hc))
  rw [hasDirectiveShape_eq]
  refine List.any_eq_true.mpr ⟨m, known, ?_⟩
  unfold Mechanism.startsWord
  rw [ht]
  rcases ends_or_head?_of_valueAt hv with rfl | rfl | h | h
  · rfl
  · exact absurd (solid '\n' (.head _)) (by decide)
  · simp [h]
  · simp [h]

theorem hasModifierShape_of_ofText? {m : Modifier} (h : Modifier.ofText? (String.ofList w) = some m) :
    hasModifierShape w = true := by
  obtain ⟨named, hn, -⟩ := Option.bind_eq_some_iff.mp h
  rw [String.toList_ofList] at hn
  rw [hasModifierShape, hn]
  rfl

/-- What is read as a directive has not the shape of a modifier. -/
theorem hasModifierShape_of_directive {text : String} {d : Directive} (h : Directive.ofText? text = some d) :
    hasModifierShape text.toList = false := by
  obtain ⟨name, hm, -⟩ := Directive.ofText?_some h
  obtain ⟨m, known, taken, rest, ht, -, hv⟩ := mechanismAt_some hm
  have letters : ∀ letter ∈ m.name.toList, ∀ c, foldsTo letter c = true → isNameChar c = true :=
    fun letter hl c => isNameChar_of_foldsTo known hl
  obtain ⟨whole, named⟩ := isNameChar_of_takeFolded letters ht
  have signs : ∀ c ∈ ['+', '-', '~', '?'], (!isFoldedLetter c) = true := List.all_eq_true.mp (by decide)
  have ends : (rest.dropWhile isNameChar).head? ≠ some '=' := by
    rcases ends_or_head?_of_valueAt hv with rfl | rfl | hc | hc
    · exact nofun
    · decide
    all_goals
      obtain ⟨more, rfl⟩ := List.head?_eq_some_iff.mp hc
      rw [List.dropWhile_cons, if_neg (by decide)]
      exact fun he => absurd (Option.some.inj he) (by decide)
  generalize text.toList = s at whole
  cases s with
  | nil => rfl
  | cons c s =>
    rw [hasModifierShape_cons]
    by_cases sign : c ∈ ['+', '-', '~', '?']
    · rw [(Bool.not_eq_true' _).mp (signs c sign), Bool.false_and]
    · rw [signAt, if_neg (by simpa using sign)] at whole
      cases letter : isFoldedLetter c with
      | false => rfl
      | true =>
        -- a name would go on to what ends the mechanism
        have run : (c :: s).dropWhile isNameChar = rest.dropWhile isNameChar :=
          (congrArg _ whole).trans (List.dropWhile_append_of_pos named)
        rw [List.dropWhile_cons, if_pos (by simp [isNameChar, letter])] at run
        rw [run]
        simpa using ends

/-- A word that is read as a term has the shape of one. -/
theorem fits_of_ofText? (hw : w ∈ words s)
    (h : (Directive.ofText? (String.ofList w)).isSome ∨ (Modifier.ofText? (String.ofList w)).isSome) :
    Record.fits w = true := by
  unfold Record.fits
  rcases h with h | h
  · obtain ⟨d, hd⟩ := Option.isSome_iff_exists.mp h
    rw [hasDirectiveShape_of_ofText? (fun c hc => (mem_of_words hw c hc).2) hd, Bool.true_or]
  · obtain ⟨m, hm⟩ := Option.isSome_iff_exists.mp h
    rw [hasModifierShape_of_ofText? hm, Bool.or_true]

/-- No text is both a directive and a modifier. -/
theorem ofText?_exclusive (text : String) : Directive.ofText? text = none ∨ Modifier.ofText? text = none := by
  rw [or_iff_not_imp_left, ← ne_eq, Option.ne_none_iff_exists']
  rintro ⟨d, hd⟩
  cases hm : Modifier.ofText? text with
  | none => rfl
  | some m =>
    rw [← String.ofList_toList (s := text)] at hm
    have shaped := hasModifierShape_of_ofText? hm
    rw [hasModifierShape_of_directive hd] at shaped
    cases shaped

/-! ### Records that are read -/

namespace Record

section
variable {domain marker record : String} {word : List Char} {term : Term} {terms : List Term}

theorem Reads.raw (h : Reads domain marker word term) : term.raw = String.ofList word := by
  cases h with
  | directive h => exact (Directive.mem_of_ofText? h).1
  | modifier h => exact (Modifier.mem_of_ofText? h).1

theorem map_raw_of_reads {found : List (List Char)} (h : List.Forall₂ (Reads domain marker) found terms) :
    terms.map Term.raw = found.map String.ofList := by
  induction h with
  | nil => rfl
  | cons hr _ ih => rw [List.map_cons, List.map_cons, hr.raw, ih]

theorem Reads.isSome (h : Reads domain marker word term) :
    (Directive.ofText? (String.ofList word)).isSome ∨ (Modifier.ofText? (String.ofList word)).isSome := by
  cases h with
  | directive h => exact .inl (by rw [h]; rfl)
  | modifier h => exact .inr (by rw [h]; rfl)

theorem readTerm_ok_iff (record : String) : readTerm record domain marker word = .ok term ↔ Reads domain marker word term := by
  refine ⟨reads_of_readTerm, fun h => ?_⟩
  unfold readTerm
  dsimp only
  cases h with
  | directive h hc =>
    rw [h]
    dsimp only
    rw [hc]
    rfl
  | modifier h hc =>
    have unlike : Directive.ofText? (String.ofList word) = none := (ofText?_exclusive _).resolve_right (by simp [h])
    rw [unlike, h]
    dsimp only
    rw [hc]
    rfl

/-- A record is read as terms if and only if it has the version and its words are read as these. -/
theorem read_ok_iff_forall₂ :
    read domain marker record = .ok terms ↔ ∃ rest, (unquoted record).toList = version.toList ++ rest ∧
      rest.head?.all isBlank = true ∧ List.Forall₂ (Reads domain marker) (words rest) terms := by
  unfold read
  dsimp only
  generalize unquoted record = text
  have reads : ∀ rest, ((placedTerms (version.toList ++ rest)).map (·.2)).mapM (readTerm text domain marker) = .ok terms ↔
      List.Forall₂ (Reads domain marker) (words rest) terms := by
    intro rest
    rw [map_snd_placedTerms, mapM_ok_iff]
    exact ⟨fun h => h.imp fun _ _ => (readTerm_ok_iff text).mp, fun h => h.imp fun _ _ => (readTerm_ok_iff text).mpr⟩
  cases hm : misfit? text.toList with
  | some misfit =>
    refine ⟨nofun, ?_⟩
    rintro ⟨rest, hs, ht, h⟩
    -- words that are read have the shape of terms
    have shaped : (words rest).all fits = true := List.all_eq_true.mpr fun word hw => by
      obtain ⟨term, hr⟩ := exists_forall₂_iff.mp ⟨terms, h⟩ word hw
      exact fits_of_ofText? hw hr.isSome
    rw [misfit?_eq_none_iff.mpr ⟨rest, hs, ht, shaped⟩] at hm
    cases hm
  | none =>
    obtain ⟨rest, hs, ht, -⟩ := misfit?_eq_none_iff.mp hm
    dsimp only
    rw [hs, reads]
    constructor
    · exact fun h => ⟨rest, rfl, ht, h⟩
    · rintro ⟨rest', hs', -, h⟩
      obtain rfl := List.append_cancel_left hs'
      exact h

end

/-- A record is read if and only if it is the version with white space or nothing behind it, and each word of the rest is
read as a directive or a modifier that passes its check; its terms are then those of the words, in order. The scanner
agrees with the first pass over the record, so it accepts every record whose words are directives and modifiers, and no
text is both. -/
theorem read_ok_iff (domain marker record : String) :
    (∀ terms, read domain marker record = .ok terms ↔ ∃ rest, (unquoted record).toList = version.toList ++ rest ∧
      rest.head?.all isBlank = true ∧ List.Forall₂ (Reads domain marker) (words rest) terms) ∧
    ((∃ terms, read domain marker record = .ok terms) ↔ ∃ rest, (unquoted record).toList = version.toList ++ rest ∧
      rest.head?.all isBlank = true ∧ ∀ word ∈ words rest, ∃ term, Reads domain marker word term) ∧
    (∀ terms rest, read domain marker record = .ok terms → (unquoted record).toList = version.toList ++ rest →
      terms.map Term.raw = (words rest).map String.ofList) ∧
    scans (unquoted record).toList = (misfit? (unquoted record).toList).isNone ∧
    (∀ rest, (unquoted record).toList = version.toList ++ rest → rest.head?.all isBlank = true →
      (∀ word ∈ words rest, (Directive.ofText? (String.ofList word)).isSome ∨ (Modifier.ofText? (String.ofList word)).isSome) →
        scans (unquoted record).toList = true) ∧
    ∀ text, Directive.ofText? text = none ∨ Modifier.ofText? text = none := by
  refine ⟨fun _ => read_ok_iff_forall₂, ?_, ?_, scans_unquoted record, ?_, ofText?_exclusive⟩
  · simp only [read_ok_iff_forall₂]
    constructor
    · rintro ⟨terms, rest, hs, ht, h⟩
      exact ⟨rest, hs, ht, exists_forall₂_iff.mp ⟨terms, h⟩⟩
    · rintro ⟨rest, hs, ht, h⟩
      obtain ⟨terms, h⟩ := exists_forall₂_iff.mpr h
      exact ⟨terms, rest, hs, ht, h⟩
  · intro terms rest hread hs
    obtain ⟨rest', hs', -, h⟩ := read_ok_iff_forall₂.mp hread
    obtain rfl := List.append_cancel_left (hs.symm.trans hs')
    exact map_raw_of_reads h
  · intro rest hs ht h
    rw [scans_unquoted, Option.isNone_iff_eq_none]
    exact misfit?_eq_none_iff.mpr ⟨rest, hs, ht, List.all_eq_true.mpr fun word hw => fits_of_ofText? hw (h word hw)⟩

/-- A record in two segments, with white space of another script between two of its terms. -/
def segmentedRecord : String := "\"v=spf1 a:mail\" \".example.com\u00a0x=%{d} -ALL\""

theorem read_ok_segmentedRecord :
    ∃ terms, read "example.com" defaultMarker segmentedRecord = .ok terms ∧
      terms.map Term.raw = ["a:mail.example.com", "x=%{d}", "-ALL"] ∧ scans (unquoted segmentedRecord).toList = true := by
  obtain ⟨-, -, raws, -, scanned, -⟩ := read_ok_iff "example.com" defaultMarker segmentedRecord
  have rest : (unquoted segmentedRecord).toList = version.toList ++ " a:mail.example.com\u00a0x=%{d} -ALL".toList := by
    decide
  obtain ⟨terms, read⟩ : ∃ terms, read "example.com" defaultMarker segmentedRecord = .ok terms := by
    have isOk : (read "example.com" defaultMarker segmentedRecord).isOk = true := by decide
    cases hr : read "example.com" defaultMarker segmentedRecord with
    | error x =>
      rw [hr] at isOk
      cases isOk
    | ok terms => exact ⟨terms, rfl⟩
  refine ⟨terms, read, (raws terms _ read rest).trans (by decide), scanned _ rest (by decide) (by decide)⟩

end Record

end SenderPolicy
