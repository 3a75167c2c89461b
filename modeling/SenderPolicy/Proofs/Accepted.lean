import SenderPolicy.Proofs.Scanning
import SenderPolicy.Record.Reader

/-! What a record that is read guarantees. Every directive has a qualifier with a meaning, and what its test will
expand or split can be read; the same goes for the modifiers that are evaluated. The only fault that reading may
end in is a numeral with too many digits. -/

namespace SenderPolicy

open Text

/-! ### Faults in reading -/

/-- The numeral has more digits than are read. -/
def Text.NumeralError.Overlong : NumeralError → Prop
  | .tooManyDigits n => maxDigits < n
  | _ => False

/-- The fault is that of a numeral with too many digits. -/
def Fault.Overlong : Fault → Prop
  | .numeral e => e.Overlong
  | _ => False

theorem overlong_of_readDigits {run : List Char} {e : NumeralError} (h : readDigits run = .error e) : e.Overlong := by
  unfold readDigits at h
  split at h
  · rename_i long
    cases h
    exact long
  · cases h

namespace Macro

theorem overlong_of_readCount {run : List Char} {e : NumeralError} (h : readCount run = .error (.numeral e)) :
    e.Overlong := by
  unfold readCount at h
  split at h
  · cases h
  · split at h
    · rename_i hr
      cases h
      exact overlong_of_readDigits hr
    · cases h
    · cases h

theorem overlong_of_read {s : List Char} {e : NumeralError} (h : read s = .error (.numeral e)) : e.Overlong := by
  unfold read at h
  split at h
  · split at h
    · unfold readTransformers at h
      dsimp only at h
      split at h
      · rcases hc : readCount _ with x | count
        · rw [hc] at h
          cases h
          exact overlong_of_readCount hc
        · rw [hc] at h
          cases h
      · cases h
    · cases h
  · cases h

end Macro

theorem overlong_of_bracedMacro {explanation : Bool} {start : Nat} {content : List Char} {e : NumeralError}
    (h : bracedMacro explanation start content = .error (.numeral e)) : e.Overlong := by
  unfold bracedMacro at h
  split at h
  · split at h <;> cases h
  · rename_i hr
    cases h
    exact Macro.overlong_of_read hr
  · cases h

theorem overlong_of_readTokens {explanation : Bool} {s : List Char} {e : NumeralError}
    (h : readTokens explanation s = .error (.numeral e)) : e.Overlong := by
  obtain ⟨start, content, h⟩ := exists_bracedMacro_of_scanTokens h
  exact overlong_of_bracedMacro h

theorem overlong_of_ofMacroString {explanation : Bool} {domain value marker : String} {e : MacroStringError} {f : Fault}
    (he : readTokens explanation value.toList = .error e) (h : Failure.ofMacroString domain value marker e = .fault f) :
    f.Overlong := by
  cases e with
  | position n => cases h
  | numeral e =>
    cases h
    exact overlong_of_readTokens he

/-! ### Directives -/

/-- What holds of every directive that is read from a text. -/
structure Directive.WellRead (d : Directive) : Prop where
  qualifier : d.qualifier.result?.isSome
  mechanism : ∀ name, d.mechanism = .unknown name → ∃ c ∈ name.toList, 128 ≤ c.toNat
  value : '\n' ∉ d.value.toList

theorem lowerChar_of_ascii {before after : List Char} {c : Char} (h : c.toNat < 128) :
    lowerChar before c after = [c.toLower] := by
  have lowered : (if 0x41 ≤ c.toNat ∧ c.toNat ≤ 0x5A then Char.ofNat (c.toNat + 0x20) else c) = c.toLower :=
    forall_ascii (p := fun c => (if 0x41 ≤ c.toNat ∧ c.toNat ≤ 0x5A then Char.ofNat (c.toNat + 0x20) else c) = c.toLower)
      (by decide) h
  unfold lowerChar
  rw [if_pos h, ← lowered]
  simp only [Bool.and_eq_true, decide_eq_true_eq]
  split <;> rfl

theorem ofNat_eq_or (n : Nat) : Char.ofNat n = '\x00' ∨ (Char.ofNat n).toNat = n := by
  by_cases valid : n.isValidChar
  · right
    rw [show Char.ofNat n = Char.ofNatAux n valid from dif_pos valid]
    rfl
  · exact .inl (dif_neg valid)

/-- What a character is replaced with in lower case. Outside ASCII, what is not kept becomes a letter, or a mark above one. -/
theorem lowerChar_cases {before after : List Char} {c d : Char} (h : d ∈ lowerChar before c after) :
    (c.toNat < 128 ∧ d = c.toLower) ∨ (128 ≤ c.toNat ∧ (d = c ∨ d = '\x00' ∨ 64 < d.toNat)) := by
  have images : ∀ run ∈ lowerRuns, 64 < run.2.2.2 := by decide +kernel
  by_cases hc : c.toNat < 128
  · rw [lowerChar_of_ascii hc, List.mem_singleton] at h
    exact .inl ⟨hc, h⟩
  · refine .inr ⟨Nat.not_lt.mp hc, ?_⟩
    unfold lowerChar at h
    dsimp only at h
    rw [if_neg hc] at h
    -- two letters have images of their own, all others are looked up
    split at h
    · right; right
      rw [List.mem_singleton] at h
      subst h
      split <;> decide
    · split at h
      · right; right
        rw [List.mem_cons, List.mem_singleton] at h
        rcases h with rfl | rfl <;> decide
      · rw [List.mem_singleton] at h
        cases hm : mappedBy lowerRuns c.toNat with
        | none =>
          rw [hm] at h
          exact .inl h
        | some image =>
          rw [hm] at h
          obtain ⟨⟨first, last, step, start⟩, hr, rfl⟩ := Option.map_eq_some_iff.mp hm
          have above : 64 < start := images _ (List.mem_of_find?_eq_some hr)
          rcases ofNat_eq_or (start + (c.toNat - first)) with null | same
          · exact .inr (.inl (h.trans null))
          · refine .inr (.inr ?_)
            rw [h]
            show 64 < (Char.ofNat (start + (c.toNat - first))).toNat
            omega

/-- What lower case makes of every character of one kind, it makes of a text of that kind. -/
theorem of_mem_lowerFrom {p q : Char → Prop} (hpq : ∀ before c after, p c → ∀ d ∈ lowerChar before c after, q d)
    {before s : List Char} (h : ∀ c ∈ s, p c) : ∀ d ∈ lowerFrom before s, q d := by
  induction s generalizing before with
  | nil => exact fun _ => nofun
  | cons c s ih =>
    rw [List.forall_mem_cons] at h
    rw [lowerFrom, List.forall_mem_append]
    exact ⟨hpq _ _ _ h.1, ih h.2⟩

theorem toLower_of_not_ascii {c : Char} (h : ¬ c.toNat < 128) : c.toLower = c := by
  unfold Char.toLower
  split
  · rename_i hc
    have : c.toNat ≤ 90 := hc.2
    omega
  · rfl

/-- A letter outside ASCII that stands for one of a mechanism is still outside when it is in lower case. -/
theorem lowerChar_of_foldsTo {before after : List Char} {w c : Char} (hw : w.toNat < 128) (hk : w ≠ 'k')
    (h : foldsTo w c = true) (ha : ∀ c' ∈ lowerChar before c after, c'.toNat < 128) : lowerChar before c after = [w] := by
  unfold foldsTo at h
  simp only [Bool.or_eq_true, Bool.and_eq_true, beq_iff_eq, hk, false_and, or_false] at h
  rcases h with (folds | ⟨-, rfl | rfl⟩) | ⟨-, rfl⟩
  · -- letters of ASCII are brought to lower case, others are left as they are by `Char.toLower`
    by_cases ascii : c.toNat < 128
    · rw [lowerChar_of_ascii ascii, folds]
    · rw [toLower_of_not_ascii ascii] at folds
      exact absurd (folds ▸ hw) ascii
  · exact absurd (ha '\u0307' (.tail _ (.head _))) (by decide)
  · exact absurd (ha 'ı' (.head _)) (by decide)
  · exact absurd (ha 'ſ' (.head _)) (by decide)

/-- What is taken for a word when case is ignored stands at the start of the text and folds to the word. -/
theorem takeFolded_some {word s taken rest : List Char} (h : takeFolded word s = some (taken, rest)) :
    s = taken ++ rest ∧ List.Forall₂ (foldsTo · · = true) word taken := by
  induction word generalizing s taken with
  | nil =>
    cases h
    exact ⟨rfl, .nil⟩
  | cons w word ih =>
    cases s with
    | nil => cases h
    | cons c s =>
      unfold takeFolded at h
      split at h
      · rename_i folds
        obtain ⟨⟨taken', rest'⟩, ht, h⟩ := Option.map_eq_some_iff.mp h
        cases h
        obtain ⟨rfl, later⟩ := ih ht
        exact ⟨rfl, .cons folds later⟩
      · cases h

/-- What folds to a word is the word in lower case, unless that has a letter outside ASCII. -/
theorem lowerFrom_of_foldsTo {word taken : List Char} (h : List.Forall₂ (foldsTo · · = true) word taken)
    (hw : ∀ w ∈ word, w.toNat < 128 ∧ w ≠ 'k') {before : List Char} (ha : ∀ c ∈ lowerFrom before taken, c.toNat < 128) :
    lowerFrom before taken = word := by
  induction h generalizing before with
  | nil => rfl
  | cons folds _ ih =>
    obtain ⟨ascii, hk⟩ := hw _ List.mem_cons_self
    unfold lowerFrom at ha ⊢
    rw [lowerChar_of_foldsTo ascii hk folds fun c' hc => ha c' (List.mem_append_left _ hc),
      ih (fun w' hw' => hw w' (List.mem_cons_of_mem _ hw')) fun c' hc => ha c' (List.mem_append_right _ hc)]
    rfl

theorem ofName_name : ∀ m ∈ Mechanism.known, Mechanism.ofName m.name = m ∧ ∀ name, m ≠ .unknown name := by
  intro m hm
  cases m with
  | unknown name => exact absurd hm (by simp [Mechanism.known])
  | _ => exact ⟨by decide, nofun⟩

theorem ascii_name {m : Mechanism} (hm : m ∈ Mechanism.known) : ∀ w ∈ m.name.toList, w.toNat < 128 ∧ w ≠ 'k' := by
  have ascii : ∀ m ∈ Mechanism.known, (m.name.toList.all fun w => w.toNat < 128 && w != 'k') = true := by decide
  intro w hw
  have letter := List.all_eq_true.mp (ascii m hm) w hw
  simpa using letter

theorem eq_of_ofName_unknown {name name' : String} (h : Mechanism.ofName name = .unknown name') : name = name' := by
  unfold Mechanism.ofName at h
  cases hf : Mechanism.known.find? (·.name == name) with
  | none =>
    rw [hf] at h
    exact Mechanism.unknown.inj h
  | some m =>
    rw [hf] at h
    exact absurd h ((ofName_name m (List.mem_of_find?_eq_some hf)).2 name')

theorem singleLine?_some {s line : List Char} (h : singleLine? s = some line) : '\n' ∉ line := by
  unfold singleLine? at h
  dsimp only at h
  generalize (if s.getLast? = some '\n' then s.dropLast else s) = text at h
  split at h
  · cases h
  · rename_i hn
    cases h
    simpa using hn

/-- A value is what stands on one line behind a colon or a slash, or there is none. -/
theorem valueAt_some {s : List Char} {separator : Separator} {value : String} (h : valueAt s = some (separator, value)) :
    (separator = .absent ∧ value = "" ∧ (s = [] ∨ s = ['\n'])) ∨
      ∃ rest line, (separator = .colon ∧ s = ':' :: rest ∨ separator = .slash ∧ s = '/' :: rest) ∧
        singleLine? rest = some line ∧ value = String.ofList line := by
  unfold valueAt at h
  split at h
  · obtain ⟨line, hl, h⟩ := Option.map_eq_some_iff.mp h
    cases h
    exact .inr ⟨_, line, .inl ⟨rfl, rfl⟩, hl, rfl⟩
  · obtain ⟨line, hl, h⟩ := Option.map_eq_some_iff.mp h
    cases h
    exact .inr ⟨_, line, .inr ⟨rfl, rfl⟩, hl, rfl⟩
  · split at h
    · rename_i hs
      cases h
      exact .inl ⟨rfl, rfl, by simpa using hs⟩
    · cases h

theorem newline_not_mem_valueAt {s : List Char} {separator : Separator} {value : String}
    (h : valueAt s = some (separator, value)) : '\n' ∉ value.toList := by
  rcases valueAt_some h with ⟨-, rfl, -⟩ | ⟨rest, line, -, hl, rfl⟩
  · exact List.not_mem_nil
  · rw [String.toList_ofList]
    exact singleLine?_some hl

theorem result?_ofSign_signAt (s : List Char) : (Qualifier.ofSign (signAt s).1).result?.isSome := by
  have signs : (['+', '-', '~', '?'].all fun c => (Qualifier.ofSign (String.singleton c)).result?.isSome) = true := by
    decide
  unfold signAt
  split
  · rfl
  · rename_i c rest
    split
    · rename_i hc
      exact List.all_eq_true.mp signs c (List.contains_iff_mem.mp hc)
    · rfl

theorem mechanismAt_some {s : List Char} {name value : String} {separator : Separator}
    (h : mechanismAt s = some (name, separator, value)) :
    ∃ m ∈ Mechanism.known, ∃ taken rest, takeFolded m.name.toList s = some (taken, rest) ∧
      name = lower (String.ofList taken) ∧ valueAt rest = some (separator, value) := by
  obtain ⟨m, known, hm⟩ := List.exists_of_findSome?_eq_some h
  obtain ⟨⟨taken, rest⟩, ht, hm⟩ := Option.bind_eq_some_iff.mp hm
  obtain ⟨⟨separator', value'⟩, hv, hm⟩ := Option.bind_eq_some_iff.mp hm
  cases hm
  exact ⟨m, known, taken, rest, ht, rfl, hv⟩

theorem Directive.ofText?_some {text : String} {d : Directive} (h : ofText? text = some d) :
    ∃ name, mechanismAt (signAt text.toList).2 = some (name, d.separator, d.value) ∧
      d.mechanism.allows d.separator d.value = true ∧
        d = ⟨Qualifier.ofSign (signAt text.toList).1, Mechanism.ofName name, d.separator, d.value, text⟩ := by
  unfold ofText? at h
  dsimp only at h
  obtain ⟨⟨name, separator, value⟩, hm, h⟩ := Option.bind_eq_some_iff.mp h
  dsimp only at h
  split at h
  · rename_i allowed
    cases h
    exact ⟨name, hm, allowed, rfl⟩
  · cases h

/-- A mechanism that is taken for one but has no known name has a letter outside ASCII in its name. -/
theorem unknown_of_mechanismAt {s : List Char} {name value name' : String} {separator : Separator}
    (h : mechanismAt s = some (name, separator, value)) (hn : Mechanism.ofName name = .unknown name') :
    ∃ c ∈ name'.toList, 128 ≤ c.toNat := by
  obtain rfl := eq_of_ofName_unknown hn
  obtain ⟨m, known, taken, rest, ht, rfl, -⟩ := mechanismAt_some h
  by_contra absent
  have ascii : ∀ c ∈ lowerFrom [] taken, c.toNat < 128 := fun c hc => by
    by_contra h
    exact absent ⟨c, by simpa [lower] using hc, by omega⟩
  have lowered : lower (String.ofList taken) = m.name := by
    simp [lower, lowerFrom_of_foldsTo (takeFolded_some ht).2 (ascii_name known) ascii]
  -- in ASCII the name would be that of a mechanism, and so a known one
  rw [lowered] at hn
  obtain ⟨named, unlike⟩ := ofName_name m known
  exact unlike _ (named.symm.trans hn)

theorem wellRead_of_ofText? {term : String} {d : Directive} (h : Directive.ofText? term = some d) : d.WellRead := by
  obtain ⟨name, hm, -, hd⟩ := Directive.ofText?_some h
  obtain ⟨-, -, -, rest, -, -, hv⟩ := mechanismAt_some hm
  refine ⟨?_, fun name' hn => ?_, newline_not_mem_valueAt hv⟩
  · rw [hd]
    exact result?_ofSign_signAt _
  · rw [hd] at hn
    exact unknown_of_mechanismAt hm hn

/-! ### Prefix lengths -/

namespace DualCidr

theorem split?_isSome : ∀ {s : List Char}, '\n' ∉ s → (split? s).isSome
  | [], _ => rfl
  | c :: rest, h => by
    unfold split?
    split
    · rfl
    · rw [List.mem_cons, not_or] at h
      rw [if_neg (Ne.symm h.1), Option.isSome_map]
      exact split?_isSome h.2

theorem overlong_of_readLength {width : Nat} {tooLong : SyntaxError} {run : Option (List Char)} {f : Fault}
    (h : readLength width tooLong run = .error (.fault f)) : f.Overlong := by
  unfold readLength at h
  split at h
  · cases h
  · split at h
    · rename_i hr
      cases h
      exact overlong_of_readDigits hr
    · split at h <;> cases h

theorem overlong_of_ofDirective {d : Directive} {f : Fault} (hd : d.WellRead) (h : ofDirective d = .error (.fault f)) :
    f.Overlong := by
  have line : '\n' ∉ (if d.separator = .slash then '/' :: d.value.toList else d.value.toList) := by
    split
    · exact fun hn => (List.mem_cons.mp hn).elim (by decide) hd.value
    · exact hd.value
  unfold ofDirective at h
  dsimp only at h
  generalize (if d.separator = .slash then '/' :: d.value.toList else d.value.toList) = value at h line
  obtain ⟨⟨name, ip4, ip6⟩, hs⟩ := Option.isSome_iff_exists.mp (split?_isSome line)
  rw [hs] at h
  dsimp only at h
  split at h
  · cases h
  · cases h4 : readLength 32 (.cidr4 d.raw) ip4 with
    | error x =>
      rw [h4] at h
      cases h
      exact overlong_of_readLength h4
    | ok length4 =>
      cases h6 : readLength 128 (.cidr6 d.raw) ip6 with
      | error x =>
        rw [h4, h6] at h
        cases h
        exact overlong_of_readLength h6
      | ok length6 =>
        rw [h4, h6] at h
        cases h

end DualCidr

/-! ### Terms -/

namespace Record

section
variable {domain marker : String}

/-- The macros of a domain-spec can be read. -/
def SpecReads (spec : String) : Prop := ∃ tokens, readTokens false spec.toList = .ok tokens

theorem specReads_of_checkDomainSpec {spec : String} (h : checkDomainSpec domain marker spec = .ok ()) : SpecReads spec := by
  unfold checkDomainSpec at h
  split at h
  · cases h
  · rename_i tokens ht
    exact ⟨tokens, ht⟩

theorem overlong_of_checkDomainSpec {spec : String} {f : Fault} (h : checkDomainSpec domain marker spec = .error (.fault f)) :
    f.Overlong := by
  unfold checkDomainSpec at h
  split at h
  · rename_i e he
    exact overlong_of_ofMacroString he (Except.error.inj h)
  · split at h <;> cases h

theorem overlong_of_checkNetwork {family : Family} {d : Directive} {f : Fault}
    (h : checkNetwork domain family d = .error (.fault f)) : f.Overlong := by
  unfold checkNetwork at h
  split at h
  · cases h
  · split at h <;> cases h

theorem checkDirective_dual {d : Directive} (h : d.mechanism = .a ∨ d.mechanism = .mx) :
    checkDirective domain marker d = (do
      let cidr ← DualCidr.ofDirective d
      if cidr.domainSpec = "" then pure () else checkDomainSpec domain marker cidr.domainSpec) := by
  rcases h with h | h <;>
  · unfold checkDirective
    rw [h]

theorem checkDirective_spec {d : Directive} (h : d.mechanism = .incl ∨ d.mechanism = .ptr ∨ d.mechanism = .exists) :
    checkDirective domain marker d = if d.value = "" then .ok () else checkDomainSpec domain marker d.value := by
  rcases h with h | h | h <;>
  · unfold checkDirective
    rw [h]

theorem overlong_of_checkDirective {d : Directive} {f : Fault} (hd : d.WellRead)
    (h : checkDirective domain marker d = .error (.fault f)) : f.Overlong := by
  have dual (hm : d.mechanism = .a ∨ d.mechanism = .mx) : f.Overlong := by
    rw [checkDirective_dual hm] at h
    cases hc : DualCidr.ofDirective d with
    | error x =>
      rw [hc] at h
      cases h
      exact DualCidr.overlong_of_ofDirective hd hc
    | ok cidr =>
      rw [hc] at h
      change (if cidr.domainSpec = "" then _ else _) = _ at h
      split at h
      · cases h
      · exact overlong_of_checkDomainSpec h
  have spec (hm : d.mechanism = .incl ∨ d.mechanism = .ptr ∨ d.mechanism = .exists) : f.Overlong := by
    rw [checkDirective_spec hm] at h
    split at h
    · cases h
    · exact overlong_of_checkDomainSpec h
  cases hm : d.mechanism with
  | a => exact dual (.inl hm)
  | mx => exact dual (.inr hm)
  | incl => exact spec (.inl hm)
  | ptr => exact spec (.inr (.inl hm))
  | «exists» => exact spec (.inr (.inr hm))
  | ip4 | ip6 =>
    unfold checkDirective at h
    rw [hm] at h
    exact overlong_of_checkNetwork h
  | all | unknown =>
    unfold checkDirective at h
    rw [hm] at h
    cases h

theorem overlong_of_checkModifier {m : Modifier} {f : Fault} (h : checkModifier domain marker m = .error (.fault f)) :
    f.Overlong := by
  unfold checkModifier at h
  split at h
  · exact overlong_of_checkDomainSpec h
  · split at h
    · rename_i e he
      exact overlong_of_ofMacroString he (Except.error.inj h)
    · cases h

theorem overlong_of_readTerm {record : String} {term : List Char} {f : Fault}
    (h : readTerm record domain marker term = .error (.fault f)) : f.Overlong := by
  unfold readTerm at h
  dsimp only at h
  split at h
  · rename_i d hd
    exact overlong_of_checkDirective (wellRead_of_ofText? hd) (map_error_iff.mp h)
  · split at h
    · exact overlong_of_checkModifier (map_error_iff.mp h)
    · cases h

/-- Reading a record is at fault only if a numeral in it has too many digits. -/
theorem overlong_of_read {record : String} {f : Fault} (h : read domain marker record = .error (.fault f)) :
    f.Overlong := by
  unfold read at h
  dsimp only at h
  split at h
  · cases h
  · obtain ⟨term, -, ht⟩ := exists_error_of_mapM h
    exact overlong_of_readTerm ht

end

end Record

/-! ### What an accepted record guarantees -/

/-- A word of a record is read as a term, and the term passes its check. -/
inductive Record.Reads (domain marker : String) (word : List Char) : Term → Prop
  | directive {d : Directive} (h : Directive.ofText? (String.ofList word) = some d)
      (hc : checkDirective domain marker d = .ok ()) : Reads domain marker word (.directive d)
  | modifier {m : Modifier} (h : Modifier.ofText? (String.ofList word) = some m)
      (hc : checkModifier domain marker m = .ok ()) : Reads domain marker word (.modifier m)

theorem Record.reads_of_readTerm {record domain marker : String} {word : List Char} {term : Term}
    (h : readTerm record domain marker word = .ok term) : Reads domain marker word term := by
  unfold readTerm at h
  dsimp only at h
  split at h
  · rename_i d hd
    obtain ⟨_, hc, rfl⟩ := map_ok_iff.mp h
    exact .directive hd hc
  · split at h
    · rename_i m hm
      obtain ⟨_, hc, rfl⟩ := map_ok_iff.mp h
      exact .modifier hm hc
    · cases h

/-- The domain-spec that the test of a directive expands. -/
inductive Directive.Targets (d : Directive) : String → Prop
  | value (h : d.mechanism = .incl ∨ d.mechanism = .ptr ∨ d.mechanism = .exists) : d.Targets d.value
  | cidr {c : DualCidr} (h : d.mechanism = .a ∨ d.mechanism = .mx) (hc : DualCidr.ofDirective d = .ok c) :
      d.Targets c.domainSpec

/-- The term has passed its check. -/
def Term.Accepted (domain marker : String) : Term → Prop
  | .directive d => d.WellRead ∧ Record.checkDirective domain marker d = .ok ()
  | .modifier m => Record.checkModifier domain marker m = .ok ()

section
variable {domain marker : String}

theorem accepted_of_read {record : String} {terms : List Term} (h : Record.read domain marker record = .ok terms) :
    ∀ term ∈ terms, term.Accepted domain marker := by
  unfold Record.read at h
  dsimp only at h
  split at h
  · cases h
  · intro term hm
    obtain ⟨text, -, ht⟩ := exists_of_mem_mapM h term hm
    cases Record.reads_of_readTerm ht with
    | directive hd hc => exact ⟨wellRead_of_ofText? hd, hc⟩
    | modifier _ hc => exact hc

theorem Term.Accepted.exists_cidr {d : Directive} (h : (Term.directive d).Accepted domain marker)
    (hm : d.mechanism = .a ∨ d.mechanism = .mx) : ∃ cidr, DualCidr.ofDirective d = .ok cidr := by
  have checked := h.2
  rw [Record.checkDirective_dual hm] at checked
  cases hc : DualCidr.ofDirective d with
  | error x =>
    rw [hc] at checked
    cases checked
  | ok cidr => exact ⟨cidr, rfl⟩

/-- What the test of an accepted directive expands can be read. -/
theorem Term.Accepted.specReads {d : Directive} {spec : String} (h : (Term.directive d).Accepted domain marker)
    (ht : d.Targets spec) : Record.SpecReads spec := by
  have empty : Record.SpecReads "" := ⟨[], rfl⟩
  have checked := h.2
  cases ht with
  | value hm =>
    rw [Record.checkDirective_spec hm] at checked
    split at checked
    · rename_i none
      rwa [none]
    · exact Record.specReads_of_checkDomainSpec checked
  | @cidr c hm hc =>
    rw [Record.checkDirective_dual hm, hc] at checked
    change (if c.domainSpec = "" then _ else _) = _ at checked
    split at checked
    · rename_i none
      rwa [none]
    · exact Record.specReads_of_checkDomainSpec checked

theorem Term.Accepted.specReads_modifier {m : Modifier} (h : (Term.modifier m).Accepted domain marker)
    (hm : (m.isRedirect || m.isExplanation) = true) : Record.SpecReads m.macroString := by
  have checked : Record.checkModifier domain marker m = .ok () := h
  unfold Record.checkModifier at checked
  rw [if_pos hm] at checked
  exact Record.specReads_of_checkDomainSpec checked

end

end SenderPolicy
