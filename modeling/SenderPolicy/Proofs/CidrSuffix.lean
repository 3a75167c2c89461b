import SenderPolicy.Proofs.Grammar
import SenderPolicy.Proofs.ReadTexts

/-! Prefix lengths behind an address or mail mechanism. With and without a name in front of them they are read alike; what
is no length differs. Behind the mechanism itself it is an error, but behind a name it becomes a part of the name, which
may hold slashes. -/

namespace SenderPolicy

open Text

namespace DualCidr

/-! ### The text of prefix lengths -/

/-- The text that gives prefix lengths by runs of digits, behind one slash and behind two. -/
def suffix (ip4 ip6 : Option (List Char)) : List Char := ip4.elim [] ('/' :: ·) ++ ip6.elim [] ('/' :: '/' :: ·)

/-- What is given for a prefix length is a run of digits. -/
def IsRun (run : List Char) : Prop := run ≠ [] ∧ ∀ c ∈ run, isDigit c = true

/-- The runs are runs of digits. -/
def AreRuns (ip4 ip6 : Option (List Char)) : Prop := (∀ run ∈ ip4, IsRun run) ∧ ∀ run ∈ ip6, IsRun run

variable {s rest slashes run : List Char} {ip4 ip6 : Option (List Char)}

theorem digitsAfter_run (slashes : List Char) (hr : IsRun run) (ht : rest.head?.all (!isDigit ·) = true) :
    digitsAfter slashes (slashes ++ (run ++ rest)) = (some run, rest) := by
  have digits : (run ++ rest).takeWhile isDigit = run := by
    rw [List.takeWhile_append_of_pos hr.2]
    cases rest <;> simp_all
  have others : (run ++ rest).dropWhile isDigit = rest := by
    rw [List.dropWhile_append_of_pos hr.2]
    cases rest <;> simp_all
  simp [digitsAfter, digits, others, hr.1]

theorem of_digitsAfter {found : Option (List Char)} (h : digitsAfter slashes s = (found, rest)) :
    s = found.elim [] (slashes ++ ·) ++ rest ∧ ∀ run ∈ found, IsRun run := by
  unfold digitsAfter at h
  split at h
  · rename_i front
    obtain ⟨tail, rfl⟩ := List.isPrefixOf_iff_prefix.mp front
    simp only [List.drop_left] at h
    split at h
    · cases h
      exact ⟨rfl, nofun⟩
    · rename_i nonempty
      cases h
      refine ⟨by simp, ?_⟩
      rintro run ⟨⟩
      exact ⟨by simpa using nonempty, fun c hc => List.all_eq_true.mp List.all_takeWhile c hc⟩
  · cases h
    exact ⟨rfl, nofun⟩

theorem suffix?_suffix (h : AreRuns ip4 ip6) : suffix? (suffix ip4 ip6) = some (ip4, ip6) := by
  have six : digitsAfter ['/', '/'] (suffix none ip6) = (ip6, []) := by
    cases ip6 with
    | none => rfl
    | some run =>
      have after : ([] : List Char).head?.all (!isDigit ·) = true := rfl
      simpa [suffix] using digitsAfter_run ['/', '/'] (h.2 run rfl) after
  have four : digitsAfter ['/'] (suffix ip4 ip6) = (ip4, suffix none ip6) := by
    cases ip4 with
    | none => cases ip6 <;> rfl
    | some run =>
      have after : (suffix none ip6).head?.all (!isDigit ·) = true := by cases ip6 <;> rfl
      exact digitsAfter_run ['/'] (h.1 run rfl) after
  simp [suffix?, four, six]

/-- A text is taken for prefix lengths if and only if it gives them. -/
theorem suffix?_iff (line : '\n' ∉ s) : suffix? s = some (ip4, ip6) ↔ s = suffix ip4 ip6 ∧ AreRuns ip4 ip6 := by
  constructor
  · intro h
    rcases cut4 : digitsAfter ['/'] s with ⟨found4, rest4⟩
    rcases cut6 : digitsAfter ['/', '/'] rest4 with ⟨found6, rest6⟩
    simp only [suffix?, cut4, cut6] at h
    obtain ⟨rfl, runs4⟩ := of_digitsAfter cut4
    obtain ⟨rfl, runs6⟩ := of_digitsAfter cut6
    split at h
    · rename_i ended
      cases h
      have ended : rest6 = [] := by
        rcases Bool.or_eq_true _ _ ▸ ended with h | h
        · exact of_decide_eq_true h
        · rw [of_decide_eq_true h] at line
          simp at line
      exact ⟨by simp [suffix, ended], runs4, runs6⟩
    · cases h
  · rintro ⟨rfl, runs⟩
    exact suffix?_suffix runs

/-! ### The cut before prefix lengths -/

/-- A text consists of a name and of prefix lengths, and no shorter name will do. -/
structure Splits (s name : List Char) (ip4 ip6 : Option (List Char)) : Prop where
  text : s = name ++ suffix ip4 ip6
  runs : AreRuns ip4 ip6
  shortest : ∀ {name' ip4' ip6'}, s = name' ++ suffix ip4' ip6' → AreRuns ip4' ip6' → name.length ≤ name'.length

variable {name : List Char}

theorem splits_of_split? (line : '\n' ∉ s) (h : split? s = some (name, ip4, ip6)) : Splits s name ip4 ip6 := by
  induction s generalizing name with
  | nil =>
    obtain ⟨lengths, hl, h⟩ := Option.map_eq_some_iff.mp h
    cases h
    obtain ⟨text, runs⟩ := (suffix?_iff line).mp hl
    exact ⟨text, runs, fun _ _ => Nat.zero_le _⟩
  | cons c s ih =>
    unfold split? at h
    cases hl : suffix? (c :: s) with
    | some lengths =>
      rw [hl] at h
      cases h
      obtain ⟨text, runs⟩ := (suffix?_iff line).mp hl
      exact ⟨text, runs, fun _ _ => Nat.zero_le _⟩
    | none =>
      rw [List.mem_cons, not_or] at line
      rw [hl] at h
      dsimp only at h
      rw [if_neg (Ne.symm line.1)] at h
      obtain ⟨⟨later, lengths⟩, hs, h⟩ := Option.map_eq_some_iff.mp h
      cases h
      obtain ⟨text, runs, shortest⟩ := ih line.2 hs
      refine ⟨by rw [text]; rfl, runs, fun {name' ip4' ip6'} text' runs' => ?_⟩
      cases name' with
      | nil =>
        -- then the whole text would have been taken for lengths
        rw [text', List.nil_append, suffix?_suffix runs'] at hl
        cases hl
      | cons d later' =>
        obtain ⟨rfl, tail⟩ := List.cons_eq_cons.mp text'
        exact Nat.succ_le_succ (shortest tail runs')

theorem splits_suffix (runs : AreRuns ip4 ip6) : Splits (suffix ip4 ip6) [] ip4 ip6 := ⟨rfl, runs, fun _ _ => Nat.zero_le _⟩

/-- A text without a slash gives no lengths. -/
theorem splits_of_not_mem (h : '/' ∉ s) : Splits s s none none := by
  refine ⟨(List.append_nil s).symm, ⟨nofun, nofun⟩, fun {name' ip4' ip6'} text _ => ?_⟩
  have slashless : '/' ∉ suffix ip4' ip6' := fun held => h (text ▸ List.mem_append_right _ held)
  have bare : suffix ip4' ip6' = [] := by cases ip4' <;> cases ip6' <;> simp_all [suffix]
  rw [bare, List.append_nil] at text
  exact Nat.le_of_eq (congrArg List.length text)

theorem Splits.unique {name' : List Char} {ip4' ip6' : Option (List Char)} (h : Splits s name ip4 ip6)
    (h' : Splits s name' ip4' ip6') : name = name' ∧ ip4 = ip4' ∧ ip6 = ip6' := by
  have length : name.length = name'.length := Nat.le_antisymm (h.shortest h'.text h'.runs) (h'.shortest h.text h.runs)
  obtain ⟨rfl, same⟩ := List.append_inj (h.text.symm.trans h'.text) length
  have read := suffix?_suffix h.runs
  rw [same, suffix?_suffix h'.runs] at read
  cases read
  exact ⟨rfl, rfl, rfl⟩

theorem Splits.length_le (h : Splits s name ip4 ip6) :
    (∀ run ∈ ip4, run.length ≤ s.length) ∧ ∀ run ∈ ip6, run.length ≤ s.length := by
  have length := congrArg List.length h.text
  constructor
  · rintro run ⟨⟩
    simp [suffix] at length
    omega
  · rintro run ⟨⟩
    simp [suffix] at length
    omega

/-- The cut is where a text has to be cut. -/
theorem split?_iff (line : '\n' ∉ s) : split? s = some (name, ip4, ip6) ↔ Splits s name ip4 ip6 := by
  refine ⟨splits_of_split? line, fun h => ?_⟩
  obtain ⟨⟨name', ip4', ip6'⟩, hs⟩ := Option.isSome_iff_exists.mp (split?_isSome line)
  obtain ⟨rfl, rfl, rfl⟩ := h.unique (splits_of_split? line hs)
  exact hs

/-- A name without a slash is in front of the cut, whatever follows. -/
theorem split?_append {front : List Char} (hf : ∀ c ∈ front, c ≠ '/' ∧ c ≠ '\n') (s : List Char) :
    split? (front ++ '/' :: s) = (split? ('/' :: s)).map fun (name, lengths) => (front ++ name, lengths) := by
  induction front with
  | nil => simp
  | cons c front ih =>
    obtain ⟨slash, lineEnd⟩ := hf c (.head _)
    have other : suffix? (c :: front ++ '/' :: s) = none := by
      have apart : ('/' == c) = false := by simpa using Ne.symm slash
      simp [suffix?, digitsAfter, List.isPrefixOf, apart]
    rw [List.cons_append, split?, ← List.cons_append, other]
    simp [lineEnd, ih fun d hd => hf d (.tail _ hd), Option.map_map, Function.comp_def]

/-! ### Lengths in their ranges -/

/-- The lengths fit the addresses of both families. -/
def InRange (ip4 ip6 : Option (List Char)) : Prop := (∀ run ∈ ip4, digitsValue run ≤ 32) ∧ ∀ run ∈ ip6, digitsValue run ≤ 128

theorem readLength_ok_iff {width : Nat} {tooLong : SyntaxError} {found : Option (List Char)} {n : Option Nat}
    (short : ∀ run ∈ found, run.length ≤ maxDigits) :
    readLength width tooLong found = .ok n ↔ (∀ run ∈ found, digitsValue run ≤ width) ∧ n = found.map digitsValue := by
  cases found with
  | none => simp [readLength, eq_comm]
  | some run =>
    have few : ¬ run.length > maxDigits := Nat.not_lt.mpr (short run rfl)
    by_cases h : digitsValue run ≤ width
    · simp [readLength, readDigits, few, h, Nat.not_lt.mpr h, eq_comm]
    · simp [readLength, readDigits, few, h, Nat.lt_of_not_le h]

/-- The text of a directive in which lengths are looked for. -/
def given (d : Directive) : List Char := if d.separator = .slash then '/' :: d.value.toList else d.value.toList

/-- What a directive gives: the lengths at the end of its text, and what stands before them as a name, but only behind a
colon. -/
theorem ofDirective_ok_iff {d : Directive} {cidr : DualCidr} (line : '\n' ∉ given d) (short : (given d).length ≤ maxDigits)
    (cut : Splits (given d) name ip4 ip6) :
    ofDirective d = .ok cidr ↔ (d.separator = .slash → name = []) ∧ InRange ip4 ip6 ∧
      cidr = ⟨String.ofList name, ip4.map digitsValue, ip6.map digitsValue⟩ := by
  have short4 : ∀ run ∈ ip4, run.length ≤ maxDigits := fun run h => Nat.le_trans (cut.length_le.1 run h) short
  have short6 : ∀ run ∈ ip6, run.length ≤ maxDigits := fun run h => Nat.le_trans (cut.length_le.2 run h) short
  unfold ofDirective
  dsimp only
  rw [show (if d.separator = .slash then '/' :: d.value.toList else d.value.toList) = given d from rfl, (split?_iff line).mpr cut]
  dsimp only
  split
  · rename_i misplaced
    simp at misplaced
    simp [misplaced]
  · rename_i placed
    simp at placed
    simp only [bind_ok_iff, readLength_ok_iff short4, readLength_ok_iff short6, InRange]
    constructor
    · rintro ⟨_, ⟨h4, rfl⟩, _, ⟨h6, rfl⟩, ⟨⟩⟩
      exact ⟨placed, ⟨h4, h6⟩, rfl⟩
    · rintro ⟨-, ⟨h4, h6⟩, rfl⟩
      exact ⟨_, ⟨h4, rfl⟩, _, ⟨h6, rfl⟩, rfl⟩

end DualCidr

/-! ### Terms with a value behind an address or mail mechanism -/

/-- The directive of an address or mail mechanism with a value, as it is written in lower case. -/
def Directive.dual (m : Mechanism) (separator : Separator) (value : String) : Directive :=
  ⟨.plus, m, separator, value, m.name ++ separator.text ++ value⟩

section
variable {m : Mechanism} (hm : m = .a ∨ m = .mx) {separator : Separator} (hs : separator ≠ .absent) {value : String}
include hm hs

theorem mechanismAt_dual (line : '\n' ∉ value.toList) :
    mechanismAt (m.name.toList ++ separator.text.toList ++ value.toList) = some (m.name, separator, value) := by
  have single : singleLine? value.toList = some value.toList := by
    have last : value.toList.getLast? ≠ some '\n' := fun h => line (List.mem_of_getLast? h)
    simp [singleLine?, last, line]
  have lowered : lower m.name = m.name := by rcases hm with rfl | rfl <;> decide
  -- no other name stands at the start
  have taken : (Mechanism.known.filterMap fun other =>
      takeFolded other.name.toList (m.name.toList ++ separator.text.toList ++ value.toList)) =
        [(m.name.toList, separator.text.toList ++ value.toList)] := by
    rcases hm with rfl | rfl <;> cases separator <;> first | exact absurd rfl hs | rfl
  have read : valueAt (separator.text.toList ++ value.toList) = some (separator, value) := by
    cases separator with
    | absent => exact absurd rfl hs
    | colon => exact (congrArg (Option.map fun text => (Separator.colon, String.ofList text)) single).trans (by simp)
    | slash => exact (congrArg (Option.map fun text => (Separator.slash, String.ofList text)) single).trans (by simp)
  let give (found : List Char × List Char) : Option (String × Separator × String) :=
    (valueAt found.2).map fun read => (lower (String.ofList found.1), read.1, read.2)
  calc mechanismAt (m.name.toList ++ separator.text.toList ++ value.toList)
      = ((Mechanism.known.filterMap fun other =>
          takeFolded other.name.toList (m.name.toList ++ separator.text.toList ++ value.toList)).filterMap give).head? := by
        rw [List.filterMap_filterMap, List.head?_filterMap, mechanismAt]
        refine congrArg (List.findSome? · Mechanism.known) (funext fun other => ?_)
        rcases takeFolded other.name.toList (m.name.toList ++ separator.text.toList ++ value.toList) with _ | ⟨taken, rest⟩
        · rfl
        · exact (Option.map_eq_bind ..).symm
    _ = some (m.name, separator, value) := by
        rw [taken]
        simp [give, read, lowered]

theorem Directive.ofText?_dual (hv : value ≠ "") (line : '\n' ∉ value.toList) :
    ofText? (dual m separator value).raw = some (dual m separator value) := by
  have signless : ∀ rest, signAt (m.name.toList ++ rest) = ("", m.name.toList ++ rest) := by
    rcases hm with rfl | rfl <;> exact fun _ => rfl
  have known : Mechanism.ofName m.name = m := (ofName_name m (by rcases hm with rfl | rfl <;> simp [Mechanism.known])).1
  have allowed : m.allows separator value = true := by rcases hm with rfl | rfl <;> simp [Mechanism.allows, hv]
  have text : (dual m separator value).raw.toList = m.name.toList ++ (separator.text.toList ++ value.toList) := by simp [dual]
  simp only [ofText?, text, signless]
  rw [← List.append_assoc, mechanismAt_dual hm hs line]
  simp [known, allowed, dual]
  rfl

omit hs in
theorem Directive.isBlank_raw_dual (plain : ∀ c ∈ value.toList, isBlank c = false) :
    ∀ c ∈ (dual m separator value).raw.toList, isBlank c = false := by
  have named : (m.name.toList ++ separator.text.toList).all (!isBlank ·) = true := by
    rcases hm with rfl | rfl <;> cases separator <;> decide
  intro c hc
  rw [show (dual m separator value).raw.toList = m.name.toList ++ separator.text.toList ++ value.toList by simp [dual]] at hc
  rcases List.mem_append.mp hc with hc | hc
  · simpa using List.all_eq_true.mp named c hc
  · exact plain c hc

end

theorem Directive.raw_dual_ne_empty {m : Mechanism} {separator : Separator} {value : String} (hv : value ≠ "") :
    (dual m separator value).raw ≠ "" := by
  intro h
  have empty := congrArg String.toList h
  simp [dual, hv] at empty

/-- The text in which lengths are looked for has the characters of the value, and slashes. -/
theorem DualCidr.forall_given_dual {m : Mechanism} {separator : Separator} {value : String} {p : Char → Prop} (slash : p '/')
    (h : ∀ c ∈ value.toList, p c) : ∀ c ∈ given (.dual m separator value), p c := by
  intro c hc
  unfold given at hc
  split at hc
  · rcases List.mem_cons.mp hc with rfl | hc
    · exact slash
    · exact h c hc
  · exact h c hc

/-! ### Names and records without special characters -/

/-- A text without percent signs is literal. -/
theorem scanTokens_plain (explanation : Bool) {s : List Char} (h : '%' ∉ s) :
    ∀ literal n, ∃ tokens, scanTokens explanation (.plain literal) n s = .ok tokens := by
  induction s with
  | nil => exact fun literal n => ⟨_, rfl⟩
  | cons c s ih =>
    intro literal n
    rw [List.mem_cons, not_or] at h
    rw [scanTokens, if_neg (Ne.symm h.1)]
    exact ih h.2 (c :: literal) (n + 1)

theorem dropWhile_of_head {p : Char → Bool} {s : List Char} (h : s.head?.all (!p ·) = true) : s.dropWhile p = s := by
  cases s <;> simp_all

theorem stripped_of_ends {p : Char → Bool} {s : List Char} (head : s.head?.all (!p ·) = true)
    (last : s.getLast?.all (!p ·) = true) : stripped p s = s := by
  have back : s.reverse.head?.all (!p ·) = true := by rwa [List.head?_reverse]
  rw [stripped, dropWhile_of_head head, dropTrailing, dropWhile_of_head back, List.reverse_reverse]

namespace Record

variable {domain marker : String}

/-- A name without macros is checked for being a domain name. -/
theorem checkDomainSpec_plain {spec : String} (h : '%' ∉ spec.toList) :
    checkDomainSpec domain marker spec = .ok () ↔ Domain.isValid spec = true := by
  obtain ⟨tokens, reads⟩ : ∃ tokens, readTokens false spec.toList = .ok tokens := scanTokens_plain false h [] 0
  simp [checkDomainSpec, reads, h]

/-- A record of one term is read as this term is. -/
theorem read_single {term : String} (ht : term ≠ "") (hn : ∀ c ∈ term.toList, isBlank c = false) {terms : List Term} :
    read domain marker ("v=spf1 " ++ term) = .ok terms ↔ ∃ t, terms = [t] ∧ Reads domain marker term.toList t := by
  have nonempty : term.toList ≠ [] := by simpa using ht
  have word : words (' ' :: term.toList) = [term.toList] := by
    have first := words_append (t := []) nonempty hn rfl
    rw [List.append_nil] at first
    rw [words_of_blank (by decide), first]
    rfl
  have last : ("v=spf1 ".toList ++ term.toList).getLast?.all (!isBlank ·) = true := by
    rw [List.getLast?_append_of_ne_nil _ nonempty, List.getLast?_eq_some_getLast nonempty]
    simp [hn _ (List.getLast_mem nonempty)]
  have bare : (unquoted ("v=spf1 " ++ term)).toList = version.toList ++ ' ' :: term.toList := by
    have kept := stripped_of_ends (s := "v=spf1 ".toList ++ term.toList) (p := isBlank) rfl last
    simp [unquoted, version] at kept ⊢
    exact kept
  rw [read_ok_iff_forall₂]
  constructor
  · rintro ⟨rest, hr, -, reads⟩
    obtain rfl := List.append_cancel_left (hr.symm.trans bare)
    rw [word, List.forall₂_cons_left_iff] at reads
    obtain ⟨t, terms, reads, none, rfl⟩ := reads
    exact ⟨t, by rw [List.forall₂_nil_left_iff.mp none], reads⟩
  · rintro ⟨t, rfl, reads⟩
    exact ⟨_, bare, rfl, by rw [word]; exact .cons reads .nil⟩

section
variable {m : Mechanism} (hm : m = .a ∨ m = .mx) {separator : Separator} (hs : separator ≠ .absent) {value : String}
  (hv : value ≠ "") (plain : ∀ c ∈ value.toList, c ≠ '%' ∧ isBlank c = false)
include hm hs hv plain

theorem reads_dual_iff {t : Term} : Reads domain marker (Directive.dual m separator value).raw.toList t ↔
    t = .directive (.dual m separator value) ∧ checkDirective domain marker (.dual m separator value) = .ok () := by
  have line : '\n' ∉ value.toList := fun h => absurd (plain _ h).2 (by decide)
  have read := Directive.ofText?_dual hm hs hv line
  rw [← String.ofList_toList (s := (Directive.dual m separator value).raw)] at read
  constructor
  · intro h
    cases h with
    | directive h hc =>
      cases read.symm.trans h
      exact ⟨rfl, hc⟩
    | modifier h =>
      rcases ofText?_exclusive (String.ofList (Directive.dual m separator value).raw.toList) with none | none
      · cases none.symm.trans read
      · cases none.symm.trans h
  · rintro ⟨rfl, hc⟩
    exact .directive read hc

omit hs hv in
/-- The check asks for lengths in their ranges, and for a domain name in front of them if there is a name. -/
theorem checkDirective_dual_iff (short : (DualCidr.given (.dual m separator value)).length ≤ maxDigits) {name : List Char}
    {ip4 ip6 : Option (List Char)} (cut : DualCidr.Splits (DualCidr.given (.dual m separator value)) name ip4 ip6) :
    checkDirective domain marker (.dual m separator value) = .ok () ↔ (separator = .slash → name = []) ∧
      DualCidr.InRange ip4 ip6 ∧ (name = [] ∨ Domain.isValid (String.ofList name) = true) := by
  have given : ∀ c ∈ DualCidr.given (.dual m separator value), c ≠ '%' ∧ isBlank c = false :=
    DualCidr.forall_given_dual (by decide) plain
  have line : '\n' ∉ DualCidr.given (.dual m separator value) := fun h => absurd (given _ h).2 (by decide)
  have percent : '%' ∉ name := fun h => (given '%' (cut.text ▸ List.mem_append_left _ h)).1 rfl
  have named : checkDomainSpec domain marker (String.ofList name) = .ok () ↔ Domain.isValid (String.ofList name) = true :=
    checkDomainSpec_plain (by simpa using percent)
  rw [checkDirective_dual (d := .dual m separator value) hm, bind_ok_iff]
  simp only [DualCidr.ofDirective_ok_iff line short cut]
  constructor
  · rintro ⟨_, ⟨placed, range, rfl⟩, valid⟩
    refine ⟨placed, range, ?_⟩
    dsimp only at valid
    split at valid
    · exact .inl (by simpa using ‹String.ofList name = ""›)
    · exact .inr (named.mp valid)
  · rintro ⟨placed, range, valid⟩
    refine ⟨_, ⟨placed, range, rfl⟩, ?_⟩
    dsimp only
    split
    · rfl
    · rename_i filled
      exact named.mpr (valid.resolve_left fun empty => filled (by simp [empty]))

/-- A directive with a value behind an address or mail mechanism is all that its record may be read as. It has to give
lengths in their ranges, and its name, if it has one, has to be a domain name. -/
theorem read_dual (short : (DualCidr.given (.dual m separator value)).length ≤ maxDigits) {name : List Char} {ip4 ip6 : Option (List Char)}
    (cut : DualCidr.Splits (DualCidr.given (.dual m separator value)) name ip4 ip6) {terms : List Term} :
    read domain marker ("v=spf1 " ++ (Directive.dual m separator value).raw) = .ok terms ↔
      terms = [.directive (.dual m separator value)] ∧ (separator = .slash → name = []) ∧ DualCidr.InRange ip4 ip6 ∧
        (name = [] ∨ Domain.isValid (String.ofList name) = true) := by
  have unbroken : ∀ c ∈ (Directive.dual m separator value).raw.toList, isBlank c = false :=
    Directive.isBlank_raw_dual hm fun c hc => (plain c hc).2
  rw [read_single (Directive.raw_dual_ne_empty hv) unbroken, ← checkDirective_dual_iff hm plain short cut]
  simp only [reads_dual_iff hm hs hv plain]
  constructor
  · rintro ⟨_, rfl, rfl, checked⟩
    exact ⟨rfl, checked⟩
  · rintro ⟨rfl, checked⟩
    exact ⟨_, rfl, rfl, checked⟩

end

end Record

/-! ### Lengths with and without a name -/

/-- What stands behind a name is taken for a part of it: it is not all given to lengths, and with what remains in front of
these the name is still a domain name. -/
structure DualCidr.Swallows (name rest : String) (part : List Char) (ip4 ip6 : Option (List Char)) : Prop where
  filled : part ≠ []
  cut : Splits rest.toList part ip4 ip6
  range : InRange ip4 ip6
  valid : Domain.isValid (name ++ String.ofList part) = true

namespace Record

open DualCidr

section
variable {m : Mechanism} (hm : m = .a ∨ m = .mx) {domain marker name s : String}
  (hn : ∀ c ∈ name.toList, c ≠ '/' ∧ c ≠ '%' ∧ isBlank c = false) (filled : s ≠ "")
  (hs : ∀ c ∈ s.toList, c ≠ '%' ∧ isBlank c = false) (fits : name.toList.length + 1 + s.toList.length ≤ 255)
  {part : List Char} {ip4 ip6 : Option (List Char)} (cut : Splits ('/' :: s.toList) part ip4 ip6)
  {terms : List Term}

theorem length_le_maxDigits {n : Nat} (h : n ≤ 255) : n ≤ maxDigits := Nat.le_trans h (by decide)

include hs in
theorem lineEnd_not_mem : '\n' ∉ '/' :: s.toList := by
  have line : '\n' ∉ s.toList := fun h => absurd (hs _ h).2 (by decide)
  simpa using line

include fits in
theorem short_bare : (given (.dual m .slash s)).length ≤ maxDigits :=
  length_le_maxDigits (show ('/' :: s.toList).length ≤ 255 by rw [List.length_cons]; omega)

include hm filled hs fits cut in
/-- Behind the mechanism itself, a text has to be nothing but lengths. -/
theorem read_bare_iff : read domain marker ("v=spf1 " ++ (Directive.dual m .slash s).raw) = .ok terms ↔
    terms = [.directive (.dual m .slash s)] ∧ part = [] ∧ InRange ip4 ip6 := by
  have present : Separator.slash ≠ .absent := nofun
  exact (read_dual hm present filled hs (short_bare fits) cut).trans ⟨fun ⟨same, bare, range, _⟩ => ⟨same, bare rfl, range⟩,
    fun ⟨same, bare, range⟩ => ⟨same, fun _ => bare, range, .inl bare⟩⟩

theorem given_named : given (.dual m .colon (name ++ "/" ++ s)) = name.toList ++ '/' :: s.toList := by
  simp [given, Directive.dual]

include fits in
theorem short_named : (given (.dual m .colon (name ++ "/" ++ s))).length ≤ maxDigits := by
  rw [given_named, List.length_append, List.length_cons]
  exact length_le_maxDigits (by omega)

include hn in
theorem not_special_of_name : ∀ c ∈ name.toList, c ≠ '/' ∧ c ≠ '\n' := fun c hc =>
  ⟨(hn c hc).1, fun h => absurd (h ▸ (hn c hc).2.2) (by decide)⟩

include hn hs in
theorem lineEnd_not_mem_named : '\n' ∉ given (.dual m .colon (name ++ "/" ++ s)) := by
  rw [given_named, List.mem_append, not_or]
  exact ⟨fun h => (not_special_of_name hn _ h).2 rfl, lineEnd_not_mem hs⟩

include hn hs cut in
/-- A name in front of a text changes nothing about its lengths. -/
theorem splits_named : Splits (given (.dual m .colon (name ++ "/" ++ s))) (name.toList ++ part) ip4 ip6 := by
  refine splits_of_split? (lineEnd_not_mem_named hn hs) ?_
  rw [given_named, split?_append (not_special_of_name hn), (split?_iff (lineEnd_not_mem hs)).mpr cut]
  rfl

include hm hn hs fits cut in
/-- Behind a name, what is not given to lengths is taken for a part of the name. -/
theorem read_named_iff (valid : Domain.isValid name = true) :
    read domain marker ("v=spf1 " ++ (Directive.dual m .colon (name ++ "/" ++ s)).raw) = .ok terms ↔
      terms = [.directive (.dual m .colon (name ++ "/" ++ s))] ∧ InRange ip4 ip6 ∧
        Domain.isValid (String.ofList (name.toList ++ part)) = true := by
  have value : ∀ c ∈ (name ++ "/" ++ s).toList, c ≠ '%' ∧ isBlank c = false := by
    intro c hc
    simp only [String.toList_append, List.mem_append] at hc
    rcases hc with (hc | hc) | hc
    · exact (hn c hc).2
    · rw [List.mem_singleton.mp hc]
      decide
    · exact hs c hc
  have present : Separator.colon ≠ .absent := nofun
  have nonempty : name ++ "/" ++ s ≠ "" := by simp
  refine (read_dual hm present nonempty value (short_named fits) (splits_named hn hs cut)).trans
    ⟨fun ⟨same, _, range, named⟩ => ⟨same, range, named.resolve_left fun empty => ?_⟩,
      fun ⟨same, range, valid⟩ => ⟨same, nofun, range, .inr valid⟩⟩
  obtain rfl : name = "" := by simpa using (List.append_eq_nil_iff.mp empty).1
  exact absurd valid (by decide)

end

/-- Lengths in their ranges are accepted with and without a name in front of them, and they are the same. Anything else is
rejected behind the mechanism, but behind a name it is accepted if the name can take it in. -/
theorem read_suffixed {m : Mechanism} (hm : m = .a ∨ m = .mx) (domain marker : String) {name s : String}
    (valid : Domain.isValid name = true) (hn : ∀ c ∈ name.toList, c ≠ '/' ∧ c ≠ '%' ∧ isBlank c = false)
    (filled : s ≠ "") (hs : ∀ c ∈ s.toList, c ≠ '%' ∧ isBlank c = false) (fits : name.toList.length + 1 + s.toList.length ≤ 255) :
    let bare := Directive.dual m .slash s
    let named := Directive.dual m .colon (name ++ "/" ++ s)
    let reads (d : Directive) (terms : List Term) := read domain marker ("v=spf1 " ++ d.raw) = .ok terms
    (∀ ip4 ip6, '/' :: s.toList = suffix ip4 ip6 → AreRuns ip4 ip6 → InRange ip4 ip6 →
      reads bare [.directive bare] ∧ ofDirective bare = .ok ⟨"", ip4.map digitsValue, ip6.map digitsValue⟩ ∧
      reads named [.directive named] ∧ ofDirective named = .ok ⟨name, ip4.map digitsValue, ip6.map digitsValue⟩) ∧
    ((∃ terms, reads bare terms) ↔ ∃ ip4 ip6, '/' :: s.toList = suffix ip4 ip6 ∧ AreRuns ip4 ip6 ∧ InRange ip4 ip6) ∧
    (∀ part ip4 ip6, Swallows name ("/" ++ s) part ip4 ip6 → reads named [.directive named] ∧
      ofDirective named = .ok ⟨name ++ String.ofList part, ip4.map digitsValue, ip6.map digitsValue⟩) ∧
    (((∃ terms, reads named terms) ↔ ∃ terms, reads bare terms) ↔ ∀ part ip4 ip6, ¬ Swallows name ("/" ++ s) part ip4 ip6) := by
  intro bare named reads
  obtain ⟨⟨part, ip4, ip6⟩, found⟩ := Option.isSome_iff_exists.mp (split?_isSome (lineEnd_not_mem hs))
  have cut : Splits ('/' :: s.toList) part ip4 ip6 := splits_of_split? (lineEnd_not_mem hs) found
  have whole : String.ofList (name.toList ++ part) = name ++ String.ofList part := by simp [String.ofList_append]
  have readsBare : ∀ terms, reads bare terms ↔ _ := fun _ => read_bare_iff hm filled hs fits cut
  have readsNamed : ∀ terms, reads named terms ↔ _ := fun _ => read_named_iff hm hn hs fits cut valid
  have givesBare : ∀ cidr, ofDirective bare = .ok cidr ↔ _ := fun cidr =>
    ofDirective_ok_iff (lineEnd_not_mem hs) (short_bare fits) cut
  have givesNamed : ∀ cidr, ofDirective named = .ok cidr ↔ _ := fun cidr =>
    ofDirective_ok_iff (lineEnd_not_mem_named hn hs) (short_named fits) (splits_named hn hs cut)
  rw [whole] at givesNamed readsNamed
  have start : ("/" ++ s).toList = '/' :: s.toList := by simp
  have allLengths : ∀ {ip4' ip6'}, '/' :: s.toList = suffix ip4' ip6' → AreRuns ip4' ip6' →
      Splits ('/' :: s.toList) [] ip4' ip6' := fun lengths runs => by
    rw [lengths]
    exact splits_suffix runs
  refine ⟨fun ip4' ip6' lengths runs range => ?_, ?_, ?_, ?_⟩
  · obtain ⟨rfl, rfl, rfl⟩ := cut.unique (allLengths lengths runs)
    exact ⟨(readsBare _).mpr ⟨rfl, rfl, range⟩, (givesBare _).mpr ⟨fun _ => rfl, range, rfl⟩,
      (readsNamed _).mpr ⟨rfl, range, by simpa using valid⟩, (givesNamed _).mpr ⟨nofun, range, by simp⟩⟩
  · constructor
    · rintro ⟨terms, read⟩
      obtain ⟨-, rfl, range⟩ := (readsBare terms).mp read
      exact ⟨ip4, ip6, cut.text, cut.runs, range⟩
    · rintro ⟨ip4', ip6', lengths, runs, range⟩
      obtain ⟨rfl, rfl, rfl⟩ := cut.unique (allLengths lengths runs)
      exact ⟨_, (readsBare _).mpr ⟨rfl, rfl, range⟩⟩
  · rintro part' ip4' ip6' ⟨-, split, range, taken⟩
    obtain ⟨rfl, rfl, rfl⟩ := cut.unique (start ▸ split)
    exact ⟨(readsNamed _).mpr ⟨rfl, range, taken⟩, (givesNamed _).mpr ⟨nofun, range, rfl⟩⟩
  · constructor
    · rintro alike part' ip4' ip6' ⟨more, split, range, taken⟩
      obtain ⟨rfl, rfl, rfl⟩ := cut.unique (start ▸ split)
      obtain ⟨terms, read⟩ := alike.mp ⟨_, (readsNamed _).mpr ⟨rfl, range, taken⟩⟩
      exact more ((readsBare terms).mp read).2.1
    · intro none
      constructor
      · rintro ⟨terms, read⟩
        obtain ⟨-, range, taken⟩ := (readsNamed terms).mp read
        have bare : part = [] := by_contra fun more => none part ip4 ip6 ⟨more, start ▸ cut, range, taken⟩
        exact ⟨_, (readsBare _).mpr ⟨rfl, bare, range⟩⟩
      · rintro ⟨terms, read⟩
        obtain ⟨-, rfl, range⟩ := (readsBare terms).mp read
        exact ⟨_, (readsNamed _).mpr ⟨rfl, range, by simpa using valid⟩⟩

theorem read_suffixed_bothLengths :
    let bare := Directive.dual .a .slash "24//64"
    let named := Directive.dual .a .colon "example.com/24//64"
    Domain.isValid "example.com" = true ∧
      read "example.com" defaultMarker "v=spf1 a/24//64" = .ok [.directive bare] ∧ ofDirective bare = .ok ⟨"", some 24, some 64⟩ ∧
      read "example.com" defaultMarker "v=spf1 a:example.com/24//64" = .ok [.directive named] ∧
      ofDirective named = .ok ⟨"example.com", some 24, some 64⟩ := by
  have valid : Domain.isValid "example.com" = true := by decide
  have runs : AreRuns (some ['2', '4']) (some ['6', '4']) := by
    constructor <;> rintro _ ⟨⟩ <;> exact ⟨nofun, List.all_eq_true.mp (by decide)⟩
  have range : InRange (some ['2', '4']) (some ['6', '4']) := by
    constructor <;> rintro _ ⟨⟩ <;> decide
  exact ⟨valid, (read_suffixed (.inl rfl) "example.com" defaultMarker (s := "24//64") valid
    (by decide : MadeOf (fun c => c ≠ '/' ∧ c ≠ '%' ∧ isBlank c = false) "example.com") (by decide)
    (by decide : MadeOf (fun c => c ≠ '%' ∧ isBlank c = false) "24//64") (by decide)).1 _ _ rfl runs range⟩

/-- A netmask is no length. Behind a name it is read as a part of the name. -/
theorem read_suffixed_netmask :
    Domain.isValid "example.com" = true ∧ (∀ c ∈ "example.com".toList, c ≠ '/' ∧ c ≠ '%' ∧ isBlank c = false) ∧
      (∀ c ∈ "255.255.255.0".toList, c ≠ '%' ∧ isBlank c = false) ∧
      read "example.com" defaultMarker "v=spf1 a/255.255.255.0" = .error (.malformed (.cidr "a/255.255.255.0")) ∧
      read "example.com" defaultMarker "v=spf1 a:example.com/255.255.255.0" =
        .ok [.directive (.dual .a .colon "example.com/255.255.255.0")] ∧
      ofDirective (.dual .a .colon "example.com/255.255.255.0") = .ok ⟨"example.com/255.255.255.0", none, none⟩ := by
  refine ⟨by decide, (by decide : MadeOf (fun c => c ≠ '/' ∧ c ≠ '%' ∧ isBlank c = false) "example.com"),
    (by decide : MadeOf (fun c => c ≠ '%' ∧ isBlank c = false) "255.255.255.0"), ?_, ?_, ?_⟩ <;> decide

end Record

end SenderPolicy
