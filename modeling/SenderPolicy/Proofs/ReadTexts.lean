import SenderPolicy.Dns.Lookup
import SenderPolicy.Proofs.Accepted
import SenderPolicy.Proofs.Printed

/-! What is read is made of what is there. The literals of a macro string, and the names, values and macro strings of the
terms of a record, hold no characters but those of the text that they are read from and a few plain ones. -/

namespace SenderPolicy

open Dns Text

variable {c : Char} {s : List Char}

theorem mem_of_dropTrailing {p : Char → Bool} (h : c ∈ dropTrailing p s) : c ∈ s :=
  List.mem_reverse.mp ((List.dropWhile_suffix p).subset (List.mem_reverse.mp h))

theorem mem_of_stripped {p : Char → Bool} (h : c ∈ stripped p s) : c ∈ s :=
  (List.dropWhile_suffix p).subset (mem_of_dropTrailing h)

/-! ### Macro strings -/

/-- What holds of a macro that is read from a text whose characters have a property: one of them is its letter, it cuts at
delimiters only, and if its letter is one for explanations, it stands in an explanation. -/
structure Macro.ReadFrom (explanation : Bool) (p : Char → Prop) (m : Macro) : Prop where
  letter : ∃ c, p c ∧ (letter? c).map (·.1) = some m.letter
  delimiters : MadeOf (isDelimiter · = true) m.delimiters
  allowed : (m.letter.explanationOnly && !explanation) = false

/-- What holds of a token that is read from such a text: literals are made of its characters. -/
def Token.ReadFrom (explanation : Bool) (p : Char → Prop) : Token → Prop
  | .literal text => MadeOf p text
  | .expansion m => m.ReadFrom explanation p

theorem Macro.of_read {m : Macro} (h : read s = .ok m) :
    (∃ c rest, s = '{' :: c :: rest ∧ (letter? c).map (·.1) = some m.letter) ∧ MadeOf (isDelimiter · = true) m.delimiters := by
  unfold read at h
  split at h
  · rename_i c rest
    split at h
    · rename_i letter escaped hl
      unfold readTransformers at h
      dsimp only at h
      split at h
      · obtain ⟨count, -, h⟩ := bind_ok_iff.mp h
        cases h
        refine ⟨⟨c, rest, rfl, by rw [hl]; rfl⟩, madeOf_ofList.mpr fun c hc => ?_⟩
        exact List.all_eq_true.mp List.all_takeWhile c hc
      · cases h
    · cases h
  · cases h

section
variable {explanation : Bool} {p : Char → Prop}

theorem readFrom_of_bracedMacro (plain : ∀ c, IsPlain c → p c) {start : Nat} {m : Macro}
    (h : bracedMacro explanation start s = .ok m) (hs : ∀ c ∈ s, p c) : m.ReadFrom explanation p := by
  unfold bracedMacro at h
  split at h
  · rename_i hm
    split at h
    · cases h
    · rename_i banned
      cases h
      obtain ⟨⟨c, rest, hc, letter⟩, delimiters⟩ := Macro.of_read hm
      refine ⟨⟨c, ?_, letter⟩, delimiters, by simpa using banned⟩
      have braced : s ++ ['}'] = c :: rest := (List.cons.inj hc).2
      have mem : c ∈ s ++ ['}'] := by
        rw [braced]
        exact List.mem_cons_self
      rcases List.mem_append.mp mem with hc | hc
      · exact hs c hc
      · rw [List.mem_singleton.mp hc]
        exact plain _ (by decide)
  · cases h
  · cases h

theorem readFrom_of_mem_flush {literal : List Char} {tokens : List Token} (hl : ∀ c ∈ literal, p c)
    (ht : ∀ token ∈ tokens, token.ReadFrom explanation p) : ∀ token ∈ flush literal tokens, token.ReadFrom explanation p := by
  unfold flush
  split
  · exact ht
  · rw [List.forall_mem_cons]
    exact ⟨madeOf_ofList.mpr fun c hc => hl c (List.mem_reverse.mp hc), ht⟩

/-- What the reader has read and not yet made a token of. -/
def ScanState.pending : ScanState → List Char
  | .plain literal | .percent literal _ => literal
  | .braces literal _ content => literal ++ content

/-- Behind a character the reader holds that besides what it has held, or a plain character for an escape. -/
theorem forall_pending_of_next? (plain : ∀ c, IsPlain c → p c) {state state' : ScanState} {n : Nat} {c : Char}
    (h : state.next? n c = some state') (hl : ∀ c ∈ state.pending, p c) (hc : p c) : ∀ c ∈ state'.pending, p c := by
  cases state with
  | plain literal =>
    cases h
    split
    · exact hl
    · exact List.forall_mem_cons.mpr ⟨hc, hl⟩
  | percent literal start =>
    have escape : ∀ escaped : List Char, (escaped.all fun c => decide (IsPlain c)) = true → ∀ c ∈ escaped ++ literal, p c :=
      fun _ he c hc => (List.mem_append.mp hc).elim
        (fun hc => plain c (of_decide_eq_true (List.all_eq_true.mp he c hc))) (hl c)
    rw [ScanState.next?] at h
    split_ifs at h
    · cases h
      exact escape ['%'] (by decide)
    · cases h
      exact escape [' '] (by decide)
    · cases h
      exact escape ['0', '2', '%'] (by decide)
    · cases h
      simpa [ScanState.pending] using hl
  | braces literal start content =>
    have held : (∀ c ∈ literal, p c) ∧ ∀ c ∈ content, p c := by simpa [ScanState.pending, or_imp, forall_and] using hl
    rw [ScanState.next?] at h
    split_ifs at h
    cases h
    exact List.forall_mem_append.mpr ⟨held.1, List.forall_mem_cons.mpr ⟨hc, held.2⟩⟩

theorem readFrom_of_scanTokens (plain : ∀ c, IsPlain c → p c) {state : ScanState} {n : Nat} {tokens : List Token}
    (h : scanTokens explanation state n s = .ok tokens) (hl : ∀ c ∈ state.pending, p c) (hs : ∀ c ∈ s, p c) :
    ∀ token ∈ tokens, token.ReadFrom explanation p := by
  induction s generalizing state n tokens with
  | nil =>
    cases turn_of_scanTokens h with
    | done literal =>
      subst literal
      exact readFrom_of_mem_flush hl (List.forall_mem_nil _)
  | cons c s ih =>
    rw [List.forall_mem_cons] at hs
    cases turn_of_scanTokens h with
    | next hn later => exact ih later (forall_pending_of_next? plain hn hl hs.1) hs.2
    | close braces hm later =>
      subst braces
      obtain ⟨literal, content⟩ := List.forall_mem_append.mp hl
      have read := readFrom_of_bracedMacro plain hm fun c hc => content c (List.mem_reverse.mp hc)
      have nothing : ∀ c ∈ ScanState.pending (.plain []), p c := List.forall_mem_nil _
      exact readFrom_of_mem_flush literal (List.forall_mem_cons.mpr ⟨read, ih later nothing hs.2⟩)

/-- Tokens are read from the characters of the macro string and from plain ones. -/
theorem readFrom_of_readTokens (plain : ∀ c, IsPlain c → p c) {tokens : List Token}
    (h : readTokens explanation s = .ok tokens) (hs : ∀ c ∈ s, p c) : ∀ token ∈ tokens, token.ReadFrom explanation p :=
  readFrom_of_scanTokens plain h (List.forall_mem_nil _) hs

end

/-! ### Terms -/

theorem mem_of_singleLine? {line : List Char} (h : singleLine? s = some line) (hc : c ∈ line) : c ∈ s := by
  have kept : ∀ c ∈ (if s.getLast? = some '\n' then s.dropLast else s), c ∈ s := fun c hc => by
    split at hc
    · exact (List.dropLast_sublist s).subset hc
    · exact hc
  unfold singleLine? at h
  dsimp only at h
  generalize (if s.getLast? = some '\n' then s.dropLast else s) = text at h kept
  split at h
  · cases h
  · cases h
    exact kept c hc

theorem mem_of_valueAt {separator : Separator} {value : String} (h : valueAt s = some (separator, value))
    (hc : c ∈ value.toList) : c ∈ s := by
  rcases valueAt_some h with ⟨-, rfl, -⟩ | ⟨rest, line, hs, hl, rfl⟩
  · cases hc
  · rw [String.toList_ofList] at hc
    have held : c ∈ rest := mem_of_singleLine? hl hc
    rcases hs with ⟨-, rfl⟩ | ⟨-, rfl⟩ <;> exact List.mem_cons_of_mem _ held

theorem mem_of_signAt (hc : c ∈ (signAt s).2) : c ∈ s := by
  unfold signAt at hc
  split at hc
  · exact hc
  · split at hc
    · exact List.mem_cons_of_mem _ hc
    · exact hc

theorem Directive.mem_of_ofText? {term : String} {d : Directive} (h : ofText? term = some d) :
    d.raw = term ∧ ∀ c ∈ d.value.toList, c ∈ term.toList := by
  obtain ⟨name, hm, -, hd⟩ := ofText?_some h
  obtain ⟨m, -, taken, rest, ht, -, hv⟩ := mechanismAt_some hm
  refine ⟨by rw [hd], fun c hc => mem_of_signAt ?_⟩
  rw [(takeFolded_some ht).1]
  exact List.mem_append_right _ (mem_of_valueAt hv hc)

theorem mem_of_nameAt {name rest : List Char} (h : nameAt s = some (name, rest)) (hc : c ∈ rest) : c ∈ s := by
  unfold nameAt at h
  split at h
  · split at h
    · rename_i hd
      cases h
      exact (List.dropWhile_suffix _).subset (hd ▸ List.mem_cons_of_mem _ hc)
    · cases h
  · cases h

theorem Modifier.mem_of_ofText? {term : String} {m : Modifier} (h : ofText? term = some m) :
    m.raw = term ∧ ∀ c ∈ m.macroString.toList, c ∈ term.toList := by
  unfold ofText? at h
  obtain ⟨⟨name, rest⟩, hn, h⟩ := Option.bind_eq_some_iff.mp h
  obtain ⟨value, hv, h⟩ := Option.bind_eq_some_iff.mp h
  cases h
  refine ⟨rfl, fun c hc => ?_⟩
  rw [String.toList_ofList] at hc
  exact mem_of_nameAt hn (mem_of_singleLine? hv hc)

theorem DualCidr.mem_of_split {s name : List Char} {lengths : Option (List Char) × Option (List Char)}
    (h : split? s = some (name, lengths)) (hc : c ∈ name) : c ∈ s := by
  induction s generalizing name lengths with
  | nil =>
    obtain ⟨_, -, h⟩ := Option.map_eq_some_iff.mp h
    cases h
    cases hc
  | cons d s ih =>
    unfold split? at h
    split at h
    · cases h
      cases hc
    · split at h
      · cases h
      · obtain ⟨⟨name', lengths'⟩, hs, h⟩ := Option.map_eq_some_iff.mp h
        cases h
        rcases List.mem_cons.mp hc with rfl | hc
        · exact List.mem_cons_self
        · exact List.mem_cons_of_mem _ (ih hs hc)

/-- The name in front of prefix lengths is made of the characters of the value and perhaps a slash. -/
theorem DualCidr.mem_of_ofDirective {d : Directive} {cidr : DualCidr} (h : ofDirective d = .ok cidr)
    (hc : c ∈ cidr.domainSpec.toList) : c = '/' ∨ c ∈ d.value.toList := by
  have value : ∀ c ∈ (if d.separator = .slash then '/' :: d.value.toList else d.value.toList), c = '/' ∨ c ∈ d.value.toList := by
    intro c hc
    split at hc
    · exact List.mem_cons.mp hc
    · exact .inr hc
  unfold ofDirective at h
  dsimp only at h
  generalize (if d.separator = .slash then '/' :: d.value.toList else d.value.toList) = text at h value
  cases hs : split? text with
  | none =>
    rw [hs] at h
    cases h
  | some cut =>
    obtain ⟨name, ip4, ip6⟩ := cut
    rw [hs] at h
    dsimp only at h
    split at h
    · cases h
    · obtain ⟨length4, -, h⟩ := bind_ok_iff.mp h
      obtain ⟨length6, -, h⟩ := bind_ok_iff.mp h
      cases h
      rw [String.toList_ofList] at hc
      exact value c (mem_of_split hs hc)

/-! ### Records -/

namespace Record

/-- What is kept back while a pair of quotes may still close: the quote and the blanks after it. -/
def keptBack : Option (List Char) → List Char
  | none => []
  | some blanks => '"' :: blanks.reverse

/-- Dropping the pairs of quotes only ever leaves characters out. -/
theorem dropQuotePairs_sublist : ∀ (opened : Option (List Char)) (s : List Char),
    (dropQuotePairs opened s).Sublist (keptBack opened ++ s)
  | none, [] => .slnil
  | none, c :: rest => by
    unfold dropQuotePairs
    split
    · next hc => exact hc ▸ dropQuotePairs_sublist (some []) rest
    · exact (dropQuotePairs_sublist none rest).cons_cons c
  | some blanks, [] => List.sublist_append_left _ []
  | some blanks, c :: rest => by
    have after : (dropQuotePairs none rest).Sublist rest := dropQuotePairs_sublist none rest
    unfold dropQuotePairs
    split
    · exact (after.cons c).trans (List.sublist_append_right _ _)
    · split
      · have held : keptBack (some (c :: blanks)) ++ rest = keptBack (some blanks) ++ c :: rest := by simp [keptBack]
        exact held ▸ dropQuotePairs_sublist (some (c :: blanks)) rest
      · exact (after.cons_cons c).append_left _

theorem mem_of_unquoted {record : String} (h : c ∈ (unquoted record).toList) : c ∈ record.toList := by
  unfold unquoted at h
  rw [String.toList_ofList] at h
  have text := mem_of_stripped h
  split at text
  · exact (dropQuotePairs_sublist none _).subset (mem_of_stripped text)
  · exact text

theorem mem_of_placedWords : ∀ {s : List Char} {position : Nat} {placed : Nat × List Char}, placed ∈ placedWords position s →
    ∀ c ∈ placed.2, c ∈ s ∧ isBlank c = false
  | d :: rest, position, placed, h, c, hc => by
    have later : ∀ placed ∈ placedWords (position + 1) rest, ∀ c ∈ placed.2, c ∈ d :: rest ∧ isBlank c = false :=
      fun placed h c hc => (mem_of_placedWords h c hc).imp_left (List.mem_cons_of_mem d)
    unfold placedWords at h
    dsimp only at h
    split at h
    · exact later placed h c hc
    · rename_i hd
      have own : d ∈ d :: rest ∧ isBlank d = false := ⟨List.mem_cons_self, by simpa using hd⟩
      split at h
      · rcases List.mem_cons.mp h with rfl | h
        · rwa [List.mem_singleton.mp hc]
        · exact later placed h c hc
      · cases hw : placedWords (position + 1) rest with
        | nil =>
          rw [hw] at h
          cases h
        | cons first others =>
          rw [hw] at h later
          rcases List.mem_cons.mp h with rfl | h
          · rcases List.mem_cons.mp hc with rfl | hc
            · exact own
            · exact later first List.mem_cons_self c hc
          · exact later placed (List.mem_cons_of_mem _ h) c hc

theorem mem_of_placedTerms {placed : Nat × List Char} (h : placed ∈ placedTerms s) :
    ∀ c ∈ placed.2, c ∈ s ∧ isBlank c = false := fun c hc => by
  unfold placedTerms at h
  exact (mem_of_placedWords h c hc).imp_left fun hc => (List.drop_suffix _ s).subset hc

end Record

/-- The texts that a term expands outside explanations. -/
inductive Term.Targets : Term → String → Prop
  | directive {d : Directive} {spec : String} (h : d.Targets spec) : Targets (.directive d) spec
  | modifier {m : Modifier} (h : (m.isRedirect || m.isExplanation) = true) : Targets (.modifier m) m.macroString

/-- The macros of a domain-spec use letters with a property only. -/
def SpecUses (letters : Letter → Prop) (spec : String) : Prop :=
  ∀ tokens, readTokens false spec.toList = .ok tokens → ∀ m, Token.expansion m ∈ tokens → letters m.letter

/-- The macros that the term expands outside explanations use letters with a property only. -/
def Term.Uses (letters : Letter → Prop) (t : Term) : Prop := ∀ spec, t.Targets spec → SpecUses letters spec

/-- If the text is read as a record, the macros that its terms expand outside explanations use letters with a property only. -/
def Record.Uses (letters : Letter → Prop) (record : String) : Prop :=
  ∀ domain marker terms, read domain marker record = .ok terms → ∀ t ∈ terms, t.Uses letters

theorem Record.uses_of_forall {letters : Letter → Prop} (h : ∀ letter, letters letter) (record : String) :
    Uses letters record := fun _ _ _ _ _ _ _ _ _ _ m _ => h m.letter

/-- The texts of a term are made of characters that have a property. -/
structure Term.SpeltIn (p : Char → Prop) (t : Term) : Prop where
  raw : MadeOf p t.raw
  value : ∀ d, t = .directive d → MadeOf p d.value
  targets : ∀ spec, t.Targets spec → MadeOf p spec

namespace Record

variable {p : Char → Prop} {record domain marker : String}

theorem speltIn_of_readTerm (plain : ∀ c, IsPlain c → p c) {term : List Char} {t : Term}
    (h : readTerm record domain marker term = .ok t) (hp : ∀ c ∈ term, p c) :
    t.raw = String.ofList term ∧ t.SpeltIn p := by
  have raw : MadeOf p (String.ofList term) := madeOf_ofList.mpr hp
  cases reads_of_readTerm h with
  | @directive d hd =>
    obtain ⟨same, value⟩ := Directive.mem_of_ofText? hd
    have spelt : MadeOf p d.value := fun c hc => raw c (value c hc)
    refine ⟨same, by rwa [show (Term.directive d).raw = d.raw from rfl, same], fun _ hd => ?_, fun spec hs => ?_⟩
    · cases hd
      exact spelt
    · cases hs with
      | directive hs =>
        cases hs with
        | value => exact spelt
        | cidr _ hc =>
          intro c hm
          rcases DualCidr.mem_of_ofDirective hc hm with rfl | hm
          · exact plain _ (by decide)
          · exact spelt c hm
  | @modifier m hm =>
    obtain ⟨same, value⟩ := Modifier.mem_of_ofText? hm
    refine ⟨same, by rwa [show (Term.modifier m).raw = m.raw from rfl, same], fun _ => nofun, fun spec hs => ?_⟩
    cases hs
    exact fun c hc => raw c (value c hc)

/-- The texts of the terms that are read are made of the characters of the record, without white space. -/
theorem speltIn_of_read (plain : ∀ c, IsPlain c → p c) {terms : List Term} (h : read domain marker record = .ok terms)
    (hr : MadeOf p record) : ∀ t ∈ terms, t.SpeltIn p ∧ MadeOf (isBlank · = false) t.raw := by
  unfold read at h
  dsimp only at h
  split at h
  · cases h
  · intro t ht
    obtain ⟨term, hm, ht⟩ := exists_of_mem_mapM h t ht
    obtain ⟨placed, hp, rfl⟩ := List.mem_map.mp hm
    have word := mem_of_placedTerms hp
    have held : ∀ c ∈ placed.2, p c := fun c hc => hr c (mem_of_unquoted (word c hc).1)
    obtain ⟨same, spelt⟩ := speltIn_of_readTerm plain ht held
    exact ⟨spelt, by rw [same, madeOf_ofList]; exact fun c hc => (word c hc).2⟩

end Record

/-- Letters are read from the characters of the record, or from plain ones. -/
theorem Record.uses_of_spelt {letters : Letter → Prop} {p : Char → Prop} {record : String} (plain : ∀ c, IsPlain c → p c)
    (known : ∀ c letter, p c → (Macro.letter? c).map (·.1) = some letter → letters letter) (hr : MadeOf p record) :
    Uses letters record := by
  intro domain marker terms h t ht spec target tokens read m hm
  have spelt := (speltIn_of_read plain h hr t ht).1.targets spec target
  obtain ⟨c, hc, letter⟩ := (readFrom_of_readTokens plain read spelt _ hm : m.ReadFrom false p).letter
  exact known c m.letter hc letter

/-! ### Addresses -/

namespace Address

variable {p : Char → Prop} {address : Address}

theorem scope_of_ofText {ip : String} {bits : BitVec 128} {scope : String}
    (h : ofText? ip = some (.v6 bits (some scope))) : ∀ c ∈ scope.toList, c ∈ ip.toList :=
  (scope_of_readScoped (readScoped_of_ofText? h)).2.2

/-- An address is written in plain characters, apart from its scope. -/
theorem madeOf_text (plain : ∀ c, IsPlain c → p c)
    (h : ∀ bits scope, address = .v6 bits (some scope) → MadeOf p scope) : MadeOf p address.text := by
  cases address with
  | v4 bits => exact madeOf_ofList.mpr fun c hc => plain c (plain_dotted bits c hc)
  | v6 bits scope =>
    cases scope with
    | none => exact madeOf_ofList.mpr fun c hc => plain c (plain_compressed bits c hc)
    | some scope =>
      refine madeOf_ofList.mpr fun c hc => ?_
      rcases List.mem_append.mp hc with hc | hc
      · exact plain c (plain_compressed bits c hc)
      · rcases List.mem_cons.mp hc with rfl | hc
        · exact plain _ (by decide)
        · exact h bits scope rfl c hc

/-- The address that is read from a text is written in its characters and plain ones. -/
theorem madeOf_text_unmapped (plain : ∀ c, IsPlain c → p c) {ip : String} (hp : MadeOf p ip)
    (h : ofText? ip = some address) : MadeOf p address.unmapped.text := by
  refine madeOf_text plain fun bits scope hs => ?_
  have same : address = .v6 bits (some scope) := by
    unfold unmapped at hs
    split at hs
    · split at hs
      · cases hs
      · exact hs
    · exact hs
  exact fun c hc => hp c (scope_of_ofText (same ▸ h) c hc)

end Address

/-! ### Mail hosts -/

namespace Dns

/-- The name of a mail host is a part of the record, in lower case. -/
theorem MailHost.exists_of_ofText {text : String} {host : MailHost} (h : ofText text = .ok host) :
    ∃ name : String, host.hostname = lower name ∧ ∀ c ∈ name.toList, c ∈ text.toList := by
  unfold ofText at h
  split at h
  · rename_i preference rest hp
    generalize readWhole (String.ofList preference) = number at h
    rcases number with e | n
    · cases h
    · rcases rest with _ | ⟨name, rest⟩
      · cases h
      · refine ⟨trimmed (String.ofList (dropTrailing (· == '.') name)), by rw [← Except.ok.inj h], fun c hc => ?_⟩
        unfold trimmed at hc
        rw [String.toList_ofList, String.toList_ofList] at hc
        have part := mem_of_dropTrailing (mem_of_stripped hc)
        exact (exists_mem_pieces_iff.mp ⟨name, hp ▸ List.mem_cons_of_mem _ List.mem_cons_self, part⟩).1
  · cases h

/-- Whatever is wrong with mail records is told in printed characters. -/
theorem printed_of_readMailHosts {texts : List String} {e : LookupError} (h : readMailHosts texts = .error e) :
    MadeOf (isPrintable · = true) e.message := by
  unfold readMailHosts at h
  split at h
  · cases h
  · cases hr : texts.mapM MailHost.ofText with
    | ok hosts =>
      rw [hr] at h
      cases h
    | error x =>
      rw [hr] at h
      cases h
      obtain ⟨text, -, ht⟩ := exists_error_of_mapM hr
      unfold MailHost.ofText at ht
      split at ht
      · rename_i preference rest _
        generalize readWhole (String.ofList preference) = number at ht
        rcases number with e | n
        · cases ht
          exact NumeralError.printed_message _
        · rcases rest with _ | ⟨name, rest⟩ <;> cases ht
          decide
      · cases ht
        decide

theorem exists_of_mem_readMailHosts {texts : List String} {hosts : List MailHost} (h : readMailHosts texts = .ok hosts) :
    ∀ host ∈ hosts, ∃ text ∈ texts, MailHost.ofText text = .ok host := by
  unfold readMailHosts at h
  split at h
  · cases h
    exact fun _ => nofun
  · cases hr : texts.mapM MailHost.ofText with
    | error x =>
      rw [hr] at h
      cases h
    | ok found =>
      rw [hr] at h
      cases h
      exact fun host hm => exists_of_mem_mapM hr host ((sorted_perm MailHost.le found).mem_iff.mp hm)

end Dns

end SenderPolicy
