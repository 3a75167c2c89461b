import SenderPolicy.Proofs.AddressAnswers
import SenderPolicy.Proofs.ExplanationCost
import SenderPolicy.Proofs.MacroGrammar
import SenderPolicy.Proofs.ReadTexts

/-! Macro strings one behind the other. A text that is read to its end leaves the reader in literal text, so what stands
behind it is read as if it stood alone; only literal text on both sides of the cut becomes one. What a macro stands for is
not read again, so two texts expand one after the other, and the lookups that are counted are those of the macros that the
text writes, up to the first one beyond the ceiling. -/

namespace SenderPolicy

open Dns Evaluation Text

variable {σ α β : Type}

/-! ### Reading -/

/-- Tokens behind literal text, which literal text in front of them takes up. -/
def Token.behind (text : List Char) : List Token → List Token
  | .literal later :: rest => .literal (String.ofList text ++ later) :: rest
  | tokens => flush text.reverse tokens

/-- The reader has come as far in one state as in another, with more literal text behind it. -/
inductive ScanState.Behind (earlier : List Char) : ScanState → ScanState → Prop
  | plain (literal : List Char) : Behind earlier (.plain literal) (.plain (literal ++ earlier))
  | percent (literal : List Char) (start start' : Nat) :
      Behind earlier (.percent literal start) (.percent (literal ++ earlier) start')
  | braces (literal : List Char) (start start' : Nat) (content : List Char) :
      Behind earlier (.braces literal start content) (.braces (literal ++ earlier) start' content)

section
variable {explanation : Bool} {s : List Char} {tokens : List Token}

theorem flush_behind (literal earlier : List Char) (h : ∀ token ∈ tokens.head?, ¬ token.IsLiteral) :
    flush (literal ++ earlier) tokens = Token.behind earlier.reverse (flush literal tokens) := by
  cases literal with
  | cons c literal => simp [flush, Token.behind, String.ofList_append]
  | nil =>
    rcases tokens with _ | ⟨_ | m, rest⟩
    · simp [flush, Token.behind]
    · exact absurd trivial (h _ rfl)
    · simp [flush, Token.behind]

theorem flush_append (literal : List Char) (tokens later : List Token) :
    flush literal (tokens ++ later) = flush literal tokens ++ later := by
  unfold flush
  split <;> rfl

theorem bracedMacro_start {start : Nat} {content : List Char} {m : Macro} (h : bracedMacro explanation start content = .ok m)
    (start' : Nat) : bracedMacro explanation start' content = .ok m := by
  unfold bracedMacro at h ⊢
  split at h
  · split at h
    · cases h
    · rename_i allowed
      rwa [if_neg allowed]
  · cases h
  · cases h

theorem Token.behind_nil (tokens : List Token) : Token.behind [] tokens = tokens := by
  rcases tokens with _ | ⟨_ | _, _⟩ <;> simp [Token.behind, flush]

theorem ScanState.Behind.next? {earlier : List Char} {state state' next : ScanState} (hb : state.Behind earlier state')
    {n : Nat} {c : Char} (h : state.next? n c = some next) (n' : Nat) :
    ∃ next', state'.next? n' c = some next' ∧ next.Behind earlier next' := by
  cases hb with
  | plain literal =>
    cases h
    refine ⟨_, rfl, ?_⟩
    split
    · exact .percent literal n n'
    · exact .plain (c :: literal)
  | percent literal start start' =>
    rw [ScanState.next?] at h ⊢
    split_ifs at h ⊢ <;> cases h
    · exact ⟨_, rfl, .plain ('%' :: literal)⟩
    · exact ⟨_, rfl, .plain (' ' :: literal)⟩
    · exact ⟨_, rfl, .plain ('0' :: '2' :: '%' :: literal)⟩
    · exact ⟨_, rfl, .braces literal start start' []⟩
  | braces literal start start' content =>
    rw [ScanState.next?] at h ⊢
    split_ifs at h ⊢
    cases h
    exact ⟨_, rfl, .braces literal start start' (c :: content)⟩

/-- What is read is read in the same way behind literal text, wherever that ends. -/
theorem scanTokens_behind {earlier : List Char} {state state' : ScanState} (hb : state.Behind earlier state') (n' : Nat)
    {n : Nat} (h : scanTokens explanation state n s = .ok tokens) :
    scanTokens explanation state' n' s = .ok (Token.behind earlier.reverse tokens) := by
  induction s generalizing earlier state state' n n' tokens with
  | nil =>
    cases turn_of_scanTokens h with
    | @done literal plain =>
      subst plain
      cases hb
      rw [scanTokens, flush_behind literal earlier (by simp)]
  | cons c s ih =>
    cases turn_of_scanTokens h with
    | next hn rest =>
      obtain ⟨next', hn', behind⟩ := hb.next? hn n'
      rw [scanTokens_of_next? hn']
      exact ih behind _ rest
    | @close literal content start m _ later braces hm rest =>
      subst braces
      cases hb with
      | braces _ _ start' =>
        -- the macro ends the literal text, so what follows is read as before
        have same : scanTokens explanation (.plain []) (n' + 1) s = .ok later := by
          have unmoved : ScanState.Behind [] (.plain []) (.plain []) := .plain []
          simpa [Token.behind_nil] using ih unmoved (n' + 1) rest
        rw [scanTokens, if_pos rfl, bracedMacro_start hm start', same, ← flush_behind literal earlier (by simp [Token.IsLiteral])]
        rfl

/-- What is read to its end leaves the reader in literal text, behind the tokens that are complete. -/
theorem scanTokens_append {state : ScanState} {n : Nat} (h : scanTokens explanation state n s = .ok tokens) :
    ∃ before literal, tokens = before ++ flush literal [] ∧ ∀ t, scanTokens explanation state n (s ++ t) =
      (before ++ ·) <$> scanTokens explanation (.plain literal) (n + s.length) t := by
  induction s generalizing state n tokens with
  | nil =>
    cases turn_of_scanTokens h with
    | @done literal plain =>
      subst plain
      refine ⟨[], literal, rfl, fun t => ?_⟩
      simp
  | cons c s ih =>
    have moved : n + 1 + s.length = n + (c :: s).length := by
      rw [List.length_cons]
      omega
    cases turn_of_scanTokens h with
    | next hn rest =>
      obtain ⟨before, literal, rfl, later⟩ := ih rest
      refine ⟨before, literal, rfl, fun t => ?_⟩
      rw [List.cons_append, scanTokens_of_next? hn, later, moved]
    | @close literal content start m _ _ braces hm rest =>
      subst braces
      obtain ⟨before, pending, rfl, later⟩ := ih rest
      refine ⟨flush literal (.expansion m :: before), pending, flush_append literal (.expansion m :: before) _, fun t => ?_⟩
      rw [List.cons_append, scanTokens, if_pos rfl, hm, later, moved]
      rcases scanTokens explanation (.plain pending) (n + ('}' :: s).length) t with e | tokens
      · rfl
      · exact congrArg Except.ok (flush_append literal (.expansion m :: before) tokens)

/-- Two texts that are read one behind the other have the tokens of both, with the literal text at the cut put together. -/
theorem readTokens_append {t : List Char} {tokens' : List Token} (hs : readTokens explanation s = .ok tokens)
    (ht : readTokens explanation t = .ok tokens') :
    ∃ before literal, tokens = before ++ flush literal [] ∧
      readTokens explanation (s ++ t) = .ok (before ++ Token.behind literal.reverse tokens') := by
  obtain ⟨before, literal, rfl, later⟩ := scanTokens_append hs
  refine ⟨before, literal, rfl, ?_⟩
  unfold readTokens
  have behind : scanTokens explanation (.plain literal) (0 + s.length) t = .ok (Token.behind literal.reverse tokens') :=
    scanTokens_behind (show ScanState.Behind literal (.plain []) (.plain literal) from .plain []) _ ht
  rw [later, behind]
  rfl

/-! ### Expanding -/

namespace Evaluation

variable {domain : String}

theorem expandTokens_append (before later : List Token) :
    expandTokens explanation domain (before ++ later) = (do
      let first ← expandTokens explanation domain before
      let second ← expandTokens explanation domain later
      pure (first ++ second)) := by
  induction before with
  | nil => simp [expandTokens, -bind_pure_comp]
  | cons token before ih => cases token <;> simp [expandTokens, ih, String.append_assoc, -bind_pure_comp]

theorem expandTokens_flush (literal : List Char) (tokens : List Token) :
    expandTokens explanation domain (flush literal tokens) = (do
      let later ← expandTokens explanation domain tokens
      pure (String.ofList literal.reverse ++ later)) := by
  cases literal <;> simp [flush, expandTokens, -bind_pure_comp]

theorem expandTokens_behind (text : List Char) (tokens : List Token) :
    expandTokens explanation domain (Token.behind text tokens) = (do
      let later ← expandTokens explanation domain tokens
      pure (String.ofList text ++ later)) := by
  rcases tokens with _ | ⟨_ | m, rest⟩
  · simp [Token.behind, expandTokens_flush]
  · simp [Token.behind, expandTokens, String.append_assoc, -bind_pure_comp]
  · simp [Token.behind, expandTokens_flush]

theorem expand_of_read {text : String} {tokens : List Token} (h : readTokens explanation text.toList = .ok tokens) :
    expand explanation domain text = expandTokens explanation domain tokens := by
  simp [expand, h]

theorem expand_of_unread {text : String} {e : MacroStringError} (h : readTokens explanation text.toList = .error e) :
    expand explanation domain text = throw (.ofMacroString domain text Record.defaultMarker e) := by
  simp [expand, h]

/-- Texts that can be read expand one after the other, what the second one asks and counts coming behind the first. -/
theorem expand_append {s t : String} {tokens tokens' : List Token} (hs : readTokens explanation s.toList = .ok tokens)
    (ht : readTokens explanation t.toList = .ok tokens') :
    expand explanation domain (s ++ t) = (do
      let first ← expand explanation domain s
      let second ← expand explanation domain t
      pure (first ++ second)) := by
  obtain ⟨before, literal, rfl, both⟩ := readTokens_append hs ht
  rw [← String.toList_append] at both
  simp [expand_of_read both, expand_of_read hs, expand_of_read ht, expandTokens_append, expandTokens_behind,
    expandTokens_flush, expandTokens, String.append_assoc, -bind_pure_comp]

end Evaluation

end

/-! ### Counting one by one -/

namespace Counters

variable {limit : Int} {n k : Nat} {c : Counters}

/-- The ceiling leaves room for a number of lookups. -/
def HasRoom (limit : Int) (n : Nat) (c : Counters) : Prop := n = 0 ∨ c.lookups + n ≤ limit

instance : Decidable (HasRoom limit n c) := inferInstanceAs (Decidable (_ ∨ _))

/-- What has been counted after a number of lookups more, of which none comes behind the first one beyond the ceiling. -/
def counting (limit : Int) (n : Nat) (c : Counters) : Counters :=
  { c with lookups := if c.HasRoom limit n then c.lookups + n else max c.lookups limit + 1 }

@[simp] theorem counting_zero (limit : Int) (c : Counters) : c.counting limit 0 = c := by
  simp [counting, HasRoom]

theorem hasRoom_one : c.HasRoom limit 1 ↔ c.lookups + 1 ≤ limit := by
  simp [HasRoom]

/-- One lookup more is counted even if it is the first one beyond the ceiling. -/
theorem counting_one (limit : Int) (c : Counters) : c.counting limit 1 = { c with lookups := c.lookups + 1 } := by
  unfold counting
  simp only [hasRoom_one, Counters.mk.injEq, and_true]
  split <;> omega

theorem hasRoom_add (h : c.HasRoom limit n) : c.HasRoom limit (n + k) ↔ (c.counting limit n).HasRoom limit k := by
  unfold counting
  rw [if_pos h]
  unfold HasRoom at h ⊢
  dsimp only
  omega

theorem counting_add (h : c.HasRoom limit n) : c.counting limit (n + k) = (c.counting limit n).counting limit k := by
  have both := hasRoom_add (k := k) h
  unfold counting at both ⊢
  simp only [if_pos h] at both ⊢
  by_cases room : c.HasRoom limit (n + k)
  · rw [if_pos room, if_pos (both.mp room)]
    simp [Int.add_assoc]
  · rw [if_neg room, if_neg (mt both.mpr room)]
    have beyond := mt both.mpr room
    unfold HasRoom at h room beyond
    simp only [Counters.mk.injEq, and_true]
    omega

theorem not_hasRoom_add (h : ¬ c.HasRoom limit n) : ¬ c.HasRoom limit (n + k) := by
  unfold HasRoom at h ⊢
  omega

theorem counting_add_of_excess (h : ¬ c.HasRoom limit n) : c.counting limit (n + k) = c.counting limit n := by
  unfold counting
  rw [if_neg h, if_neg (not_hasRoom_add h)]

end Counters

namespace Evaluation

/-- While a property of the state holds, the evaluation counts a number of lookups one by one. It comes to a value if the
ceiling leaves room for them, and otherwise it fails with the first one beyond the ceiling. -/
structure CountsTo (answer : Question → σ → Answer × σ) (context : Context) (I : σ → Prop) (n : Nat) (e : Evaluation α) :
    Prop where
  counters : ∀ w, I w.state →
    (exec answer context e w).2.counters = w.counters.counting context.receiver.limits.lookups n
  value : ∀ w, I w.state → w.counters.HasRoom context.receiver.limits.lookups n → ∃ a, (exec answer context e w).1 = .ok a
  excess : ∀ w, I w.state → ¬ w.counters.HasRoom context.receiver.limits.lookups n → (exec answer context e w).1 =
    .error (.policy (.tooManyLookups context.receiver.limits.lookups
      (w.counters.counting context.receiver.limits.lookups n).lookups))

section
variable {answer : Question → σ → Answer × σ} {context : Context} {I : σ → Prop} {n k : Nat}

theorem countsTo_countLookup : CountsTo answer context I 1 countLookup where
  counters w _ := by
    rw [exec_countLookup, Counters.counting_one]
    rfl
  value w _ h := by
    have below : ¬ context.receiver.limits.lookups < w.lookedUp.counters.lookups :=
      Int.not_lt.mpr (Counters.hasRoom_one.mp h)
    rw [exec_countLookup, if_neg below]
    exact ⟨(), rfl⟩
  excess w _ h := by
    have beyond : context.receiver.limits.lookups < w.lookedUp.counters.lookups :=
      Int.not_le.mp (mt Counters.hasRoom_one.mpr h)
    rw [exec_countLookup, if_pos beyond, Counters.counting_one]
    rfl

theorem countsTo_of_ok {e : Evaluation α} (h : ∀ w, I w.state → ∃ a s, exec answer context e w = (.ok a, ⟨w.counters, s⟩)) :
    CountsTo answer context I 0 e where
  counters w hw := by
    obtain ⟨a, s, he⟩ := h w hw
    simp [he]
  value w hw _ := by
    obtain ⟨a, s, he⟩ := h w hw
    exact ⟨a, congrArg Prod.fst he⟩
  excess _ _ beyond := absurd (.inl rfl) beyond

theorem countsTo_pure (a : α) : CountsTo answer context I 0 (pure a) := countsTo_of_ok fun w _ => ⟨a, w.state, rfl⟩

theorem CountsTo.reading {f : Context → Evaluation α} (h : CountsTo answer context I n (f context)) :
    CountsTo answer context I n (read >>= f) := ⟨h.counters, h.value, h.excess⟩

/-- Behind an evaluation that counts, another one goes on to count. -/
theorem CountsTo.bind (ht : Truthful answer I) {e : Evaluation α} {f : α → Evaluation β} (h : CountsTo answer context I n e)
    (ha : AsksOnly Question.Standard e) (hf : ∀ a, CountsTo answer context I k (f a)) :
    CountsTo answer context I (n + k) (e >>= f) := by
  have ends : ∀ w, I w.state → (w.counters.HasRoom context.receiver.limits.lookups n ∧ ∃ a w', I w'.state ∧
      w'.counters = w.counters.counting context.receiver.limits.lookups n ∧
      exec answer context (e >>= f) w = exec answer context (f a) w') ∨
      (¬ w.counters.HasRoom context.receiver.limits.lookups n ∧ ∃ w',
        w'.counters = w.counters.counting context.receiver.limits.lookups n ∧
        exec answer context (e >>= f) w = (.error (.policy (.tooManyLookups context.receiver.limits.lookups
          (w.counters.counting context.receiver.limits.lookups n).lookups)), w')) := by
    intro w hw
    have counted := h.counters w hw
    by_cases room : w.counters.HasRoom context.receiver.limits.lookups n
    · obtain ⟨a, he⟩ := h.value w hw room
      rcases hr : exec answer context e w with ⟨r, w'⟩
      rw [hr] at he counted
      cases he
      exact .inl ⟨room, a, w', ht.kept ha hw hr, counted, exec_bind_of_ok hr⟩
    · have he := h.excess w hw room
      rcases hr : exec answer context e w with ⟨r, w'⟩
      rw [hr] at he counted
      cases he
      exact .inr ⟨room, w', counted, exec_bind_of_error hr⟩
  constructor
  · intro w hw
    rcases ends w hw with ⟨room, a, w', hw', counted, run⟩ | ⟨beyond, w', counted, run⟩
    · rw [run, (hf a).counters w' hw', counted, Counters.counting_add room]
    · rw [run, counted, Counters.counting_add_of_excess beyond]
  · intro w hw both
    rcases ends w hw with ⟨room, a, w', hw', counted, run⟩ | ⟨beyond, -⟩
    · rw [run]
      exact (hf a).value w' hw' (counted ▸ (Counters.hasRoom_add room).mp both)
    · exact absurd both (Counters.not_hasRoom_add beyond)
  · intro w hw both
    rcases ends w hw with ⟨room, a, w', hw', counted, run⟩ | ⟨beyond, w', counted, run⟩
    · rw [run, (hf a).excess w' hw' (counted ▸ mt (Counters.hasRoom_add room).mpr both), counted,
        Counters.counting_add room]
    · rw [run, Counters.counting_add_of_excess beyond]

/-! ### Macro strings -/

variable (ht : Truthful answer I)
include ht

theorem clientNames_countsTo : CountsTo answer context I 0 clientNames := by
  refine countsTo_of_ok fun w hw => ?_
  have names : Faultless answer context I clientNames := clientNames_faultless ht
  have faultless := names w hw
  unfold clientNames at faultless ⊢
  rw [exec_read_bind, exec_bind, exec_ofInquiry] at faultless ⊢
  dsimp only at faultless ⊢
  generalize ((confirmedNames .confirmation context.receiver.limits.pointers context.address).run.run answer w.state).1 = r
    at faultless ⊢
  rcases r with (e | text) | names
  · exact ⟨_, _, rfl⟩
  · exact absurd rfl (faultless (.notAddress text))
  · exact ⟨_, _, rfl⟩

theorem fact_countsTo (explanation : Bool) (domain : String) (letter : Letter) (hs : ¬ context.address.IsScoped) :
    CountsTo answer context I (letter.lookups explanation) (fact explanation domain letter) := by
  have chosen : CountsTo answer context I 0 (confirmedName true domain) :=
    (clientNames_countsTo ht).bind ht clientNames_composed.asksOnly (k := 0) fun r => by cases r <;> exact countsTo_pure _
  refine .reading ?_
  cases letter with
  | address =>
    cases hm : context.address.macroText with
    | error e => exact absurd (Address.macroText_error_iff.mp ⟨e, hm⟩) hs
    | ok text =>
      show CountsTo answer context I 0 (addressText context.address)
      simp only [addressText, hm]
      exact countsTo_pure text
  | confirmedName =>
    cases explanation with
    | true => exact chosen
    | false => exact countsTo_countLookup.bind ht .countLookup fun _ => chosen
  | _ => exact countsTo_pure _

theorem expandTokens_countsTo (explanation : Bool) (domain : String) (hs : ¬ context.address.IsScoped) :
    ∀ tokens, CountsTo answer context I (lookupsOf explanation tokens) (expandTokens explanation domain tokens)
  | [] => countsTo_pure _
  | .literal _ :: rest =>
    (expandTokens_countsTo explanation domain hs rest).bind ht (expandTokens_composed explanation domain rest).asksOnly
      (k := 0) fun _ => countsTo_pure _
  | .expansion m :: rest =>
    (fact_countsTo ht explanation domain m.letter hs).bind ht (fact_composed explanation domain m.letter).asksOnly fun _ =>
      (expandTokens_countsTo explanation domain hs rest).bind ht (expandTokens_composed explanation domain rest).asksOnly
        (k := 0) fun _ => countsTo_pure _

end

end Evaluation

/-- The token is a macro for the confirmed name of the client. -/
def Token.confirms : Token → Bool
  | .literal _ => false
  | .expansion m => m.letter == .confirmedName

theorem lookupsOf_eq_countP (explanation : Bool) (tokens : List Token) :
    lookupsOf explanation tokens = if explanation then 0 else tokens.countP (·.confirms) := by
  cases explanation with
  | true => exact lookupsOf_true tokens
  | false =>
    induction tokens with
    | nil => rfl
    | cons token tokens ih =>
      rcases token with text | ⟨letter, _, _, _, _⟩
      · simpa [lookupsOf, Token.confirms] using ih
      · cases letter <;> simp_all [lookupsOf, Token.confirms, Letter.lookups, Nat.add_comm]

/-- Two macro strings that can be read, one behind the other, expand as they do one after the other. Where addresses are
found as addresses and the client has no scope, a macro string counts a lookup for each macro that it writes for the
confirmed name of the client, outside explanations, up to the first one beyond the ceiling, with which it then fails. A
text that cannot be read asks and counts nothing. -/
theorem expand_appended (explanation : Bool) (domain : String) :
    (∀ s t tokens tokens', readTokens explanation s.toList = .ok tokens → readTokens explanation t.toList = .ok tokens' →
      expand explanation domain (s ++ t) = (do
        let first ← expand explanation domain s
        let second ← expand explanation domain t
        pure (first ++ second))) ∧
    (∀ (client : Client) (context : Context) (w : World ClientState) (text : String) (tokens : List Token),
      client.resolver.GivesAddresses → w.state.cache.HoldsAddresses → ¬ context.address.IsScoped →
      readTokens explanation text.toList = .ok tokens →
      let limit := context.receiver.limits.lookups
      let n := if explanation then 0 else tokens.countP (·.confirms)
      let ran := exec client.answers context (expand explanation domain text) w
      ran.2.counters = w.counters.counting limit n ∧
        (w.counters.HasRoom limit n → ∃ expanded, ran.1 = .ok expanded) ∧
        (¬ w.counters.HasRoom limit n →
          ran.1 = .error (.policy (.tooManyLookups limit (w.counters.counting limit n).lookups)))) ∧
    ∀ (text : String) (e : MacroStringError), readTokens explanation text.toList = .error e →
      ∀ (σ : Type) (answer : Question → σ → Answer × σ) (context : Context) (w : World σ),
        exec answer context (expand explanation domain text) w =
          (.error (.ofMacroString domain text Record.defaultMarker e), w) := by
  refine ⟨fun s t _ _ hs ht => expand_append hs ht, ?_, ?_⟩
  · intro client context w text tokens hr hc hs read
    have counts : CountsTo client.answers context (·.cache.HoldsAddresses) (lookupsOf explanation tokens)
        (expandTokens explanation domain tokens) :=
      expandTokens_countsTo (Client.answers_truthful hr) explanation domain hs tokens
    rw [← expand_of_read read, lookupsOf_eq_countP] at counts
    exact ⟨counts.counters w hc, counts.value w hc, counts.excess w hc⟩
  · intro text e unread σ answer context w
    rw [expand_of_unread unread, exec_throw]

/-- The confirmed name of a client twice, in texts with a label across the cut. -/
def cutLabel (counters : Counters) : Except Failure String × World ClientState :=
  exec (Client.ofZone namedClientZone).answers namedClientContext (expand false "example.com" ("%{p}.a" ++ "b.%{p}"))
    ⟨counters, .unasked⟩

/-- From the start it is found by two lookups; with one left, the second one is beyond the ceiling. A percent sign at the end
of the text, and neither is asked for. -/
theorem expand_appended_cutLabel :
    expand false "example.com" ("%{p}.a" ++ "b.%{p}") = (do
      let first ← expand false "example.com" "%{p}.a"
      let second ← expand false "example.com" "b.%{p}"
      pure (first ++ second)) ∧
    (cutLabel ⟨0, 0⟩).1 = .ok "mail.example.com.ab.mail.example.com" ∧ (cutLabel ⟨0, 0⟩).2.counters = ⟨2, 0⟩ ∧
    (cutLabel ⟨9, 0⟩).1 = .error (.policy (.tooManyLookups 10 11)) ∧ (cutLabel ⟨9, 0⟩).2.counters = ⟨11, 0⟩ ∧
    exec (Client.ofZone namedClientZone).answers namedClientContext (expand false "example.com" "%{p}%") ⟨{}, .unasked⟩ =
      (.error (.malformed (.macroString "example.com" ⟨4, Record.defaultMarker, "%{p}%"⟩)), ⟨{}, .unasked⟩) := by
  obtain ⟨appended, counted, unread⟩ := expand_appended false "example.com"
  let name : Token := .expansion ⟨.confirmedName, none, false, "", false⟩
  have first : readTokens false "%{p}.a".toList = .ok [name, .literal ".a"] := by decide
  have second : readTokens false "b.%{p}".toList = .ok [.literal "b.", name] := by decide
  have both : readTokens false ("%{p}.a" ++ "b.%{p}").toList = .ok [name, .literal ".ab.", name] := by decide
  have addresses : (Client.ofZone namedClientZone).resolver.GivesAddresses := givesAddresses_resolver (by decide)
  have counts := fun counters => counted (Client.ofZone namedClientZone) namedClientContext ⟨counters, .unasked⟩ _ _ addresses
    (fun _ => nofun) nofun both
  refine ⟨appended _ _ _ _ first second, by decide, (counts ⟨0, 0⟩).1, (counts ⟨9, 0⟩).2.2 (by decide),
    (counts ⟨9, 0⟩).1, unread _ (.position 4) (by decide) _ _ _ _⟩

end SenderPolicy
