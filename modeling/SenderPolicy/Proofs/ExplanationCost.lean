import SenderPolicy.Proofs.Ceiling

/-! What explanations cost. A check never keeps what it has counted for an explanation, and the text of an explanation may
use every macro free of charge. The name under which that text is looked for is another matter: it is put together like
the target of a mechanism, so every macro in it for the confirmed name of the client counts a lookup, if only for the
moment. While the ceiling leaves room for these, an explanation does not regard what has been counted before; if it does
not, there is no explanation. -/

namespace SenderPolicy

open Dns Evaluation

variable {σ α β : Type}

/-! ### Macros that count -/

/-- The lookups that a macro counts. Only in an explanation is the confirmed name of the client free of charge. -/
def Letter.lookups (explanation : Bool) : Letter → Nat
  | .confirmedName => if explanation then 0 else 1
  | _ => 0

/-- The lookups that tokens count. -/
def lookupsOf (explanation : Bool) : List Token → Nat
  | [] => 0
  | .literal _ :: rest => lookupsOf explanation rest
  | .expansion m :: rest => m.letter.lookups explanation + lookupsOf explanation rest

theorem Letter.lookups_true (letter : Letter) : letter.lookups true = 0 := by
  cases letter <;> rfl

theorem lookupsOf_true : ∀ tokens, lookupsOf true tokens = 0
  | [] => rfl
  | .literal _ :: rest => lookupsOf_true rest
  | .expansion m :: rest => by
    unfold lookupsOf
    rw [Letter.lookups_true, lookupsOf_true rest]

/-- The lookups that a macro string counts. -/
def macroLookups (explanation : Bool) (text : String) : Nat :=
  match readTokens explanation text.toList with
  | .ok tokens => lookupsOf explanation tokens
  | .error _ => 0

theorem macroLookups_true (text : String) : macroLookups true text = 0 := by
  unfold macroLookups
  split
  · exact lookupsOf_true _
  · rfl

/-- The lookups that a domain-spec counts, which is a macro string only if it holds a percent sign. -/
def specLookups (spec : String) : Nat := if spec.toList.contains '%' then macroLookups false spec else 0

namespace Evaluation

section
variable {answer : Question → σ → Answer × σ} {context : Context} {n k : Nat}

/-! ### Costs -/

/-- Two runs from one state come to the same outcome and state, whatever has been counted before them. -/
def SameFrom (answer : Question → σ → Answer × σ) (context : Context) (e : Evaluation α) (c c' : Counters) (s : σ) : Prop :=
  (exec answer context e ⟨c, s⟩).1 = (exec answer context e ⟨c', s⟩).1 ∧
    (exec answer context e ⟨c, s⟩).2.state = (exec answer context e ⟨c', s⟩).2.state

/-- The evaluation counts at most a number of lookups, and exactly that number within the ceiling if it comes to a value.
While the ceiling leaves room for them, it does not regard what has been counted before. -/
structure Costs (answer : Question → σ → Answer × σ) (context : Context) (n : Nat) (e : Evaluation α) : Prop where
  atMost : ∀ w, (exec answer context e w).2.counters.lookups ≤ w.counters.lookups + n
  exactly : ∀ w a w', exec answer context e w = (.ok a, w') → w'.counters.lookups = w.counters.lookups + n ∧
    (w.counters.lookups ≤ context.receiver.limits.lookups → w'.counters.lookups ≤ context.receiver.limits.lookups)
  blind : ∀ c c' s, c.lookups + n ≤ context.receiver.limits.lookups → c'.lookups + n ≤ context.receiver.limits.lookups →
    SameFrom answer context e c c' s

theorem costs_of_uncounting {e : Evaluation α} (hu : Uncounting answer context e)
    (h : ∀ c c' s, SameFrom answer context e c c' s) : Costs answer context 0 e where
  atMost w := by
    rw [hu w]
    omega
  exactly w a w' he := by
    have kept := hu w
    rw [he] at kept
    dsimp only at kept
    rw [kept]
    exact ⟨(Int.add_zero _).symm, id⟩
  blind c c' s _ _ := h c c' s

theorem costs_pure (a : α) : Costs answer context 0 (pure a) :=
  costs_of_uncounting (uncounting_pure a) fun _ _ _ => ⟨rfl, rfl⟩

theorem costs_throw (x : Failure) : Costs answer context 0 (throw x : Evaluation α) :=
  costs_of_uncounting (uncounting_throw x) fun _ _ _ => ⟨rfl, rfl⟩

theorem costs_ofInquiry (i : Inquiry α) : Costs answer context 0 (ofInquiry i) :=
  costs_of_uncounting (uncounting_ofInquiry i) fun _ _ _ => by
    unfold SameFrom
    rw [exec_ofInquiry, exec_ofInquiry]
    exact ⟨rfl, rfl⟩

theorem costs_countLookup : Costs answer context 1 countLookup where
  atMost w := by
    rw [exec_countLookup]
    exact Int.le_refl _
  exactly w a w' he := by
    rw [exec_countLookup] at he
    split at he
    · cases he
    · rename_i within
      cases he
      exact ⟨rfl, fun _ => Int.not_lt.mp within⟩
  blind c c' s hc hc' := by
    have counted : ∀ c : Counters, (World.lookedUp ⟨c, s⟩).counters.lookups ≤ context.receiver.limits.lookups →
        exec answer context countLookup ⟨c, s⟩ = (.ok (), World.lookedUp ⟨c, s⟩) := fun c hc => by
      rw [exec_countLookup, if_neg (Int.not_lt.mpr hc)]
    unfold SameFrom
    rw [counted c hc, counted c' hc']
    exact ⟨rfl, rfl⟩

theorem Costs.reading {f : Context → Evaluation α} (h : Costs answer context n (f context)) :
    Costs answer context n (read >>= f) := ⟨h.atMost, h.exactly, h.blind⟩

theorem Costs.bind {e : Evaluation α} {f : α → Evaluation β} (h : Costs answer context n e)
    (hf : ∀ a, Costs answer context k (f a)) : Costs answer context (n + k) (e >>= f) where
  atMost w := by
    have first := h.atMost w
    rw [exec_bind]
    generalize exec answer context e w = r at first
    obtain ⟨x | a, w'⟩ := r
    · dsimp only at first ⊢
      omega
    · have second := (hf a).atMost w'
      dsimp only at first ⊢
      omega
  exactly w b w₂ he := by
    obtain ⟨a, w₁, he, hf₂⟩ := exec_bind_ok_iff.mp he
    obtain ⟨first, within⟩ := h.exactly w a w₁ he
    obtain ⟨second, within'⟩ := (hf a).exactly w₁ b w₂ hf₂
    exact ⟨by omega, fun hw => within' (within hw)⟩
  blind c c' s hc hc' := by
    obtain ⟨outcome, state⟩ := h.blind c c' s (by omega) (by omega)
    have spent := h.atMost ⟨c, s⟩
    have spent' := h.atMost ⟨c', s⟩
    unfold SameFrom
    rw [exec_bind, exec_bind]
    generalize exec answer context e ⟨c, s⟩ = r at outcome state spent
    generalize exec answer context e ⟨c', s⟩ = r' at outcome state spent'
    obtain ⟨x, c₁, s₁⟩ := r
    obtain ⟨x', c₁', s₁'⟩ := r'
    cases outcome
    cases state
    cases x with
    | error x => exact ⟨rfl, rfl⟩
    | ok a =>
      dsimp only at spent spent'
      exact (hf a).blind c₁ c₁' s₁ (by omega) (by omega)

theorem Costs.bind_free {e : Evaluation α} {f : α → Evaluation β} (h : Costs answer context n e)
    (hf : ∀ a, Costs answer context 0 (f a)) : Costs answer context n (e >>= f) := h.bind hf

theorem Costs.free_bind {e : Evaluation α} {f : α → Evaluation β} (h : Costs answer context 0 e)
    (hf : ∀ a, Costs answer context n (f a)) : Costs answer context n (e >>= f) := by
  rw [← Nat.zero_add n]
  exact h.bind hf

theorem Costs.map {e : Evaluation α} (h : Costs answer context n e) (f : α → β) : Costs answer context n (f <$> e) := by
  rw [← bind_pure_comp]
  exact h.bind_free fun a => costs_pure (f a)

/-! ### Macro strings -/

theorem clientNames_costs : Costs answer context 0 clientNames :=
  .reading ((costs_ofInquiry _).free_bind fun r => by
    rcases r with (e | text) | names
    · exact costs_pure _
    · exact costs_throw _
    · exact costs_pure _)

theorem fact_costs (explanation : Bool) (domain : String) (letter : Letter) :
    Costs answer context (letter.lookups explanation) (fact explanation domain letter) := by
  refine .reading ?_
  cases letter with
  | address =>
    show Costs answer context 0 (addressText context.address)
    unfold addressText
    cases context.address.macroText with
    | error e => exact costs_throw _
    | ok text => exact costs_pure _
  | confirmedName =>
    cases explanation
    case' false => refine costs_countLookup.bind_free fun _ => ?_
    all_goals exact clientNames_costs.free_bind fun r => by cases r <;> exact costs_pure _
  | _ => exact costs_pure _

theorem expandTokens_costs (explanation : Bool) (domain : String) :
    ∀ tokens, Costs answer context (lookupsOf explanation tokens) (expandTokens explanation domain tokens)
  | [] => costs_pure _
  | .literal _ :: rest => (expandTokens_costs explanation domain rest).bind_free fun _ => costs_pure _
  | .expansion m :: rest =>
    (fact_costs explanation domain m.letter).bind fun _ =>
      (expandTokens_costs explanation domain rest).bind_free fun _ => costs_pure _

theorem expand_costs (explanation : Bool) (domain text : String) :
    Costs answer context (macroLookups explanation text) (expand explanation domain text) := by
  unfold expand macroLookups
  cases readTokens explanation text.toList with
  | error e => exact costs_throw _
  | ok tokens => exact expandTokens_costs explanation domain tokens

theorem targetName_costs (domain spec : String) : Costs answer context (specLookups spec) (targetName domain spec) := by
  refine .bind_free ?_ fun target => ?_
  · unfold expandDomainSpec specLookups
    by_cases he : spec = ""
    · subst he
      exact costs_pure _
    · rw [if_neg he]
      cases spec.toList.contains '%' with
      | false => exact costs_pure _
      | true => exact (expand_costs false domain spec).bind_free fun _ => costs_pure _
  · split
    · exact costs_pure _
    · exact costs_throw _

/-- The text of an explanation is free of charge. -/
theorem explanationAt_costs (domain target : String) : Costs answer context 0 (explanationAt domain target) :=
  (costs_ofInquiry _).free_bind fun r => by
    split
    · rename_i text
      rw [← macroLookups_true text]
      exact (expand_costs true domain text).map _
    · exact costs_pure _

/-! ### Explanations -/

/-- While the ceiling leaves room for the lookups of its name, an explanation does not regard what has been counted. -/
theorem explanation_sameFrom (m : Modifier) (domain : String) {c c' : Counters} (s : σ)
    (hc : c.lookups + specLookups m.macroString ≤ context.receiver.limits.lookups)
    (hc' : c'.lookups + specLookups m.macroString ≤ context.receiver.limits.lookups) :
    SameFrom answer context (explanation m domain) c c' s := by
  unfold SameFrom
  rw [exec_explanation, exec_explanation, exec_bind, exec_bind, exec_uncounted, exec_uncounted]
  generalize (fun q : Question => answer { q with purpose := .explanation }) = answer
  have named : Costs answer context _ (targetName domain m.macroString) := targetName_costs domain m.macroString
  obtain ⟨outcome, state⟩ := named.blind c c' s hc hc'
  rw [outcome, state]
  rcases (exec answer context (targetName domain m.macroString) ⟨c', s⟩).1 with x | target
  · exact ⟨rfl, rfl⟩
  · -- the name costs the same in both runs, and is not paid for: the text is looked for with the counters of before
    have free : Costs answer context 0 (explanationAt domain target) := explanationAt_costs domain target
    obtain ⟨outcome, state⟩ := free.blind c c' (exec answer context (targetName domain m.macroString) ⟨c', s⟩).2.state
      (by omega) (by omega)
    exact ⟨congrArg excusing outcome, state⟩

/-- Where the ceiling leaves no room for the lookups of its name, there is no explanation. -/
theorem explanation_of_beyond (m : Modifier) (domain : String) {w : World σ}
    (hw : w.counters.lookups ≤ context.receiver.limits.lookups)
    (h : context.receiver.limits.lookups < w.counters.lookups + specLookups m.macroString) :
    (exec answer context (explanation m domain) w).1 = .ok none ∨
      ∃ f, (exec answer context (explanation m domain) w).1 = .error (.fault f) := by
  rw [exec_explanation, exec_bind, exec_uncounted]
  generalize (fun q : Question => answer { q with purpose := .explanation }) = answer
  rcases he : exec answer context (targetName domain m.macroString) w with ⟨(e | f) | target, w'⟩
  · exact .inl rfl
  · exact .inr ⟨f, rfl⟩
  · obtain ⟨spent, within⟩ := (targetName_costs domain m.macroString).exactly w target w' he
    have := within hw
    omega

end

end Evaluation

/-- An explanation leaves what has been counted as it was. As long as the ceiling leaves room for the confirmed names in the
name of its text, it also comes to the same text by the same calls, whatever has been counted before; where it does not,
there is no explanation. -/
theorem explanation_counters (client : Client) (context : Context) (m : Modifier) (domain : String) (state : ClientState) :
    let ran := fun counters => Evaluation.exec client.answers context (explanation m domain) ⟨counters, state⟩
    let limit := context.receiver.limits.lookups
    (∀ counters, (ran counters).2.counters = counters) ∧
    (∀ c c' : Counters, c.lookups + specLookups m.macroString ≤ limit → c'.lookups + specLookups m.macroString ≤ limit →
      (ran c).1 = (ran c').1 ∧ (ran c).2.state = (ran c').2.state) ∧
    ∀ c : Counters, c.lookups ≤ limit → limit < c.lookups + specLookups m.macroString →
      (ran c).1 = .ok none ∨ ∃ f, (ran c).1 = .error (.fault f) :=
  ⟨fun counters => explanation_uncounting m domain ⟨counters, state⟩,
    fun _ _ hc hc' => explanation_sameFrom m domain state hc hc',
    fun _ hc beyond => explanation_of_beyond m domain hc beyond⟩

/-- A zone in which the client has a confirmed name, with a text. -/
def namedClientZone : Zone :=
  [("5.2.0.192.in-addr.arpa", [("PTR", .fixed (.ok [.text "mail.example.com."]))]),
   ("mail.example.com", [("A", .fixed (.ok [.text "192.0.2.5"])), ("TXT", .fixed (.ok [.text "Not you"]))])]

def namedClientContext : Context := ⟨{ clock := .whole 0 }, .v4 0xC0000205, "user", "example.com", ""⟩

/-- The explanation under the confirmed name of the client, when some lookups have been counted. -/
def namedClientRun (counters : Counters) : Except Failure (Option String) × World ClientState :=
  Evaluation.exec (Client.ofZone namedClientZone).answers namedClientContext
    (explanation ⟨"exp", "%{p}", "exp=%{p}"⟩ "example.com") ⟨counters, .unasked⟩

/-- With one lookup left, it explains a failure as it does in a new check. -/
theorem explanation_lastLookup :
    specLookups "%{p}" = 1 ∧ (namedClientRun ⟨0, 0⟩).1 = .ok (some "Not you") ∧
      (namedClientRun ⟨9, 2⟩).1 = (namedClientRun ⟨0, 0⟩).1 ∧
      (namedClientRun ⟨9, 2⟩).2.state = (namedClientRun ⟨0, 0⟩).2.state := by
  have one : specLookups "%{p}" = 1 := by decide
  obtain ⟨-, same, -⟩ := explanation_counters (Client.ofZone namedClientZone) namedClientContext
    ⟨"exp", "%{p}", "exp=%{p}"⟩ "example.com" .unasked
  obtain ⟨outcome, state⟩ := same ⟨9, 2⟩ ⟨0, 0⟩ (by rw [one]; decide) (by rw [one]; decide)
  exact ⟨one, by decide, outcome, state⟩

/-- At the ceiling it does not, since the name of the client counts for the name of the explanation. -/
theorem explanation_atCeiling :
    (⟨0, 0⟩ : Counters).Within namedClientContext.receiver.limits.lookups namedClientContext.receiver.limits.voidLookups ∧
      (⟨10, 0⟩ : Counters).Within namedClientContext.receiver.limits.lookups
        namedClientContext.receiver.limits.voidLookups ∧
      (namedClientRun ⟨0, 0⟩).1 = .ok (some "Not you") ∧ (namedClientRun ⟨0, 0⟩).2.state.calls.length = 3 ∧
      (namedClientRun ⟨10, 0⟩).1 = .ok none ∧ (namedClientRun ⟨10, 0⟩).2.state.calls = [] :=
  ⟨⟨by decide, by decide⟩, ⟨by decide, by decide⟩, by decide⟩

end SenderPolicy
