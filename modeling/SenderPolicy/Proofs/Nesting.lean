import SenderPolicy.Proofs.Ceiling
import SenderPolicy.Proofs.Failures

/-! Nesting is paid for by lookups. Each include and each redirect counts a lookup before it leads to another policy,
and nothing that is counted is ever taken back, so a policy is entered at a depth only when at least as many lookups
have been counted. The ceiling for lookups is then one for the depth too, and if it is not above the limit for nesting
no check ever runs into that limit. -/

namespace SenderPolicy

open Dns Evaluation Relation

variable {σ α β : Type}

namespace Evaluation

section
variable {answer : Question → σ → Answer × σ} {context : Context}

/-! ### Counted lookups -/

theorem exec_countLookup_ok {w w' : World σ} (h : exec answer context countLookup w = (.ok (), w')) :
    w' = w.lookedUp ∧ w'.counters.lookups ≤ context.receiver.limits.lookups := by
  rw [exec_countLookup] at h
  by_cases excess : context.receiver.limits.lookups < w.lookedUp.counters.lookups
  · rw [if_pos excess] at h
    cases h
  · rw [if_neg excess] at h
    cases h
    exact ⟨rfl, Int.not_lt.mp excess⟩

/-- A composed evaluation that comes to a value has not counted beyond the ceiling. -/
theorem Composed.lookups_le {e : Evaluation α} (h : Composed e) {a : α} {w w' : World σ}
    (he : exec answer context e w = (.ok a, w')) (hw : w.counters.lookups ≤ context.receiver.limits.lookups) :
    w'.counters.lookups ≤ context.receiver.limits.lookups := by
  induction h generalizing w w' with
  | pure a =>
    cases he
    exact hw
  | throw x => cases he
  | reading _ _ ih => exact ih context he hw
  | countLookup => exact (exec_countLookup_ok he).2
  | countVoidLookup =>
    rw [exec_countVoidLookup] at he
    obtain rfl := congrArg Prod.snd he
    exact hw
  | ask =>
    rw [exec_ofInquiry] at he
    cases he
    exact hw
  | consult _ _ _ ih =>
    obtain ⟨r, w₁, hr, he⟩ := exec_bind_ok_iff.mp he
    unfold attempt at hr
    rw [exec_ofInquiry] at hr
    cases hr
    exact ih _ he hw
  | bind _ _ ih ihf =>
    obtain ⟨b, w₁, hb, he⟩ := exec_bind_ok_iff.mp he
    exact ihf b he (ih hb hw)
  | entering _ ih => exact ih (exec_entering_ok_iff.mp he) hw

/-- Finding the name to which a term leads takes a lookup, and leaves the count within the ceiling. -/
theorem lookups_of_countedTarget {domain spec target : String} {w w' : World σ}
    (h : exec answer context (countedTarget domain spec) w = (.ok target, w')) :
    w.counters.lookups + 1 ≤ w'.counters.lookups ∧ w'.counters.lookups ≤ context.receiver.limits.lookups := by
  obtain ⟨_, w₁, hc, ht⟩ := exec_bind_ok_iff.mp h
  obtain ⟨rfl, within⟩ := exec_countLookup_ok hc
  have grown : w.lookedUp.counters.GrowTo (exec answer context (targetName domain spec) w.lookedUp).2.counters :=
    (targetName_composed domain spec).growTo w.lookedUp
  rw [ht] at grown
  exact ⟨grown.lookups, (targetName_composed domain spec).lookups_le ht within⟩

end

end Evaluation

/-! ### Nesting that is too deep -/

/-- The failure says that policies lead to each other too deep. -/
def Failure.IsTooDeep (x : Failure) : Prop := ∃ limit name, x = .policy (.tooDeep limit name)

namespace Failure

variable {x : Failure} {context : Context} {domain : String}

theorem IsTextual.not_isTooDeep (h : x.IsTextual) : ¬ x.IsTooDeep := by
  rintro ⟨limit, name, rfl⟩
  exact h

theorem OfLookups.not_isTooDeep (h : x.OfLookups) : ¬ x.IsTooDeep := by
  rintro ⟨limit, name, rfl⟩
  cases h

end Failure

section
variable {x : Failure} {context : Context} {domain : String}

theorem SpecFailure.not_isTooDeep {spec : String} (h : SpecFailure context domain spec x) : ¬ x.IsTooDeep := by
  cases h with
  | lookups h => exact h.not_isTooDeep
  | macroString => exact (isTextual_ofMacroString ..).not_isTooDeep
  | scopedAddress => exact nofun
  | invalidTarget => exact nofun

theorem Modifier.ExplanationFailure.not_isTooDeep {m : Modifier} (h : m.ExplanationFailure context domain x) :
    ¬ x.IsTooDeep := by
  cases h <;> exact nofun

theorem Directive.VerdictFailure.not_isTooDeep {d : Directive} {exp : Option Modifier}
    (h : d.VerdictFailure context domain exp x) : ¬ x.IsTooDeep := by
  cases h with
  | qualifier => exact nofun
  | explanation _ h => exact h.not_isTooDeep

theorem Directive.TestFailure.not_isTooDeep {d : Directive} (h : d.TestFailure context domain x) : ¬ x.IsTooDeep := by
  cases h with
  | lookups h => exact h.not_isTooDeep
  | target _ h => exact h.not_isTooDeep
  | cidr _ h => exact (textual_ofDirective x h).not_isTooDeep
  | network => exact nofun
  | mechanism => exact nofun

end

section
variable {answer : Question → σ → Answer × σ} {context : Context}

theorem Record.readFound_not_isTooDeep {strict : Bool} {domain : String} {reply : Answer} {x : Failure}
    (h : Record.readFound strict domain reply = .error x) : ¬ x.IsTooDeep := by
  unfold Record.readFound at h
  split at h
  · rename_i e _
    cases h
    unfold Record.lookupFailure
    cases e with
    | noSuchDomain | temporary => exact nofun
    | _ => cases strict <;> exact nofun
  · split at h
    · rename_i hs
      cases h
      unfold Record.select at hs
      split at hs <;> cases hs <;> exact nofun
    · exact (Record.textual_read x h).not_isTooDeep

theorem exec_policyTerms_not_isTooDeep {domain : String} {w : World σ} {x : Failure}
    (h : (exec answer context (policyTerms domain) w).1 = .error x) : ¬ x.IsTooDeep := by
  rw [exec_policyTerms] at h
  split at h
  · exact Record.readFound_not_isTooDeep h
  · cases h
    exact nofun

/-- The entry to a policy hands on that policies lead too deep, and does not say so itself. -/
theorem entered_isTooDeep {reference : Reference} {target : String} {r : Except Failure Verdict} {x : Failure}
    (h : entered reference target r = .error x) (hx : x.IsTooDeep) : r = .error x := by
  obtain ⟨limit, name, rfl⟩ := hx
  rcases r with (e | f) | verdict
  · cases e <;> cases h
    rfl
  · cases h
  · cases h

end

namespace Visit

section
variable {answer : Question → σ → Answer × σ} {context : Context} {v v' : Visit σ}

/-- If policies lead too deep from a visit, it is itself too deep or leads to a visit from which they do. -/
theorem tooDeep_or_enters {x : Failure} (hx : x.IsTooDeep) (h : (v.exec answer context).1 = .error x) :
    v.levels = 0 ∨ ∃ v', v.Enters answer context v' ∧ (v'.exec answer context).1 = .error x := by
  cases fails_of_exec h with
  | tooDeep hl => exact .inl hl
  | unopened _ hu => exact absurd hx (exec_policyTerms_not_isTooDeep hu)
  | clash _ he hc =>
    obtain ⟨limit, name, rfl⟩ := hx
    cases hc
    rcases collectModifiers_several he with same | same <;> cases same
  | verdict _ _ hv => exact absurd hx (directiveVerdict_failsOnly _ _ v.domain _ x hv).not_isTooDeep
  | @test found d rest w _ hi ht =>
    rcases matchesClient_failsOnly (P := fun _ => True) (fun _ _ _ _ => trivial) d v.domain w x ht with own | ⟨incl, -⟩
    · exact absurd hx own.not_isTooDeep
    · exact absurd incl hi
  | includeTarget _ _ hc | redirectTarget _ _ hc =>
    exact absurd hx (countedTarget_failsOnly v.domain _ _ x hc).not_isTooDeep
  | entered he hy => exact .inr ⟨_, he, entered_isTooDeep hy hx⟩

/-- Where policies lead too deep, the visits that follow come to one that is out of levels. -/
theorem exists_tooDeep_of_exec {x : Failure} (hx : x.IsTooDeep) (h : (v.exec answer context).1 = .error x) :
    ∃ last, ReflTransGen (Enters answer context) v last ∧ last.levels = 0 :=
  exists_last_of_leads id (fun _ => tooDeep_or_enters hx) h

/-! ### Depth -/

variable (answer context) in
/-- The visits of a check with the number of includes and redirects that have led to them. -/
inductive AtDepth (domain : String) (s : σ) : Nat → Visit σ → Prop
  | first : AtDepth domain s 0 (Visit.first context domain s)
  | entered {depth : Nat} {v v' : Visit σ} (h : AtDepth domain s depth v) (he : v.Enters answer context v') :
      AtDepth domain s (depth + 1) v'

theorem AtDepth.reaches {domain : String} {s : σ} {depth : Nat} (h : AtDepth answer context domain s depth v)
    (hr : ReflTransGen (Enters answer context) v v') : ∃ depth', AtDepth answer context domain s depth' v' := by
  induction hr with
  | refl => exact ⟨depth, h⟩
  | tail _ he ih =>
    obtain ⟨depth', h'⟩ := ih
    exact ⟨depth' + 1, h'.entered he⟩

/-- What is known of a visit at a depth: the levels that are left to it, and that its depth is paid for by lookups
within the ceiling. -/
structure PaidFor (context : Context) (depth : Nat) (v : Visit σ) : Prop where
  levels : v.levels = levelsFrom context.receiver.limits depth
  lookups : (depth : Int) ≤ v.world.counters.lookups
  ceiling : 0 < depth → v.world.counters.lookups ≤ context.receiver.limits.lookups

/-- The search of a record takes no lookup back. -/
theorem lookups_le_of_searches {found : Modifiers} {rest : List Term} {w : World σ}
    (h : v.Searches answer context found rest w) : v.world.counters.lookups ≤ w.counters.lookups := by
  refine h.keeps (P := fun w => v.world.counters.lookups ≤ w.counters.lookups) (fun terms w₀ ho => ?_)
    fun d w₁ w' counted ht => ?_
  · have opened : w₀.counters = v.world.counters := by rw [(exec_policyTerms_ok_iff.mp ho.2).2.2]
    rw [opened]
  · have grown : w₁.counters.GrowTo (Evaluation.exec answer context (v.test d) w₁).2.counters :=
      (test_composed d).growTo w₁
    rw [show Evaluation.exec answer context (v.test d) w₁ = _ from ht] at grown
    exact Int.le_trans counted grown.lookups

/-- A visit is entered with at least one lookup more than the one that leads to it, and within the ceiling. -/
theorem lookups_of_enters (h : v.Enters answer context v') :
    v.world.counters.lookups + 1 ≤ v'.world.counters.lookups ∧
      v'.world.counters.lookups ≤ context.receiver.limits.lookups := by
  obtain ⟨w, spec, target, searched, entered⟩ : ∃ w spec target, v.world.counters.lookups ≤ w.counters.lookups ∧
      Evaluation.exec answer context (countedTarget v.domain spec) w = (.ok target, v'.world) := by
    rcases h with ⟨found, d, rest, w, hs, -, target, w', he, rfl⟩ | ⟨found, m, w, target, w', hs, -, he, rfl⟩
    · exact ⟨w, _, target, lookups_le_of_searches hs, he⟩
    · exact ⟨w, _, target, lookups_le_of_searches hs, he⟩
  obtain ⟨taken, within⟩ := lookups_of_countedTarget entered
  exact ⟨by omega, within⟩

theorem PaidFor.enters {depth : Nat} (hv : PaidFor context depth v) (h : v.Enters answer context v') :
    PaidFor context (depth + 1) v' := by
  obtain ⟨taken, within⟩ := lookups_of_enters h
  have levels := levels_of_enters h
  rw [hv.levels] at levels
  refine ⟨?_, ?_, fun _ => within⟩
  · unfold levelsFrom at levels ⊢
    omega
  · have paid := hv.lookups
    omega

theorem paidFor_of_atDepth {domain : String} {s : σ} {depth : Nat} (h : AtDepth answer context domain s depth v) :
    PaidFor context depth v := by
  induction h with
  | first => exact ⟨rfl, Int.le_refl _, nofun⟩
  | entered _ he ih => exact ih.enters he

theorem PaidFor.depth_le {depth : Nat} (hv : PaidFor context depth v) :
    (depth : Int) ≤ max 0 context.receiver.limits.lookups := by
  rcases Nat.eq_zero_or_pos depth with rfl | pos
  · exact Int.le_max_left ..
  · exact Int.le_trans (Int.le_trans hv.lookups (hv.ceiling pos)) (Int.le_max_right ..)

theorem PaidFor.levels_pos {depth : Nat} (hv : PaidFor context depth v) (hn : 0 ≤ context.receiver.limits.nesting)
    (hl : context.receiver.limits.lookups ≤ context.receiver.limits.nesting) : 0 < v.levels := by
  have few := hv.depth_le
  rw [hv.levels]
  unfold levelsFrom
  omega

/-- If no visit of a check is out of levels, none of them comes to policies that lead too deep. -/
theorem not_isTooDeep_of_atDepth {domain : String} {s : σ}
    (hp : ∀ depth v, AtDepth answer context domain s depth v → 0 < v.levels) {depth : Nat}
    (h : AtDepth answer context domain s depth v) {x : Failure} (hx : (v.exec answer context).1 = .error x) :
    ¬ x.IsTooDeep := by
  intro deep
  obtain ⟨last, reached, out⟩ := exists_tooDeep_of_exec deep hx
  obtain ⟨depth', below⟩ := h.reaches reached
  exact absurd (hp depth' last below) (by omega)

end

end Visit

/-! ### Checks -/

section
variable {answer : Question → σ → Answer × σ} {receiver : Receiver} {ip domain sender helo : String} {context : Context}

/-- A check comes to what its first visit does. In it a policy is entered at a depth only when as many lookups have been
counted, so no chain of includes and redirects is longer than the ceiling for lookups. If that is not above the limit
for nesting, the limit is never run into. -/
theorem nesting_checkHost (hc : Context.ofText receiver ip sender helo = .ok context) (hn : 0 ≤ receiver.limits.nesting)
    (s : σ) :
    ((checkHost receiver ip domain sender helo).run answer s).1 =
      (Outcome.ofResult (((Visit.first context domain s).exec answer context).1,
        ((Visit.first context domain s).exec answer context).2.counters)).verdict ∧
    (∀ depth v, Visit.AtDepth answer context domain s depth v →
      v.levels = levelsFrom receiver.limits depth ∧ (depth : Int) ≤ v.world.counters.lookups ∧
        (depth : Int) ≤ max 0 receiver.limits.lookups) ∧
    (receiver.limits.lookups ≤ receiver.limits.nesting → ∀ depth v, Visit.AtDepth answer context domain s depth v →
      ∀ limit name, (v.exec answer context).1 ≠ .error (.policy (.tooDeep limit name))) := by
  obtain ⟨-, rfl⟩ := Context.ofText_ok hc
  refine ⟨run_checkHost_eq_exec hc, fun depth v h => ?_, fun hl depth v h limit name hx => ?_⟩
  · have paid := Visit.paidFor_of_atDepth h
    exact ⟨paid.levels, paid.lookups, paid.depth_le⟩
  · refine Visit.not_isTooDeep_of_atDepth (fun depth v h => ?_) h hx ⟨limit, name, rfl⟩
    exact (Visit.paidFor_of_atDepth h).levels_pos hn hl

end

/-- A zone with a policy that goes on with itself. -/
def selfRedirectZone : Zone := [("example.com", [("TXT", .fixed (.ok [.text "v=spf1 redirect=example.com"]))])]

/-- A context for that zone. -/
def selfRedirectContext : Context := ⟨{ clock := .whole 0 }, .v4 0xC0000205, "user", "example.com", ""⟩

theorem nesting_selfRedirectZone :
    Context.ofText { clock := .whole 0 } "192.0.2.5" "user@example.com" "" = .ok selfRedirectContext ∧
      ∃ v, Visit.AtDepth (Client.ofZone selfRedirectZone).answers selfRedirectContext "example.com" .unasked 1 v ∧
        1 ≤ v.world.counters.lookups ∧ ∀ limit name,
          (v.exec (Client.ofZone selfRedirectZone).answers selfRedirectContext).1 ≠
            .error (.policy (.tooDeep limit name)) := by
  have hc : Context.ofText { clock := .whole 0 } "192.0.2.5" "user@example.com" "" = .ok selfRedirectContext := by
    decide
  have opened : (exec (Client.ofZone selfRedirectZone).answers selfRedirectContext (policyTerms "example.com")
      (.fresh .unasked)).1 = .ok [.modifier ⟨"redirect", "example.com", "redirect=example.com"⟩] := by decide
  have found : ∀ w : World ClientState, w.counters = {} → (exec (Client.ofZone selfRedirectZone).answers
      selfRedirectContext (countedTarget "example.com" "example.com") w).1 = .ok "example.com" := by
    rintro ⟨_, s⟩ rfl
    rfl
  obtain ⟨v, entered⟩ : ∃ v, Visit.Enters (Client.ofZone selfRedirectZone).answers selfRedirectContext
      (Visit.first selfRedirectContext "example.com" .unasked) v :=
    ⟨_, .inr ⟨_, _, _, _, _, ⟨_, _, ⟨by decide, Prod.ext opened rfl⟩, rfl, .single (.modifier ..)⟩, rfl,
      Prod.ext (found _ rfl) rfl, rfl⟩⟩
  have below : Visit.AtDepth (Client.ofZone selfRedirectZone).answers selfRedirectContext "example.com" .unasked 1 v :=
    .entered .first entered
  obtain ⟨-, paid, shallow⟩ := @nesting_checkHost _ (Client.ofZone selfRedirectZone).answers _ _ "example.com" _ _ _
    hc (by decide) .unasked
  exact ⟨hc, v, below, (paid 1 v below).2.1, shallow (by decide) 1 v below⟩

end SenderPolicy
