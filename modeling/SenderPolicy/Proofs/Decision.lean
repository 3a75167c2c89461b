import SenderPolicy.Proofs.Visit

/-! How a decision comes about. Redirects lead from visit to visit until the record of one decides: its first
matching directive, or neutral if it has none and no redirect. An include matches if and only if the visit to
which it leads comes to a pass by the same rules, so a pass can be followed back to a directive whose own test
has matched. -/

namespace SenderPolicy

open Dns Evaluation Relation

variable {σ : Type}

/-- What it means for the result that a directive with a qualifier matches. -/
def Qualifier.meanings : List (Qualifier × Result) :=
  [(plus, .pass), (minus, .fail), (tilde, .softfail), (question, .neutral)]

theorem Qualifier.mem_meanings_iff {q : Qualifier} {r : Result} : (q, r) ∈ meanings ↔ q.result? = some r := by
  cases q <;> simp [meanings, result?, eq_comm]

namespace Visit

section
variable (answer : Question → σ → Answer × σ) (context : Context) (v : Visit σ)

/-- The first directive that matches in the record of a visit. -/
def Matches (d : Directive) : Prop :=
  ∃ found rest w w', v.Searches answer context found (.directive d :: rest) w ∧ v.Tests answer context d w true w'

/-- The record of a visit decides by itself. -/
inductive Decides : Result → Prop
  | directive {d : Directive} {r : Result} (h : v.Matches answer context d) (hr : (d.qualifier, r) ∈ Qualifier.meanings) :
      Decides r
  | default {found : Modifiers} {w : World σ} (h : v.Searches answer context found [] w)
      (hr : found.redirect = none) : Decides .neutral

/-- At the end of a chain of redirects, a record decides. -/
def Concludes (r : Result) : Prop :=
  ∃ last, ReflTransGen (Redirects answer context) v last ∧ last.Decides answer context r

/-- A pass comes from another visit: by the redirect, or by an include with a plus that is the first directive
to match. -/
def PassesBy (v' : Visit σ) : Prop :=
  v.Redirects answer context v' ∨
    ∃ found d rest w w' verdict, v.Searches answer context found (.directive d :: rest) w ∧
      v.Tests answer context d w true w' ∧ d.qualifier = .plus ∧ v.Includes answer context d w v' ∧
      v'.exec answer context = (.ok verdict, w') ∧ verdict.result = .pass

end

section
variable {answer : Question → σ → Answer × σ} {context : Context} {v : Visit σ} {verdict : Verdict} {w w' : World σ}

/-- The qualifier of a directive that matches is one of the four, and decides. -/
theorem exec_directiveVerdict_ok {d : Directive} {exp : Option Modifier} {domain : String}
    (h : Evaluation.exec answer context (directiveVerdict d exp domain) w = (.ok verdict, w')) :
    (d.qualifier, verdict.result) ∈ Qualifier.meanings := by
  rw [Qualifier.mem_meanings_iff]
  unfold directiveVerdict at h
  rw [exec_read_bind] at h
  cases hq : d.qualifier with
  | minus =>
    rw [hq] at h
    cases exp with
    | none =>
      cases h
      rfl
    | some m =>
      obtain ⟨text, w₁, -, h⟩ := exec_bind_ok_iff.mp h
      cases h
      rfl
  | unknown sign =>
    rw [hq] at h
    cases h
  | _ =>
    rw [hq] at h
    cases h
    rfl

/-- A visit that comes to a verdict decides by itself, or its redirect leads to a visit that comes to the
same verdict. -/
theorem decides_or_redirects (h : v.exec answer context = (.ok verdict, w)) :
    v.Decides answer context verdict.result ∨
      ∃ v', v.Redirects answer context v' ∧ v'.exec answer context = (.ok verdict, w) := by
  cases settles_of_exec h with
  | byDefault hs hm hv =>
    have neutral : verdict.result = .neutral := by rcases hv with rfl | rfl <;> rfl
    exact .inl (neutral ▸ .default hs hm)
  | byMatch hs ht hv => exact .inl (.directive ⟨_, _, _, _, hs, ht⟩ (exec_directiveVerdict_ok hv))
  | byRedirect hr hv => exact .inr ⟨_, hr, hv⟩

/-! ### Where decisions come from -/

/-- Redirects lead from a visit that comes to a verdict to a record that decides so. -/
theorem concludes_of_exec (h : v.exec answer context = (.ok verdict, w)) :
    v.Concludes answer context verdict.result :=
  exists_last_of_leads Redirects.enters (fun _ => decides_or_redirects) h

/-- An include matches if and only if its target passes by the same rules. -/
theorem tests_incl_iff_concludes {d : Directive} (hd : d.mechanism = .incl) {matched : Bool} :
    v.Tests answer context d w matched w' ↔
      ∃ v' verdict', v.Includes answer context d w v' ∧ v'.exec answer context = (.ok verdict', w') ∧
        v'.Concludes answer context verdict'.result ∧ matched = (verdict'.result == .pass) := by
  rw [tests_incl_iff hd]
  constructor
  · rintro ⟨v', hi, verdict', he, rfl⟩
    exact ⟨v', verdict', hi, he, concludes_of_exec he, rfl⟩
  · rintro ⟨v', verdict', hi, he, -, rfl⟩
    exact ⟨v', hi, verdict', he, rfl⟩

/-- The visit passes by a directive with a plus that is no include and whose own test has matched. -/
def PassesAlone (answer : Question → σ → Answer × σ) (context : Context) (v : Visit σ) : Prop :=
  ∃ found d rest w w', v.Searches answer context found (.directive d :: rest) w ∧
    v.Tests answer context d w true w' ∧ d.qualifier = .plus ∧ d.mechanism ≠ .incl

theorem PassesBy.enters {v' : Visit σ} (h : v.PassesBy answer context v') : v.Enters answer context v' := by
  rcases h with hr | ⟨found, d, rest, w, -, -, hs, -, -, included, -⟩
  · exact hr.enters
  · exact .inl ⟨found, d, rest, w, hs, included⟩

theorem passesAlone_or_passesBy (h : v.exec answer context = (.ok verdict, w)) (hp : verdict.result = .pass) :
    v.PassesAlone answer context ∨
      ∃ v', v.PassesBy answer context v' ∧
        ∃ verdict' w', v'.exec answer context = (.ok verdict', w') ∧ verdict'.result = .pass := by
  rcases decides_or_redirects h with hd | ⟨v', hr, h'⟩
  · rw [hp] at hd
    cases hd with
    | @directive d _ hm hq =>
      have plus : d.qualifier = .plus := by
        rw [Qualifier.mem_meanings_iff] at hq
        cases hd : d.qualifier <;> simp [hd, Qualifier.result?] at hq
        rfl
      obtain ⟨found, rest, w₁, w₂, hs, ht⟩ := hm
      -- only an include owes its match to another visit
      by_cases hi : d.mechanism = .incl
      · obtain ⟨v', included, verdict', he, hpass⟩ := (tests_incl_iff hi).mp ht
        have passed : verdict'.result = .pass := by simpa using hpass.symm
        exact .inr ⟨v', .inr ⟨found, d, rest, w₁, w₂, verdict', hs, ht, plus, included, he, passed⟩,
          verdict', w₂, he, passed⟩
      · exact .inl ⟨found, d, rest, w₁, w₂, hs, ht, plus, hi⟩
  · exact .inr ⟨v', .inl hr, verdict, w, h', hp⟩

/-- Every pass can be followed back to a directive that is no include. -/
theorem passesAlone_of_pass (h : v.exec answer context = (.ok verdict, w)) (hp : verdict.result = .pass) :
    ∃ origin, ReflTransGen (PassesBy answer context) v origin ∧ origin.PassesAlone answer context := by
  refine exists_last_of_leads PassesBy.enters (P := fun v =>
    ∃ verdict w, v.exec answer context = (.ok verdict, w) ∧ verdict.result = .pass) ?_ ⟨verdict, w, h, hp⟩
  rintro v ⟨verdict, w, h, hp⟩
  exact passesAlone_or_passesBy h hp

end

end Visit

/-! ### Decisions of checks -/

/-- A decision is the meaning of the first directive that matches in the record at the end of the redirects,
or neutral by default. Includes match by the passes of their targets, whose results follow the same rules, and
a pass can be followed back to a directive with a plus that is no include. -/
theorem concludes_of_checkHost {client : Client} {state : ClientState} {receiver : Receiver}
    {ip domain sender helo : String} {verdict : Verdict}
    (h : (client.run (checkHost receiver ip domain sender helo) state).1 = .ok verdict)
    (hd : verdict.result ∈ Result.decisions) :
    ∃ context, Context.ofText receiver ip sender helo = .ok context ∧
      (Visit.first context domain state).Concludes client.answers context verdict.result ∧
      (∀ (v : Visit ClientState) (d : Directive) (w w' : World ClientState) (matched : Bool), d.mechanism = .incl →
        (v.Tests client.answers context d w matched w' ↔
          ∃ v' verdict', v.Includes client.answers context d w v' ∧
            v'.exec client.answers context = (.ok verdict', w') ∧
            v'.Concludes client.answers context verdict'.result ∧ matched = (verdict'.result == .pass))) ∧
      (verdict.result = .pass →
        ∃ origin, ReflTransGen (Visit.PassesBy client.answers context) (Visit.first context domain state) origin ∧
          origin.PassesAlone client.answers context) := by
  obtain ⟨context, hc, hv⟩ := context_of_checkHost h
  obtain ⟨w, he⟩ := exec_first_of_decision hv hd
  exact ⟨context, hc, Visit.concludes_of_exec he, fun _ _ _ _ _ hi => Visit.tests_incl_iff_concludes hi,
    Visit.passesAlone_of_pass he⟩

/-- A zone in which a redirect leads to a pass by an include, behind an include whose target fails. -/
def redirectingZone : Zone :=
  [("example.com", [("TXT", .fixed (.ok [.text "v=spf1 include:no.example.com redirect=next.example.com"]))]),
   ("no.example.com", [("TXT", .fixed (.ok [.text "v=spf1 -all"]))]),
   ("next.example.com", [("TXT", .fixed (.ok [.text "v=spf1 include:yes.example.com ~all"]))]),
   ("yes.example.com", [("TXT", .fixed (.ok [.text "v=spf1 ip4:192.0.2.0/24 -all"]))])]

theorem checkHost_redirectingZone :
    ((Client.ofZone redirectingZone).run
      (checkHost { clock := .whole 0 } "192.0.2.5" "example.com" "user@example.com" "") ClientState.unasked).1 =
      .ok ⟨.pass, "Allowed sender IP: 192.0.2.5"⟩ := by
  decide +kernel

theorem concludes_redirectingZone :
    ∃ context, Context.ofText { clock := .whole 0 } "192.0.2.5" "user@example.com" "" = .ok context ∧
      (Visit.first context "example.com" ClientState.unasked).Concludes (Client.ofZone redirectingZone).answers context
        .pass := by
  obtain ⟨context, hc, hv, -⟩ := concludes_of_checkHost checkHost_redirectingZone (by decide)
  exact ⟨context, hc, hv⟩

end SenderPolicy
