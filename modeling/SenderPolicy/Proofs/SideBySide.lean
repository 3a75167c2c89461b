import SenderPolicy.Proofs.Pairing
import SenderPolicy.Proofs.RecordOrder

/-! Two checks side by side. If the names that they hold are paired and they get the same answers, whose texts may stand in
both, they ask the same questions, count the same and come to the same result: each way to build an inquiry or an evaluation
keeps that. -/

namespace SenderPolicy

open Dns Evaluation Text

variable {σ τ α β γ δ ε : Type}

/-! ### Two runs -/

/-- Two runs: who answers, in which states they may be at the same time, and what the checks know. -/
structure Runs (σ τ : Type) where
  answer : Question → σ → Answer × σ
  answer' : Question → τ → Answer × τ
  related : σ → τ → Prop
  context : Context
  context' : Context

/-- Questions of one type and purpose under names that are equal or paired. -/
structure Pairing.Asks (P : Pairing) (q q' : Question) : Prop where
  type : q.type = q'.type
  purpose : q.purpose = q'.purpose
  name : q.name = q'.name ∨ P.Names q.name q'.name

/-- Receivers of one kind. What they tell an explanation is the same if explanations are, and so is their clock if letters
outside explanations stand for it. -/
structure Pairing.Receivers (P : Pairing) (receiver receiver' : Receiver) : Prop where
  limits : receiver.limits = receiver'.limits
  strict : receiver.strict = receiver'.strict
  name : P.Prose receiver.name receiver'.name
  clock : P.explained → receiver.clock.wholeSeconds = receiver'.clock.wholeSeconds
  time : ∀ text, P.letter (.variant text) → receiver.clock.wholeSeconds = receiver'.clock.wholeSeconds

/-- Contexts with paired names and one client. -/
structure Pairing.Contexts (P : Pairing) (context context' : Context) : Prop
    extends P.Receivers context.receiver context'.receiver where
  address : context.address = context'.address
  client : P.explained → P.Spelt context.address.text
  localPart : P.Names context.localPart context'.localPart
  senderDomain : P.Names context.senderDomain context'.senderDomain
  helo : P.Names context.helo context'.helo

/-- The error of a resolver may be told in explanations. -/
def Pairing.Warned (P : Pairing) (e : ResolverError) : Prop := P.explained → P.Spelt (LookupError.ofResolver e).message

namespace Runs

/-- Both runs get the same answers to paired questions, and texts that may stand in both; what they know is paired. -/
structure Paired (X : Runs σ τ) (P : Pairing) : Prop extends P.Contexts X.context X.context' where
  same : ∀ q q' s s', q.Standard → P.Asks q q' → X.related s s' → (X.answer q s).1 = (X.answer' q' s').1
  keep : ∀ q q' s s', q.Standard → P.Asks q q' → X.related s s' → X.related (X.answer q s).2 (X.answer' q' s').2
  suits : ∀ q s s' texts, q.Standard → X.related s s' → (X.answer q s).1 = .ok texts → ∀ text ∈ texts, P.Suits q.type text
  warned : ∀ q s s' e, q.Standard → X.related s s' → (X.answer q s).1 = .error e → P.Warned e

/-- The runs with all questions asked for one purpose. -/
def askedFor (X : Runs σ τ) (purpose : Purpose) : Runs σ τ :=
  { X with answer := fun q => X.answer { q with purpose }, answer' := fun q => X.answer' { q with purpose } }

variable {X : Runs σ τ} {P : Pairing}

theorem Paired.askedFor (hX : X.Paired P) (purpose : Purpose) : (X.askedFor purpose).Paired P :=
  { hX with
    same := fun q q' s s' hq hqq => hX.same { q with purpose } { q' with purpose } s s' hq ⟨hqq.type, rfl, hqq.name⟩
    keep := fun q q' s s' hq hqq => hX.keep { q with purpose } { q' with purpose } s s' hq ⟨hqq.type, rfl, hqq.name⟩
    suits := fun q s s' texts hq => hX.suits { q with purpose } s s' texts hq
    warned := fun q s s' e hq => hX.warned { q with purpose } s s' e hq }

end Runs

namespace Pairing

variable {P : Pairing} {X : Runs σ τ}

/-! ### Inquiries -/

section
variable (X)

/-- From related states, both inquiries come to one value, which has a property, and to related states. -/
def Agree (M : α → Prop) (i i' : Inquiry α) : Prop :=
  ∀ s s', X.related s s' → (i.run X.answer s).1 = (i'.run X.answer' s').1 ∧ M (i.run X.answer s).1 ∧
    X.related (i.run X.answer s).2 (i'.run X.answer' s').2

end

theorem agree_done {M : α → Prop} {a : α} (h : M a) : Agree X M (.done a) (.done a) := fun _ _ hs => ⟨rfl, h, hs⟩

theorem Agree.bind {M : α → Prop} {N : β → Prop} {i i' : Inquiry α} {f f' : α → Inquiry β} (h : Agree X M i i')
    (hf : ∀ a, M a → Agree X N (f a) (f' a)) : Agree X N (i.bind f) (i'.bind f') := by
  intro s s' hs
  obtain ⟨same, held, kept⟩ := h s s' hs
  rw [Inquiry.run_bind, Inquiry.run_bind, ← same]
  exact hf _ held _ _ kept

theorem agree_bind {M : α → Prop} {N : Except ε β → Prop} {e e' : ExceptT ε Inquiry α} {f f' : α → ExceptT ε Inquiry β}
    (h : Agree X (fun r => ∀ a, r = .ok a → M a) e.run e'.run) (hf : ∀ a, M a → Agree X N (f a).run (f' a).run)
    (he : ∀ x, N (.error x)) : Agree X N (e >>= f).run (e' >>= f').run :=
  h.bind fun r hr => by
    cases r with
    | error x => exact agree_done (he x)
    | ok a => exact hf a (hr a rfl)

/-- The message of an error may stand in explanations. -/
def Reports (P : Pairing) (e : LookupError) : Prop := P.explained → P.Spelt e.message

/-- What a lookup has found may stand in both checks, and so may the message of its error. -/
def Found (P : Pairing) : Except LookupError (List String) → Prop
  | .ok texts => ∀ text ∈ texts, P.Spelt text
  | .error e => P.Reports e

section
variable (hX : X.Paired P)
include hX

theorem records_agree {q q' : Question} (hq : q.Standard) (hqq : P.Asks q q') :
    Agree X P.Found (records q).run (records q').run := by
  intro s s' hs
  rw [run_records, run_records, ← hX.same q q' s s' hq hqq hs]
  refine ⟨rfl, ?_, hX.keep q q' s s' hq hqq hs⟩
  cases hr : (X.answer q s).1 with
  | ok texts => exact fun text hm => (hX.suits q s s' texts hq hs hr text hm).spelt
  | error e =>
    have warned : P.Reports (.ofResolver e) := hX.warned q s s' e hq hs hr
    cases e with
    | noAnswer => exact fun _ => nofun
    | _ => exact warned

theorem addresses_agree {name name' : String} (hn : name = name' ∨ P.Names name name') (purpose : Purpose) (family : Family) :
    Agree X P.Found (addresses purpose name [family]).run (addresses purpose name' [family]).run := by
  rw [addresses_run, addresses_run]
  have standard : Question.Standard ⟨name, addressType family, purpose⟩ := addressType_ne_other family
  have asks : P.Asks ⟨name, addressType family, purpose⟩ ⟨name', addressType family, purpose⟩ := ⟨rfl, rfl, hn⟩
  refine (records_agree hX standard asks).bind fun r hr => agree_done ?_
  cases r with
  | error e => exact hr
  | ok texts => exact fun text hm => hr text ((sorted_perm textLE texts).mem_iff.mp hm)

theorem pointers_agree (purpose : Purpose) (reverseName : Option String) :
    Agree X (fun r => ∀ names, r = .ok names → ∀ name ∈ names, P.Spelt name) (pointers purpose reverseName).run
      (pointers purpose reverseName).run := by
  cases reverseName with
  | none => exact agree_done fun _ => nofun
  | some name =>
    refine (records_agree hX (q := ⟨name, .ptr, purpose⟩) (fun _ => nofun) ⟨rfl, rfl, .inl rfl⟩).bind fun r hr => ?_
    rcases r with e | found
    · cases e with
      | noSuchDomain =>
        refine agree_done fun names hn => ?_
        cases hn
        exact fun _ => nofun
      | _ => exact agree_done fun _ => nofun
    · refine agree_done fun names hn => ?_
      cases hn
      exact hr

variable (hP : P.Lawful)
include hP

theorem confirmed_agree (purpose : Purpose) (address : Address) : ∀ names, (∀ name ∈ names, P.Spelt name) →
    Agree X (fun r => ∀ names, r = .ok names → ∀ name ∈ names, P.Spelt name) (confirmed purpose address names).run
      (confirmed purpose address names).run
  | [], _ => agree_done fun names hn => by
    cases hn
    exact fun _ => nofun
  | name :: rest, hs => by
    rw [List.forall_mem_cons] at hs
    have later := confirmed_agree purpose address rest hs.2
    refine agree_bind (M := fun _ => True) ?_ (fun r _ => ?_) fun _ _ => nofun
    · exact (addresses_agree hX (.inl rfl) purpose address.family).bind fun r _ => agree_done fun _ _ => trivial
    · cases r with
      | error e => exact later
      | ok found =>
        refine agree_bind (M := fun _ => True) (agree_done fun _ _ => trivial) (fun matched _ => ?_) fun _ _ => nofun
        refine agree_bind later (fun names hn => agree_done fun all ha => ?_) fun _ _ => nofun
        cases ha
        split
        · exact List.forall_mem_cons.mpr ⟨hP.spelt_lower name hs.1, hn⟩
        · exact hn

theorem confirmedNames_agree (purpose : Purpose) (limit : Int) (address : Address) :
    Agree X (fun r => ∀ names, r = .ok names → ∀ name ∈ names, P.Spelt name) (confirmedNames purpose limit address).run
      (confirmedNames purpose limit address).run := by
  have first : ∀ names : List String, (∀ name ∈ names, P.Spelt name) → ∀ name ∈ firstOf limit names, P.Spelt name := by
    intro names hn name hm
    unfold firstOf at hm
    split at hm <;> exact hn name (List.mem_of_mem_take hm)
  refine agree_bind (M := fun r => ∀ names, r = .ok names → ∀ name ∈ names, P.Spelt name) ?_ (fun r hr => ?_) fun _ _ => nofun
  · refine (pointers_agree hX purpose _).bind fun r hr => agree_done fun r' hr' => ?_
    cases hr'
    exact hr
  · cases r with
    | error e => exact agree_done fun _ => nofun
    | ok names => exact confirmed_agree hX hP purpose address _ (first names (hr names rfl))

end

/-! ### Evaluations -/

section
variable (P) (X)

/-- From related worlds, both evaluations come to outcomes with values in a relation, or with failures that come to the same,
and to related worlds. -/
def Sides (Q : α → β → Prop) (e : Evaluation α) (e' : Evaluation β) : Prop :=
  ∀ w w', World.Alike X.related w w' → P.Outcomes Q (exec X.answer X.context e w).1 (exec X.answer' X.context' e' w').1 ∧
    World.Alike X.related (exec X.answer X.context e w).2 (exec X.answer' X.context' e' w').2

end

variable {Q : α → β → Prop} {S : γ → δ → Prop}

theorem sides_pure {a : α} {b : β} (h : Q a b) : Sides P X Q (pure a) (pure b) := fun _ _ hw => ⟨.ok h, hw⟩

theorem sides_throw {x x' : Failure} (h : P.Failures x x') : Sides P X Q (throw x) (throw x') := fun _ _ hw => ⟨.error h, hw⟩

theorem sides_throwPolicy {e e' : PolicyError} (h : P.Errors e e') : Sides P X Q (throwPolicy e) (throwPolicy e') :=
  sides_throw (.policy h)

theorem sides_ofExcept {r : Except Failure α} {r' : Except Failure β} (h : P.Outcomes Q r r') :
    Sides P X Q (Evaluation.ofExcept r) (Evaluation.ofExcept r') := fun w w' hw => by
  rw [exec_ofExcept, exec_ofExcept]
  exact ⟨h, hw⟩

theorem Sides.reading {f : Context → Evaluation α} {f' : Context → Evaluation β} (h : Sides P X Q (f X.context) (f' X.context')) :
    Sides P X Q (read >>= f) (read >>= f') := h

theorem Sides.mono {V : α → β → Prop} {e : Evaluation α} {e' : Evaluation β} (h : Sides P X Q e e')
    (hQ : ∀ a b, Q a b → V a b) : Sides P X V e e' := fun w w' hw => ⟨(h w w' hw).1.mono hQ, (h w w' hw).2⟩

theorem Sides.bind {e : Evaluation α} {e' : Evaluation β} {f : α → Evaluation γ} {f' : β → Evaluation δ} (h : Sides P X Q e e')
    (hf : ∀ a b, Q a b → Sides P X S (f a) (f' b)) : Sides P X S (e >>= f) (e' >>= f') := by
  intro w w' hw
  obtain ⟨outcome, kept⟩ := h w w' hw
  rcases he : exec X.answer X.context e w with ⟨r, w₁⟩
  rcases he' : exec X.answer' X.context' e' w' with ⟨r', w₁'⟩
  rw [he, he'] at outcome kept
  cases outcome with
  | ok hab =>
    rw [exec_bind_of_ok he, exec_bind_of_ok he']
    exact hf _ _ hab _ _ kept
  | error hx =>
    rw [exec_bind_of_error he, exec_bind_of_error he']
    exact ⟨.error hx, kept⟩

theorem Sides.map {e : Evaluation α} {e' : Evaluation β} {f : α → γ} {f' : β → δ} (h : Sides P X Q e e')
    (hf : ∀ a b, Q a b → S (f a) (f' b)) : Sides P X S (f <$> e) (f' <$> e') := by
  rw [← bind_pure_comp, ← bind_pure_comp]
  exact h.bind fun a b hab => sides_pure (hf a b hab)

theorem sides_ofInquiry {M : α → Prop} {i i' : Inquiry α} (h : Agree X M i i') :
    Sides P X (fun a b => a = b ∧ M a) (ofInquiry i) (ofInquiry i') := fun w w' hw => by
  obtain ⟨same, held, kept⟩ := h w.state w'.state hw.state
  rw [exec_ofInquiry, exec_ofInquiry]
  exact ⟨.ok ⟨same, held⟩, hw.counters, kept⟩

theorem Sides.uncounted {e : Evaluation α} {e' : Evaluation β} (h : Sides P X Q e e') :
    Sides P X Q (uncounted e) (Evaluation.uncounted e') := fun w w' hw => by
  rw [exec_uncounted, exec_uncounted]
  exact ⟨(h w w' hw).1, hw.counters, (h w w' hw).2.state⟩

theorem Sides.askedFor {purpose : Purpose} {e : Evaluation α} {e' : Evaluation β} (h : Sides P (X.askedFor purpose) Q e e') :
    Sides P X Q (askedFor purpose e) (Evaluation.askedFor purpose e') := fun w w' hw => by
  rw [exec_askedFor, exec_askedFor]
  exact h w w' hw

/-- Of two errors with the same result, both say that there is no policy, or none does. -/
theorem Outcomes.entered {V : Verdict → Verdict → Prop} {r r' : Except Failure Verdict} (h : P.Outcomes V r r')
    (reference : Reference) {target target' : String} (ht : P.Prose target target') :
    P.Outcomes V (Evaluation.entered reference target r) (Evaluation.entered reference target' r') := by
  cases h with
  | ok h => exact .ok h
  | error h =>
    cases h with
    | fault f => exact .error (.fault f)
    | @policy e e' h =>
      have result := h.result
      cases e with
      | noPolicy cause =>
        cases e' with
        | noPolicy cause' =>
          refine .error (.policy ⟨rfl, fun hx => ?_⟩)
          obtain ⟨same, spelt⟩ := h.same hx
          obtain ⟨rfl, shown⟩ := ht hx
          cases same
          exact ⟨rfl, shown, spelt⟩
        | _ => cases result
      | _ =>
        cases e' with
        | noPolicy cause' => cases result
        | _ => exact .error (.policy h)

theorem Sides.entering {V : Verdict → Verdict → Prop} {policy policy' : Evaluation Verdict} (h : Sides P X V policy policy')
    (reference : Reference) {target target' : String} (ht : P.Prose target target') :
    Sides P X V (entering reference target policy) (Evaluation.entering reference target' policy') := fun w w' hw => by
  obtain ⟨outcome, kept⟩ := h w w' hw
  rw [exec_entering, exec_entering]
  exact ⟨outcome.entered reference ht, kept⟩

/-- What becomes of explanations: if they are the same, there is one in both checks or in none. -/
def Explanations (P : Pairing) (text text' : Option String) : Prop := P.explained → text = text' ∧ ∀ s ∈ text, P.Spelt s

theorem Outcomes.excusing {r r' : Except Failure (Option String)} (h : P.Outcomes P.Explanations r r') :
    P.Outcomes P.Explanations (Evaluation.excusing r) (Evaluation.excusing r') := by
  cases h with
  | ok h => exact .ok h
  | error h =>
    cases h with
    | fault f => exact .error (.fault f)
    | policy h => exact .ok fun _ => ⟨rfl, fun _ => nofun⟩

theorem Sides.excused {e e' : Evaluation (Option String)} (h : Sides P X P.Explanations e e') :
    Sides P X P.Explanations (tryCatch e excused) (tryCatch e' Evaluation.excused) := fun w w' hw => by
  obtain ⟨outcome, kept⟩ := h w w' hw
  rw [exec_excused, exec_excused]
  exact ⟨outcome.excusing, kept⟩

section
variable (hX : X.Paired P)
include hX

theorem sides_countLookup : Sides P X Eq countLookup countLookup := fun w w' hw => by
  have counters : w.lookedUp.counters = w'.lookedUp.counters := by
    unfold World.lookedUp
    rw [hw.counters]
  rw [exec_countLookup, exec_countLookup, counters, hX.limits]
  refine ⟨?_, counters, hw.state⟩
  dsimp only
  split
  · exact .error (.policy ⟨rfl, fun _ => ⟨rfl, trivial⟩⟩)
  · exact .ok rfl

theorem sides_countVoidLookup : Sides P X Eq countVoidLookup countVoidLookup := fun w w' hw => by
  have counters : w.foundNothing.counters = w'.foundNothing.counters := by
    unfold World.foundNothing
    rw [hw.counters]
  rw [exec_countVoidLookup, exec_countVoidLookup, counters, hX.limits]
  refine ⟨?_, counters, hw.state⟩
  dsimp only
  split
  · exact .error (.policy ⟨rfl, fun _ => ⟨rfl, trivial⟩⟩)
  · exact .ok rfl

end

end Pairing

end SenderPolicy
