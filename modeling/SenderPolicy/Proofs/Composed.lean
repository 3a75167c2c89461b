import SenderPolicy.Proofs.Execution

/-! Evaluations put together from the elementary ones. That the evaluation of a policy is put together so,
with at most an explanation at its end, is shown once (`policyOf_concluding`); what the elementary ones keep
follows for it then by one induction: which questions it asks, and that counters never go back. -/

namespace SenderPolicy

open Dns

variable {σ α β : Type} {P Q : Question → Prop}

/-! ### Questions of inquiries -/

namespace Dns

/-- The question is for one of the five types of records that checks use. -/
def Question.Standard (q : Question) : Prop := ∀ name, q.type ≠ .other name

namespace Inquiry

/-- All questions that an inquiry may ask have a property. -/
def AsksOnly (P : Question → Prop) : Inquiry α → Prop
  | done _ => True
  | ask q next => P q ∧ ∀ reply, (next reply).AsksOnly P

theorem asksOnly_question {q : Question} (h : P q) : (question q).AsksOnly P := ⟨h, fun _ => trivial⟩

theorem AsksOnly.bind {i : Inquiry α} {f : α → Inquiry β} (h : i.AsksOnly P) (hf : ∀ a, (f a).AsksOnly P) :
    (i.bind f).AsksOnly P := by
  induction i with
  | done a => exact hf a
  | ask q next ih => exact ⟨h.1, fun reply => ih reply (h.2 reply)⟩

theorem AsksOnly.mono {i : Inquiry α} (h : i.AsksOnly P) (hPQ : ∀ q, P q → Q q) : i.AsksOnly Q := by
  induction i with
  | done a => trivial
  | ask q next ih => exact ⟨hPQ q h.1, fun reply => ih reply (h.2 reply)⟩

/-- What every answer keeps of the state, a run of an inquiry keeps. -/
theorem AsksOnly.run_inv {answer : Question → σ → Answer × σ} {I : σ → Prop} {i : Inquiry α}
    (h : i.AsksOnly P) (keep : ∀ q s, P q → I s → I (answer q s).2) {s : σ} (hs : I s) :
    I (i.run answer s).2 := by
  induction i generalizing s with
  | done a => exact hs
  | ask q next ih => exact ih _ (h.2 _) (keep q s h.1 hs)

end Inquiry

/-! ### Questions of lookups -/

section
variable {purpose : Purpose}

theorem records_asksOnly {q : Question} (h : P q) : (records q).run.AsksOnly P :=
  (Inquiry.asksOnly_question h).bind fun reply => by split <;> trivial

theorem texts_asksOnly {name : String} (h : P ⟨name, .txt, purpose⟩) : (texts purpose name).run.AsksOnly P :=
  records_asksOnly h

theorem bind_asksOnly {ε : Type} {e : ExceptT ε Inquiry α} {f : α → ExceptT ε Inquiry β}
    (h : e.run.AsksOnly P) (hf : ∀ a, (f a).run.AsksOnly P) : (e >>= f).run.AsksOnly P :=
  h.bind fun r => by
    cases r with
    | error x => trivial
    | ok a => exact hf a

theorem lift_asksOnly {ε : Type} {i : Inquiry α} (h : i.AsksOnly P) :
    (ExceptT.lift i : ExceptT ε Inquiry α).run.AsksOnly P :=
  h.bind fun _ => trivial

theorem addresses_asksOnly {name : String} {family : Family} (h : P ⟨name, addressType family, purpose⟩) :
    (addresses purpose name [family]).run.AsksOnly P := by
  refine bind_asksOnly ?_ fun found => trivial
  rw [List.mapM_cons]
  exact bind_asksOnly (records_asksOnly h) fun _ => trivial

theorem pointers_asksOnly {reverseName : Option String} (h : ∀ name, P ⟨name, .ptr, purpose⟩) :
    (pointers purpose reverseName).run.AsksOnly P := by
  unfold pointers
  cases reverseName with
  | none => trivial
  | some name =>
    refine (records_asksOnly (h name)).bind fun r => ?_
    rcases r with e | found
    · cases e <;> trivial
    · trivial

theorem confirmed_asksOnly {address : Address} (h : ∀ name, P ⟨name, addressType address.family, purpose⟩) :
    ∀ names, (confirmed purpose address names).run.AsksOnly P
  | [] => trivial
  | name :: rest => by
    have ih := confirmed_asksOnly h rest
    refine bind_asksOnly (lift_asksOnly (addresses_asksOnly (h name))) fun r => ?_
    cases r with
    | error e => exact ih
    | ok found => exact bind_asksOnly trivial fun matched => bind_asksOnly ih fun names => trivial

theorem confirmedNames_asksOnly {limit : Int} {address : Address} (hp : ∀ name, P ⟨name, .ptr, purpose⟩)
    (ha : ∀ name, P ⟨name, addressType address.family, purpose⟩) :
    (confirmedNames purpose limit address).run.AsksOnly P := by
  refine bind_asksOnly (lift_asksOnly (pointers_asksOnly hp)) fun r => ?_
  cases r with
  | error e => trivial
  | ok names => exact confirmed_asksOnly ha _

theorem query_asksOnly {strict : Bool} {domain : String} (h : ∀ name, P ⟨name, .txt, purpose⟩) :
    (Record.query purpose strict domain).run.AsksOnly P :=
  (texts_asksOnly (h _)).bind fun r => by cases r <;> trivial

end

/-- The question is not asked to test a mechanism. -/
structure Question.Aside (q : Question) : Prop where
  standard : q.Standard
  purpose : q.purpose ≠ .mechanism

theorem addressType_ne_other (family : Family) (name : String) : addressType family ≠ .other name := by
  cases family <;> simp [addressType]

/-- The addresses of one family are the records of one question, sorted. -/
theorem addresses_run (purpose : Purpose) (name : String) (family : Family) :
    (addresses purpose name [family]).run =
      (records ⟨name, addressType family, purpose⟩).run.bind fun r => .done (r.map (sorted textLE)) := by
  show (([family].mapM fun family => records ⟨name, addressType family, purpose⟩) >>= fun found =>
    pure (sorted textLE found.flatten) : Lookup _).run = _
  rw [List.mapM_cons, List.mapM_nil]
  simp only [pure_bind, bind_assoc, ExceptT.run_bind]
  refine congrArg (Inquiry.bind _) (funext fun r => ?_)
  cases r with
  | error e => rfl
  | ok found =>
    show Inquiry.done (Except.ok (sorted textLE [found].flatten)) = _
    rw [List.flatten_singleton]
    rfl

end Dns

/-! ### Questions of evaluations -/

namespace Evaluation

/-- Evaluations are told apart by their inquiries. -/
theorem ext_inquiry {e e' : Evaluation α} (h : ∀ context counters, e.inquiry context counters = e'.inquiry context counters) :
    e = e' :=
  funext fun context => funext fun counters => h context counters

/-- A function of the value of an inquiry may as well be applied behind it. -/
theorem ofInquiry_bind (i : Inquiry α) (g : α → β) {γ : Type} (f : β → Evaluation γ) :
    (ofInquiry (i.bind fun a => .done (g a)) >>= f) = ofInquiry i >>= fun a => f (g a) :=
  ext_inquiry fun context counters => by
    simp only [inquiry_bind, inquiry_ofInquiry, Inquiry.bind_assoc]
    rfl

/-- All questions that an evaluation may ask have a property. -/
def AsksOnly (P : Question → Prop) (e : Evaluation α) : Prop :=
  ∀ context counters, (e.inquiry context counters).AsksOnly P

namespace AsksOnly

theorem pure (a : α) : AsksOnly P (Pure.pure a : Evaluation α) := fun _ _ => trivial

theorem throw (x : Failure) : AsksOnly P (MonadExcept.throw x : Evaluation α) := fun _ _ => trivial

theorem countLookup : AsksOnly P Evaluation.countLookup := fun context counters => by
  show (Evaluation.inquiry (if _ then _ else _) context _).AsksOnly P
  split <;> trivial

theorem countVoidLookup : AsksOnly P Evaluation.countVoidLookup := fun context counters => by
  show (Evaluation.inquiry (if _ then _ else _) context _).AsksOnly P
  split <;> trivial

theorem ofInquiry {i : Inquiry α} (h : i.AsksOnly P) : AsksOnly P (Evaluation.ofInquiry i) := fun context counters => by
  rw [inquiry_ofInquiry]
  exact h.bind fun _ => trivial

theorem bind {e : Evaluation α} {f : α → Evaluation β} (h : AsksOnly P e) (hf : ∀ a, AsksOnly P (f a)) :
    AsksOnly P (e >>= f) := fun context counters => by
  rw [inquiry_bind]
  refine (h context counters).bind fun r => ?_
  rcases r with ⟨x | a, counters⟩
  · trivial
  · exact hf a context counters

theorem tryCatch {e : Evaluation α} {handle : Failure → Evaluation α} (h : AsksOnly P e)
    (hh : ∀ x, AsksOnly P (handle x)) : AsksOnly P (MonadExcept.tryCatch e handle) := fun context counters => by
  rw [inquiry_tryCatch]
  refine (h context counters).bind fun r => ?_
  rcases r with ⟨x | a, counters⟩
  · exact hh x context counters
  · trivial

theorem uncounted {e : Evaluation α} (h : AsksOnly P e) : AsksOnly P (Evaluation.uncounted e) := fun context counters =>
  (h context counters).bind fun _ => trivial

theorem mono {e : Evaluation α} (h : AsksOnly P e) (hPQ : ∀ q, P q → Q q) : AsksOnly Q e := fun context counters =>
  (h context counters).mono hPQ

theorem askedFor {e : Evaluation α} {purpose : Purpose} (h : AsksOnly (fun q => P { q with purpose }) e) :
    AsksOnly P (Evaluation.askedFor purpose e) := fun context counters => by
  show ((e.inquiry context counters).askedFor purpose).AsksOnly P
  have asked := h context counters
  generalize e.inquiry context counters = i at asked
  induction i with
  | done r => trivial
  | ask q next ih => exact ⟨asked.1, fun reply => ih reply (asked.2 reply)⟩

/-- What every answer keeps of the state, a run keeps. -/
theorem exec_inv {answer : Question → σ → Answer × σ} {context : Context} {I : σ → Prop} {e : Evaluation α}
    (h : AsksOnly P e) (keep : ∀ q s, P q → I s → I (answer q s).2) {w w' : World σ} (hw : I w.state)
    {r : Except Failure α} (he : exec answer context e w = (r, w')) : I w'.state := by
  obtain rfl : _ = w' := congrArg Prod.snd he
  exact (h context w.counters).run_inv keep hw

end AsksOnly

/-! ### Composed evaluations -/

end Evaluation

/-- The context with other ceilings for lookups. -/
def Context.withCeilings (context : Context) (lookups voidLookups : Int) : Context :=
  { context with receiver.limits.lookups := lookups, receiver.limits.voidLookups := voidLookups }

namespace Evaluation

/-- An evaluation put together from the elementary ones. It looks at the ceilings for lookups only in order to
count, and throws every error of a lookup that tests a mechanism other than the lack of the domain. -/
inductive Composed : {α : Type} → Evaluation α → Prop
  | pure {α : Type} (a : α) : Composed (pure a)
  | throw {α : Type} (x : Failure) : Composed (throw x : Evaluation α)
  | reading {α : Type} {f : Context → Evaluation α} (h : ∀ context l v, f (context.withCeilings l v) = f context)
      (hf : ∀ context, Composed (f context)) : Composed (read >>= f)
  | countLookup : Composed countLookup
  | countVoidLookup : Composed countVoidLookup
  | ask {α : Type} {i : Inquiry α} (h : i.AsksOnly Question.Aside) : Composed (ofInquiry i)
  | consult {α : Type} {q : Question} {f : Except LookupError (List String) → Evaluation α} (hq : q.Standard)
      (hf : ∀ r, Composed (f r)) (ht : ∀ e, e ≠ .noSuchDomain → ∃ x, f (.error e) = MonadExcept.throw x) :
      Composed (attempt (records q) >>= f)
  | bind {α β : Type} {e : Evaluation α} {f : α → Evaluation β} (h : Composed e) (hf : ∀ a, Composed (f a)) :
      Composed (e >>= f)
  | entering {reference : Reference} {target : String} {policy : Evaluation Verdict} (h : Composed policy) :
      Composed (entering reference target policy)

/-- A composed evaluation, or if a flag is set one that may end in the explanation of a failure. -/
inductive Concluding : Bool → Evaluation Verdict → Prop
  | composed {explain : Bool} {e : Evaluation Verdict} (h : Composed e) : Concluding explain e
  | reading {explain : Bool} {f : Context → Evaluation Verdict}
      (h : ∀ context l v, f (context.withCeilings l v) = f context) (hf : ∀ context, Concluding explain (f context)) :
      Concluding explain (read >>= f)
  | bind {explain : Bool} {α : Type} {e : Evaluation α} {f : α → Evaluation Verdict} (h : Composed e)
      (hf : ∀ a, Concluding explain (f a)) : Concluding explain (e >>= f)
  | entering {explain : Bool} {reference : Reference} {target : String} {policy : Evaluation Verdict}
      (h : Concluding explain policy) : Concluding explain (entering reference target policy)
  | explained (m : Modifier) (domain : String) (shown : Option String → String) :
      Concluding true (explanation m domain >>= fun text => Pure.pure ⟨.fail, shown text⟩)

theorem entering_asksOnly {reference : Reference} {target : String} {policy : Evaluation Verdict}
    (h : AsksOnly P policy) : AsksOnly P (entering reference target policy) :=
  h.tryCatch fun x => by
    rcases x with e | e
    · cases e <;> exact .throw _
    · exact .throw _

theorem Composed.asksOnly {e : Evaluation α} (h : Composed e) : AsksOnly Question.Standard e := by
  induction h with
  | pure a => exact .pure a
  | throw x => exact .throw x
  | reading _ _ ih => exact fun context counters => ih context context counters
  | countLookup => exact .countLookup
  | countVoidLookup => exact .countVoidLookup
  | ask h => exact .ofInquiry (h.mono fun _ hq => hq.standard)
  | consult hq _ _ ih => exact .bind (.ofInquiry (records_asksOnly hq)) ih
  | bind _ _ ih ihf => exact .bind ih ihf
  | entering _ ih => exact entering_asksOnly ih

/-- Without explanations, an evaluation that comes to a verdict is composed. -/
theorem Concluding.composed_of_false {e : Evaluation Verdict} (h : Concluding false e) : Composed e := by
  generalize hb : false = explain at h
  induction h with
  | composed h => exact h
  | reading h _ ih => exact .reading h fun context => ih context hb
  | bind h _ ih => exact .bind h fun a => ih a hb
  | entering _ ih => exact .entering (ih hb)
  | explained => cases hb

/-! ### The evaluation of policies -/

theorem Composed.ofExcept (x : Except Failure α) : Composed (ofExcept x) := by
  cases x with
  | error e => exact .throw e
  | ok a => exact .pure a

theorem Composed.map {e : Evaluation α} (h : Composed e) (f : α → β) : Composed (f <$> e) := by
  rw [← bind_pure_comp]
  exact .bind h fun a => .pure (f a)

theorem clientNames_composed : Composed clientNames := by
  refine .reading (fun _ _ _ => rfl) fun context => .bind (.ask (confirmedNames_asksOnly ?_ ?_)) fun r => ?_
  · exact fun name => ⟨fun _ => nofun, nofun⟩
  · exact fun name => ⟨addressType_ne_other _, nofun⟩
  · rcases r with (e | text) | names
    · exact .pure _
    · exact .throw _
    · exact .pure _

theorem confirmedName_composed (explanation : Bool) (domain : String) : Composed (confirmedName explanation domain) := by
  unfold confirmedName
  cases explanation
  case' false => refine .bind .countLookup fun _ => ?_
  all_goals exact .bind clientNames_composed fun r => by cases r <;> exact .pure _

theorem fact_composed (explanation : Bool) (domain : String) (letter : Letter) :
    Composed (fact explanation domain letter) := by
  refine .reading (fun _ _ _ => rfl) fun context => ?_
  cases letter with
  | address =>
    show Composed (addressText context.address)
    unfold addressText
    cases context.address.macroText with
    | error e => exact .throw _
    | ok text => exact .pure _
  | confirmedName => exact confirmedName_composed explanation domain
  | _ => exact .pure _

theorem expandTokens_composed (explanation : Bool) (domain : String) :
    ∀ tokens, Composed (expandTokens explanation domain tokens)
  | [] => .pure _
  | .literal _ :: rest => .bind (expandTokens_composed explanation domain rest) fun _ => .pure _
  | .expansion _ :: rest =>
    .bind (fact_composed explanation domain _) fun _ =>
      .bind (expandTokens_composed explanation domain rest) fun _ => .pure _

theorem expand_composed (explanation : Bool) (domain text : String) : Composed (expand explanation domain text) := by
  unfold expand
  split
  · exact .throw _
  · exact expandTokens_composed explanation domain _

theorem targetName_composed (domain spec : String) : Composed (targetName domain spec) := by
  refine .bind ?_ fun target => ?_
  · unfold expandDomainSpec
    split
    · exact .pure _
    · split
      · exact .pure _
      · exact .bind (expand_composed false domain spec) fun _ => .pure _
  · split
    · exact .pure _
    · exact .throw _

/-- What is made of the address texts of a host. -/
def withAddresses (host : String) : Except LookupError (List String) → Evaluation (List String)
  | .error .noSuchDomain => do countVoidLookup; pure []
  | .error e => throwPolicy (.temporary host e)
  | .ok found => do
    if found.isEmpty then countVoidLookup
    pure found

theorem hostAddresses_eq (host : String) (family : Family) :
    hostAddresses host family = attempt (records ⟨host, addressType family, .mechanism⟩) >>= fun r =>
      withAddresses host (r.map (sorted textLE)) := by
  unfold hostAddresses attempt
  rw [addresses_run, ofInquiry_bind]
  refine congrArg _ (funext fun r => ?_)
  rcases r with e | found
  · cases e <;> rfl
  · rfl

theorem hostAddresses_composed (host : String) (family : Family) : Composed (hostAddresses host family) := by
  rw [hostAddresses_eq]
  refine .consult (addressType_ne_other family) (fun r => ?_) fun e he => ?_
  · rcases r with e | found
    · cases e with
      | noSuchDomain => exact .bind .countVoidLookup fun _ => .pure _
      | _ => exact .throw _
    · dsimp only [Except.map, withAddresses]
      split
      · exact .bind .countVoidLookup fun _ => .pure _
      · exact .pure _
  · cases e with
    | noSuchDomain => exact absurd rfl he
    | _ => exact ⟨_, rfl⟩

theorem isAmong_composed (cidr : DualCidr) (found : List String) : Composed (isAmong cidr found) :=
  .reading (fun _ _ _ => rfl) fun context => by
    dsimp only
    split
    · exact .pure _
    · exact .throw _

theorem matchesHost_composed (d : Directive) (domain : String) : Composed (matchesHost d domain) :=
  .bind .countLookup fun _ => .bind (.ofExcept _) fun cidr => .bind (targetName_composed domain _) fun target =>
    .reading (fun _ _ _ => rfl) fun _ => .bind (hostAddresses_composed target _) fun found => isAmong_composed cidr found

theorem anyMailHost_composed (cidr : DualCidr) : ∀ hosts, Composed (anyMailHost cidr hosts)
  | [] => .pure _
  | host :: rest =>
    .reading (fun _ _ _ => rfl) fun context => .bind (hostAddresses_composed host.hostname _) fun found =>
      .bind (isAmong_composed cidr found) fun matched => by
        cases matched with
        | true => exact .pure _
        | false => exact anyMailHost_composed cidr rest

/-- What the test of a mail mechanism makes of the mail hosts of its target. -/
def withMailHosts (cidr : DualCidr) (target : String) : Except LookupError (List MailHost) → Evaluation Bool
  | .error .noSuchDomain => do countVoidLookup; pure false
  | .error e => throwPolicy (.temporary target e)
  | .ok [] => do countVoidLookup; pure false
  | .ok hosts => do
    let limit := (← read).receiver.limits.mailHosts
    if (hosts.length : Int) > limit then throwPolicy (.tooManyMailHosts target limit hosts.length)
    anyMailHost cidr hosts

theorem matchesMailHost_eq (d : Directive) (domain : String) :
    matchesMailHost d domain = (do
      countLookup
      let cidr ← ofExcept (DualCidr.ofDirective d)
      let target ← targetName domain cidr.domainSpec
      let r ← attempt (records ⟨target, .mx, .mechanism⟩)
      withMailHosts cidr target (r.bind readMailHosts)) := by
  unfold matchesMailHost
  refine congrArg _ (funext fun _ => congrArg _ (funext fun cidr => congrArg _ (funext fun target => ?_)))
  have run : (mailHosts .mechanism target).run =
      (records ⟨target, .mx, .mechanism⟩).run.bind fun r => .done (r.bind readMailHosts) :=
    congrArg (Inquiry.bind _) (funext fun r => by cases r <;> rfl)
  unfold attempt
  rw [run, ← ofInquiry_bind]
  refine congrArg _ (funext fun r => ?_)
  rcases r with e | _ | ⟨host, rest⟩
  · cases e <;> rfl
  · rfl
  · rfl

theorem withMailHosts_composed (cidr : DualCidr) (target : String) (r : Except LookupError (List MailHost)) :
    Composed (withMailHosts cidr target r) := by
  rcases r with e | _ | ⟨host, rest⟩
  · cases e with
    | noSuchDomain => exact .bind .countVoidLookup fun _ => .pure _
    | _ => exact .throw _
  · exact .bind .countVoidLookup fun _ => .pure _
  · refine .reading (fun _ _ _ => rfl) fun context => ?_
    dsimp only
    split
    · exact .bind (.throw _) fun _ => anyMailHost_composed cidr _
    · exact anyMailHost_composed cidr _

theorem matchesMailHost_composed (d : Directive) (domain : String) : Composed (matchesMailHost d domain) := by
  rw [matchesMailHost_eq]
  refine .bind .countLookup fun _ => .bind (.ofExcept _) fun cidr => .bind (targetName_composed domain _) fun target => ?_
  refine .consult (fun _ => nofun) (fun r => withMailHosts_composed cidr target _) fun e he => ?_
  cases e with
  | noSuchDomain => exact absurd rfl he
  | _ => exact ⟨_, rfl⟩

theorem matchesConfirmedName_composed (d : Directive) (domain : String) : Composed (matchesConfirmedName d domain) :=
  .bind .countLookup fun _ => .bind (targetName_composed domain _) fun target =>
    .bind clientNames_composed fun r => by cases r <;> exact .pure _

theorem matchesExistence_composed (d : Directive) (domain : String) : Composed (matchesExistence d domain) :=
  .bind .countLookup fun _ => .bind (targetName_composed domain _) fun target =>
    .bind (hostAddresses_composed target .v4) fun _ => .pure _

theorem matchesNetwork_composed (family : Family) (d : Directive) : Composed (matchesNetwork family d) := by
  unfold matchesNetwork
  split
  · exact .throw _
  · split
    · exact .reading (fun _ _ _ => rfl) fun _ => .pure _
    · exact .throw _

theorem matchesClient_composed {policy : String → Evaluation Verdict} (hp : ∀ target, Composed (policy target))
    (d : Directive) (domain : String) : Composed (matchesClient policy d domain) := by
  unfold matchesClient
  split
  · exact .pure _
  · exact .bind .countLookup fun _ => .bind (targetName_composed domain _) fun target =>
      .bind (.entering (hp target)) fun _ => .pure _
  · exact matchesHost_composed d domain
  · exact matchesMailHost_composed d domain
  · exact matchesConfirmedName_composed d domain
  · exact matchesNetwork_composed .v4 d
  · exact matchesNetwork_composed .v6 d
  · exact matchesExistence_composed d domain
  · exact .throw _

theorem directiveVerdict_concluding (explain : Bool) (d : Directive) (exp : Option Modifier) (domain : String) :
    Concluding explain (directiveVerdict d (if explain then exp else none) domain) := by
  refine .reading (fun _ _ _ => rfl) fun context => ?_
  dsimp only
  split
  · exact .composed (.throw _)
  · exact .composed (.pure _)
  · cases explain with
    | false => exact .composed (.pure _)
    | true =>
      cases exp with
      | none => exact .composed (.pure _)
      | some m => exact .explained m domain _
  · exact .composed (.pure _)

section
variable {policy : PolicyEvaluation} (hp : ∀ target explain, Concluding explain (policy target explain))
include hp

theorem withoutMatch_concluding (redirect : Option Modifier) (domain : String) (explain : Bool) :
    Concluding explain (withoutMatch policy redirect domain explain) := by
  cases redirect with
  | none => exact .composed (.pure _)
  | some m =>
    exact .bind .countLookup fun _ => .bind (targetName_composed domain _) fun target =>
      .entering (hp target explain)

theorem evaluateDirectives_concluding (found : Modifiers) (domain : String) (explain : Bool) :
    ∀ terms, Concluding explain (evaluateDirectives policy found domain explain terms)
  | [] => withoutMatch_concluding hp found.redirect domain explain
  | .modifier _ :: rest => evaluateDirectives_concluding found domain explain rest
  | .directive d :: rest =>
    .bind (matchesClient_composed (fun target => (hp target false).composed_of_false) d domain) fun matched => by
      cases matched with
      | true => exact directiveVerdict_concluding explain d _ domain
      | false => exact evaluateDirectives_concluding found domain explain rest

theorem evaluateTerms_concluding (terms : List Term) (domain : String) (explain : Bool) :
    Concluding explain (evaluateTerms policy terms domain explain) := by
  unfold evaluateTerms
  split
  · exact .composed (.throw _)
  · exact evaluateDirectives_concluding hp _ domain explain terms

theorem evaluatePolicy_concluding (domain : String) (explain : Bool) :
    Concluding explain (evaluatePolicy policy domain explain) := by
  unfold evaluatePolicy
  dsimp only
  split
  case' isTrue => refine .bind (.throw _) fun _ => ?_
  all_goals
    refine .reading (fun _ _ _ => rfl) fun context =>
      .bind (.ask (query_asksOnly fun _ => ⟨fun _ => nofun, nofun⟩)) fun r => ?_
    cases r with
    | error e => exact .composed (.throw _)
    | ok record =>
      refine .bind (.ofExcept _) fun terms => ?_
      split
      · exact .composed (.pure _)
      · exact evaluateTerms_concluding hp terms domain explain

end

theorem policyOf_concluding : ∀ (levels : Nat) (domain : String) (explain : Bool),
    Concluding explain (policyOf levels domain explain)
  | 0, _, _ => .reading (fun _ _ _ => rfl) fun _ => .composed (.throw _)
  | levels + 1, domain, explain => evaluatePolicy_concluding (policyOf_concluding levels) domain explain

/-! ### Explanations -/

/-- The explanation that the only text record of a target gives. -/
def explanationAt (domain target : String) : Evaluation (Option String) := do
  match ← attempt (texts .explanation target) with
  | .ok [text] => some <$> expand true domain text
  | _ => pure none

/-- An error of a policy on the way to an explanation means that there is none. -/
def excused : Failure → Evaluation (Option String)
  | .policy _ => pure none
  | .fault f => throwFault f

theorem explanation_eq (m : Modifier) (domain : String) :
    explanation m domain =
      askedFor .explanation (tryCatch (uncounted (targetName domain m.macroString) >>= explanationAt domain) excused) := by
  unfold explanation
  refine congrArg _ (congrArg _ (funext fun x => ?_))
  cases x <;> rfl

/-- What is left of an outcome if the errors of policies are excused. -/
def excusing : Except Failure (Option String) → Except Failure (Option String)
  | .error (.policy _) => .ok none
  | r => r

theorem exec_excused {answer : Question → σ → Answer × σ} {context : Context} (e : Evaluation (Option String)) (w : World σ) :
    exec answer context (tryCatch e excused) w = (excusing (exec answer context e w).1, (exec answer context e w).2) := by
  rw [exec_tryCatch]
  rcases exec answer context e w with ⟨(x | f) | text, w'⟩ <;> rfl

theorem exec_explanation {answer : Question → σ → Answer × σ} {context : Context} (m : Modifier) (domain : String)
    (w : World σ) :
    exec answer context (explanation m domain) w =
      let ran := exec (fun q => answer { q with purpose := .explanation }) context
        (uncounted (targetName domain m.macroString) >>= explanationAt domain) w
      (excusing ran.1, ran.2) := by
  rw [explanation_eq, exec_askedFor, exec_excused]

theorem explanationAt_composed (domain target : String) : Composed (explanationAt domain target) :=
  .bind (.ask (texts_asksOnly ⟨fun _ => nofun, nofun⟩)) fun r => by
    split
    · exact .map (expand_composed true domain _) _
    · exact .pure _

/-- Nothing that is asked for an explanation tests a mechanism. -/
theorem explanation_asksOnly (m : Modifier) (domain : String) : AsksOnly Question.Aside (explanation m domain) := by
  -- whatever the purpose of a question is, here it is that of an explanation
  have aside : ∀ q : Question, q.Standard → Question.Aside { q with purpose := .explanation } := fun q h => ⟨h, nofun⟩
  rw [explanation_eq]
  refine .askedFor (.tryCatch (.bind (.uncounted ?_) fun target => ?_) fun x => ?_)
  · exact (targetName_composed domain _).asksOnly.mono aside
  · exact (explanationAt_composed domain target).asksOnly.mono aside
  · cases x with
    | policy e => exact .pure _
    | fault f => exact .throw _

theorem Concluding.asksOnly {explain : Bool} {e : Evaluation Verdict} (h : Concluding explain e) :
    AsksOnly Question.Standard e := by
  induction h with
  | composed h => exact h.asksOnly
  | reading _ _ ih => exact fun context counters => ih context context counters
  | bind h _ ih => exact .bind h.asksOnly ih
  | entering _ ih => exact entering_asksOnly ih
  | explained m domain shown =>
    exact .bind ((explanation_asksOnly m domain).mono fun _ h => h.standard) fun _ => .pure _

/-- The evaluation of a policy asks for records of the standard types only. -/
theorem policyOf_asksOnly (levels : Nat) (domain : String) (explain : Bool) :
    AsksOnly Question.Standard (policyOf levels domain explain) :=
  (policyOf_concluding levels domain explain).asksOnly

end Evaluation

end SenderPolicy
