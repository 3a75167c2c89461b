import SenderPolicy.Check

/-! Runs of inquiries and evaluations. `exec` is the view of an evaluation on which the theory rests: it
takes a world, that is what has been counted and the state of whoever answers, and gives the outcome with
the world after it. Each way to build an evaluation has one equation here, so later modules do not look
into its layers. -/

namespace SenderPolicy

open Dns

variable {σ α β : Type}

/-! ### Inquiries -/

namespace Dns.Inquiry
variable (answer : Question → σ → Answer × σ)

@[simp] theorem run_done (value : α) (s : σ) : (done value).run answer s = (value, s) := rfl

@[simp] theorem run_pure (value : α) (s : σ) : (pure value : Inquiry α).run answer s = (value, s) := rfl

theorem run_bind (i : Inquiry α) (f : α → Inquiry β) (s : σ) :
    (i.bind f).run answer s = (f (i.run answer s).1).run answer (i.run answer s).2 := by
  induction i generalizing s with
  | done value => rfl
  | ask q next ih => exact ih _ _

theorem run_map (f : α → β) (i : Inquiry α) (s : σ) :
    (f <$> i).run answer s = (f (i.run answer s).1, (i.run answer s).2) :=
  run_bind answer i (fun a => done (f a)) s

/-- Relabelled questions are answered as if whoever answers had relabelled them. -/
theorem run_askedFor (purpose : Purpose) (i : Inquiry α) (s : σ) :
    (i.askedFor purpose).run answer s = i.run (fun q => answer { q with purpose }) s := by
  induction i generalizing s with
  | done value => rfl
  | ask q next ih => exact ih _ _

end Dns.Inquiry

/-! ### Evaluations -/

/-- Where a run stands: what has been counted, and the state of whoever answers. -/
structure World (σ : Type) where
  counters : Counters
  state : σ

/-- The world in which a check begins. -/
def World.fresh (s : σ) : World σ := ⟨{}, s⟩

namespace World

/-- One more lookup counted. -/
def lookedUp (w : World σ) : World σ := { w with counters.lookups := w.counters.lookups + 1 }

/-- One more lookup counted that has found nothing. -/
def foundNothing (w : World σ) : World σ := { w with counters.voidLookups := w.counters.voidLookups + 1 }

end World

namespace Evaluation

section
variable (answer : Question → σ → Answer × σ) (context : Context)

/-- Runs an evaluation in a world. -/
def exec (e : Evaluation α) (w : World σ) : Except Failure α × World σ :=
  let ran := (e.inquiry context w.counters).run answer w.state
  (ran.1.1, ⟨ran.1.2, ran.2⟩)

@[simp] theorem exec_pure (a : α) (w : World σ) : exec answer context (pure a) w = (.ok a, w) := rfl

@[simp] theorem exec_throw (x : Failure) (w : World σ) :
    exec answer context (throw x : Evaluation α) w = (.error x, w) := rfl

@[simp] theorem exec_throwPolicy (x : PolicyError) (w : World σ) :
    exec answer context (throwPolicy x : Evaluation α) w = (.error (.policy x), w) := rfl

@[simp] theorem exec_throwFault (x : Fault) (w : World σ) :
    exec answer context (throwFault x : Evaluation α) w = (.error (.fault x), w) := rfl

@[simp] theorem exec_read (w : World σ) : exec answer context read w = (.ok context, w) := rfl

@[simp] theorem exec_ofExcept (x : Except Failure α) (w : World σ) :
    exec answer context (ofExcept x) w = (x, w) := by cases x <;> rfl

theorem inquiry_bind (e : Evaluation α) (f : α → Evaluation β) (counters : Counters) :
    (e >>= f).inquiry context counters = (e.inquiry context counters).bind fun
      | (.ok a, counters) => (f a).inquiry context counters
      | (.error x, counters) => .done (.error x, counters) := by
  refine congrArg (Inquiry.bind _) (funext fun ⟨outcome, counters⟩ => ?_)
  cases outcome <;> rfl

theorem inquiry_tryCatch (e : Evaluation α) (handle : Failure → Evaluation α) (counters : Counters) :
    (tryCatch e handle).inquiry context counters = (e.inquiry context counters).bind fun
      | (.ok a, counters) => .done (.ok a, counters)
      | (.error x, counters) => (handle x).inquiry context counters := by
  refine congrArg (Inquiry.bind _) (funext fun ⟨outcome, counters⟩ => ?_)
  cases outcome <;> rfl

theorem inquiry_ofInquiry (i : Inquiry α) (counters : Counters) :
    (ofInquiry i).inquiry context counters = i.bind fun a => .done (.ok a, counters) := by
  show ((i.bind fun a => .done (a, counters)).bind fun p => .done (Except.ok p.1, p.2)) = _
  rw [Inquiry.bind_assoc]
  rfl

theorem exec_bind (e : Evaluation α) (f : α → Evaluation β) (w : World σ) :
    exec answer context (e >>= f) w = match exec answer context e w with
      | (.ok a, w') => exec answer context (f a) w'
      | (.error x, w') => (.error x, w') := by
  unfold exec
  rw [inquiry_bind, Inquiry.run_bind]
  rcases (e.inquiry context w.counters).run answer w.state with ⟨⟨outcome, counters⟩, s⟩
  cases outcome <;> rfl

theorem exec_tryCatch (e : Evaluation α) (handle : Failure → Evaluation α) (w : World σ) :
    exec answer context (tryCatch e handle) w = match exec answer context e w with
      | (.ok a, w') => (.ok a, w')
      | (.error x, w') => exec answer context (handle x) w' := by
  unfold exec
  rw [inquiry_tryCatch, Inquiry.run_bind]
  rcases (e.inquiry context w.counters).run answer w.state with ⟨⟨outcome, counters⟩, s⟩
  cases outcome <;> rfl

theorem exec_ofInquiry (i : Inquiry α) (w : World σ) :
    exec answer context (ofInquiry i) w =
      (.ok (i.run answer w.state).1, ⟨w.counters, (i.run answer w.state).2⟩) := by
  unfold exec
  rw [inquiry_ofInquiry, Inquiry.run_bind]
  rfl

theorem exec_uncounted (e : Evaluation α) (w : World σ) :
    exec answer context (uncounted e) w =
      ((exec answer context e w).1, ⟨w.counters, (exec answer context e w).2.state⟩) := by
  have h : (uncounted e).inquiry context w.counters =
      (e.inquiry context w.counters).bind fun r => .done (r.1, w.counters) := rfl
  unfold exec
  rw [h, Inquiry.run_bind]
  rfl

theorem exec_askedFor (purpose : Purpose) (e : Evaluation α) (w : World σ) :
    exec answer context (askedFor purpose e) w =
      exec (fun q => answer { q with purpose }) context e w := by
  have h : (askedFor purpose e).inquiry context w.counters =
      (e.inquiry context w.counters).askedFor purpose := rfl
  unfold exec
  rw [h, Inquiry.run_askedFor]

@[simp] theorem exec_read_bind (f : Context → Evaluation β) (w : World σ) :
    exec answer context (read >>= f) w = exec answer context (f context) w := rfl

@[simp] theorem exec_map (f : α → β) (e : Evaluation α) (w : World σ) :
    exec answer context (f <$> e) w = ((exec answer context e w).1.map f, (exec answer context e w).2) := by
  rw [← bind_pure_comp, exec_bind]
  rcases exec answer context e w with ⟨x | a, w'⟩ <;> rfl

/-! ### Counting -/

theorem exec_countLookup (w : World σ) :
    exec answer context countLookup w =
      (if context.receiver.limits.lookups < w.lookedUp.counters.lookups then
        .error (.policy (.tooManyLookups context.receiver.limits.lookups w.lookedUp.counters.lookups))
      else .ok (), w.lookedUp) := by
  show exec answer context
    (if context.receiver.limits.lookups < w.lookedUp.counters.lookups then _ else _) w.lookedUp = _
  split <;> rfl

theorem exec_countVoidLookup (w : World σ) :
    exec answer context countVoidLookup w =
      (if context.receiver.limits.voidLookups < w.foundNothing.counters.voidLookups then
        .error (.policy (.tooManyVoidLookups context.receiver.limits.voidLookups w.foundNothing.counters.voidLookups))
      else .ok (), w.foundNothing) := by
  show exec answer context
    (if context.receiver.limits.voidLookups < w.foundNothing.counters.voidLookups then _ else _) w.foundNothing = _
  split <;> rfl

end

/-! ### Taking runs apart -/

section
variable {answer : Question → σ → Answer × σ} {context : Context} {w w' : World σ}

theorem exec_bind_ok_iff {e : Evaluation α} {f : α → Evaluation β} {b : β} :
    exec answer context (e >>= f) w = (.ok b, w') ↔
      ∃ a w₁, exec answer context e w = (.ok a, w₁) ∧ exec answer context (f a) w₁ = (.ok b, w') := by
  rw [exec_bind]
  rcases exec answer context e w with ⟨x | a, w₁⟩
  · simp
  · exact ⟨fun h => ⟨a, w₁, rfl, h⟩, fun ⟨_, _, h, h'⟩ => by cases h; exact h'⟩

theorem exec_bind_error_iff {e : Evaluation α} {f : α → Evaluation β} {x : Failure} :
    (exec answer context (e >>= f) w).1 = .error x ↔ (exec answer context e w).1 = .error x ∨
      ∃ a w', exec answer context e w = (.ok a, w') ∧ (exec answer context (f a) w').1 = .error x := by
  rw [exec_bind]
  rcases exec answer context e w with ⟨y | a, w'⟩
  · simp
  · exact ⟨fun h => .inr ⟨a, w', rfl, h⟩, fun h => h.elim nofun fun ⟨_, _, h, h'⟩ => by cases h; exact h'⟩

theorem exec_bind_of_ok {e : Evaluation α} {f : α → Evaluation β} {a : α}
    (h : exec answer context e w = (.ok a, w')) :
    exec answer context (e >>= f) w = exec answer context (f a) w' := by
  rw [exec_bind, h]

theorem exec_bind_of_error {e : Evaluation α} {f : α → Evaluation β} {x : Failure}
    (h : exec answer context e w = (.error x, w')) :
    exec answer context (e >>= f) w = (.error x, w') := by
  rw [exec_bind, h]

end

end Evaluation

/-! ### Evaluations that fail in known ways -/

/-- The failure lies in how many lookups there are or in what they find, whatever the terms. -/
inductive Failure.OfLookups : Failure → Prop
  | tooManyLookups (limit count : Int) : OfLookups (.policy (.tooManyLookups limit count))
  | tooManyVoidLookups (limit count : Int) : OfLookups (.policy (.tooManyVoidLookups limit count))
  | tooManyMailHosts (domain : String) (limit count : Int) : OfLookups (.policy (.tooManyMailHosts domain limit count))
  | temporary (name : String) (cause : LookupError) : OfLookups (.policy (.temporary name cause))
  | notAddress (text : String) : OfLookups (.fault (.notAddress text))

namespace Evaluation

section
variable (answer : Question → σ → Answer × σ) (context : Context)

/-- Wherever the evaluation is run, its failures have a property. -/
def FailsOnly (P : Failure → Prop) (e : Evaluation α) : Prop :=
  ∀ w x, (exec answer context e w).1 = .error x → P x

end

namespace FailsOnly

variable {answer : Question → σ → Answer × σ} {context : Context} {P Q : Failure → Prop}

theorem pure (a : α) : FailsOnly answer context P (Pure.pure a) := fun _ _ => nofun

theorem throw {x : Failure} (hx : P x) : FailsOnly answer context P (MonadExcept.throw x : Evaluation α) :=
  fun _ _ h => Except.error.inj h ▸ hx

theorem mono {e : Evaluation α} (h : FailsOnly answer context P e) (hPQ : ∀ x, P x → Q x) :
    FailsOnly answer context Q e :=
  fun w x hx => hPQ x (h w x hx)

theorem reading {f : Context → Evaluation α} (h : FailsOnly answer context P (f context)) :
    FailsOnly answer context P (read >>= f) := h

theorem ofInquiry (i : Inquiry α) : FailsOnly answer context P (Evaluation.ofInquiry i) := fun w x h => by
  rw [exec_ofInquiry] at h
  cases h

theorem bind {e : Evaluation α} {f : α → Evaluation β} (h : FailsOnly answer context P e)
    (hf : ∀ a, FailsOnly answer context P (f a)) : FailsOnly answer context P (e >>= f) := by
  intro w x hx
  rcases exec_bind_error_iff.mp hx with hx | ⟨a, w₁, -, hx⟩
  · exact h w x hx
  · exact hf a w₁ x hx

theorem map {e : Evaluation α} (h : FailsOnly answer context P e) (f : α → β) : FailsOnly answer context P (f <$> e) := by
  rw [← bind_pure_comp]
  exact h.bind fun a => .pure (f a)

/-- What follows a value that is taken over may rely on where the value comes from. -/
theorem ofExcept_bind {r : Except Failure α} {f : α → Evaluation β} (h : ∀ x, r = .error x → P x)
    (hf : ∀ a, r = .ok a → FailsOnly answer context P (f a)) : FailsOnly answer context P (Evaluation.ofExcept r >>= f) := by
  cases r with
  | error x => exact .throw (h x rfl)
  | ok a => exact hf a rfl

theorem countLookup (h : ∀ x : Failure, x.OfLookups → P x) : FailsOnly answer context P Evaluation.countLookup := by
  intro w x hx
  rw [exec_countLookup] at hx
  dsimp only at hx
  split at hx
  · cases hx
    exact h _ (.tooManyLookups ..)
  · cases hx

theorem countVoidLookup (h : ∀ x : Failure, x.OfLookups → P x) :
    FailsOnly answer context P Evaluation.countVoidLookup := by
  intro w x hx
  rw [exec_countVoidLookup] at hx
  dsimp only at hx
  split at hx
  · cases hx
    exact h _ (.tooManyVoidLookups ..)
  · cases hx

theorem uncounted {e : Evaluation α} (h : FailsOnly answer context P e) :
    FailsOnly answer context P (Evaluation.uncounted e) := fun w x hx => by
  rw [exec_uncounted] at hx
  exact h w x hx

end FailsOnly

end Evaluation

/-! ### Checks -/

@[simp] theorem Outcome.counters_ofResult (r : Except Failure Verdict) (c : Counters) : (ofResult (r, c)).counters = c := by
  rcases r with (e | f) | verdict <;> rfl

theorem Context.run_check (answer : Question → σ → Answer × σ) (context : Context) (domain : String) (s : σ) :
    (context.check domain).run answer s =
      let ran := Evaluation.exec answer context (Evaluation.checkedPolicy domain) (.fresh s)
      (Outcome.ofResult (ran.1, ran.2.counters), ran.2.state) :=
  Inquiry.run_map answer Outcome.ofResult _ s

theorem checkHost_of_error {receiver : Receiver} {ip domain sender helo : String} {f : Fault}
    (h : Context.ofText receiver ip sender helo = .error f) : checkHost receiver ip domain sender helo = .done (.error f) := by
  unfold checkHost
  rw [h]

theorem run_checkHost {answer : Question → σ → Answer × σ} {receiver : Receiver} {ip domain sender helo : String}
    {context : Context} (h : Context.ofText receiver ip sender helo = .ok context) (s : σ) :
    (checkHost receiver ip domain sender helo).run answer s =
      (((context.check domain).run answer s).1.verdict, ((context.check domain).run answer s).2) := by
  unfold checkHost
  rw [h]
  exact Inquiry.run_map answer Outcome.verdict _ s

end SenderPolicy
