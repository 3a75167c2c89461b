import SenderPolicy.Proofs.Coherence

/-! Answers that stay the same. Where each question has one answer, what comes of an inquiry is computed without following
any state, and evaluations keep the states in which this is so. -/

namespace SenderPolicy

open Dns Evaluation Text

variable {σ α β : Type}

namespace Dns

section
variable {reply : Question → Answer}

theorem Inquiry.value_bind (i : Inquiry α) (f : α → Inquiry β) :
    (i.bind f).value reply = (f (i.value reply)).value reply := by
  induction i with
  | done a => rfl
  | ask q next ih => exact ih _

theorem value_bind_exceptT {ε : Type} (e : ExceptT ε Inquiry α) (f : α → ExceptT ε Inquiry β) :
    (e >>= f).run.value reply = (e.run.value reply).bind fun a => (f a).run.value reply := by
  show (e.run.bind _).value reply = _
  rw [Inquiry.value_bind]
  cases e.run.value reply <;> rfl

theorem value_lift_exceptT {ε : Type} (i : Inquiry α) :
    (ExceptT.lift i : ExceptT ε Inquiry α).run.value reply = .ok (i.value reply) :=
  Inquiry.value_bind i _

theorem value_records (q : Question) : (records q).run.value reply = foundRecords (reply q) := by
  show ((Inquiry.question q).bind _).value reply = _
  have answered : (Inquiry.question q).value reply = reply q := rfl
  rw [Inquiry.value_bind, answered]
  rcases reply q with e | found
  · cases e <;> rfl
  · rfl

end

/-- The answer to a question holds a text. -/
def AnswerHolds (reply : Question → Answer) (q : Question) (text : String) : Prop := ∃ texts, reply q = .ok texts ∧ text ∈ texts

theorem mem_foundRecords_iff {reply : Question → Answer} {q : Question} {text : String} :
    text ∈ (foundRecords (reply q)).toOption.getD [] ↔ AnswerHolds reply q text := by
  unfold AnswerHolds
  cases reply q with
  | ok texts => simp [foundRecords, Except.toOption]
  | error e => cases e <;> simp [foundRecords, Except.toOption]

section
variable {answer : Question → σ → Answer × σ} {I : σ → Prop} {reply : Question → Answer} {context : Context} {w w' : World σ}

theorem Steady.kept (h : Steady answer I reply) {e : Evaluation α} (ha : Evaluation.AsksOnly Question.Standard e)
    (hw : I w.state) {r : Except Failure α} (he : exec answer context e w = (r, w')) : I w'.state :=
  ha.exec_inv h.keep hw he

theorem Steady.countedTarget_kept (h : Steady answer I reply) {domain spec target : String} (hw : I w.state)
    (he : exec answer context (countedTarget domain spec) w = (.ok target, w')) : I w'.state :=
  h.kept (.bind .countLookup fun _ => (targetName_composed domain spec).asksOnly) hw he

theorem Steady.exec_attempt (h : Steady answer I reply) (context : Context) {q : Question} (hq : q.Standard)
    (hw : I w.state) : exec answer context (Evaluation.attempt (records q)) w =
      (.ok (foundRecords (reply q)), ⟨w.counters, (answer q w.state).2⟩) := by
  unfold Evaluation.attempt
  rw [exec_ofInquiry, run_records, h.answers q w.state hq hw]

end

/-! ### Clients -/

namespace Client

variable {client : Client}

/-- What is answered in the end has been answered by the resolver to a question for some name. -/
theorem exists_of_settled {retries : Nat} {q : Question} {answer : Answer} (h : client.settled retries q = answer) :
    ∃ name, client.resolver.answer { q with name } = answer := by
  induction retries generalizing q with
  | zero => exact ⟨_, h⟩
  | succ retries ih =>
    rw [settled] at h
    generalize Domain.normalized q.name = name at h
    cases hr : client.resolver.answer { q with name } with
    | ok records =>
      rw [hr] at h
      exact ⟨name, hr.trans h⟩
    | error e =>
      rw [hr] at h
      cases e with
      | lifetimeExpired => exact ih (q := { q with name }) h
      | _ => exact ⟨name, hr.trans h⟩

theorem allAddresses_of_reply (ha : client.resolver.GivesAddresses) {q : Question} (hq : q.ForAddresses) {texts : List String}
    (h : client.reply q = .ok texts) : AllAddresses texts := by
  obtain ⟨name, h⟩ := exists_of_settled h
  unfold Resolver.answer at h
  cases hg : client.resolver [] { q with name } with
  | error e =>
    rw [hg] at h
    cases h
  | ok given =>
    rw [hg] at h
    cases h
    exact readReply_allAddresses hq (ha [] { q with name } given hq hg)

end Client

end Dns

end SenderPolicy
