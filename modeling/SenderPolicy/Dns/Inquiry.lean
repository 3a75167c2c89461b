import SenderPolicy.Dns.Answer
import SenderPolicy.Dns.Question

/-! Programs that ask questions. An inquiry is either done or waits for the answer to its next question, so
everything it may do is laid out as a tree, and whoever runs it decides where answers come from. -/

namespace SenderPolicy.Dns

/-- A program that may ask questions before it is done. -/
inductive Inquiry (α : Type) where
  | done (value : α)
  | ask (question : Question) (next : Answer → Inquiry α)

namespace Inquiry

variable {α β γ : Type}

/-- Continues an inquiry with what its value asks for. -/
def bind (inquiry : Inquiry α) (f : α → Inquiry β) : Inquiry β :=
  match inquiry with
  | done value => f value
  | ask question next => ask question fun answer => (next answer).bind f

instance : Monad Inquiry where
  pure := done
  bind := bind

/-- Asks one question. -/
def question (q : Question) : Inquiry Answer := ask q done

/-- The inquiry with all its questions asked for one purpose. -/
def askedFor (purpose : Purpose) : Inquiry α → Inquiry α
  | done value => done value
  | ask q next => ask { q with purpose } fun answer => (next answer).askedFor purpose

/-- Runs an inquiry over a state, given how a question is answered. -/
def run {σ : Type} (answer : Question → σ → Answer × σ) : Inquiry α → σ → α × σ
  | done value, s => (value, s)
  | ask q next, s =>
    let (reply, s) := answer q s
    (next reply).run answer s

theorem bind_done (inquiry : Inquiry α) : inquiry.bind done = inquiry := by
  induction inquiry with
  | done value => rfl
  | ask q next ih => simp [bind, ih]

theorem bind_assoc (inquiry : Inquiry α) (f : α → Inquiry β) (g : β → Inquiry γ) :
    (inquiry.bind f).bind g = inquiry.bind fun value => (f value).bind g := by
  induction inquiry with
  | done value => rfl
  | ask q next ih => simp [bind, ih]

instance : LawfulMonad Inquiry := LawfulMonad.mk' Inquiry
  (fun inquiry => bind_done inquiry) (fun _ _ => rfl) bind_assoc

end Inquiry

end SenderPolicy.Dns
