import SenderPolicy.Proofs.CacheEntries
import SenderPolicy.Proofs.ComposedTwice
import SenderPolicy.Proofs.SteadyCharacters

/-! The normal form of a normal form. Lower case may leave characters that can be put together, and so may the loss of a
character that takes up no room; a second pass puts them together, and no pass after it changes anything. Where the first pass
leaves a composed text, a name is asked for under one form, however often it is put into it. -/

namespace SenderPolicy

open Text

/-! ### Names -/

namespace Domain

theorem steady_normalized (d : String) : ∀ c ∈ (normalized d).toList, isSteady c.toNat = true := by
  rw [normalized, lower, String.toList_ofList, String.toList_ofList]
  refine of_mem_lowerFrom (p := fun c => isZeroWidth c = false) (q := fun c => isSteady c.toNat = true)
    (fun _ _ _ => isSteady_lowerChar) fun c hc => ?_
  simpa using (List.mem_filter.mp hc).2

/-- A name of steady characters is only composed. -/
theorem normalized_of_steady {d : String} (h : ∀ c ∈ d.toList, isSteady c.toNat = true) :
    normalized d = String.ofList (composed d.toList) := by
  have steady : ∀ c ∈ composed d.toList, isSteady c.toNat = true := steady_kept.of_mem_composed (by decide +kernel) h
  have wide : (composed d.toList).filter (!isZeroWidth ·) = composed d.toList :=
    List.filter_eq_self.mpr fun c hc => by simp [(isSteady_iff.mp (steady c hc)).1]
  rw [normalized, wide, lower, String.toList_ofList, lowerFrom_of_steady steady]

/-- In a second pass a name is only composed. -/
theorem normalized_twice (d : String) : normalized (normalized d) = String.ofList (composed (normalized d).toList) :=
  normalized_of_steady (steady_normalized d)

theorem normalized_thrice (d : String) : normalized (normalized (normalized d)) = normalized (normalized d) := by
  rw [normalized_twice (normalized d), normalized_twice d, String.toList_ofList, composed_composed]

theorem iterate_normalized (d : String) (n : ℕ) : normalized^[n + 2] d = normalized (normalized d) := by
  induction n with
  | zero => rfl
  | succ n ih => rw [Function.iterate_succ_apply', ih, normalized_thrice]

theorem iterate_normalized_of_settled {d : String} (settled : normalized (normalized d) = normalized d) (n : ℕ) :
    normalized^[n + 1] d = normalized d := by
  cases n with
  | zero => rfl
  | succ n => rw [iterate_normalized, settled]

theorem normalized_twice_eq_iff (d : String) :
    normalized (normalized d) = normalized d ↔ composed (normalized d).toList = (normalized d).toList := by
  rw [normalized_twice, ← String.toList_inj, String.toList_ofList]

end Domain

/-! ### Calls -/

namespace Dns.Client

open Domain

variable (client : Client)

/-- A question with a settled name is put to the resolver under one name in all attempts. -/
theorem calls_answer_of_settled {q : Question} (settled : normalized (normalized q.name) = normalized q.name) (retries : ℕ)
    (s : ClientState) : ∃ made, (client.answer retries q s).2.calls = made ++ s.calls ∧
      ∀ c ∈ made, c.question = { q with name := normalized q.name } := by
  obtain ⟨made, calls, -, asked⟩ := calls_answer client retries q s
  refine ⟨made, calls, fun c hc => ?_⟩
  obtain ⟨passes, same⟩ := asked c hc
  rw [same, iterate_normalized_of_settled settled]

/-- A settled name has the same answers, however often it was put into its normal form before. -/
theorem answer_iterate_of_settled {q : Question} (settled : normalized (normalized q.name) = normalized q.name) (passes retries : ℕ)
    (s : ClientState) : client.answer retries { q with name := normalized^[passes] q.name } s = client.answer retries q s := by
  have form : normalized (normalized^[passes] q.name) = normalized q.name := by
    rw [← Function.iterate_succ_apply' normalized, iterate_normalized_of_settled settled]
  exact answer_renamed (by rw [form]) retries s

/-- A client whose resolver never replies in time, and which keeps nothing. -/
def unanswered : Client := ⟨fun _ _ => .error (.lifetimeExpired none), .whole 0, {}, false⟩

/-- The first attempt asks for the normal form of the name, and the retry for the normal form of that. -/
theorem questions_unanswered (q : Question) :
    (unanswered.answer 1 q ⟨⟨0, 0, []⟩, []⟩).2.calls.map (·.question) =
      [{ q with name := normalized (normalized q.name) }, { q with name := normalized q.name }] := rfl

/-- If all attempts ask for one name, it is settled. -/
theorem settled_of_calls {q : Question}
    (h : ∃ made, (unanswered.answer 1 q ⟨⟨0, 0, []⟩, []⟩).2.calls = made ++ [] ∧
      ∀ c ∈ made, c.question = { q with name := normalized q.name }) : normalized (normalized q.name) = normalized q.name := by
  obtain ⟨made, calls, same⟩ := h
  have questions := questions_unanswered q
  rw [calls, List.append_nil] at questions
  have retried : { q with name := normalized (normalized q.name) } ∈ made.map (·.question) := by
    rw [questions]
    exact List.mem_cons_self
  obtain ⟨c, hc, named⟩ := List.mem_map.mp retried
  have names := congrArg Question.name (named.symm.trans (same c hc))
  exact names

/-- If one more pass makes no difference to the calls, the name is settled. -/
theorem settled_of_answer {q : Question}
    (h : unanswered.answer 1 { q with name := normalized q.name } ⟨⟨0, 0, []⟩, []⟩ = unanswered.answer 1 q ⟨⟨0, 0, []⟩, []⟩) :
    normalized (normalized q.name) = normalized q.name := by
  have first := questions_unanswered { q with name := normalized q.name }
  rw [h, questions_unanswered q] at first
  have names := congrArg (List.map Question.name) first
  simp only [List.map_cons, List.map_nil, List.cons.injEq] at names
  exact names.2.1.symm

/-- When names are settled. Whether a second pass leaves the normal form of a name as it is, whether all attempts to answer a
question ask for one name, and whether answers do not depend on how often the name was put into its normal form before, all come
to the same: the normal form is a composed text. No name changes any more from the second pass on, so whoever gives a normal
form away has it asked for under one name. -/
theorem normalized_settled_iff (q : Question) :
    let once := normalized q.name
    let twice := normalized once
    let settled := composed once.toList = once.toList
    (twice = once ↔ settled) ∧
      ((∀ (client : Client) retries s, ∃ made, (client.answer retries q s).2.calls = made ++ s.calls ∧
        ∀ c ∈ made, c.question = { q with name := once }) ↔ settled) ∧
      ((∀ layers (client : Client) retries s,
        client.answer retries { q with name := normalized^[layers] q.name } s = client.answer retries q s) ↔ settled) ∧
      (∀ n, normalized^[n + 2] q.name = twice) ∧
      ∀ (client : Client) retries s, ∃ made, (client.answer retries { q with name := once } s).2.calls = made ++ s.calls ∧
        ∀ c ∈ made, c.question = { q with name := twice } := by
  intro once twice settled
  have iff : twice = once ↔ settled := normalized_twice_eq_iff q.name
  refine ⟨iff, ⟨fun h => ?_, fun h client => calls_answer_of_settled client (iff.mpr h)⟩,
    ⟨fun h => ?_, fun h layers client => answer_iterate_of_settled client (iff.mpr h) layers⟩, iterate_normalized q.name,
    fun client => calls_answer_of_settled client (q := { q with name := once }) (normalized_thrice q.name)⟩
  · exact iff.mp (settled_of_calls (h unanswered 1 ⟨⟨0, 0, []⟩, []⟩))
  · exact iff.mp (settled_of_answer (h 1 unanswered 1 ⟨⟨0, 0, []⟩, []⟩))

/-- Names with letters outside ASCII may be settled. -/
theorem normalized_settled_iff_umlaut :
    normalized "B\u00DCCHER.example.com" = "b\u00FCcher.example.com" ∧
      ∀ (client : Client) retries s, ∃ made,
        (client.answer retries ⟨"B\u00DCCHER.example.com", .txt, .direct⟩ s).2.calls = made ++ s.calls ∧
          ∀ c ∈ made, c.question = ⟨"b\u00FCcher.example.com", .txt, .direct⟩ := by
  have form : normalized "B\u00DCCHER.example.com" = "b\u00FCcher.example.com" := by decide
  have settled := (normalized_settled_iff ⟨"B\u00DCCHER.example.com", .txt, .direct⟩).2.1
  simp only [form] at settled
  exact ⟨form, settled.mpr (by decide)⟩

/-- No character stands for the capital letter with the mark after it, but one does for the small letter: the first attempt asks
for two characters, and the retry for the one. -/
theorem normalized_unsettled :
    let d := "H\u0331.example.com"
    normalized (normalized d) ≠ normalized d ∧
      (unanswered.answer 1 ⟨d, .txt, .direct⟩ ⟨⟨0, 0, []⟩, []⟩).2.calls.map (·.question.name) =
        ["\u1E96.example.com", "h\u0331.example.com"] := by
  intro d
  have once : normalized d = "h\u0331.example.com" := by decide +kernel
  have twice : normalized "h\u0331.example.com" = "\u1E96.example.com" := by decide +kernel
  have names := congrArg (List.map Question.name) (questions_unanswered ⟨d, .txt, .direct⟩)
  rw [List.map_map] at names
  simp only [once, twice, List.map_cons, List.map_nil] at names
  refine ⟨?_, names⟩
  rw [once, twice]
  decide

end Dns.Client

end SenderPolicy
